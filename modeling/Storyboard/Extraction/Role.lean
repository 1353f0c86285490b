import Storyboard.Source
import Storyboard.Extraction.Options

/-!
# Roles of tracks

What the tracks of a project are for. Given roles come first; at most one other track is the main
one; the rest is told from the names, the media and the positions of the tracks, or, where that is
not wanted, from their kinds.
-/

namespace Storyboard.Extraction

open Source

variable {τ : Type} [Measure τ]

/-- Tracks quieter than this are background. -/
def isBackground (volume : Single) : Bool := volume.toFloat < 0.5

/-- Whether the element is centred on the canvas and covers nearly all of it. -/
def coversCanvas (canvas : Canvas) (e : Element τ) : Bool :=
  match e.position with
  | none => true
  | some p =>
    let width : τ := Measure.ofNat canvas.width
    let height : τ := Measure.ofNat canvas.height
    Measure.le (Measure.abs p.x) (width * 0.05) && Measure.le (Measure.abs p.y) (height * 0.05)
      && p.width.all (fun w => Measure.le (width * 0.95) w)
      && p.height.all (fun h => Measure.le (height * 0.95) h)

/-- Whether the element is known to be less than half the canvas each way. -/
def isSmall (canvas : Canvas) (e : Element τ) : Bool :=
  match e.position with
  | some { width := some w, height := some h, .. } =>
    Measure.lt w (Measure.ofNat canvas.width * 0.5)
      && Measure.lt h (Measure.ofNat canvas.height * 0.5)
  | _ => false

omit [Measure τ] in
/-- Whether an element plays a file of a kind. -/
def plays (library : List (MediaFile τ)) (kind : MediaKind) (e : Element τ) : Bool :=
  (e.file? library).any fun file => file.kind == kind

/-- Whether a track shows a video, and every element of it covers the canvas. -/
def isFullCanvasVideo (library : List (MediaFile τ)) (canvas : Canvas) (t : Track τ) : Bool :=
  t.elements.any (plays library .video) && t.elements.all (coversCanvas canvas)

/-- The role that a track seems to have. -/
def seemingRole (library : List (MediaFile τ)) (canvas : Canvas) (t : Track τ) : TrackRole :=
  let name := Text.lower t.name
  let named (part : String) := Text.contains name part
  match t.kind with
  | .audio =>
    if t.muted || isBackground t.volume || named "music" then .backgroundMusic
    else if named "voice" || named "narration" then .voiceover
    else if named "sfx" then .soundEffect
    else .backgroundMusic
  | .text => if named "caption" || named "subtitle" then .caption else .title
  | .media =>
    let imagesOnly := t.elements.all (plays library .image)
    let small := t.elements.all (isSmall canvas)
    if !t.elements.isEmpty && (imagesOnly || small) then .overlay else .bRoll

/-- The place of the track that holds the main video. -/
def mainPlace? (library : List (MediaFile τ)) (canvas : Canvas) (options : ExtractOptions τ)
    (tracks : List (Track τ)) : Option Nat :=
  if options.inferTrackRoles then
    (tracks.findIdx? fun t => t.kind == .media && t.isMain).or
      (tracks.findIdx? fun t => t.kind == .media && isFullCanvasVideo library canvas t)
  else if options.roleOverrides.any (·.2 == .mainVideo) then none
  else tracks.findIdx? fun t => t.kind == .media && !options.roleOverrides.has t.id

/-- The role of a track at a place. -/
def roleAt (library : List (MediaFile τ)) (canvas : Canvas) (options : ExtractOptions τ)
    (main : Option Nat) (place : Nat) (t : Track τ) : TrackRole :=
  match options.roleOverrides.get? t.id with
  | some role => role
  | none =>
    if main = some place then .mainVideo
    else if options.inferTrackRoles then seemingRole library canvas t
    else match t.kind with
      | .media => .bRoll
      | kind => TrackRole.defaultFor kind

/-- The roles of the tracks of a project. -/
def assignRoles (library : List (MediaFile τ)) (canvas : Canvas) (options : ExtractOptions τ)
    (tracks : List (Track τ)) : List TrackRole :=
  let main := mainPlace? library canvas options tracks
  tracks.zipIdx.map fun (t, place) => roleAt library canvas options main place t

end Storyboard.Extraction
