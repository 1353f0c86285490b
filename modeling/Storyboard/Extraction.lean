import Storyboard.Extraction.Role
import Storyboard.IdSupply
import Storyboard.Failure

/-!
# Templates from projects

A project becomes a template: media files become placeholders, positions become percentages, tracks
get roles, and elements are placed relative to earlier ones where they line up. The parts of the
template draw their ids as they are made: the template, then for each track the track, its caption
style and, for each element, its placeholder and the element.
-/

namespace Storyboard

namespace Extraction

open Source

variable {τ : Type} [Measure τ]

/-- Durations that differ by less are the same. -/
def fullSourceTolerance : τ := 0.001

/-- An element of the template as later elements can be placed relative to it. -/
structure Emitted (τ : Type) where
  id : String
  start : τ
  duration : τ

/-- What has been made so far. -/
structure State (τ : Type) where
  ids : IdSupply
  /-- The elements, in order. -/
  emitted : List (Emitted τ)
  placeholders : List (Placeholder τ)
  /-- The placeholder last made for each media file. -/
  mediaPlaceholders : Keyed String
  captionStyles : List CaptionStyle

/-- A project with what is needed to make elements of it. -/
structure Context (τ : Type) where
  library : List (MediaFile τ)
  canvas : Canvas
  options : ExtractOptions τ

/-- An anchor point: an emitted element, its anchor, and how far its time is from the wanted one. -/
structure Candidate (τ : Type) where
  element : Emitted τ
  anchor : Anchor
  distance : τ

/-- The time of an anchor of an emitted element. -/
def Emitted.time (e : Emitted τ) (anchor : Anchor) : τ := anchorTime e.start e.duration anchor

/-- The anchor points of the emitted elements, each element's end before its start. -/
def candidates (emitted : List (Emitted τ)) (start : τ) : List (Candidate τ) :=
  emitted.flatMap fun e =>
    [Anchor.finish, .start].map fun anchor => ⟨e, anchor, Measure.abs (start - e.time anchor)⟩

/-- The better of the best candidate so far and another one: the other one only where it is near
enough and strictly nearer. -/
def nearer (tolerance : τ) (best : Option (Candidate τ)) (c : Candidate τ) :
    Option (Candidate τ) :=
  if Measure.le c.distance tolerance && best.all (fun b => Measure.lt c.distance b.distance) then
    some c
  else best

/-- The timing of an element that starts at a time: relative to the nearest anchor point within the
tolerance, if there is one. -/
def timingFor (options : ExtractOptions τ) (emitted : List (Emitted τ)) (start : τ) :
    Template.Timing τ :=
  if options.detectRelativeTiming then
    match (candidates emitted start).foldl (nearer options.relativeTimingTolerance) none with
    | some c => .relative c.element.id (start - c.element.time c.anchor) c.anchor
    | none => .absolute start
  else .absolute start

/-- Whether an element plays its file from end to end. -/
def playsInFull (e : Element τ) (file : MediaFile τ) : Bool :=
  file.kind != .image && Measure.lt (Measure.abs e.trimStart) fullSourceTolerance
    && file.metadata.duration.any fun d =>
      Measure.lt (Measure.abs (d - e.duration)) fullSourceTolerance

/-- How long an element of the template lasts. -/
def durationFor (options : ExtractOptions τ) (e : Element τ) (file : Option (MediaFile τ)) :
    Template.Duration τ :=
  match file.filter fun file => options.useContentDurations && playsInFull e file with
  | some file => .content none file.metadata.duration
  | none => .fixed e.duration

omit [Measure τ] in
/-- The state with one more placeholder, and its id. -/
def State.addPlaceholder (s : State τ) (make : String → Nat → Placeholder τ) : String × State τ :=
  let (id, ids) := s.ids.fresh
  (id, { s with ids, placeholders := s.placeholders ++ [make id s.placeholders.length] })

omit [Measure τ] in
/-- The placeholder for the media file of an element. -/
def mediaPlaceholder (ctx : Context τ) (role : TrackRole) (e : Element τ) (file : MediaFile τ)
    (s : State τ) : String × State τ :=
  match (s.mediaPlaceholders.get? file.id).filter fun _ => ctx.options.deduplicateMedia with
  | some id => (id, s)
  | none =>
    let kind := file.kind.inputKind
    let (id, s) := s.addPlaceholder fun id order =>
      { id, name := e.name, kind, order
        required := role == .mainVideo
        default := if ctx.options.includeDefaultValues then Input.ofMedia kind file.toRef else none }
    (id, { s with mediaPlaceholders := Keyed.insert file.id id s.mediaPlaceholders })

omit [Measure τ] in
/-- The content of an element of the template. -/
def contentFor (ctx : Context τ) (role : TrackRole) (e : Element τ) (s : State τ) :
    Template.Content τ × State τ :=
  match e.file? ctx.library with
  | some file =>
    let (id, s) := mediaPlaceholder ctx role e file s
    (.placeholder id, s)
  | none =>
    if e.kind == .text then
      let text := e.text.getD ""
      if ctx.options.promoteText || e.markAsPlaceholder then
        let (id, s) := s.addPlaceholder fun id order =>
          { id, name := e.name, kind := .text, order, default := some (.text text) }
        (.placeholder id, s)
      else (.fixed (some text) none, s)
    else (.fixed e.text none, s)

/-- The template element made from an element. -/
def extractElement (ctx : Context τ) (role : TrackRole) (captionStyleId : Option String)
    (e : Element τ) (s : State τ) : Template.Element τ × State τ :=
  let (content, s) := contentFor ctx role e s
  let (id, ids) := s.ids.fresh
  ({ id
     name := e.name
     timing := timingFor ctx.options s.emitted e.start
     duration := durationFor ctx.options e (e.file? ctx.library)
     content
     style := if e.kind == .text then e.style else none
     captionStyleId := if e.kind == .text then captionStyleId else none
     position := e.position.map (·.toPercent ctx.canvas.size)
     hidden := e.hidden
     muted := e.muted },
    { s with ids, emitted := s.emitted ++ [⟨id, e.start, e.duration⟩] })

/-- The template elements made from the elements of a track. -/
def extractElements (ctx : Context τ) (role : TrackRole) (captionStyleId : Option String) :
    List (Element τ) → State τ → List (Template.Element τ) × State τ
  | [], s => ([], s)
  | e :: rest, s =>
    let (e, s) := extractElement ctx role captionStyleId e s
    let (rest, s) := extractElements ctx role captionStyleId rest s
    (e :: rest, s)

/-- The look of the captions of a track, told from its first text. -/
def captionStyleFor (canvas : Canvas) (t : Track τ) (id : String) : Option CaptionStyle :=
  (t.elements.find? fun e => e.kind == .text).map fun first =>
    let style : CaptionStyle :=
      { id
        name := t.name ++ " style"
        textStyle := first.style.getD {}
        animation := first.captionAnimation.elim .none CaptionAnimation.ofName
        placement := (first.position.map fun p =>
          CaptionPlacement.ofHeight (p.toPercent canvas.size).y).getD .bottom }
    first.wordsPerGroup.elim style style.withWordsPerGroup

/-- The state with the caption style of a track, where the track has captions, and its id. -/
def addCaptionStyle (ctx : Context τ) (role : TrackRole) (t : Track τ) (s : State τ) :
    Option String × State τ :=
  if role == .caption && ctx.options.extractCaptionStyles then
    let (id, ids) := s.ids.fresh
    match captionStyleFor ctx.canvas t id with
    | some style => (some id, { s with ids, captionStyles := s.captionStyles ++ [style] })
    | none => (none, s)
  else (none, s)

/-- The template track made from a track. -/
def extractTrack (ctx : Context τ) (t : Track τ) (role : TrackRole) (s : State τ) :
    Template.Track τ × State τ :=
  let (id, ids) := s.ids.fresh
  let (captionStyleId, s) := addCaptionStyle ctx role t { s with ids }
  let (elements, s) := extractElements ctx role captionStyleId t.elements s
  ({ id, name := t.name, kind := t.kind, role, elements
     muted := t.muted
     isMain := role == .mainVideo
     volume := t.volume }, s)

/-- The template tracks made from tracks with their roles. -/
def extractTracks (ctx : Context τ) :
    List (Track τ × TrackRole) → State τ → List (Template.Track τ) × State τ
  | [], s => ([], s)
  | (t, role) :: rest, s =>
    let (t, s) := extractTrack ctx t role s
    let (rest, s) := extractTracks ctx rest s
    (t :: rest, s)

omit [Measure τ] in
/-- The first element whose media file is not in the library, and the id of that file. -/
def lostMedia? (library : List (MediaFile τ)) (tracks : List (Track τ)) :
    Option (String × String) :=
  (tracks.flatMap (·.elements)).findSome? fun e =>
    (e.mediaId.filter fun id => (Source.file? library id).isNone).map fun id => (e.name, id)

end Extraction

open Extraction in
/-- The template made from a project, and the ids that are left. -/
def extract {τ : Type} [Measure τ] (project : Source.Project) (tracks : List (Source.Track τ))
    (library : List (Source.MediaFile τ)) (options : ExtractOptions τ) (now : Instant)
    (ids : IdSupply) : Except (Failure τ) (Template τ × IdSupply) := do
  if tracks.isEmpty then throw (.extraction .noTracks)
  let some canvas := project.canvas | throw (.extraction (.noCanvas project.name))
  if let some (elementName, mediaId) := lostMedia? library tracks then
    throw (.extraction (.unknownMedia elementName mediaId))
  let (id, ids) := ids.fresh
  let roles := assignRoles library canvas options tracks
  let (tracks, s) :=
    extractTracks ⟨library, canvas, options⟩ (tracks.zip roles) ⟨ids, [], [], [], []⟩
  let started : Template τ := .new id (options.templateName.getD project.name) canvas now
  return ({ started with
    description := project.description
    sourceProjectId := some project.id
    tracks
    captionStyles := s.captionStyles
    placeholders := s.placeholders }, s.ids)

end Storyboard
