import Storyboard.Interpretation.Collaborators
import Storyboard.IdSupply
import Storyboard.Timeline
import Storyboard.Validation
import Storyboard.Validation.Inputs

/-!
# Filling templates

A template and inputs become a project in steps: defaults are added to the inputs and media looked
up, the inputs are checked, the timeline is worked out, content is put in place of placeholders, and
the elements get ids of their own. An element whose placeholder has no value is left out. Any failure
ends the work without a project.
-/

namespace Storyboard

/-- How a template is to be filled. -/
structure FillOptions (τ : Type) where
  targetCanvas : Option Canvas := none
  matchAudioPlaceholder : Option String := none
  timelineDuration : Option τ := none
  projectName : Option String := none
  deriving BEq

/-- Inputs with defaults and media data added, and which placeholders got their value how. -/
structure Prepared (τ : Type) where
  inputs : Inputs τ
  /-- The placeholders given by the caller, in display order. -/
  used : List String
  /-- The placeholders filled by their defaults, in display order. -/
  defaultsApplied : List String

/-- An element that is kept, with its span and its content. -/
structure Filled (τ : Type) where
  element : Template.Element τ
  span : Span τ
  content : Project.Content τ

namespace Template

variable {τ ω : Type}

/-- The placeholders with an input, in display order. -/
def given (t : Template τ) (inputs : Inputs τ) : List String :=
  (t.orderedPlaceholders.filter fun p => inputs.has p.id).map (·.id)

/-- The placeholders without an input that have a default, in display order. -/
def defaulted (t : Template τ) (inputs : Inputs τ) : List (String × Input τ) :=
  t.orderedPlaceholders.filterMap fun p =>
    if inputs.has p.id then none else p.default.map fun value => (p.id, value)

/-- The inputs with the defaults of placeholders without one. -/
def withDefaults (t : Template τ) (inputs : Inputs τ) : Inputs τ :=
  (t.defaulted inputs).foldl (fun all (id, value) => Keyed.insert id value all) inputs

/-- Looks up the media of an input, unless it has none or its data are known. -/
def probeInput (c : Collaborators τ ω) (input : Input τ) (w : ω) :
    Except (Failure τ) (Input τ) × ω :=
  match input.media?.filter (·.metadata.isNone) with
  | none => (.ok input, w)
  | some file =>
    match c.probe file w with
    | (.error failure, w) => (.error failure, w)
    | (.ok none, w) => (.ok input, w)
    | (.ok (some found), w) => (.ok (input.mapMedia ({ · with metadata := some found })), w)

/-- Looks up the media of inputs, one after the other. -/
def probeInputs (c : Collaborators τ ω) : Inputs τ → ω → Except (Failure τ) (Inputs τ) × ω
  | [], w => (.ok [], w)
  | (id, input) :: rest, w =>
    match probeInput c input w with
    | (.error failure, w) => (.error failure, w)
    | (.ok input, w) =>
      match probeInputs c rest w with
      | (.error failure, w) => (.error failure, w)
      | (.ok rest, w) => (.ok ((id, input) :: rest), w)

/-- Adds defaults to inputs and looks up their media. -/
def prepare (t : Template τ) (c : Collaborators τ ω) (inputs : Inputs τ) (w : ω) :
    Except (Failure τ) (Prepared τ) × ω :=
  match probeInputs c (t.withDefaults inputs) w with
  | (.error failure, w) => (.error failure, w)
  | (.ok prepared, w) =>
    (.ok ⟨prepared, t.given inputs, (t.defaulted inputs).map (·.1)⟩, w)

/-- The first input that is not of its placeholder's kind. -/
def checkKinds (t : Template τ) (inputs : Inputs τ) : Except (Failure τ) Unit :=
  t.placeholders.forM fun p =>
    match inputs.get? p.id with
    | some input =>
      if input.kind == p.kind then .ok ()
      else .error (.wrongInput p.id (.kind p.kind) (.kind input.kind))
    | none => .ok ()

/-- The kind of media that a given file plays as on a track. -/
def fixedMediaKind (track : TrackKind) (mimeType : Option String) : InputKind :=
  let starts (part : String) := mimeType.any fun m => part.toList.isPrefixOf m.toList
  match track with
  | .audio => .audio
  | _ => if starts "image/" then .image else if starts "audio/" then .audio else .video

/-- Given content on a track: its media file, else its text. -/
def fixedContent (track : TrackKind) (text : Option String) (source : Option (MediaRef τ)) :
    Project.Content τ :=
  match source with
  | some file => .media file (fixedMediaKind track file.mimeType)
  | none => .text (text.getD "")

/-- An input as content of a track, where the track takes inputs of its kind. -/
def coerce (placeholderId : String) (input : Input τ) (track : TrackKind) :
    Except (Failure τ) (Project.Content τ) :=
  match track, input with
  | .media, .video file | .media, .image file | .audio, .audio file | .audio, .video file =>
    .ok (.media file input.kind)
  | .text, .text value => .ok (.text value)
  | .text, .number value => .ok (.number value)
  | .text, .color value => .ok (.color value)
  | .text, .font family => .ok (.font family)
  | _, _ => .error (.wrongInput placeholderId (.contentOf track) (.kind input.kind))

/-- The content of an element of a track; `none` where its placeholder has no value. -/
def substitute (c : Collaborators τ ω) (inputs : Inputs τ) (track : TrackKind)
    (e : Element τ) : Except (Failure τ) (Option (Project.Content τ)) :=
  match e.content with
  | .placeholder id =>
    match inputs.get? id with
    | none => .ok none
    | some (.transcript name) => do
      let segments ← c.segments (some name) .sentence
      return some (.text (" ".intercalate (segments.map (·.text))))
    | some input => (coerce id input track).map some
  | .transcript id granularity index => do
    let name := id.bind fun id => (inputs.get? id).bind (·.text?)
    let segments ← c.segments name granularity
    match segments[index]? with
    | some segment => return some (.text segment.text)
    | none => throw (.noSegment e.id index segments.length)
  | .fixed text source => .ok (some (fixedContent track text source))
  | .generated generator params => (c.generate generator params inputs).map some

/-- The style of an element: its own, else that of its caption style, with a color or font that is
its content put in. -/
def contentStyle (t : Template τ) (e : Element τ) (content : Project.Content τ) :
    Option TextStyle :=
  let style := e.style.or ((e.captionStyleId.bind t.captionStyle?).map (·.textStyle))
  match content with
  | .color value => some { style.getD {} with color := value }
  | .font family => some { style.getD {} with fontFamily := family }
  | _ => style

variable [Measure τ]

/-- The duration that an element takes from its own settings or from media. -/
def durationOf (inputs : Inputs τ) (options : FillOptions τ) (e : Element τ) :
    Except (Failure τ) τ :=
  match e.duration with
  | .fixed value => .ok value
  | .content limit hint =>
    let known (file : Option (MediaRef τ)) : Except (Failure τ) τ :=
      match file.bind (·.duration) with
      | some d => .ok (Measure.capAt limit d)
      | none => .error (.unknownDuration e.id .content)
    match e.content, e.content.placeholderId? with
    | .fixed _ (some source), _ => known (some source)
    | _, some id =>
      match inputs.get? id with
      | none => .ok (hint.getD Measure.zero)
      | some input => known input.media?
    | _, none => known none
  | .matchAudio placeholderId _ =>
    match placeholderId.or options.matchAudioPlaceholder with
    | none => .error (.unknownDuration e.id .noAudio)
    | some id =>
      match ((inputs.get? id).bind (·.media?)).bind (·.duration) with
      | some d => .ok d
      | none => .error (.unknownDuration e.id (.audio id))
  | .fillGap _ => .ok Measure.zero

/-- The project element made from a kept element. -/
def Filled.build (t : Template τ) (size : Size) (f : Filled τ) (id : String) : Project.Element τ :=
  { id
    name := f.element.name
    start := f.span.start
    duration := f.span.duration
    content := f.content
    style := t.contentStyle f.element f.content
    captionStyleId := f.element.captionStyleId
    position := f.element.position.map (·.toPixels size)
    hidden := f.element.hidden
    muted := f.element.muted
    provisional := f.span.provisional }

/-- The elements of a track that are kept, given what stands in place of each. -/
def fillTrack (timeline : Timeline τ)
    (content : Element τ → Except (Failure τ) (Option (Project.Content τ))) :
    List (Element τ) → Except (Failure τ) (List (Filled τ))
  | [] => .ok []
  | e :: rest => do
    let some span := timeline.span? e.id | throw (.timing e.id .missing)
    let made ← content e
    let rest ← fillTrack timeline content rest
    return match made with
      | some content => ⟨e, span, content⟩ :: rest
      | none => rest

/-- The tracks, each with its kept elements. -/
def fillTracks (timeline : Timeline τ)
    (content : TrackKind → Element τ → Except (Failure τ) (Option (Project.Content τ)))
    (tracks : List (Track τ)) : Except (Failure τ) (List (Track τ × List (Filled τ))) :=
  tracks.mapM fun track => do return (track, ← fillTrack timeline (content track.kind) track.elements)

/-- The project tracks made from filled ones. Each track draws ids for its elements and then one for
itself. -/
def buildTracks (t : Template τ) (size : Size) :
    List (Track τ × List (Filled τ)) → IdSupply → List (Project.Track τ) × IdSupply
  | [], ids => ([], ids)
  | (track, kept) :: rest, ids =>
    let elements := List.zipWith (Filled.build t size) kept (ids.take kept.length)
    let (id, ids) := (ids.skip kept.length).fresh
    let (tracks, ids) := buildTracks t size rest ids
    ({ id
       name := track.name
       kind := track.kind
       role := track.role
       elements
       muted := track.muted
       isMain := track.isMain
       volume := track.volume } :: tracks, ids)

omit [Measure τ] in
/-- Which project element was made from which template element. -/
def elementIds (filled : List (Track τ × List (Filled τ))) (built : List (Project.Track τ)) :
    Keyed String :=
  Keyed.ofList <|
    ((filled.flatMap (·.2)).map (·.element.id)).zip ((built.flatMap (·.elements)).map (·.id))

/-- The project made from filled tracks. It draws its own id last. -/
def build (t : Template τ) (canvas : Canvas) (name : String) (now : Instant)
    (used defaultsApplied : List String) (filled : List (Track τ × List (Filled τ)))
    (ids : IdSupply) : Project τ × IdSupply :=
  let (tracks, ids) := buildTracks t canvas.size filled ids
  let (id, ids) := ids.fresh
  ({ id, name, canvas, tracks
     duration := Project.lastFinish tracks
     provenance := {
       templateId := t.id
       templateName := t.name
       generatedAt := now
       placeholdersUsed := used
       defaultsApplied
       elementIds := elementIds filled tracks } }, ids)

/-- Fills a template with prepared inputs. -/
def interpretPrepared (t : Template τ) (c : Collaborators τ ω) (prepared : Prepared τ)
    (options : FillOptions τ) (now : Instant) (ids : IdSupply) :
    Except (Failure τ) (Project τ × IdSupply) := do
  let unknown := Validation.unknownPlaceholders t
  unless unknown.isEmpty do throw (.inputs unknown)
  let findings := Validation.inputs t.placeholders prepared.inputs
  unless findings.isValid do throw (.inputs findings.errors)
  t.checkKinds prepared.inputs
  let timeline ← Timeline.resolve t options.timelineDuration (durationOf prepared.inputs options)
  let filled ← fillTracks timeline (substitute c prepared.inputs) t.tracks
  return t.build (options.targetCanvas.getD t.canvas) (options.projectName.getD t.name) now
    prepared.used prepared.defaultsApplied filled ids

/-- Fills a template with inputs. -/
def interpret (t : Template τ) (c : Collaborators τ ω) (inputs : Inputs τ)
    (options : FillOptions τ) (now : Instant) (ids : IdSupply) (w : ω) :
    Except (Failure τ) (Project τ × IdSupply) × ω :=
  match t.prepare c inputs w with
  | (.error failure, w) => (.error failure, w)
  | (.ok prepared, w) => (t.interpretPrepared c prepared options now ids, w)

end Template

end Storyboard
