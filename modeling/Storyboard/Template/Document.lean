import Storyboard.Template
import Storyboard.Placeholder.Document
import Storyboard.Rule.Document
import Storyboard.Style.Document

/-!
# Templates in documents

Reading and writing templates and their parts.
-/

namespace Storyboard

open Json

/-- The names of track kinds. -/
def TrackKind.names : List (String × TrackKind) :=
  [TrackKind.media, .text, .audio].map fun kind => (kind.name, kind)

/-- The name of a role. -/
def TrackRole.name : TrackRole → String
  | mainVideo => "main_video"
  | bRoll => "b_roll"
  | caption => "caption"
  | title => "title"
  | backgroundMusic => "background_music"
  | voiceover => "voiceover"
  | soundEffect => "sound_effect"
  | overlay => "overlay"

/-- The names of roles. -/
def TrackRole.names : List (String × TrackRole) :=
  [TrackRole.mainVideo, .bRoll, .caption, .title, .backgroundMusic, .voiceover, .soundEffect,
    .overlay].map fun role => (role.name, role)

/-- The name of an anchor. -/
def Anchor.name : Anchor → String
  | start => "start"
  | finish => "end"

/-- The names of anchors. -/
def Anchor.names : List (String × Anchor) := [("start", .start), ("end", .finish)]

/-- The name of a granularity. -/
def Granularity.name : Granularity → String
  | word => "word"
  | phrase => "phrase"
  | sentence => "sentence"

/-- The names of granularities. -/
def Granularity.names : List (String × Granularity) :=
  [("word", .word), ("phrase", .phrase), ("sentence", .sentence)]

namespace Template

/-- A timing as a document. -/
def Timing.toJson : Timing Float → Json
  | .absolute start => .obj [("type", .str "absolute"), ("startTime", number start)]
  | .relative anchorId offset anchor =>
    .obj [("type", .str "relative"), ("relativeTo", .str anchorId), ("offset", number offset),
      ("anchor", .str anchor.name)]
  | .dynamic hint => .obj ([("type", .str "dynamic")] ++ opt "hint" .str hint)

/-- A timing from a document. -/
def Timing.ofJson : Reader (Timing Float) := fun v => do
  let (tag, rest) ← asTagged v
  let record (names : List String) := asRecord names rest
  match tag with
  | "absolute" => return .absolute (← fetch (← record ["startTime"]) "startTime" asFloat)
  | "relative" =>
    let fields ← record ["relativeTo", "offset", "anchor"]
    return .relative (← fetch fields "relativeTo" asText) (← fetchOr fields "offset" 0.0 asFloat)
      (← fetchOr fields "anchor" .start (asNamedWithin Anchor.names))
  | "dynamic" => return .dynamic (← fetch? (← record ["hint"]) "hint" asText)
  | _ => none

/-- A duration as a document. -/
def Duration.toJson : Duration Float → Json
  | .fixed value => .obj [("type", .str "fixed"), ("value", number value)]
  | .content limit hint =>
    .obj ([("type", .str "content")] ++ opt "maxDuration" number limit ++ opt "hint" number hint)
  | .matchAudio placeholderId hint =>
    .obj ([("type", .str "match_audio")] ++ opt "placeholderId" .str placeholderId
      ++ opt "hint" number hint)
  | .fillGap limit => .obj ([("type", .str "fill_gap")] ++ opt "maxDuration" number limit)

/-- A duration from a document. -/
def Duration.ofJson : Reader (Duration Float) := fun v => do
  let (tag, rest) ← asTagged v
  let record (names : List String) := asRecord names rest
  match tag with
  | "fixed" => return .fixed (← fetch (← record ["value"]) "value" asFloat)
  | "content" =>
    let fields ← record ["maxDuration", "hint"]
    return .content (← fetch? fields "maxDuration" asFloat) (← fetch? fields "hint" asFloat)
  | "match_audio" =>
    let fields ← record ["placeholderId", "hint"]
    return .matchAudio (← fetch? fields "placeholderId" asText) (← fetch? fields "hint" asFloat)
  | "fill_gap" => return .fillGap (← fetch? (← record ["maxDuration"]) "maxDuration" asFloat)
  | _ => none

/-- A content as a document. -/
def Content.toJson : Content Float → Json
  | .placeholder placeholderId =>
    .obj [("type", .str "placeholder"), ("placeholderId", .str placeholderId)]
  | .transcript placeholderId granularity index =>
    .obj ([("type", .str "transcript")] ++ opt "placeholderId" .str placeholderId
      ++ [("granularity", .str granularity.name), ("index", nat index)])
  | .fixed text source =>
    .obj ([("type", .str "static")] ++ opt "text" .str text ++ opt "source" MediaRef.toJson source)
  | .generated generator params =>
    .obj [("type", .str "generated"), ("generator", .str generator), ("params", .obj params)]

/-- A content from a document. -/
def Content.ofJson : Reader (Content Float) := fun v => do
  let (tag, rest) ← asTagged v
  let record (names : List String) := asRecord names rest
  match tag with
  | "placeholder" =>
    return .placeholder (← fetch (← record ["placeholderId"]) "placeholderId" asText)
  | "transcript" =>
    let fields ← record ["placeholderId", "granularity", "index"]
    return .transcript (← fetch? fields "placeholderId" asText)
      (← fetchOr fields "granularity" .sentence (asNamedWithin Granularity.names))
      (← fetchOr fields "index" 0 asCount64)
  | "static" =>
    let fields ← record ["text", "source"]
    return .fixed (← fetch? fields "text" asText) (← fetch? fields "source" MediaRef.ofJson)
  | "generated" =>
    let fields ← record ["generator", "params"]
    return .generated (← fetch fields "generator" asText) (← fetchOr fields "params" [] asFields)
  | _ => none

/-- An element as a document. -/
def Element.toJson (e : Element Float) : Json :=
  .obj <|
    [("id", .str e.id), ("name", .str e.name), ("timing", e.timing.toJson),
      ("duration", e.duration.toJson), ("content", e.content.toJson)]
    ++ opt "style" TextStyle.toJson e.style
    ++ opt "captionStyleId" .str e.captionStyleId
    ++ opt "position" PercentPosition.toJson e.position
    ++ [("hidden", .bool e.hidden), ("muted", .bool e.muted)]

/-- An element from a document. -/
def Element.ofJson : Reader (Element Float) := fun v => do
  let fields ← asRecord ["id", "name", "timing", "duration", "content", "style", "captionStyleId",
      "position", "hidden", "muted"] v
  return {
    id := ← fetch fields "id" asText
    name := ← fetch fields "name" asText
    timing := ← fetch fields "timing" Timing.ofJson
    duration := ← fetch fields "duration" Duration.ofJson
    content := ← fetch fields "content" Content.ofJson
    style := ← fetch? fields "style" TextStyle.ofJson
    captionStyleId := ← fetch? fields "captionStyleId" asText
    position := ← fetch? fields "position" PercentPosition.ofJson
    hidden := ← fetchOr fields "hidden" false asBool
    muted := ← fetchOr fields "muted" false asBool }

/-- A track as a document. -/
def Track.toJson (t : Track Float) : Json :=
  .obj [("id", .str t.id), ("name", .str t.name), ("type", .str t.kind.name),
    ("role", .str t.role.name), ("elements", list Element.toJson t.elements),
    ("muted", .bool t.muted), ("isMain", .bool t.isMain), ("volume", number32 t.volume)]

/-- A track from a document. -/
def Track.ofJson : Reader (Track Float) := fun v => do
  let fields ← asRecord ["id", "name", "type", "role", "elements", "muted", "isMain", "volume"] v
  return {
    id := ← fetch fields "id" asText
    name := ← fetch fields "name" asText
    kind := ← fetch fields "type" (asNamed TrackKind.names)
    role := ← fetch fields "role" (asNamed TrackRole.names)
    elements := ← fetchOr fields "elements" [] (asList Element.ofJson)
    muted := ← fetchOr fields "muted" false asBool
    isMain := ← fetchOr fields "isMain" false asBool
    volume := ← fetchOr fields "volume" .one asSingle }

/-- A template as a document. -/
def toJson (t : Template Float) : Json :=
  .obj <|
    [("version", .str t.version), ("id", .str t.id), ("name", .str t.name),
      ("description", .str t.description), ("createdAt", instant t.createdAt),
      ("updatedAt", instant t.updatedAt)]
    ++ opt "sourceProjectId" .str t.sourceProjectId
    ++ [("canvas", t.canvas.toJson), ("tracks", list Track.toJson t.tracks),
      ("rules", list Rule.toJson t.rules), ("captionStyles", list CaptionStyle.toJson t.captionStyles),
      ("placeholders", list Placeholder.toJson t.placeholders), ("tags", strs t.tags)]

/-- A template from a document. -/
def ofJson : Reader (Template Float) := fun v => do
  let fields ← asRecord ["version", "id", "name", "description", "createdAt", "updatedAt",
      "sourceProjectId", "canvas", "tracks", "rules", "captionStyles", "placeholders", "tags"] v
  return {
    version := ← fetch fields "version" asText
    id := ← fetch fields "id" asText
    name := ← fetch fields "name" asText
    description := ← fetchOr fields "description" "" asText
    createdAt := ← fetch fields "createdAt" asInstant
    updatedAt := ← fetch fields "updatedAt" asInstant
    sourceProjectId := ← fetch? fields "sourceProjectId" asText
    canvas := ← fetch fields "canvas" Canvas.ofJson
    tracks := ← fetchOr fields "tracks" [] (asList Track.ofJson)
    rules := ← fetchOr fields "rules" [] (asList Rule.ofJson)
    captionStyles := ← fetchOr fields "captionStyles" [] (asList CaptionStyle.ofJson)
    placeholders := ← fetchOr fields "placeholders" [] (asList Placeholder.ofJson)
    tags := ← fetchOr fields "tags" [] (asList asText) }

end Template

end Storyboard
