import Storyboard.Project
import Storyboard.Template.Document

/-!
# Projects in documents

Reading and writing projects and their parts.
-/

namespace Storyboard.Project

open Json

/-- A content as a document. -/
def Content.toJson : Content Float → Json
  | .media source kind =>
    .obj [("type", .str "media"), ("source", source.toJson), ("mediaType", .str kind.name)]
  | .text value => .obj [("type", .str "text"), ("text", .str value)]
  | .number value => .obj [("type", .str "number"), ("value", Json.number value)]
  | .color value => .obj [("type", .str "color"), ("value", .str value)]
  | .font family => .obj [("type", .str "font"), ("family", .str family)]
  | .pending reason => .obj [("type", .str "pending"), ("reason", .str reason)]

/-- A content from a document. -/
def Content.ofJson : Reader (Content Float) := fun v => do
  let (tag, rest) ← asTagged v
  let record (names : List String) := asRecord names rest
  match tag with
  | "media" =>
    let fields ← record ["source", "mediaType"]
    return .media (← fetch fields "source" MediaRef.ofJson)
      (← fetch fields "mediaType" (asNamedWithin InputKind.names))
  | "text" => return .text (← fetch (← record ["text"]) "text" asText)
  | "number" => return .number (← fetch (← record ["value"]) "value" asFloat)
  | "color" => return .color (← fetch (← record ["value"]) "value" asText)
  | "font" => return .font (← fetch (← record ["family"]) "family" asText)
  | "pending" => return .pending (← fetch (← record ["reason"]) "reason" asText)
  | _ => none

/-- The fields of an element in writing. -/
def Element.fields (e : Element Float) : List (String × Json) :=
  [("id", .str e.id), ("name", .str e.name), ("startTime", number e.start),
    ("duration", number e.duration), ("content", e.content.toJson)]
  ++ opt "style" TextStyle.toJson e.style
  ++ opt "captionStyleId" .str e.captionStyleId
  ++ opt "position" PixelPosition.toJson e.position
  ++ [("hidden", .bool e.hidden), ("muted", .bool e.muted),
    ("timingProvisional", .bool e.provisional)]

/-- An element from a document. -/
def Element.ofJson : Reader (Element Float) := fun v => do
  let fields ← asRecord ["id", "name", "startTime", "duration", "content", "style",
      "captionStyleId", "position", "hidden", "muted", "timingProvisional"] v
  return {
    id := ← fetch fields "id" asText
    name := ← fetch fields "name" asText
    start := ← fetch fields "startTime" asFloat
    duration := ← fetch fields "duration" asFloat
    content := ← fetch fields "content" Content.ofJson
    style := ← fetch? fields "style" TextStyle.ofJson
    captionStyleId := ← fetch? fields "captionStyleId" asText
    position := ← fetch? fields "position" PixelPosition.ofJson
    hidden := ← fetchOr fields "hidden" false asBool
    muted := ← fetchOr fields "muted" false asBool
    provisional := ← fetchOr fields "timingProvisional" false asBool }

/-- A track as a document. -/
def Track.toJson (t : Track Float) : Json :=
  .obj [("id", .str t.id), ("name", .str t.name), ("type", .str t.kind.name),
    ("role", .str t.role.name), ("elements", list (fun e => .obj e.fields) t.elements),
    ("muted", .bool t.muted), ("isMain", .bool t.isMain), ("volume", number32 t.volume)]

/-- A track from a document. -/
def Track.ofJson : Reader (Track Float) := fun v => do
  let fields ← asRecord ["id", "name", "type", "role", "elements", "muted", "isMain", "volume"] v
  return {
    id := ← fetch fields "id" asText
    name := ← fetch fields "name" asText
    kind := ← fetch fields "type" (asNamed TrackKind.names)
    role := ← fetch fields "role" (asNamed TrackRole.names)
    elements := ← fetch fields "elements" (asList Element.ofJson)
    muted := ← fetchOr fields "muted" false asBool
    isMain := ← fetchOr fields "isMain" false asBool
    volume := ← fetch fields "volume" asSingle }

/-- A provenance as a document. -/
def Provenance.toJson (p : Provenance) : Json :=
  .obj [("templateId", .str p.templateId), ("templateName", .str p.templateName),
    ("generatedAt", instant p.generatedAt), ("placeholdersUsed", strs p.placeholdersUsed),
    ("defaultsApplied", strs p.defaultsApplied), ("elementIdMap", keyed .str p.elementIds),
    ("ruleEffects", list Effect.toJson p.effects)]

/-- A provenance from a document. -/
def Provenance.ofJson : Reader Provenance := fun v => do
  let fields ← asRecord ["templateId", "templateName", "generatedAt", "placeholdersUsed",
      "defaultsApplied", "elementIdMap", "ruleEffects"] v
  return {
    templateId := ← fetch fields "templateId" asText
    templateName := ← fetch fields "templateName" asText
    generatedAt := ← fetch fields "generatedAt" asInstant
    placeholdersUsed := ← fetchOr fields "placeholdersUsed" [] (asList asText)
    defaultsApplied := ← fetchOr fields "defaultsApplied" [] (asList asText)
    elementIds := ← fetchOr fields "elementIdMap" [] (asKeyed asText)
    effects := ← fetchOr fields "ruleEffects" [] (asList Effect.ofJson) }

/-- A project as a document. -/
def toJson (p : Project Float) : Json :=
  .obj [("id", .str p.id), ("name", .str p.name), ("canvas", p.canvas.toJson),
    ("tracks", list Track.toJson p.tracks), ("duration", number p.duration),
    ("metadata", p.provenance.toJson)]

/-- A project from a document. -/
def ofJson : Reader (Project Float) := fun v => do
  let fields ← asRecord ["id", "name", "canvas", "tracks", "duration", "metadata"] v
  return {
    id := ← fetch fields "id" asText
    name := ← fetch fields "name" asText
    canvas := ← fetch fields "canvas" Canvas.ofJson
    tracks := ← fetch fields "tracks" (asList Track.ofJson)
    duration := ← fetch fields "duration" asFloat
    provenance := ← fetch fields "metadata" Provenance.ofJson }

end Storyboard.Project
