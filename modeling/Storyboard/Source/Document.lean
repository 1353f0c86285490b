import Storyboard.Source
import Storyboard.Extraction.Options
import Storyboard.Template.Document

/-!
# Source projects in documents

Reading and writing source projects, their media files and the options of extraction.
-/

namespace Storyboard

open Json

namespace Source

/-- A project as a document. -/
def Project.toJson (p : Project) : Json :=
  .obj <|
    [("id", .str p.id), ("name", .str p.name), ("description", .str p.description)]
    ++ opt "canvas" Canvas.toJson p.canvas

/-- A project from a document. -/
def Project.ofJson : Reader Project := fun v => do
  let fields ← asRecord ["id", "name", "description", "canvas"] v
  return {
    id := ← fetch fields "id" asText
    name := ← fetch fields "name" asText
    description := ← fetchOr fields "description" "" asText
    canvas := ← fetch? fields "canvas" Canvas.ofJson }

/-- The name of a media kind. -/
def MediaKind.name (k : MediaKind) : String := k.inputKind.name

/-- The names of media kinds. -/
def MediaKind.names : List (String × MediaKind) :=
  [("video", .video), ("audio", .audio), ("image", .image)]

/-- A media file as a document. -/
def MediaFile.toJson (f : MediaFile Float) : Json :=
  .obj <|
    [("id", .str f.id), ("name", .str f.name), ("kind", .str f.kind.name)]
    ++ opt "path" .str f.path ++ opt "mimeType" .str f.mimeType
    ++ [("metadata", f.metadata.toJson)]

/-- A media file from a document. -/
def MediaFile.ofJson : Reader (MediaFile Float) := fun v => do
  let fields ← asRecord ["id", "name", "kind", "path", "mimeType", "metadata"] v
  return {
    id := ← fetch fields "id" asText
    name := ← fetch fields "name" asText
    kind := ← fetch fields "kind" (asNamed MediaKind.names)
    path := ← fetch? fields "path" asText
    mimeType := ← fetch? fields "mimeType" asText
    metadata := ← fetchOr fields "metadata" {} MediaMetadata.ofJson }

/-- The name of an element kind. -/
def ElementKind.name : ElementKind → String
  | video => "video"
  | audio => "audio"
  | image => "image"
  | text => "text"

/-- The names of element kinds. -/
def ElementKind.names : List (String × ElementKind) :=
  [("video", .video), ("audio", .audio), ("image", .image), ("text", .text)]

/-- An element as a document. -/
def Element.toJson (e : Element Float) : Json :=
  .obj <|
    [("id", .str e.id), ("name", .str e.name), ("kind", .str e.kind.name),
      ("startTime", number e.start), ("duration", number e.duration)]
    ++ opt "mediaId" .str e.mediaId ++ opt "text" .str e.text
    ++ opt "style" TextStyle.toJson e.style ++ opt "position" PixelPosition.toJson e.position
    ++ [("hidden", .bool e.hidden), ("muted", .bool e.muted), ("trimStart", number e.trimStart),
      ("markAsPlaceholder", .bool e.markAsPlaceholder)]
    ++ opt "captionAnimation" .str e.captionAnimation ++ opt "wordsPerGroup" nat e.wordsPerGroup

/-- An element from a document. -/
def Element.ofJson : Reader (Element Float) := fun v => do
  let fields ← asRecord ["id", "name", "kind", "startTime", "duration", "mediaId", "text", "style",
      "position", "hidden", "muted", "trimStart", "markAsPlaceholder", "captionAnimation",
      "wordsPerGroup"] v
  return {
    id := ← fetch fields "id" asText
    name := ← fetch fields "name" asText
    kind := ← fetch fields "kind" (asNamed ElementKind.names)
    start := ← fetch fields "startTime" asFloat
    duration := ← fetch fields "duration" asFloat
    mediaId := ← fetch? fields "mediaId" asText
    text := ← fetch? fields "text" asText
    style := ← fetch? fields "style" TextStyle.ofJson
    position := ← fetch? fields "position" PixelPosition.ofJson
    hidden := ← fetchOr fields "hidden" false asBool
    muted := ← fetchOr fields "muted" false asBool
    trimStart := ← fetchOr fields "trimStart" 0.0 asFloat
    markAsPlaceholder := ← fetchOr fields "markAsPlaceholder" false asBool
    captionAnimation := ← fetch? fields "captionAnimation" asText
    wordsPerGroup := ← fetch? fields "wordsPerGroup" asCount32 }

/-- A track as a document. -/
def Track.toJson (t : Track Float) : Json :=
  .obj [("id", .str t.id), ("name", .str t.name), ("type", .str t.kind.name),
    ("elements", list Element.toJson t.elements), ("muted", .bool t.muted),
    ("volume", number32 t.volume), ("isMain", .bool t.isMain)]

/-- A track from a document. -/
def Track.ofJson : Reader (Track Float) := fun v => do
  let fields ← asRecord ["id", "name", "type", "elements", "muted", "volume", "isMain"] v
  return {
    id := ← fetch fields "id" asText
    name := ← fetch fields "name" asText
    kind := ← fetch fields "type" (asNamed TrackKind.names)
    elements := ← fetchOr fields "elements" [] (asList Element.ofJson)
    muted := ← fetchOr fields "muted" false asBool
    volume := ← fetchOr fields "volume" .one asSingle
    isMain := ← fetchOr fields "isMain" false asBool }

end Source

namespace ExtractOptions

/-- Options as a document. -/
def toJson (o : ExtractOptions Float) : Json :=
  .obj [("templateName", orNull .str o.templateName), ("inferTrackRoles", .bool o.inferTrackRoles),
    ("roleOverrides", keyed (fun role => .str role.name) o.roleOverrides),
    ("deduplicateMedia", .bool o.deduplicateMedia),
    ("includeDefaultValues", .bool o.includeDefaultValues),
    ("promoteTextToPlaceholders", .bool o.promoteText),
    ("extractCaptionStyles", .bool o.extractCaptionStyles),
    ("detectRelativeTiming", .bool o.detectRelativeTiming),
    ("relativeTimingTolerance", number o.relativeTimingTolerance),
    ("useContentDurations", .bool o.useContentDurations)]

/-- Options from a document. -/
def ofJson : Reader (ExtractOptions Float) := fun v => do
  let fields ← asRecord ["templateName", "inferTrackRoles", "roleOverrides", "deduplicateMedia",
      "includeDefaultValues", "promoteTextToPlaceholders", "extractCaptionStyles",
      "detectRelativeTiming", "relativeTimingTolerance", "useContentDurations"] v
  return {
    templateName := ← fetch? fields "templateName" asText
    inferTrackRoles := ← fetchOr fields "inferTrackRoles" true asBool
    roleOverrides := ← fetchOr fields "roleOverrides" [] (asKeyed (asNamed TrackRole.names))
    deduplicateMedia := ← fetchOr fields "deduplicateMedia" false asBool
    includeDefaultValues := ← fetchOr fields "includeDefaultValues" true asBool
    promoteText := ← fetchOr fields "promoteTextToPlaceholders" false asBool
    extractCaptionStyles := ← fetchOr fields "extractCaptionStyles" true asBool
    detectRelativeTiming := ← fetchOr fields "detectRelativeTiming" true asBool
    relativeTimingTolerance := ← fetchOr fields "relativeTimingTolerance" 0.5 asFloat
    useContentDurations := ← fetchOr fields "useContentDurations" false asBool }

end ExtractOptions

end Storyboard
