import Storyboard.Placeholder
import Storyboard.Position
import Storyboard.Json.Fields

/-!
# Canvases, positions, media and placeholders in documents

Reading and writing the parts that templates, projects and inputs are made of.
-/

namespace Storyboard

open Json

/-- A canvas as a document. -/
def Canvas.toJson (c : Canvas) : Json :=
  .obj [("width", nat c.width), ("height", nat c.height), ("fps", number c.fps),
    ("background", .str c.background)]

/-- A canvas from a document. -/
def Canvas.ofJson : Reader Canvas := fun v => do
  let fields ← asRecord ["width", "height", "fps", "background"] v
  return {
    width := ← fetch fields "width" asCount32
    height := ← fetch fields "height" asCount32
    fps := ← fetchOr fields "fps" 30.0 asFloat
    background := ← fetchOr fields "background" "#000000" asText }

/-- A position in percent as a document. -/
def PercentPosition.toJson (p : PercentPosition Float) : Json :=
  .obj <|
    [("xPercent", number p.x), ("yPercent", number p.y), ("rotation", number p.rotation)]
    ++ opt "widthPercent" number p.width ++ opt "heightPercent" number p.height

/-- A position in percent from a document. -/
def PercentPosition.ofJson : Reader (PercentPosition Float) := fun v => do
  let fields ← asRecord ["xPercent", "yPercent", "rotation", "widthPercent", "heightPercent"] v
  return {
    x := ← fetch fields "xPercent" asFloat
    y := ← fetch fields "yPercent" asFloat
    rotation := ← fetchOr fields "rotation" 0.0 asFloat
    width := ← fetch? fields "widthPercent" asFloat
    height := ← fetch? fields "heightPercent" asFloat }

/-- A position in pixels as a document. -/
def PixelPosition.toJson (p : PixelPosition Float) : Json :=
  .obj <|
    [("x", number p.x), ("y", number p.y), ("rotation", number p.rotation)]
    ++ opt "width" number p.width ++ opt "height" number p.height

/-- A position in pixels from a document. -/
def PixelPosition.ofJson : Reader (PixelPosition Float) := fun v => do
  let fields ← asRecord ["x", "y", "rotation", "width", "height"] v
  return {
    x := ← fetch fields "x" asFloat
    y := ← fetch fields "y" asFloat
    rotation := ← fetchOr fields "rotation" 0.0 asFloat
    width := ← fetch? fields "width" asFloat
    height := ← fetch? fields "height" asFloat }

/-- What is known about a media file, as a document. -/
def MediaMetadata.toJson (m : MediaMetadata Float) : Json :=
  .obj <|
    opt "durationSec" number m.duration ++ opt "width" nat m.width ++ opt "height" nat m.height
    ++ opt "sizeBytes" nat m.sizeBytes ++ opt "format" .str m.format

/-- What is known about a media file, from a document. -/
def MediaMetadata.ofJson : Reader (MediaMetadata Float) := fun v => do
  let fields ← asRecord ["durationSec", "width", "height", "sizeBytes", "format"] v
  return {
    duration := ← fetch? fields "durationSec" asFloat
    width := ← fetch? fields "width" asCount32
    height := ← fetch? fields "height" asCount32
    sizeBytes := ← fetch? fields "sizeBytes" asCount64
    format := ← fetch? fields "format" asText }

/-- A reference to a media file as a document. -/
def MediaRef.toJson (m : MediaRef Float) : Json :=
  .obj <|
    [("id", .str m.id), ("name", .str m.name)]
    ++ opt "path" .str m.path ++ opt "mimeType" .str m.mimeType
    ++ opt "metadata" MediaMetadata.toJson m.metadata

/-- A reference to a media file from a document. -/
def MediaRef.ofJson : Reader (MediaRef Float) := fun v => do
  let fields ← asRecord ["id", "name", "path", "mimeType", "metadata"] v
  return {
    id := ← fetch fields "id" asText
    name := ← fetch fields "name" asText
    path := ← fetch? fields "path" asText
    mimeType := ← fetch? fields "mimeType" asText
    metadata := ← fetch? fields "metadata" MediaMetadata.ofJson }

/-- The names of input kinds. -/
def InputKind.names : List (String × InputKind) := all.map fun kind => (kind.name, kind)

/-- What an input holds, as a document. -/
def Input.valueJson : Input Float → Json
  | video file | audio file | image file => file.toJson
  | text value | transcript value | color value | font value => .str value
  | number value => Json.number value

/-- An input as a document. -/
def Input.toJson (i : Input Float) : Json :=
  .obj [("type", .str i.kind.name), ("value", i.valueJson)]

/-- An input from a document. -/
def Input.ofJson : Reader (Input Float) := fun v => do
  let (tag, rest) ← asTagged v
  let fields ← asRecord ["value"] rest
  match ← List.lookup tag InputKind.names with
  | .video => return .video (← fetch fields "value" MediaRef.ofJson)
  | .audio => return .audio (← fetch fields "value" MediaRef.ofJson)
  | .image => return .image (← fetch fields "value" MediaRef.ofJson)
  | .text => return .text (← fetch fields "value" asText)
  | .transcript => return .transcript (← fetch fields "value" asText)
  | .number => return .number (← fetch fields "value" asFloat)
  | .color => return .color (← fetch fields "value" asText)
  | .font => return .font (← fetch fields "value" asText)

/-- Inputs as a document. -/
def inputsToJson (inputs : Inputs Float) : Json := .obj [("placeholders", keyed Input.toJson inputs)]

/-- Inputs from a document. -/
def inputsOfJson : Reader (Inputs Float) := fun v => do
  fetchOr (← asRecord ["placeholders"] v) "placeholders" [] (asKeyed Input.ofJson)

/-- Constraints as a document. -/
def Constraints.toJson (c : Constraints Float) : Json :=
  .obj <|
    opt "minDuration" number c.minDuration ++ opt "maxDuration" number c.maxDuration
    ++ opt "aspectRatio" .str c.aspectRatio
    ++ opt "aspectRatioTolerance" number c.aspectRatioTolerance
    ++ (if c.allowedFormats.isEmpty then [] else [("allowedFormats", strs c.allowedFormats)])
    ++ opt "maxFileSize" nat c.maxFileSize
    ++ opt "minLength" nat c.minLength ++ opt "maxLength" nat c.maxLength
    ++ opt "minValue" number c.minValue ++ opt "maxValue" number c.maxValue

/-- Constraints from a document. -/
def Constraints.ofJson : Reader (Constraints Float) := fun v => do
  let fields ← asRecord ["minDuration", "maxDuration", "aspectRatio", "aspectRatioTolerance",
      "allowedFormats", "maxFileSize", "minLength", "maxLength", "minValue", "maxValue"] v
  return {
    minDuration := ← fetch? fields "minDuration" asFloat
    maxDuration := ← fetch? fields "maxDuration" asFloat
    aspectRatio := ← fetch? fields "aspectRatio" asText
    aspectRatioTolerance := ← fetch? fields "aspectRatioTolerance" asFloat
    allowedFormats := ← fetchOr fields "allowedFormats" [] (asList asText)
    maxFileSize := ← fetch? fields "maxFileSize" asCount64
    minLength := ← fetch? fields "minLength" asCount64
    maxLength := ← fetch? fields "maxLength" asCount64
    minValue := ← fetch? fields "minValue" asFloat
    maxValue := ← fetch? fields "maxValue" asFloat }

/-- A placeholder as a document. -/
def Placeholder.toJson (p : Placeholder Float) : Json :=
  .obj <|
    [("id", .str p.id), ("name", .str p.name), ("type", .str p.kind.name),
      ("required", .bool p.required), ("constraints", p.constraints.toJson)]
    ++ opt "defaultValue" Input.toJson p.default
    ++ [("order", nat p.order)]
    ++ opt "description" .str p.description

/-- A placeholder from a document. -/
def Placeholder.ofJson : Reader (Placeholder Float) := fun v => do
  let fields ← asRecord ["id", "name", "type", "required", "constraints", "defaultValue", "order",
      "description"] v
  return {
    id := ← fetch fields "id" asText
    name := ← fetch fields "name" asText
    kind := ← fetch fields "type" (asNamed InputKind.names)
    required := ← fetchOr fields "required" false asBool
    constraints := ← fetchOr fields "constraints" {} Constraints.ofJson
    default := ← fetch? fields "defaultValue" Input.ofJson
    order := ← fetchOr fields "order" 0 asCount32
    description := ← fetch? fields "description" asText }

end Storyboard
