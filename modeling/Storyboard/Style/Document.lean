import Storyboard.Style
import Storyboard.Json.Fields

/-!
# Styles in documents

Reading and writing styles, and setting one property of a style by its name. A property that the
library does not know is kept as it came; setting a property is writing the style, putting the
value under the name and reading the result.
-/

namespace Storyboard

open Json

/-- The names of alignments. -/
def Alignment.names : List (String × Alignment) :=
  [("left", .left), ("center", .center), ("right", .right)]

/-- The name of an alignment. -/
def Alignment.name : Alignment → String
  | left => "left"
  | center => "center"
  | right => "right"

/-- The names of animations. -/
def CaptionAnimation.names : List (String × CaptionAnimation) :=
  [("none", .none), ("fade", .fade), ("pop", .pop), ("typewriter", .typewriter),
    ("karaoke", .karaoke), ("word_highlight", .wordHighlight)]

/-- The name of an animation. -/
def CaptionAnimation.name : CaptionAnimation → String
  | none => "none"
  | fade => "fade"
  | pop => "pop"
  | typewriter => "typewriter"
  | karaoke => "karaoke"
  | wordHighlight => "word_highlight"

/-- The names of placements. -/
def CaptionPlacement.names : List (String × CaptionPlacement) :=
  [("top", .top), ("center", .center), ("bottom", .bottom)]

/-- The name of a placement. -/
def CaptionPlacement.name : CaptionPlacement → String
  | top => "top"
  | center => "center"
  | bottom => "bottom"

namespace TextStyle

/-- The names of the known properties. -/
def knownProperties : List String :=
  ["fontFamily", "fontSize", "color", "backgroundColor", "alignment", "bold", "italic",
    "underline", "lineHeight", "letterSpacing", "strokeColor", "strokeWidth"]

/-- A style as a document. -/
def toJson (s : TextStyle) : Json :=
  .obj <|
    [("fontFamily", .str s.fontFamily), ("fontSize", number s.fontSize), ("color", .str s.color)]
    ++ opt "backgroundColor" .str s.backgroundColor
    ++ [("alignment", .str s.alignment.name), ("bold", .bool s.bold), ("italic", .bool s.italic),
      ("underline", .bool s.underline), ("lineHeight", number s.lineHeight),
      ("letterSpacing", number s.letterSpacing)]
    ++ opt "strokeColor" .str s.strokeColor
    ++ opt "strokeWidth" number s.strokeWidth
    ++ s.extra

/-- A style from its fields. -/
def ofFields (fields : List (String × Json)) : Option TextStyle := do
  return {
    fontFamily := ← fetchOr fields "fontFamily" "Arial" asText
    fontSize := ← fetchOr fields "fontSize" 48.0 asFloat
    color := ← fetchOr fields "color" "#FFFFFF" asText
    backgroundColor := ← fetch? fields "backgroundColor" asText
    alignment := ← fetchOr fields "alignment" .center (asNamed Alignment.names)
    bold := ← fetchOr fields "bold" false asBool
    italic := ← fetchOr fields "italic" false asBool
    underline := ← fetchOr fields "underline" false asBool
    lineHeight := ← fetchOr fields "lineHeight" 1.2 asFloat
    letterSpacing := ← fetchOr fields "letterSpacing" 0.0 asFloat
    strokeColor := ← fetch? fields "strokeColor" asText
    strokeWidth := ← fetch? fields "strokeWidth" asFloat
    extra := fields.filter fun (key, _) => !knownProperties.contains key }

/-- A style from a document. -/
def ofJson : Reader TextStyle := fun v => (asFields v).bind ofFields

/-- The fields of a document with one more field, in place of any of its name. -/
def putField (name : String) (value : Json) : Json → Json
  | .obj fields => .obj (Keyed.ofList (fields ++ [(name, value)]))
  | v => v

/-- The style with one property set by its name, if the value is of the property's type. -/
def setProperty (s : TextStyle) (name : String) (value : Json) : Option TextStyle :=
  ofJson (putField name value s.toJson)

end TextStyle

namespace CaptionStyle

/-- A caption style as a document. -/
def toJson (s : CaptionStyle) : Json :=
  .obj <|
    [("id", .str s.id), ("name", .str s.name), ("textStyle", s.textStyle.toJson),
      ("animation", .str s.animation.name)]
    ++ opt "highlightColor" .str s.highlightColor
    ++ [("wordsPerGroup", nat s.wordsPerGroup), ("maxLines", nat s.maxLines),
      ("placement", .str s.placement.name)]

/-- A caption style from a document. -/
def ofJson : Reader CaptionStyle := fun v => do
  let fields ← asRecord ["id", "name", "textStyle", "animation", "highlightColor", "wordsPerGroup",
      "maxLines", "placement"] v
  return {
    id := ← fetch fields "id" asText
    name := ← fetch fields "name" asText
    textStyle := ← fetch fields "textStyle" TextStyle.ofJson
    animation := ← fetchOr fields "animation" .none (asNamed CaptionAnimation.names)
    highlightColor := ← fetch? fields "highlightColor" asText
    wordsPerGroup := ← fetchOr fields "wordsPerGroup" 3 asCount32
    maxLines := ← fetchOr fields "maxLines" 2 asCount32
    placement := ← fetchOr fields "placement" .bottom (asNamed CaptionPlacement.names) }

end CaptionStyle

end Storyboard
