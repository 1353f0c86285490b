import Storyboard.Json
import Storyboard.Measure
import Storyboard.Text.Blank
import Storyboard.Text.Case

/-!
# Text and caption styles

How text looks: the properties this library knows by type, and any others kept as they came.
-/

namespace Storyboard

/-- Horizontal alignment of text. -/
inductive Alignment where
  | left
  | center
  | right
  deriving DecidableEq

/-- How text looks. -/
structure TextStyle where
  fontFamily : String := "Arial"
  fontSize : Float := 48.0
  color : String := "#FFFFFF"
  backgroundColor : Option String := none
  alignment : Alignment := .center
  bold : Bool := false
  italic : Bool := false
  underline : Bool := false
  lineHeight : Float := 1.2
  letterSpacing : Float := 0.0
  strokeColor : Option String := none
  strokeWidth : Option Float := none
  /-- Properties of other names, in the order of their names. -/
  extra : Keyed Json := []
  deriving BEq

/-- How captions appear. -/
inductive CaptionAnimation where
  | none
  | fade
  | pop
  | typewriter
  | karaoke
  | wordHighlight
  deriving DecidableEq

/-- Where captions stand. -/
inductive CaptionPlacement where
  | top
  | center
  | bottom
  deriving DecidableEq

/-- The look that the captions of a track share. -/
structure CaptionStyle where
  id : String
  name : String
  textStyle : TextStyle
  animation : CaptionAnimation := .none
  highlightColor : Option String := Option.none
  wordsPerGroup : Nat := 3
  maxLines : Nat := 2
  placement : CaptionPlacement := .bottom
  deriving BEq

/-- A style with a font size of at least one. -/
def TextStyle.withFontSize (s : TextStyle) (size : Float) : TextStyle :=
  { s with fontSize := if 1.0 < size then size else 1.0 }

/-- The animation that an editor calls by a name; names it does not have mean no animation. -/
def CaptionAnimation.ofName (name : String) : CaptionAnimation :=
  let joined := (Text.lower (Text.trim name)).toList.map fun c =>
    if c == '-' || c == ' ' then '_' else c
  match String.ofList joined with
  | "fade" | "fade_in" => .fade
  | "pop" | "bounce" => .pop
  | "typewriter" => .typewriter
  | "karaoke" => .karaoke
  | "word_highlight" | "highlight" => .wordHighlight
  | _ => .none

/-- The placement of text at a height in percent of the canvas, negative above the centre: the
middle third of the canvas counts as the centre. -/
def CaptionPlacement.ofHeight {τ : Type} [Measure τ] (y : τ) : CaptionPlacement :=
  if Measure.lt y (-16.0) then .top else if Measure.lt 16.0 y then .bottom else .center

/-- A caption style with a number of words to a group, at least one. -/
def CaptionStyle.withWordsPerGroup (s : CaptionStyle) (words : Nat) : CaptionStyle :=
  { s with wordsPerGroup := max words 1 }

end Storyboard
