import Storyboard.Media
import Storyboard.Measure
import Storyboard.Keyed
import Storyboard.Decimal.Layout
import Storyboard.Decimal.Reading

/-!
# Placeholders

The named, typed slots of a template. An input fills a slot; constraints say which inputs do.
-/

namespace Storyboard

/-- What kind of input a placeholder takes. -/
inductive InputKind where
  | video
  | audio
  | image
  | text
  | transcript
  | number
  | color
  | font
  deriving DecidableEq

namespace InputKind

/-- The name of a kind in documents and messages. -/
def name : InputKind → String
  | video => "video"
  | audio => "audio"
  | image => "image"
  | text => "text"
  | transcript => "transcript"
  | number => "number"
  | color => "color"
  | font => "font"

/-- All kinds. -/
def all : List InputKind := [video, audio, image, text, transcript, number, color, font]

/-- Whether inputs of the kind are media files. -/
def isMedia : InputKind → Bool
  | video | audio | image => true
  | _ => false

/-- Whether media of the kind play for some time. -/
def hasDuration : InputKind → Bool
  | video | audio => true
  | _ => false

end InputKind

/-- A value that fills a placeholder. -/
inductive Input (τ : Type) where
  | video (file : MediaRef τ)
  | audio (file : MediaRef τ)
  | image (file : MediaRef τ)
  | text (value : String)
  | transcript (value : String)
  | number (value : Float)
  | color (value : String)
  | font (value : String)
  deriving BEq

namespace Input

variable {τ : Type}

/-- The kind of an input. -/
def kind : Input τ → InputKind
  | video _ => .video
  | audio _ => .audio
  | image _ => .image
  | text _ => .text
  | transcript _ => .transcript
  | number _ => .number
  | color _ => .color
  | font _ => .font

/-- A media file as an input of a media kind. -/
def ofMedia (kind : InputKind) (file : MediaRef τ) : Option (Input τ) :=
  match kind with
  | .video => some (.video file)
  | .audio => some (.audio file)
  | .image => some (.image file)
  | _ => none

/-- The media file of an input. -/
def media? : Input τ → Option (MediaRef τ)
  | video file | audio file | image file => some file
  | _ => none

/-- The same input with its media file changed. -/
def mapMedia (f : MediaRef τ → MediaRef τ) : Input τ → Input τ
  | video file => .video (f file)
  | audio file => .audio (f file)
  | image file => .image (f file)
  | other => other

/-- The text of an input; media have none. -/
def text? : Input τ → Option String
  | text value | transcript value | color value | font value => some value
  | number value => some (Decimal.text value)
  | video _ | audio _ | image _ => none

end Input

/-- The inputs of a template, by placeholder. -/
abbrev Inputs (τ : Type) := Keyed (Input τ)

/-- Which inputs a placeholder accepts. -/
structure Constraints (τ : Type) where
  minDuration : Option τ := none
  maxDuration : Option τ := none
  aspectRatio : Option String := none
  aspectRatioTolerance : Option Float := none
  allowedFormats : List String := []
  maxFileSize : Option Nat := none
  minLength : Option Nat := none
  maxLength : Option Nat := none
  minValue : Option Float := none
  maxValue : Option Float := none
  deriving BEq

/-- A slot of a template. -/
structure Placeholder (τ : Type) where
  id : String
  name : String
  kind : InputKind
  required : Bool := false
  constraints : Constraints τ := {}
  default : Option (Input τ) := none
  order : Nat := 0
  description : Option String := none
  deriving BEq

/-- The ratio that a text gives: a positive number, or two numbers around a colon or a slash. -/
def readAspectRatio (s : String) : Option Float :=
  let cs := (Text.trim s).toList
  let number (part : List Char) := Decimal.read? (Text.trim (String.ofList part))
  let ratio := match (Text.splitAtFirst ':' cs).or (Text.splitAtFirst '/' cs) with
    | some (w, h) =>
      match number w, number h with
      | some w, some h => if h == 0.0 then none else some (w / h)
      | _, _ => none
    | none => Decimal.read? (String.ofList cs)
  ratio.filter fun r => r.isFinite && 0.0 < r

/-- How far an aspect ratio may lie from its target where the constraints do not say. -/
def defaultAspectTolerance : Float := 0.02

namespace Constraints

variable {τ : Type}

/-- The aspect ratio asked for, where it can be read. -/
def targetAspectRatio (c : Constraints τ) : Option Float := c.aspectRatio.bind readAspectRatio

/-- The constraints with a list of formats, in lower case and without leading dots. -/
def withFormats (c : Constraints τ) (formats : List String) : Constraints τ :=
  let clean (f : String) := Text.lower (String.ofList (f.toList.dropWhile (· == '.')))
  { c with allowedFormats := formats.map clean }

end Constraints

end Storyboard
