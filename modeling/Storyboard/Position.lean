import Storyboard.Canvas
import Storyboard.Measure

/-!
# Positions and anchors

Where an element lies on the canvas and when it starts. Positions are offsets of the element's
centre from the centre of the canvas, in pixels or in percent of the canvas, so that a position in
percent serves canvases of every size. Times may be given relative to the start or the end of
another element.
-/

namespace Storyboard

/-- A position in pixels. -/
structure PixelPosition (τ : Type) where
  x : τ
  y : τ
  rotation : τ
  width : Option τ
  height : Option τ
  deriving BEq

/-- A position in percent of the canvas. -/
structure PercentPosition (τ : Type) where
  x : τ
  y : τ
  rotation : τ
  width : Option τ
  height : Option τ
  deriving BEq

/-- A point of an element in time. -/
inductive Anchor where
  | start
  | finish
  deriving DecidableEq

variable {τ : Type} [Measure τ]

/-- A length in percent of a size; of a size that is not positive and finite it is none. -/
def toPercent (value size : τ) : τ :=
  if Measure.le size Measure.zero || !Measure.isFinite size then Measure.zero
  else value / size * 100.0

/-- A percentage of a size as a length. -/
def ofPercent (percent size : τ) : τ := percent / 100.0 * size

/-- The position in percent of a canvas. -/
def PixelPosition.toPercent (p : PixelPosition τ) (size : Size) : PercentPosition τ :=
  let width : τ := Measure.ofNat size.width
  let height : τ := Measure.ofNat size.height
  { x := Storyboard.toPercent p.x width
    y := Storyboard.toPercent p.y height
    rotation := p.rotation
    width := p.width.map (Storyboard.toPercent · width)
    height := p.height.map (Storyboard.toPercent · height) }

namespace PercentPosition

/-- The position in pixels of a canvas. -/
def toPixels (p : PercentPosition τ) (size : Size) : PixelPosition τ :=
  let width : τ := Measure.ofNat size.width
  let height : τ := Measure.ofNat size.height
  { x := ofPercent p.x width
    y := ofPercent p.y height
    rotation := p.rotation
    width := p.width.map (ofPercent · width)
    height := p.height.map (ofPercent · height) }

/-- Whether a coordinate lies between the edges of the canvas. -/
def withinEdges (a : τ) : Bool := Measure.le (-50.0) a && Measure.le a 50.0

/-- Whether the centre of the element lies on the canvas. -/
def isOnCanvas (p : PercentPosition τ) : Bool := withinEdges p.x && withinEdges p.y

end PercentPosition

/-- The time of an anchor point of an element. -/
def anchorTime (start duration : τ) : Anchor → τ
  | .start => start
  | .finish => start + duration

/-- The start of an element that is placed relative to another one. -/
def relativeStart (anchorStart anchorDuration : τ) (anchor : Anchor) (offset : τ) : τ :=
  anchorTime anchorStart anchorDuration anchor + offset

end Storyboard
