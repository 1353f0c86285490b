/-!
# Canvases

The picture that a project is composed on: its size in pixels, its frame rate and its background.
-/

namespace Storyboard

/-- A size in pixels, at least one pixel each way. -/
structure Size where
  width : Nat
  height : Nat
  deriving DecidableEq

namespace Size

/-- A size whose sides are at least one pixel. -/
def clamped (width height : Nat) : Size := ⟨max width 1, max height 1⟩

/-- Width over height. -/
def aspectRatio (s : Size) : Float := Float.ofNat s.width / Float.ofNat (max s.height 1)

end Size

/-- The picture that a project is composed on. -/
structure Canvas where
  width : Nat
  height : Nat
  fps : Float := 30.0
  background : String := "#000000"
  deriving BEq

namespace Canvas

/-- Full high definition, upright. -/
def vertical : Canvas := { width := 1080, height := 1920 }

/-- Full high definition, lying. -/
def landscape : Canvas := { width := 1920, height := 1080 }

/-- The size of the picture. -/
def size (c : Canvas) : Size := Size.clamped c.width c.height

end Canvas

end Storyboard
