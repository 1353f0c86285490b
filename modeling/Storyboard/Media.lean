import Storyboard.Text.Case
import Storyboard.Text.Path

/-!
# Media files

References to video, audio and image files and what is known about them.
-/

namespace Storyboard

/-- What is known about a media file. -/
structure MediaMetadata (τ : Type) where
  duration : Option τ := none
  width : Option Nat := none
  height : Option Nat := none
  sizeBytes : Option Nat := none
  format : Option String := none
  deriving BEq

/-- A reference to a media file. -/
structure MediaRef (τ : Type) where
  id : String
  name : String
  path : Option String := none
  mimeType : Option String := none
  metadata : Option (MediaMetadata τ) := none
  deriving BEq

variable {τ : Type}

/-- Width over height, where both are known and the height is not zero. -/
def MediaMetadata.aspectRatio (m : MediaMetadata τ) : Option Float :=
  match m.width, m.height with
  | some w, some h => if 0 < h then some (Float.ofNat w / Float.ofNat h) else none
  | _, _ => none

namespace MediaRef

/-- The known duration. -/
def duration (m : MediaRef τ) : Option τ := m.metadata.bind (·.duration)

/-- The part of a media type after its slash. -/
def subtype (mimeType : String) : Option String :=
  (Text.splitAtFirst '/' mimeType.toList).map fun (_, sub) => String.ofList sub

/-- The file format in lower case: the known one, else the extension of the path or of the name,
else the media subtype. -/
def format (m : MediaRef τ) : Option String :=
  let known := m.metadata.bind (·.format)
  let named := (m.path.bind Text.extension?).or (Text.extension? m.name)
  ((known.or named).or (m.mimeType.bind subtype)).map Text.lower

end MediaRef

end Storyboard
