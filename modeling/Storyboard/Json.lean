import Storyboard.Keyed
import Storyboard.Single

/-!
# Document values

The untyped values of documents: nothing, truth values, whole numbers, doubles, singles, texts,
lists and dictionaries. The kinds of number are told apart, so that a document is written with the
kind of number it was read with. No reader makes a single; writers of typed values do.
-/

namespace Storyboard

/-- An untyped value. -/
inductive Json where
  | null
  | bool (b : Bool)
  | int (n : Int)
  | float (x : Float)
  | single (x : Single)
  | str (s : String)
  | arr (items : List Json)
  | obj (fields : List (String × Json))
  deriving Inhabited

namespace Json

mutual

/-- Equality of values; doubles compare as numbers. -/
def same : Json → Json → Bool
  | .null, .null => true
  | .bool a, .bool b => a == b
  | .int a, .int b => a == b
  | .float a, .float b => a == b
  | .single a, .single b => a == b
  | .str a, .str b => a == b
  | .arr as, .arr bs => sameItems as bs
  | .obj as, .obj bs => sameFields as bs
  | _, _ => false

/-- Equality of lists of values. -/
def sameItems : List Json → List Json → Bool
  | [], [] => true
  | a :: as, b :: bs => same a b && sameItems as bs
  | _, _ => false

/-- Equality of lists of named values. -/
def sameFields : List (String × Json) → List (String × Json) → Bool
  | [], [] => true
  | (k, a) :: as, (l, b) :: bs => k == l && same a b && sameFields as bs
  | _, _ => false

end

instance : BEq Json := ⟨same⟩

/-- The value under a key of a dictionary. -/
def get? : Json → String → Option Json
  | .obj fields, key => List.lookup key fields
  | _, _ => none

/-- A list of texts. -/
def strs (items : List String) : Json := .arr (items.map .str)

/-- A count. -/
def nat (n : Nat) : Json := .int n

/-- A double, or nothing where it is not finite. -/
def number (x : Float) : Json := if x.isFinite then .float x else .null

/-- A single, or nothing where it is not finite. -/
def number32 (x : Single) : Json := if x.isFinite then .single x else .null

end Json

end Storyboard
