import Storyboard.Json
import Storyboard.Instant

/-!
# Typed documents

Readers of typed values from untyped ones. A field is required, optional (it may be absent or
null), or defaulted (it may be absent). Fields that a type does not know are skipped. Counts take
whole numbers only; measures take any number.
-/

namespace Storyboard.Json

/-- A reader of typed values. -/
abbrev Reader (α : Type) := Json → Option α

/-- A text. -/
def asText : Reader String
  | .str s => some s
  | _ => none

/-- A truth value. -/
def asBool : Reader Bool
  | .bool b => some b
  | _ => none

/-- A number of any kind, as a double. -/
def asFloat : Reader Float
  | .int n =>
    some (if n < 0 then -(UInt64.ofNat n.natAbs).toFloat else (UInt64.ofNat n.natAbs).toFloat)
  | .float x => some x
  | .single x => some x.toFloat
  | _ => none

/-- A number of any kind, rounded to single precision. -/
def asSingle : Reader Single
  | .int n => some (.ofInt n)
  | .float x => some (.ofFloat x)
  | .single x => some (.ofFloat x.toFloat)
  | _ => none

/-- A whole number from zero up to a limit. -/
def asCount (limit : Nat) : Reader Nat
  | .int n => if 0 ≤ n ∧ n ≤ limit then some n.toNat else none
  | _ => none

/-- A 32-bit count. -/
def asCount32 : Reader Nat := asCount (Nat.pow 2 32 - 1)

/-- A 64-bit count. -/
def asCount64 : Reader Nat := asCount (Nat.pow 2 64 - 1)

/-- An instant. -/
def asInstant : Reader Instant
  | .str s => Instant.parse s
  | _ => none

/-- A list. -/
def asList {α : Type} (item : Reader α) : Reader (List α)
  | .arr items => items.mapM item
  | _ => none

/-- A dictionary. -/
def asKeyed {α : Type} (item : Reader α) : Reader (Keyed α)
  | .obj fields => fields.mapM fun (key, value) => (item value).map fun x => (key, x)
  | _ => none

/-- The fields of a dictionary. -/
def asFields : Reader (List (String × Json))
  | .obj fields => some fields
  | _ => none

/-- The fields of a record with fields of given names. A record may also be given as the list of its
values in the order of the names; the last ones may be absent. -/
def asRecord (names : List String) : Reader (List (String × Json))
  | .obj fields => some fields
  | .arr items => if items.length ≤ names.length then some (names.zip items) else none
  | _ => none

/-- The tag and the rest of a tagged record: the field `type`, or the first of the values. -/
def asTagged : Reader (String × Json)
  | .obj fields => ((fields.lookup "type").bind asText).map fun tag => (tag, .obj fields)
  | .arr (tag :: rest) => (asText tag).map fun tag => (tag, .arr rest)
  | _ => none

/-- The tag of a tagged value: a name out of a list of named values. -/
def asTag {α : Type} (names : List (String × α)) : Reader α := fun v =>
  (asText v).bind fun name => List.lookup name names

/-- A name out of a list of named values; a name may also be given as the only key of a dictionary
that holds nothing under it. -/
def asNamed {α : Type} (names : List (String × α)) : Reader α
  | .str s => List.lookup s names
  | .obj [(s, .null)] => List.lookup s names
  | _ => none

/-- A name inside a tagged value, where an empty dictionary too stands for nothing. -/
def asNamedWithin {α : Type} (names : List (String × α)) : Reader α
  | .obj [(s, .obj [])] => List.lookup s names
  | v => asNamed names v

/-- A value or null. -/
def asOptional {α : Type} (item : Reader α) : Reader (Option α)
  | .null => some none
  | v => (item v).map some

/-- A required field. -/
def fetch {α : Type} (fields : List (String × Json)) (key : String) (item : Reader α) : Option α :=
  (fields.lookup key).bind item

/-- A field that may be absent. -/
def fetchOr {α : Type} (fields : List (String × Json)) (key : String) (absent : α)
    (item : Reader α) : Option α :=
  match fields.lookup key with
  | some v => item v
  | none => some absent

/-- A field that may be absent or null. -/
def fetch? {α : Type} (fields : List (String × Json)) (key : String) (item : Reader α) :
    Option (Option α) :=
  fetchOr fields key none (asOptional item)

/-- An optional field of a written document, left out where it is absent. -/
def opt {α : Type} (key : String) (write : α → Json) (value : Option α) : List (String × Json) :=
  match value with
  | some x => [(key, write x)]
  | none => []

/-- An optional field of a written document, null where it is absent. -/
def orNull {α : Type} (write : α → Json) (value : Option α) : Json :=
  match value with
  | some x => write x
  | none => .null

/-- A list of written values. -/
def list {α : Type} (write : α → Json) (items : List α) : Json := .arr (items.map write)

/-- A dictionary of written values. -/
def keyed {α : Type} (write : α → Json) (entries : Keyed α) : Json := .obj (entries.mapValues write)

/-- An instant in writing. -/
def instant (i : Instant) : Json := .str i.text

end Storyboard.Json
