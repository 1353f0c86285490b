/-!
# Keyed lists

Small dictionaries: lists of pairs in increasing order of their keys. Order by key is the order in
which such a dictionary is walked and written.
-/

namespace Storyboard

/-- A dictionary from texts, kept in the order of its keys. -/
abbrev Keyed (α : Type) := List (String × α)

namespace Keyed

variable {α β : Type}

/-- The value under a key. -/
def get? (entries : Keyed α) (key : String) : Option α := List.lookup key entries

/-- Whether a key has a value. -/
def has (entries : Keyed α) (key : String) : Bool := (entries.get? key).isSome

/-- Puts a value under a key, in place of the value it had. -/
def insert (key : String) (value : α) : Keyed α → Keyed α
  | [] => [(key, value)]
  | (k, v) :: rest =>
    if key = k then (key, value) :: rest
    else if key < k then (key, value) :: (k, v) :: rest
    else (k, v) :: insert key value rest

/-- The dictionary of a list of pairs; of two values under one key the later stays. -/
def ofList (entries : List (String × α)) : Keyed α :=
  entries.foldl (fun kept (k, v) => insert k v kept) []

/-- The keys in order. -/
def keys (entries : Keyed α) : List String := entries.map Prod.fst

/-- The same keys with other values. -/
def mapValues (f : α → β) (entries : Keyed α) : Keyed β := entries.map fun (k, v) => (k, f v)

end Keyed

end Storyboard
