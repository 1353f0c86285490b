/-!
# Fresh ids

New ids are drawn from a supply, one after the other. The supply is a sequence of names of which a
number are used; nothing else is assumed of it, so that what needs distinct ids says so.
-/

namespace Storyboard

/-- A sequence of ids and how many of them are used. -/
structure IdSupply where
  name : Nat → String
  used : Nat

namespace IdSupply

/-- The next id. -/
def next (s : IdSupply) : String := s.name s.used

/-- The supply with some more ids used. -/
def skip (s : IdSupply) (count : Nat) : IdSupply := { s with used := s.used + count }

/-- The next id, and the supply without it. -/
def fresh (s : IdSupply) : String × IdSupply := (s.next, s.skip 1)

/-- The next ids, in order. -/
def take (s : IdSupply) (count : Nat) : List String :=
  (List.range count).map fun i => s.name (s.used + i)

end IdSupply

end Storyboard
