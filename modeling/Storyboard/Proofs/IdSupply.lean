import Mathlib.Data.List.Nodup
import Storyboard.IdSupply

/-!
# Fresh ids

What is known of the ids drawn from a supply whose names are distinct: the next one was not given out
before, and those given out are distinct.
-/

namespace Storyboard

namespace IdSupply

variable {ids : IdSupply}

/-- An id is one of those that a supply has given out. -/
def Drawn (ids : IdSupply) (id : String) : Prop := ∃ i < ids.used, ids.name i = id

theorem Drawn.skip {id : String} (drawn : ids.Drawn id) (count : Nat) :
    (ids.skip count).Drawn id := by
  obtain ⟨i, used, same⟩ := drawn
  exact ⟨i, Nat.lt_add_right count used, same⟩

theorem drawn_next (ids : IdSupply) : (ids.skip 1).Drawn ids.next :=
  ⟨ids.used, Nat.lt_succ_self _, rfl⟩

/-- The next id was not given out before, if the names of a supply are distinct. -/
theorem not_drawn_next (names : Function.Injective ids.name) : ¬ ids.Drawn ids.next := by
  rintro ⟨i, used, same⟩
  exact Nat.ne_of_lt used (names same)

theorem take_add (ids : IdSupply) (first later : Nat) :
    ids.take (first + later) = ids.take first ++ (ids.skip first).take later := by
  simp [take, IdSupply.skip, List.range_add, Nat.add_assoc]

theorem take_succ (ids : IdSupply) (count : Nat) :
    ids.take (count + 1) = ids.take count ++ [(ids.skip count).next] := by
  simp [take, IdSupply.skip, next, List.range_succ]

theorem nodup_take (names : Function.Injective ids.name) (count : Nat) : (ids.take count).Nodup := by
  refine List.Nodup.map (fun i j same => ?_) List.nodup_range
  have := names same
  omega

end IdSupply

/-- Ids that are told apart by their length. -/
def tally (n : Nat) : String := String.ofList (List.replicate n 'i')

theorem tally_injective : Function.Injective tally := by
  intro m n same
  simpa [tally] using congrArg String.length same

end Storyboard
