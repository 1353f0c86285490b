import Mathlib.Data.List.Infix
import Storyboard.Text.Blank

/-!
# Parts of texts

Whether one text occurs in another, and the parts of a text between the occurrences of a character.
-/

namespace Storyboard.Text

theorem containsText_iff {part cs : List Char} : containsText part cs = true ↔ part <:+: cs := by
  induction cs with
  | nil => simp [containsText]
  | cons c rest ih =>
    rw [containsText, Bool.or_eq_true, List.isPrefixOf_iff_prefix, ih, List.infix_cons_iff]

theorem contains_iff {s part : String} :
    contains s part = true ↔ part.toList <:+: s.toList := containsText_iff

theorem splitAll_ne_nil (c : Char) (cs : List Char) : splitAll c cs ≠ [] := by
  cases cs with
  | nil => simp [splitAll]
  | cons x rest =>
    unfold splitAll
    split
    · simp
    · split <;> simp

theorem splitAll_append (c : Char) (before after : List Char) :
    splitAll c (before ++ c :: after) = splitAll c before ++ splitAll c after := by
  induction before with
  | nil => simp [splitAll]
  | cons x before ih =>
    rw [List.cons_append, splitAll, splitAll, ih]
    split
    · rfl
    · cases parts : splitAll c before with
      | nil => exact absurd parts (splitAll_ne_nil c before)
      | cons => rfl

theorem splitAll_of_notMem {c : Char} {cs : List Char} (free : c ∉ cs) : splitAll c cs = [cs] := by
  induction cs with
  | nil => rfl
  | cons x rest ih =>
    obtain ⟨ne, free⟩ := List.ne_and_not_mem_of_not_mem_cons free
    rw [splitAll, if_neg ne.symm, ih free]

end Storyboard.Text
