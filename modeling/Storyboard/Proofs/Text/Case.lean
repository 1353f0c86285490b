import Storyboard.Text.Case

/-!
# Lower case stays

The lower-case form of a capital letter is not itself a capital letter: no run of forms meets a run
of capital letters. So a text in lower case stays as it is when it is lower-cased again.
-/

namespace Storyboard.Text

/-! ## Runs -/

/-- A run of capital letters: first, last, distance, and the lower-case form of the first. -/
abbrev Run := Nat × Nat × Nat × Nat

/-- Whether a code point is that of a letter of a run. -/
def inRun (n : Nat) (run : Run) : Bool :=
  let (first, last, step, _) := run
  first ≤ n && n ≤ last && (n - first) % step == 0

/-- Whether no lower-case form of one run is a letter of another: the forms lie before the letters,
behind them, or between letters that stand at a distance of two. -/
def apart (a b : Run) : Bool :=
  -- Every pair of runs is looked at by the kernel, so numbers are compared without propositions.
  Nat.blt (a.2.2.2 + (a.2.1 - a.1)) b.1 || (Nat.blt b.2.1 a.2.2.2 ||
    (a.2.2.1 == 2 || a.1 == a.2.1) && b.2.2.1 == 2 && (a.2.2.2 + b.1) % 2 == 1)

/-- Whether the lower-case forms of a run are characters. -/
def areChars (a : Run) : Bool :=
  let (first, last, _, lower) := a
  lower + (last - first) < 0xD800 || 0xDFFF < lower && lower + (last - first) < 0x110000

theorem runs_apart : (lowerRuns.all fun a => lowerRuns.all (apart a)) = true := by decide +kernel

/-- The capital I with a dot, which is lower-cased by itself, is no lower-case form either. -/
theorem runs_apart_dotted :
    (lowerRuns.all fun a => apart a (0x130, 0x130, 1, 0x69)) = true := by decide +kernel

theorem runs_areChars : lowerRuns.all areChars = true := by decide +kernel

theorem not_inRun_of_apart {a b : Run} {n : Nat} (member : inRun n a = true)
    (distinct : apart a b = true) : inRun (a.2.2.2 + (n - a.1)) b = false := by
  obtain ⟨first, last, step, lower⟩ := a
  obtain ⟨first', last', step', lower'⟩ := b
  rw [← Bool.not_eq_true]
  intro inside
  simp only [inRun, apart, Bool.and_eq_true, Bool.or_eq_true, Nat.blt_eq, decide_eq_true_eq,
    beq_iff_eq] at *
  obtain ⟨⟨low, high⟩, even⟩ := member
  obtain ⟨⟨low', high'⟩, even'⟩ := inside
  rcases distinct with before | behind | ⟨⟨kind, rfl⟩, odd⟩
  · omega
  · omega
  · rcases kind with rfl | rfl <;> omega

/-! ## Characters -/

/-- Whether a character is a letter of a run. -/
def isCapital (c : Char) : Bool := lowerRuns.any (inRun c.toNat)

theorem lowerIn_some {c : Char} {run : Run} (found : lowerRuns.find? (inRun c.toNat) = some run) :
    lowerIn lowerRuns c = Char.ofNat (run.2.2.2 + (c.toNat - run.1)) := by
  change (match lowerRuns.find? (inRun c.toNat) with
    | some (first, _, _, lower) => Char.ofNat (lower + (c.toNat - first))
    | none => c) = _
  rw [found]

theorem lowerIn_none {c : Char} (missing : lowerRuns.find? (inRun c.toNat) = none) :
    lowerIn lowerRuns c = c := by
  change (match lowerRuns.find? (inRun c.toNat) with
    | some (first, _, _, lower) => Char.ofNat (lower + (c.toNat - first))
    | none => c) = _
  rw [missing]

theorem toNat_lowerIn {c : Char} {run : Run}
    (found : lowerRuns.find? (inRun c.toNat) = some run) :
    (lowerIn lowerRuns c).toNat = run.2.2.2 + (c.toNat - run.1) := by
  have member := List.find?_some found
  have chars := List.all_eq_true.1 runs_areChars run (List.mem_of_find?_eq_some found)
  rw [lowerIn_some found]
  obtain ⟨first, last, step, lower⟩ := run
  simp only [inRun, areChars, Bool.and_eq_true, Bool.or_eq_true, decide_eq_true_eq] at member chars
  have valid : (lower + (c.toNat - first)).isValidChar := by
    unfold Nat.isValidChar
    omega
  rw [Char.ofNat, dif_pos valid]
  rfl

/-- A lower-case form is no capital letter. -/
theorem isCapital_lowerIn (c : Char) : isCapital (lowerIn lowerRuns c) = false := by
  cases found : lowerRuns.find? (inRun c.toNat) with
  | none =>
    rw [lowerIn_none found]
    simpa [isCapital] using found
  | some run =>
    have others := List.all_eq_true.1 runs_apart run (List.mem_of_find?_eq_some found)
    rw [isCapital, toNat_lowerIn found, List.any_eq_false]
    intro run' member
    rw [not_inRun_of_apart (List.find?_some found) (List.all_eq_true.1 others run' member)]
    exact Bool.false_ne_true

/-- A character that is as it is in lower case, wherever it stands. -/
structure IsLower (c : Char) : Prop where
  notSigma : c ≠ '\u03A3'
  same : lowerChar c = [c]

theorem isLower_of_not_capital {c : Char} (small : isCapital c = false) (other : c ≠ '\u0130') :
    IsLower c where
  notSigma := by
    rintro rfl
    exact absurd small (by decide)
  same := by
    have missing : lowerRuns.find? (inRun c.toNat) = none := by simpa [isCapital] using small
    rw [lowerChar, if_neg other, lowerIn_none missing]

theorem lowerIn_ne_dotted {c : Char} (other : c ≠ '\u0130') : lowerIn lowerRuns c ≠ '\u0130' := by
  cases found : lowerRuns.find? (inRun c.toNat) with
  | none => rwa [lowerIn_none found]
  | some run =>
    intro same
    have number := toNat_lowerIn found
    have outside := not_inRun_of_apart (List.find?_some found)
      (List.all_eq_true.1 runs_apart_dotted run (List.mem_of_find?_eq_some found))
    rw [← number, same] at outside
    exact absurd outside (by decide)

theorem isLower_of_mem_lowerChar {c lowered : Char} (member : lowered ∈ lowerChar c) :
    IsLower lowered := by
  unfold lowerChar at member
  split at member
  · rcases List.mem_cons.1 member with rfl | member
    · exact isLower_of_not_capital (by decide) (by decide)
    · obtain rfl := List.mem_singleton.1 member
      exact isLower_of_not_capital (by decide) (by decide)
  · next other =>
    obtain rfl := List.mem_singleton.1 member
    exact isLower_of_not_capital (isCapital_lowerIn c) (lowerIn_ne_dotted other)

/-! ## Texts -/

theorem isLower_of_mem_lowerFrom {before cs : List Char} {c : Char}
    (member : c ∈ lowerFrom before cs) : IsLower c := by
  induction cs generalizing before with
  | nil => cases member
  | cons first rest ih =>
    rw [lowerFrom] at member
    rcases List.mem_append.1 member with here | later
    · split at here
      · obtain rfl := List.mem_singleton.1 here
        split
        · exact isLower_of_not_capital (by decide) (by decide)
        · exact isLower_of_not_capital (by decide) (by decide)
      · exact isLower_of_mem_lowerChar here
    · exact ih later

theorem lowerFrom_of_isLower {before cs : List Char} (lower : ∀ c ∈ cs, IsLower c) :
    lowerFrom before cs = cs := by
  induction cs generalizing before with
  | nil => rfl
  | cons first rest ih =>
    obtain ⟨notSigma, same⟩ := lower first List.mem_cons_self
    have later : ∀ c ∈ rest, IsLower c := fun c member => lower c (List.mem_cons_of_mem _ member)
    rw [lowerFrom, if_neg notSigma, same, ih later]
    rfl

/-- **Lower case is reached at once.** -/
theorem lower_lower (s : String) : lower (lower s) = lower s := by
  unfold lower
  rw [String.toList_ofList, lowerFrom_of_isLower fun c member => isLower_of_mem_lowerFrom member]

end Storyboard.Text
