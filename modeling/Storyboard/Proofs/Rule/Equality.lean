import Storyboard.Proofs.Double.Order
import Storyboard.Rule.Field

/-!
# Loose equality

Values of different kinds are compared after being made comparable, one step after the other: a
truth value becomes its number, a list or dictionary its text, and a text stands for a number beside
a number. A pair may so go through three kinds, but every step leaves fewer values to convert. What
comes out does not depend on the side on which a value stands, and the laws of this comparison leave
no pair undecided: there is one comparison that has them.
-/

namespace Storyboard.Json

variable {a b v : Json} {equals other : Json → Json → Bool}

/-! ## Conversions -/

/-- How many conversions a value of a shape can need. -/
def Shape.pending : Shape → Nat
  | .bool | .composite => 1
  | .null | .number | .text => 0

/-- One step of making two values comparable: beside a value of another kind a truth value becomes
its number, and beside a number or a text a list or dictionary becomes its text. -/
inductive Converts : Json × Json → Json × Json → Prop where
  | truth (b : Bool) (v : Json) (present : v.shape ≠ .null) (different : v.shape ≠ .bool) :
    Converts (.bool b, v) (.float (numberOf (.bool b)), v)
  | composite (s v : Json) (here : s.shape = .composite)
    (beside : v.shape = .number ∨ v.shape = .text) : Converts (s, v) (.str (textOf s), v)
  | swap {a b c d : Json} (step : Converts (a, b) (c, d)) : Converts (b, a) (d, c)

theorem Converts.pending_lt {p q : Json × Json} (step : Converts p q) :
    q.1.shape.pending + q.2.shape.pending < p.1.shape.pending + p.2.shape.pending := by
  induction step with
  | truth b v => exact Nat.add_lt_add_right Nat.zero_lt_one v.shape.pending
  | composite s v here =>
    rw [here]
    exact Nat.add_lt_add_right Nat.zero_lt_one v.shape.pending
  | swap _ ih =>
    dsimp only at ih ⊢
    omega

/-- Conversions come to an end on every pair. -/
theorem wellFounded_converts : WellFounded fun q p : Json × Json => Converts p q :=
  Subrelation.wf (fun step => step.pending_lt)
    (measure fun p : Json × Json => p.1.shape.pending + p.2.shape.pending).wf

/-! ## The comparison -/

/-- The shapes that are compared as they are or by their numbers. -/
def Shape.isPlain : Shape → Bool
  | .bool | .number | .text => true
  | .null | .composite => false

theorem Shape.ne_of_isPlain {kind : Shape} (plain : kind.isPlain = true) :
    kind ≠ .null ∧ kind ≠ .composite := by
  cases kind <;> simp_all [isPlain]

theorem shape_eq_null_iff : v.shape = .null ↔ v = .null := by
  cases v <;> simp [shape]

theorem shape_eq_bool_iff : v.shape = .bool ↔ ∃ b, v = .bool b := by
  cases v <;> simp [shape]

theorem shape_eq_text_iff : v.shape = .text ↔ ∃ s, v = .str s := by
  cases v <;> simp [shape]

theorem shape_cases (v : Json) : v = .null ∨ v.shape = .composite ∨ v.shape.isPlain = true := by
  cases v <;> simp [shape, Shape.isPlain]

/-- A value as a primitive one: a structure by its text. -/
def primitive (v : Json) : Json := if v.shape = .composite then .str (textOf v) else v

theorem looseEquals_eq (a b : Json) :
    looseEquals a b =
      if a.shape = .null ∨ b.shape = .null then a.shape == b.shape
      else if a.shape = .composite ∧ b.shape = .composite then false
      else plainEquals a.primitive b.primitive := by
  cases a <;> cases b <;> rfl

theorem plainEquals_comm (a b : Json) : plainEquals a b = plainEquals b a := by
  unfold plainEquals
  split
  · exact BEq.comm
  · split
    · simp_all
    · exact Double.beq_comm _ _

theorem looseEquals_comm (a b : Json) : looseEquals a b = looseEquals b a := by
  rw [looseEquals_eq a, looseEquals_eq b]
  by_cases nothing : a.shape = .null ∨ b.shape = .null
  · rw [if_pos nothing, if_pos nothing.symm]
    exact BEq.comm
  rw [if_neg nothing, if_neg (mt Or.symm nothing)]
  by_cases both : a.shape = .composite ∧ b.shape = .composite
  · rw [if_pos both, if_pos both.symm]
  · rw [if_neg both, if_neg (mt And.symm both)]
    exact plainEquals_comm _ _

theorem looseEquals_null (v : Json) : looseEquals .null v = true ↔ v = .null := by
  have unfolded : looseEquals .null v = (v.shape == .null) := rfl
  rw [unfolded, beq_iff_eq, shape_eq_null_iff]

theorem looseEquals_composites (hereA : a.shape = .composite) (hereB : b.shape = .composite) :
    looseEquals a b = false := by
  rw [looseEquals_eq, hereA, hereB]
  rfl

/-- A structure beside a value that is none is compared by its text. -/
theorem looseEquals_composite (here : a.shape = .composite) (beside : b.shape ≠ .composite) :
    looseEquals a b = looseEquals (.str (textOf a)) b := by
  rw [looseEquals_eq, looseEquals_eq, here]
  cases kind : b.shape <;> simp_all [shape, primitive]

/-- Primitive values that are not both texts are compared by their numbers. -/
theorem looseEquals_numbers (plainA : a.shape.isPlain = true) (plainB : b.shape.isPlain = true)
    (other : ¬ (a.shape = .text ∧ b.shape = .text)) :
    looseEquals a b = (numberOf a == numberOf b) := by
  obtain ⟨presentA, simpleA⟩ := Shape.ne_of_isPlain plainA
  obtain ⟨presentB, simpleB⟩ := Shape.ne_of_isPlain plainB
  rw [looseEquals_eq, if_neg fun h => h.elim presentA presentB, if_neg fun h => simpleA h.1,
    primitive, primitive, if_neg simpleA, if_neg simpleB]
  unfold plainEquals
  split
  · exact absurd ⟨rfl, rfl⟩ other
  · rfl

/-- A conversion does not change what comes out. -/
theorem looseEquals_of_converts {p q : Json × Json} (step : Converts p q) :
    looseEquals p.1 p.2 = looseEquals q.1 q.2 := by
  induction step with
  | truth b v present different =>
    rcases shape_cases v with rfl | composite | plain
    · exact absurd rfl present
    · rw [looseEquals_comm, looseEquals_composite composite (by simp [shape]),
        looseEquals_comm _ v, looseEquals_composite composite (by simp [shape]),
        looseEquals_numbers rfl rfl (by simp [shape]), looseEquals_numbers rfl rfl (by simp [shape])]
      rfl
    · rw [looseEquals_numbers rfl plain (by simp [shape]),
        looseEquals_numbers rfl plain (by simp [shape])]
      rfl
  | composite s v here beside =>
    refine looseEquals_composite here fun same => ?_
    rcases beside with kind | kind <;> cases same.symm.trans kind
  | @swap a b c d _ ih => exact (looseEquals_comm b a).trans (ih.trans (looseEquals_comm c d))

/-! ## The laws -/

/-- The laws of loose equality of present values. -/
structure Loose (equals : Json → Json → Bool) : Prop where
  comm : ∀ a b, equals a b = equals b a
  /-- Nothing equals only nothing. -/
  null : ∀ v, equals .null v = true ↔ v = .null
  truths : ∀ b c : Bool, equals (.bool b) (.bool c) = (b == c)
  texts : ∀ s t : String, equals (.str s) (.str t) = (s == t)
  numbers : ∀ a b, a.shape = .number → b.shape = .number →
    equals a b = (numberOf a == numberOf b)
  /-- Primitive values of different kinds are equal when their numbers are. -/
  mixed : ∀ a b, a.shape.isPlain = true → b.shape.isPlain = true → a.shape ≠ b.shape →
    equals a b = (numberOf a == numberOf b)
  /-- Two structures are never equal. -/
  composites : ∀ a b, a.shape = .composite → b.shape = .composite → equals a b = false
  /-- A structure equals what is none when its text does. -/
  composite : ∀ a b, a.shape = .composite → b.shape ≠ .composite →
    equals a b = equals (.str (textOf a)) b

theorem loose_looseEquals : Loose looseEquals where
  comm := looseEquals_comm
  null := looseEquals_null
  truths := by decide
  texts _ _ := rfl
  numbers a b kindA kindB := looseEquals_numbers (by rw [kindA]; rfl) (by rw [kindB]; rfl)
    fun both => by cases kindA.symm.trans both.1
  mixed _ _ plainA plainB different := looseEquals_numbers plainA plainB
    fun both => different (both.1.trans both.2.symm)
  composites _ _ := looseEquals_composites
  composite _ _ := looseEquals_composite

theorem Loose.agree_plain (f : Loose equals) (g : Loose other) (plainA : a.shape.isPlain = true)
    (plainB : b.shape.isPlain = true) : equals a b = other a b := by
  by_cases same : a.shape = b.shape
  · cases kind : b.shape with
    | null => exact absurd kind (Shape.ne_of_isPlain plainB).1
    | composite => exact absurd kind (Shape.ne_of_isPlain plainB).2
    | number => rw [f.numbers a b (same.trans kind) kind, g.numbers a b (same.trans kind) kind]
    | bool =>
      obtain ⟨c, rfl⟩ := shape_eq_bool_iff.1 kind
      obtain ⟨d, rfl⟩ := shape_eq_bool_iff.1 same
      rw [f.truths, g.truths]
    | text =>
      obtain ⟨s, rfl⟩ := shape_eq_text_iff.1 kind
      obtain ⟨t, rfl⟩ := shape_eq_text_iff.1 same
      rw [f.texts, g.texts]
  · rw [f.mixed a b plainA plainB same, g.mixed a b plainA plainB same]

theorem Loose.agree_null (f : Loose equals) (g : Loose other) (v : Json) :
    equals .null v = other .null v := by
  rw [Bool.eq_iff_iff, f.null, g.null]

theorem Loose.agree_composite (f : Loose equals) (g : Loose other) (here : a.shape = .composite)
    (plain : b.shape.isPlain = true) : equals a b = other a b := by
  have beside := (Shape.ne_of_isPlain plain).2
  rw [f.composite a b here beside, g.composite a b here beside]
  exact f.agree_plain g rfl plain

/-- The laws decide every pair. -/
theorem Loose.agree (f : Loose equals) (g : Loose other) (a b : Json) : equals a b = other a b := by
  rcases shape_cases a with rfl | structureA | plainA
  · exact f.agree_null g b
  · rcases shape_cases b with rfl | structureB | plainB
    · rw [f.comm, g.comm, f.agree_null g]
    · rw [f.composites a b structureA structureB, g.composites a b structureA structureB]
    · exact f.agree_composite g structureA plainB
  · rcases shape_cases b with rfl | structureB | plainB
    · rw [f.comm, g.comm, f.agree_null g]
    · rw [f.comm, g.comm, f.agree_composite g structureB plainA]
    · exact f.agree_plain g plainA plainB

/-- **Loose equality is symmetric and well defined.** It has the laws of loose equality, and it is
the one comparison that has them; a missing field equals only nothing; no conversion changes the
outcome, and on every pair conversions come to an end. -/
theorem fieldEquals_loose :
    Loose (fun a b => fieldEquals (some a) b) ∧
    (∀ equals, Loose equals → ∀ a b, fieldEquals (some a) b = equals a b) ∧
    (∀ v, fieldEquals none v = true ↔ v = .null) ∧
    (∀ p q, Converts p q → fieldEquals (some p.1) p.2 = fieldEquals (some q.1) q.2) ∧
    WellFounded fun q p : Json × Json => Converts p q := by
  refine ⟨loose_looseEquals, fun equals laws => loose_looseEquals.agree laws, fun v => ?_,
    fun p q => looseEquals_of_converts, wellFounded_converts⟩
  rw [← shape_eq_null_iff]
  exact beq_iff_eq

/-- A truth value beside a list is compared by its number with the number of the list's text. -/
theorem fieldEquals_nested :
    Converts (.bool true, .arr [.arr [.str " 1.0 "]]) (.float 1.0, .arr [.arr [.str " 1.0 "]]) ∧
    Converts (.float 1.0, .arr [.arr [.str " 1.0 "]]) (.float 1.0, .str " 1.0 ") ∧
    fieldEquals (some (.bool true)) (.arr [.arr [.str " 1.0 "]]) = true ∧
    fieldEquals (some (.arr [.arr [.str " 1.0 "]])) (.bool true) = true := by
  have first : Converts (.bool true, .arr [.arr [.str " 1.0 "]])
      (.float 1.0, .arr [.arr [.str " 1.0 "]]) := .truth true _ (by decide) (by decide)
  have second : Converts (.float 1.0, .arr [.arr [.str " 1.0 "]]) (.float 1.0, .str " 1.0 ") :=
    .swap (.composite _ _ rfl (.inl rfl))
  have equal : fieldEquals (some (.bool true)) (.arr [.arr [.str " 1.0 "]]) = true := by
    rw [fieldEquals_loose.2.2.2.1 _ _ first, fieldEquals_loose.2.2.2.1 _ _ second]
    rfl
  exact ⟨first, second, equal, (fieldEquals_loose.1.comm _ _).trans equal⟩

end Storyboard.Json
