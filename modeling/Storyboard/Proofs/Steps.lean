import Mathlib.Data.List.Forall2
import Mathlib.Logic.Basic

/-!
# Steps that may fail

A sequence of two steps succeeds when both do, and fails when either does. What the failures of a
sequence have in common is what those of its steps have in common.
-/

namespace Storyboard

variable {ε α β : Type}

theorem bind_ok_iff {x : Except ε α} {f : α → Except ε β} {b : β} :
    (x >>= f) = .ok b ↔ ∃ a, x = .ok a ∧ f a = .ok b := by
  cases x <;> simp [bind, Except.bind]

theorem bind_error_iff {x : Except ε α} {f : α → Except ε β} {e : ε} :
    (x >>= f) = .error e ↔ x = .error e ∨ ∃ a, x = .ok a ∧ f a = .error e := by
  cases x <;> simp [bind, Except.bind]

theorem pure_ok {a b : α} : (pure a : Except ε α) = .ok b ↔ a = b := by
  simp [pure, Except.pure]

/-- A step either succeeds or fails. -/
theorem ok_or_error (x : Except ε α) : (∃ a, x = .ok a) ∨ ∃ e, x = .error e := by
  cases x with
  | ok a => exact .inl ⟨a, rfl⟩
  | error e => exact .inr ⟨e, rfl⟩

theorem isOk_iff {x : Except ε α} : x.isOk = true ↔ ∃ a, x = .ok a := by
  cases x <;> simp [Except.isOk, Except.toBool]

/-- A sequence that starts with a condition succeeds when the condition holds and the rest does. -/
theorem unless_ok_iff {c : Bool} {e : ε} {x : Except ε β} {f : α → Except ε β} {b : β} :
    (if c = true then x else throw e >>= f) = .ok b ↔ c = true ∧ x = .ok b := by
  cases c <;> simp [throw, throwThe, MonadExceptOf.throw, bind, Except.bind]

theorem map_ok_iff {x : Except ε α} {f : α → β} {b : β} :
    x.map f = .ok b ↔ ∃ a, x = .ok a ∧ f a = b := by
  cases x <;> simp [Except.map]

/-- A sequence of checks passes when each of them does. -/
theorem forM_ok_iff {f : α → Except ε Unit} {l : List α} :
    l.forM f = .ok () ↔ ∀ a ∈ l, f a = .ok () := by
  induction l with
  | nil => simp [pure, Except.pure]
  | cons a rest ih =>
    rw [List.forM, bind_ok_iff, List.forall_mem_cons, ← ih]
    exact ⟨fun ⟨_, first, later⟩ => ⟨first, later⟩, fun ⟨first, later⟩ => ⟨_, first, later⟩⟩

/-- Steps on the members of a list that all succeed make a list of as many results. -/
theorem mapM_forall₂ {γ : Type} {R : γ → α → Prop} {S : γ → β → Prop} {f : α → Except ε β}
    {cs : List γ} {l : List α} (related : List.Forall₂ R cs l)
    (each : ∀ c a, R c a → ∃ b, f a = .ok b ∧ S c b) :
    ∃ bs, l.mapM f = .ok bs ∧ List.Forall₂ S cs bs := by
  induction related with
  | nil => exact ⟨[], rfl, .nil⟩
  | @cons c a cs l first _ ih =>
    obtain ⟨b, made, holds⟩ := each c a first
    obtain ⟨bs, rest, later⟩ := ih
    refine ⟨b :: bs, ?_, .cons holds later⟩
    rw [List.mapM_cons, made, rest]
    rfl

/-- Of a list of steps that all succeed, each member of the result is what its step has made. -/
theorem forall₂_of_mapM {f : α → Except ε β} {l : List α} {bs : List β} (done : l.mapM f = .ok bs) :
    List.Forall₂ (fun a b => f a = .ok b) l bs := by
  induction l generalizing bs with
  | nil =>
    obtain rfl := pure_ok.1 done
    exact .nil
  | cons a rest ih =>
    rw [List.mapM_cons] at done
    obtain ⟨b, first, done⟩ := bind_ok_iff.1 done
    obtain ⟨others, later, done⟩ := bind_ok_iff.1 done
    obtain rfl := pure_ok.1 done
    exact .cons first (ih later)

/-- Two lists that are related member by member, one after the other. -/
theorem forall₂_trans {γ : Type} {R : α → β → Prop} {S : β → γ → Prop} {T : α → γ → Prop}
    (chain : ∀ a b c, R a b → S b c → T a c) {as : List α} {bs : List β} {cs : List γ}
    (first : List.Forall₂ R as bs) (later : List.Forall₂ S bs cs) : List.Forall₂ T as cs := by
  induction first generalizing cs with
  | nil =>
    cases later
    exact .nil
  | cons here _ ih =>
    cases later with
    | cons there rest => exact .cons (chain _ _ _ here there) (ih rest)

/-- Two lists that are related to one list member by member. -/
theorem forall₂_join {γ : Type} {R : α → β → Prop} {S : α → γ → Prop} {T : β → γ → Prop}
    (join : ∀ a b c, R a b → S a c → T b c) {as : List α} {bs : List β} {cs : List γ}
    (first : List.Forall₂ R as bs) (second : List.Forall₂ S as cs) : List.Forall₂ T bs cs := by
  induction first generalizing cs with
  | nil =>
    cases second
    exact .nil
  | cons here _ ih =>
    cases second with
    | cons there rest => exact .cons (join _ _ _ here there) (ih rest)

/-- Related members of two lists stand at the same place. -/
theorem forall₂_mem_zip {R : α → β → Prop} {as : List α} {bs : List β}
    (related : List.Forall₂ R as bs) :
    List.Forall₂ (fun a b => R a b ∧ (a, b) ∈ as.zip bs) as bs := by
  obtain ⟨length, each⟩ := List.forall₂_iff_zip.1 related
  exact List.forall₂_iff_zip.2 ⟨length, fun {_ _} member => ⟨each member, member⟩⟩

theorem length_flatMap_even {γ δ : Type} {f : α → List γ} {g : β → List δ} {as : List α}
    {bs : List β} (even : List.Forall₂ (fun a b => (f a).length = (g b).length) as bs) :
    (as.flatMap f).length = (bs.flatMap g).length := by
  induction even with
  | nil => rfl
  | cons first _ ih =>
    rw [List.flatMap_cons, List.flatMap_cons, List.length_append, List.length_append, first, ih]

theorem forall₂_iff_map {γ : Type} {f : α → γ} {g : β → γ} {as : List α} {bs : List β} :
    List.Forall₂ (fun a b => f a = g b) as bs ↔ as.map f = bs.map g := by
  rw [← List.forall₂_eq_eq_eq, List.forall₂_map_left_iff, List.forall₂_map_right_iff]

/-- Wholes of the same parts are the same. -/
theorem flatMap_congr_forall₂ {γ : Type} {f : α → List γ} {g : β → List γ} {as : List α}
    {bs : List β} (same : List.Forall₂ (fun a b => f a = g b) as bs) :
    as.flatMap f = bs.flatMap g := by
  induction same with
  | nil => rfl
  | cons first _ ih => rw [List.flatMap_cons, List.flatMap_cons, first, ih]

/-- What stands at the same place of two parts stands at the same place of the wholes. -/
theorem mem_zip_flatMap {γ δ : Type} {f : α → List γ} {g : β → List δ} {as : List α} {bs : List β}
    (even : List.Forall₂ (fun a b => (f a).length = (g b).length) as bs) {a : α} {b : β}
    (outer : (a, b) ∈ as.zip bs) {x : γ} {y : δ} (inner : (x, y) ∈ (f a).zip (g b)) :
    (x, y) ∈ (as.flatMap f).zip (bs.flatMap g) := by
  induction even with
  | nil => cases outer
  | cons first _ ih =>
    rw [List.flatMap_cons, List.flatMap_cons, List.zip_append first]
    rcases List.mem_cons.1 outer with here | later
    · cases here
      exact List.mem_append_left _ inner
    · exact List.mem_append_right _ (ih later)

/-- What each step of a sequence preserves, the sequence preserves. -/
theorem foldlM_preserves {I : β → Prop} {f : β → α → Except ε β} {l : List α}
    (each : ∀ a ∈ l, ∀ b b', I b → f b a = .ok b' → I b') {b b' : β} (start : I b)
    (done : l.foldlM f b = .ok b') : I b' := by
  induction l generalizing b with
  | nil =>
    obtain rfl := pure_ok.1 done
    exact start
  | cons a rest ih =>
    rw [List.foldlM_cons] at done
    obtain ⟨b₁, first, done⟩ := bind_ok_iff.1 done
    exact ih (fun c member => each c (List.mem_cons_of_mem _ member))
      (each a List.mem_cons_self b b₁ start first) done

/-- Every failure of a step has a property. -/
def FailsOnly (P : ε → Prop) (x : Except ε α) : Prop := ∀ e, x = .error e → P e

namespace FailsOnly

variable {P : ε → Prop}

theorem ok (a : α) : FailsOnly P (.ok a : Except ε α) := nofun

theorem pure (a : α) : FailsOnly P (pure a : Except ε α) := nofun

theorem error {e : ε} (holds : P e) : FailsOnly P (.error e : Except ε α) := by
  intro e' same
  cases same
  exact holds

theorem throw {e : ε} (holds : P e) : FailsOnly P (throw e : Except ε α) := error holds

theorem bind {x : Except ε α} {f : α → Except ε β} (first : FailsOnly P x)
    (later : ∀ a, x = .ok a → FailsOnly P (f a)) : FailsOnly P (x >>= f) := by
  intro e failed
  rcases bind_error_iff.1 failed with here | ⟨a, done, there⟩
  · exact first e here
  · exact later a done e there

theorem throw_bind {e : ε} {f : α → Except ε β} (holds : P e) :
    FailsOnly P (MonadExcept.throw e >>= f) := error holds

theorem map {x : Except ε α} (f : α → β) (fails : FailsOnly P x) : FailsOnly P (x.map f) := by
  intro e failed
  cases x with
  | ok a => cases failed
  | error e' =>
    cases failed
    exact fails _ rfl

theorem mono {Q : ε → Prop} {x : Except ε α} (fails : FailsOnly P x) (more : ∀ e, P e → Q e) :
    FailsOnly Q x := fun e failed => more e (fails e failed)

theorem forM {f : α → Except ε Unit} {l : List α} (each : ∀ a ∈ l, FailsOnly P (f a)) :
    FailsOnly P (l.forM f) := by
  induction l with
  | nil => exact pure ()
  | cons a rest ih =>
    exact (each a List.mem_cons_self).bind fun _ _ =>
      ih fun b member => each b (List.mem_cons_of_mem _ member)

theorem mapM {f : α → Except ε β} {l : List α} (each : ∀ a ∈ l, FailsOnly P (f a)) :
    FailsOnly P (l.mapM f) := by
  induction l with
  | nil => exact pure []
  | cons a rest ih =>
    rw [List.mapM_cons]
    refine (each a List.mem_cons_self).bind fun _ _ => ?_
    exact (ih fun b member => each b (List.mem_cons_of_mem _ member)).bind fun _ _ => pure _

theorem foldlM {f : β → α → Except ε β} {l : List α} (each : ∀ a ∈ l, ∀ b, FailsOnly P (f b a))
    (b : β) : FailsOnly P (l.foldlM f b) := by
  induction l generalizing b with
  | nil => exact pure b
  | cons a rest ih =>
    rw [List.foldlM_cons]
    exact (each a List.mem_cons_self b).bind fun b _ =>
      ih (fun c member => each c (List.mem_cons_of_mem _ member)) b

end FailsOnly

end Storyboard
