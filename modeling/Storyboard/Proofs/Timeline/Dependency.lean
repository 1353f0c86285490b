import Mathlib.Data.Set.Finite.List
import Mathlib.Logic.Relation
import Mathlib.Order.WellFounded
import Storyboard.Template

/-!
# Dependencies between elements

What the timing of an element depends on, said of the template alone: an element placed relative to
another one depends on it, and an element that fills a gap depends on the next element of its track.
Since a template has finitely many elements, a chain of dependencies either ends or leads to a
circle.
-/

namespace Storyboard.Template

variable {τ : Type}

/-- An element stands on a track of a template, with the given element, if any, right after it. -/
def Stands (t : Template τ) (e : Element τ) (next : Option (Element τ)) : Prop :=
  ∃ track ∈ t.tracks, ∃ before after,
    track.elements = before ++ e :: after ∧ after.head? = next

/-- The timing of the element with one id needs the timing of the element with another id. -/
inductive DependsOn (t : Template τ) : String → String → Prop where
  | anchor {e : Element τ} {next : Option (Element τ)} {id : String} :
      t.Stands e next → e.timing.anchorId? = some id → DependsOn t e.id id
  | gap {e next : Element τ} :
      t.Stands e (some next) → e.duration.isFillGap = true → DependsOn t e.id next.id

/-- No two elements have one id. -/
def DistinctIds (t : Template τ) : Prop := (t.elements.map (·.id)).Nodup

/-- Every element is placed relative to an element of the template, if to any. -/
def AnchorsExist (t : Template τ) : Prop :=
  ∀ e ∈ t.elements, ∀ id, e.timing.anchorId? = some id → ∃ a ∈ t.elements, a.id = id

instance (t : Template τ) : Decidable t.DistinctIds :=
  inferInstanceAs (Decidable (t.elements.map (·.id)).Nodup)

instance (t : Template τ) : Decidable t.AnchorsExist :=
  inferInstanceAs (Decidable (∀ e ∈ t.elements, ∀ id ∈ e.timing.anchorId?,
    ∃ a ∈ t.elements, a.id = id))

/-- No element depends on itself, directly or through others. -/
def Acyclic (t : Template τ) : Prop := ∀ id, ¬ Relation.TransGen t.DependsOn id id

/-- An element lies on a circle of dependencies, or depends on one that does. -/
def LeadsToCircle (t : Template τ) (id : String) : Prop :=
  ∃ c, Relation.ReflTransGen t.DependsOn id c ∧ Relation.TransGen t.DependsOn c c

/-- The timing of the element with one id needs that of the element with another id, directly or
through others, or the two are the same. -/
abbrev RestsOn (t : Template τ) : String → String → Prop := Relation.ReflTransGen t.DependsOn

/-- An element fills the rest of a timeline that has no given length. -/
def OpenGap (t : Template τ) (timelineDuration : Option τ) (e : Element τ) : Prop :=
  timelineDuration = none ∧ t.Stands e none ∧ e.duration.isFillGap = true

/-- Every chain of dependencies that begins at an element ends. -/
def Grounded (t : Template τ) (id : String) : Prop := Acc (Function.swap t.DependsOn) id

/-! ## Elements on tracks -/

/-- The elements of a list, each with the one after it. -/
def pairUp : List (Element τ) → List (Element τ × Option (Element τ))
  | [] => []
  | e :: rest => (e, rest.head?) :: pairUp rest

/-- All elements in track order, each with the one after it on its track. -/
def successions (t : Template τ) : List (Element τ × Option (Element τ)) :=
  t.tracks.flatMap fun track => pairUp track.elements

theorem map_fst_pairUp (es : List (Element τ)) : (pairUp es).map Prod.fst = es := by
  induction es with
  | nil => rfl
  | cons e rest ih => simp [pairUp, ih]

@[simp] theorem map_fst_successions (t : Template τ) :
    t.successions.map Prod.fst = t.elements := by
  simp only [successions, elements, List.map_flatMap, map_fst_pairUp]

theorem mem_pairUp {es : List (Element τ)} {e : Element τ} {next : Option (Element τ)} :
    (e, next) ∈ pairUp es ↔
      ∃ before after, es = before ++ e :: after ∧ after.head? = next := by
  induction es with
  | nil => simp [pairUp]
  | cons first rest ih =>
    simp only [pairUp, List.mem_cons, Prod.mk.injEq, ih]
    constructor
    · rintro (⟨rfl, rfl⟩ | ⟨before, after, rfl, last⟩)
      · exact ⟨[], rest, rfl, rfl⟩
      · exact ⟨first :: before, after, rfl, last⟩
    · rintro ⟨before, after, split, last⟩
      cases before with
      | nil =>
        obtain ⟨rfl, rfl⟩ := List.cons.inj split
        exact .inl ⟨rfl, last.symm⟩
      | cons b before =>
        obtain ⟨rfl, rest_eq⟩ := List.cons.inj split
        exact .inr ⟨before, after, rest_eq, last⟩

theorem mem_successions {t : Template τ} {e : Element τ} {next : Option (Element τ)} :
    (e, next) ∈ t.successions ↔ t.Stands e next := by
  simp only [successions, List.mem_flatMap, mem_pairUp, Stands]

theorem Stands.mem {t : Template τ} {e : Element τ} {next : Option (Element τ)}
    (stands : t.Stands e next) : e ∈ t.elements := by
  rw [← map_fst_successions]
  exact List.mem_map_of_mem (mem_successions.2 stands)

theorem exists_stands {t : Template τ} {e : Element τ} (member : e ∈ t.elements) :
    ∃ next, t.Stands e next := by
  rw [← map_fst_successions] at member
  obtain ⟨⟨e, next⟩, inside, rfl⟩ := List.mem_map.1 member
  exact ⟨next, mem_successions.1 inside⟩

theorem Stands.next_mem {t : Template τ} {e next : Element τ} (stands : t.Stands e (some next)) :
    next ∈ t.elements := by
  obtain ⟨track, member, before, after, split, first⟩ := stands
  refine List.mem_flatMap.2 ⟨track, member, ?_⟩
  rw [split]
  exact List.mem_append_right _ (List.mem_cons_of_mem _ (List.mem_of_head? first))

/-- Only elements of the template depend on anything. -/
theorem DependsOn.source {t : Template τ} {id needed : String} (depends : t.DependsOn id needed) :
    id ∈ t.elements.map (·.id) := by
  cases depends with
  | anchor stands => exact List.mem_map_of_mem stands.mem
  | gap stands => exact List.mem_map_of_mem stands.mem

/-! ## Chains and circles -/

/-- A walk along a relation that never ends comes back to where it was, if only finitely many
points have a successor. -/
theorem exists_circle_of_endless {α : Type} {r : α → α → Prop} (finite : {a | ∃ b, r a b}.Finite)
    {walk : ℕ → α} (steps : ∀ n, r (walk n) (walk (n + 1))) :
    ∃ c, Relation.ReflTransGen r (walk 0) c ∧ Relation.TransGen r c c := by
  have reach : ∀ n k, Relation.ReflTransGen r (walk n) (walk (n + k)) := by
    intro n k
    induction k with
    | zero => exact .refl
    | succ k ih => exact ih.tail (steps (n + k))
  have inside : Set.MapsTo walk Set.univ {a | ∃ b, r a b} := fun n _ => ⟨walk (n + 1), steps n⟩
  obtain ⟨i, -, j, -, different, same⟩ :=
    Set.infinite_univ.exists_ne_map_eq_of_mapsTo inside finite
  wlog less : i < j generalizing i j
  · exact this j i different.symm same.symm (by omega)
  refine ⟨walk i, by simpa using reach 0 i, ?_⟩
  have onwards := reach (i + 1) (j - i - 1)
  rw [show i + 1 + (j - i - 1) = j by omega, ← same] at onwards
  exact Relation.TransGen.head' (steps i) onwards

theorem not_transGen_of_acc {α : Type} {r : α → α → Prop} {a : α}
    (ends : Acc (Function.swap r) a) : ¬ Relation.TransGen r a a := by
  intro circle
  have ends' : Acc (Relation.TransGen (Function.swap r)) a := ends.transGen
  induction ends' with
  | intro a _ ih => exact ih a (Relation.transGen_swap.2 circle) ends circle

theorem Grounded.along {t : Template τ} {id needed : String} (ends : t.Grounded id)
    (path : Relation.ReflTransGen t.DependsOn id needed) : t.Grounded needed := by
  induction path with
  | refl => exact ends
  | tail _ depends ih => exact ih.inv depends

/-- A chain of dependencies ends unless it leads to a circle. -/
theorem grounded_iff {t : Template τ} {id : String} : t.Grounded id ↔ ¬ t.LeadsToCircle id := by
  constructor
  · rintro ends ⟨c, path, circle⟩
    exact not_transGen_of_acc (ends.along path) circle
  · intro none
    by_contra endless
    obtain ⟨walk, rfl, steps⟩ := not_acc_iff_exists_descending_chain.1 endless
    have sources : {a | ∃ b, t.DependsOn a b} ⊆ {a | a ∈ t.elements.map (·.id)} :=
      fun _ ⟨_, depends⟩ => depends.source
    exact none (exists_circle_of_endless ((List.finite_toSet _).subset sources) steps)

/-- **No circles**: nothing depends on itself exactly when every chain of dependencies ends. -/
theorem acyclic_iff {t : Template τ} : t.Acyclic ↔ ∀ e ∈ t.elements, t.Grounded e.id := by
  constructor
  · intro acyclic e _
    exact grounded_iff.2 fun ⟨c, _, circle⟩ => acyclic c circle
  · intro grounded id circle
    obtain ⟨needed, depends, _⟩ := Relation.TransGen.head'_iff.1 circle
    obtain ⟨e, member, rfl⟩ := List.mem_map.1 depends.source
    exact not_transGen_of_acc (grounded e member) circle

end Storyboard.Template
