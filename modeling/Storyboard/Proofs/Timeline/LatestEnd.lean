import Storyboard.Proofs.Comparison
import Storyboard.Proofs.Timeline.Rounds

/-!
# The latest end so far

Gaps at the end of a track of a timeline without a given length wait in a queue of their own. One of
them is taken only when nothing else can be settled, and then runs to the latest end of all that is
settled by then.
-/

namespace Storyboard.Timeline

variable {τ : Type} {ns : List (Node τ)} {timelineDuration : Option τ}

namespace Progress

/-- A place holds a gap whose end is not given. -/
def isOpenAt (ns : List (Node τ)) (timelineDuration : Option τ) (place : Nat) : Bool :=
  ns[place]?.any (isTrailingGap timelineDuration)

/-- The queues are kept apart: gaps whose end is not given are put off, and only they are. -/
structure Parted (ns : List (Node τ)) (timelineDuration : Option τ) (p : Progress τ) : Prop where
  ready : ∀ place ∈ p.ready, isOpenAt ns timelineDuration place = false
  deferred : ∀ place ∈ p.deferred, isOpenAt ns timelineDuration place = true

/-! ## The queues -/

theorem Parted.enqueue {p : Progress τ} (parted : Parted ns timelineDuration p) (place : Nat) :
    Parted ns timelineDuration (p.enqueue ns timelineDuration place) := by
  unfold Progress.enqueue
  split
  · next isOpen =>
    refine ⟨parted.ready, fun other member => ?_⟩
    rcases List.mem_append.1 member with member | member
    · exact parted.deferred other member
    · rw [List.mem_singleton.1 member]
      exact isOpen
  · next isClosed =>
    refine ⟨fun other member => ?_, parted.deferred⟩
    rcases List.mem_append.1 member with member | member
    · exact parted.ready other member
    · rw [List.mem_singleton.1 member]
      exact Bool.eq_false_of_not_eq_true isClosed

theorem Parted.release {p : Progress τ} (parted : Parted ns timelineDuration p) (place : Nat) :
    Parted ns timelineDuration (p.release ns timelineDuration place) := by
  have same : Parted ns timelineDuration
      { p with pending := p.pending.set place ((p.pending[place]?.getD 0) - 1) } :=
    ⟨parted.ready, parted.deferred⟩
  unfold Progress.release
  dsimp only
  split
  · exact same.enqueue place
  · exact same

theorem Parted.foldl {α : Type} {f : Progress τ → α → Progress τ}
    (step : ∀ p a, Parted ns timelineDuration p → Parted ns timelineDuration (f p a))
    (items : List α) {p : Progress τ} (parted : Parted ns timelineDuration p) :
    Parted ns timelineDuration (items.foldl f p) := by
  induction items generalizing p with
  | nil => exact parted
  | cons a rest ih => exact ih (step p a parted)

theorem parted_initial [Measure τ] : Parted ns timelineDuration (initial ns timelineDuration) :=
  .foldl (fun _ entry parted => parted.enqueue entry.2) _ ⟨by simp, by simp⟩

/-- A gap whose end is not given is taken only when nothing else is ready. -/
theorem Parted.next {p q : Progress τ} {place : Nat} (parted : Parted ns timelineDuration p)
    (next : p.next? = some (place, q)) :
    Parted ns timelineDuration q ∧
      (isOpenAt ns timelineDuration place = true → p.queue = p.deferred) := by
  unfold next? at next
  split at next
  · next ready =>
    cases next
    have first := parted.ready place (ready ▸ List.mem_cons_self)
    refine ⟨⟨fun other member => ?_, parted.deferred⟩, fun isOpen => ?_⟩
    · exact parted.ready other (ready ▸ List.mem_cons_of_mem _ member)
    · simp [first] at isOpen
  · next ready deferred =>
    cases next
    refine ⟨⟨parted.ready, fun other member => ?_⟩, fun _ => by simp [queue, ready]⟩
    exact parted.deferred other (deferred ▸ List.mem_cons_of_mem _ member)
  · cases next

/-! ## Ends -/

variable [Measure τ]

/-- The ends of the settled places. -/
def ends (p : Progress τ) : Set τ := {x | ∃ place span, p.span? place = some span ∧ span.finish = x}

theorem ends_initial : (initial ns timelineDuration).ends = ∅ := by
  refine Set.eq_empty_iff_forall_notMem.2 ?_
  rintro x ⟨place, span, settled, _⟩
  simp [initial_span?] at settled

/-- With one place more settled there is one end more. -/
theorem ends_insert {p q : Progress τ} {place : Nat} {span : Span τ}
    (fresh : p.span? place = none)
    (update : ∀ other, q.span? other = if other = place then some span else p.span? other) :
    q.ends = insert span.finish p.ends := by
  ext x
  simp only [ends, Set.mem_ofPred_eq, Set.mem_insert_iff]
  constructor
  · rintro ⟨other, result, settled, rfl⟩
    rw [update] at settled
    by_cases same : other = place
    · rw [if_pos same] at settled
      exact .inl (by rw [Option.some.inj settled])
    · rw [if_neg same] at settled
      exact .inr ⟨other, result, settled, rfl⟩
  · rintro (rfl | ⟨other, result, settled, rfl⟩)
    · exact ⟨place, span, by rw [update, if_pos rfl], rfl⟩
    · refine ⟨other, result, ?_, rfl⟩
      rw [update, if_neg (by rintro rfl; simp [fresh] at settled), settled]

end Progress

/-! ## Runs -/

variable [Measure τ] {durationOf : Template.Element τ → Except (Failure τ) τ}

/-- The queues are kept apart after every round. -/
theorem Reached.parted {p : Progress τ} (reached : Reached ns timelineDuration durationOf p) :
    Progress.Parted ns timelineDuration p := by
  induction reached with
  | refl => exact Progress.parted_initial
  | tail _ round ih =>
    obtain ⟨next, _, _⟩ := round
    have taken := (ih.next next).1
    exact .foldl (fun _ waiting parted => parted.release waiting) _ ⟨taken.ready, taken.deferred⟩

/-- **The latest end**: after every round it is the latest of the ends of the settled places. -/
theorem Reached.isLatest [OrderedMeasure τ] {p : Progress τ}
    (reached : Reached ns timelineDuration durationOf p) :
    Measure.IsLatest p.latestEnd p.ends := by
  induction reached with
  | refl =>
    rw [Progress.ends_initial, (Progress.initial_fields _ _).2.2.2]
    exact Measure.isLatest_zero
  | @tail p r before round ih =>
    obtain ⟨_, _, _, span, _, _, fresh, _, _, spans, latest⟩ := round.settles (Reached.sound before)
    rw [latest, Progress.ends_insert fresh spans]
    exact ih.later span.finish

end Storyboard.Timeline
