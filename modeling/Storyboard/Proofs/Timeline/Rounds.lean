import Storyboard.Proofs.Steps
import Storyboard.Proofs.Timeline.Bookkeeping

/-!
# Rounds

One round of the work on a timeline as a relation, and the whole work as a run of rounds. A round
takes a place all of whose needs are settled, so that the span of its node can be worked out unless
the given durations fail; with each round one place more is settled. A settled span never changes,
and neither does what it was worked out from.
-/

namespace Storyboard.Timeline

variable {τ : Type} [Measure τ] {ns : List (Node τ)} {timelineDuration : Option τ}
  {durationOf : Template.Element τ → Except (Failure τ) τ}

/-- One round: the next place is taken, its span worked out, and the place settled. -/
inductive Round (ns : List (Node τ)) (timelineDuration : Option τ)
    (durationOf : Template.Element τ → Except (Failure τ) τ) : Progress τ → Progress τ → Prop where
  | settle {p q : Progress τ} {place : Nat} {n : Node τ} {span : Span τ} :
      p.next? = some (place, q) → ns[place]? = some n →
      spanOf ns timelineDuration durationOf q n = .ok span →
      Round ns timelineDuration durationOf p (settle ns timelineDuration q place span)

/-- The progress can come about in some rounds from the beginning. -/
def Reached (ns : List (Node τ)) (timelineDuration : Option τ)
    (durationOf : Template.Element τ → Except (Failure τ) τ) (p : Progress τ) : Prop :=
  Relation.ReflTransGen (Round ns timelineDuration durationOf) (.initial ns timelineDuration) p

/-- Every anchor is the id of a node. -/
def Anchored (ns : List (Node τ)) : Prop :=
  ∀ n ∈ ns, ∀ id, n.element.timing.anchorId? = some id → (place? ns id).isSome = true

/-! ## The span of a node -/

omit [Measure τ] in
theorem Progress.Sound.next_ready {p q : Progress τ} {place : Nat} (sound : Progress.Sound ns p [])
    (next : p.next? = some (place, q)) :
    place < ns.length ∧ p.span? place = none ∧
      ∀ need ∈ needsAt ns place, (p.span? need).isSome = true := by
  have queue := (Progress.next?_some next).1
  obtain ⟨inside, fresh, zero⟩ := (sound.queued place).1 (queue ▸ List.mem_cons_self)
  have count := sound.pending place inside
  rw [zero, List.count_nil, Nat.add_zero, Progress.openNeeds, eq_comm, List.countP_eq_zero] at count
  refine ⟨inside, fresh, fun need member => ?_⟩
  simpa [Option.isSome_iff_ne_none] using count need member

omit [Measure τ] in
theorem next_span? {p q : Progress τ} {place : Nat} (next : p.next? = some (place, q))
    (other : Nat) : q.span? other = p.span? other := by
  simp only [Progress.span?, (Progress.next?_some next).2.2.1]

theorem startOf_ok {p : Progress τ} {n : Node τ} (anchored : Anchored ns) (member : n ∈ ns)
    (settled : ∀ need ∈ needs ns n, (p.span? need).isSome = true) :
    ∃ start, startOf ns p n = .ok start := by
  cases timing : n.element.timing with
  | absolute start => exact ⟨(start, false), by simp [startOf, timing]⟩
  | dynamic hint => exact ⟨(Measure.zero, true), by simp [startOf, timing]⟩
  | relative id offset anchor =>
    have anchorId : n.element.timing.anchorId? = some id := by rw [timing]; rfl
    obtain ⟨place, found⟩ := Option.isSome_iff_exists.1 (anchored n member id anchorId)
    obtain ⟨span, known⟩ := Option.isSome_iff_exists.1
      (settled place (mem_needs.2 (.inl ⟨id, anchorId, found⟩)))
    exact ⟨(relativeStart span.start span.duration anchor offset, false),
      by simp [startOf, timing, found, known]⟩

theorem gapLength_ok {p : Progress τ} {n : Node τ} (timelineDuration : Option τ) (start : τ)
    (limit : Option τ)
    (settled : ∀ place, n.next = some place → (p.span? place).isSome = true) :
    ∃ length, gapLength p timelineDuration n start limit = .ok length := by
  cases next : n.next with
  | none => exact ⟨_, by simp [gapLength, next]; rfl⟩
  | some place =>
    obtain ⟨span, known⟩ := Option.isSome_iff_exists.1 (settled place next)
    exact ⟨_, by simp [gapLength, next, known]; rfl⟩

/-- Where the needs of a node are settled, only the given durations can fail. -/
theorem spanOf_error {p : Progress τ} {n : Node τ} {failure : Failure τ} (anchored : Anchored ns)
    (member : n ∈ ns) (settled : ∀ need ∈ needs ns n, (p.span? need).isSome = true)
    (failed : spanOf ns timelineDuration durationOf p n = .error failure) :
    n.element.duration.isFillGap = false ∧ durationOf n.element = .error failure := by
  obtain ⟨⟨start, provisional⟩, began⟩ := startOf_ok anchored member settled
  cases duration : n.element.duration with
  | fillGap limit =>
    have gap : n.element.duration.isFillGap = true := by rw [duration]; rfl
    obtain ⟨length, known⟩ := gapLength_ok timelineDuration start limit
      fun place next => settled place (mem_needs.2 (.inr ⟨gap, next⟩))
    simp [spanOf, began, duration, known, bind, Except.bind, pure, Except.pure] at failed
  | _ =>
    refine ⟨rfl, ?_⟩
    cases given : durationOf n.element with
    | error => simp_all [spanOf, bind, Except.bind]
    | ok => simp_all [spanOf, bind, Except.bind, pure, Except.pure]

/-- The span of a node depends on the spans of its needs and, at most, the latest end. -/
theorem spanOf_congr {p q : Progress τ} {n : Node τ}
    (same : ∀ need ∈ needs ns n, p.span? need = q.span? need) (latest : p.latestEnd = q.latestEnd) :
    spanOf ns timelineDuration durationOf p n = spanOf ns timelineDuration durationOf q n := by
  have start : startOf ns p n = startOf ns q n := by
    unfold startOf
    split
    · rfl
    · next id offset anchor timing =>
      cases found : place? ns id with
      | none => rfl
      | some place =>
        have anchorId : n.element.timing.anchorId? = some id := by rw [timing]; rfl
        simp only [Option.bind_some, same place (mem_needs.2 (.inl ⟨id, anchorId, found⟩))]
    · rfl
  have gap : n.element.duration.isFillGap = true → ∀ start limit,
      gapLength p timelineDuration n start limit = gapLength q timelineDuration n start limit := by
    intro fills start limit
    unfold gapLength
    split
    · next place next => rw [same place (mem_needs.2 (.inr ⟨fills, next⟩))]
    · rw [latest]
  simp only [spanOf, start]
  cases fills : n.element.duration with
  | fillGap limit => simp only [gap (by rw [fills]; rfl)]
  | _ => rfl

/-! ## Runs -/

theorem settle_span? {p : Progress τ} {place : Nat} (span : Span τ)
    (inside : place < p.settled.length) (other : Nat) :
    (settle ns timelineDuration p place span).span? other =
      if other = place then some span else p.span? other := by
  have settled : (settle ns timelineDuration p place span).settled = (p.put place span).settled :=
    (Progress.releaseAll_settled _ _).1
  rw [← Progress.put_span? span inside, Progress.span?, Progress.span?, settled]

theorem Progress.Sound.round {p r : Progress τ} (sound : Progress.Sound ns p [])
    (round : Round ns timelineDuration durationOf p r) : Progress.Sound ns r [] := by
  obtain ⟨next, _, _⟩ := round
  exact sound.settle _ next

/-- The bookkeeping is right after every round. -/
theorem Reached.sound {p : Progress τ} (reached : Reached ns timelineDuration durationOf p) :
    Progress.Sound ns p [] := by
  induction reached with
  | refl => exact Progress.sound_initial
  | tail _ round ih => exact ih.round round

/-- **What a round does**: it settles the next place, all of whose needs are settled, with the span
that follows from them, and leaves all other spans as they are. -/
theorem Round.settles {p r : Progress τ} (sound : Progress.Sound ns p [])
    (round : Round ns timelineDuration durationOf p r) :
    ∃ place q n span, p.next? = some (place, q) ∧ ns[place]? = some n ∧ p.span? place = none ∧
      (∀ need ∈ needs ns n, (p.span? need).isSome = true) ∧
      spanOf ns timelineDuration durationOf p n = .ok span ∧
      (∀ other, r.span? other = if other = place then some span else p.span? other) ∧
      r.latestEnd = Measure.later p.latestEnd span.finish := by
  obtain @⟨q, place, n, span, next, inside, worked⟩ := round
  obtain ⟨bound, fresh, ready⟩ := sound.next_ready next
  obtain ⟨_, _, settled, latest⟩ := Progress.next?_some next
  refine ⟨place, q, n, span, next, inside, fresh, ?_, ?_, ?_, ?_⟩
  · intro need member
    exact ready need (mem_needsAt.2 ⟨n, inside, member⟩)
  · rw [← worked]
    exact spanOf_congr (fun need _ => (next_span? next need).symm) latest.symm
  · intro other
    rw [settle_span? span (by rw [settled, sound.settled_length]; exact bound), next_span? next]
  · rw [← latest]
    exact (Progress.releaseAll_settled _ _).2

omit [Measure τ] in
theorem Progress.Sound.unsettled_entry {p : Progress τ} (sound : Progress.Sound ns p [])
    {place : Nat} (inside : place < ns.length) (fresh : p.span? place = none) :
    p.settled[place]? = some none ∧ 0 < p.unsettled := by
  have bound : place < p.settled.length := by rw [sound.settled_length]; exact inside
  have entry : p.settled[place] = none := by
    rw [Progress.span?, List.getElem?_eq_getElem bound] at fresh
    exact fresh
  refine ⟨by rw [List.getElem?_eq_getElem bound, entry], ?_⟩
  exact List.countP_pos_iff.2 ⟨p.settled[place], List.getElem_mem bound, by rw [entry]; rfl⟩

theorem unsettled_settle {p q : Progress τ} {place : Nat} (timelineDuration : Option τ)
    (span : Span τ) (sound : Progress.Sound ns p []) (next : p.next? = some (place, q)) :
    (settle ns timelineDuration q place span).unsettled + 1 = p.unsettled := by
  obtain ⟨inside, fresh, _⟩ := sound.next_ready next
  obtain ⟨entry, positive⟩ := sound.unsettled_entry inside fresh
  obtain ⟨bound, entry⟩ := List.getElem?_eq_some_iff.1 entry
  have settled : (settle ns timelineDuration q place span).settled =
      p.settled.set place (some span) := by
    rw [← (Progress.next?_some next).2.2.1]
    exact (Progress.releaseAll_settled _ _).1
  unfold Progress.unsettled at positive ⊢
  rw [settled, List.countP_set bound, entry]
  simp only [Option.isNone_none, Option.isNone_some, Bool.false_eq_true, if_true, if_false]
  omega

/-- A number of rounds, one after the other. -/
inductive Rounds (ns : List (Node τ)) (timelineDuration : Option τ)
    (durationOf : Template.Element τ → Except (Failure τ) τ) : Nat → Progress τ → Progress τ → Prop
  where
  | none {p : Progress τ} : Rounds ns timelineDuration durationOf 0 p p
  | round {count : Nat} {p q r : Progress τ} : Round ns timelineDuration durationOf p q →
      Rounds ns timelineDuration durationOf count q r →
      Rounds ns timelineDuration durationOf (count + 1) p r

theorem Rounds.run {count : Nat} {p r : Progress τ}
    (rounds : Rounds ns timelineDuration durationOf count p r) :
    Relation.ReflTransGen (Round ns timelineDuration durationOf) p r := by
  induction rounds with
  | none => exact .refl
  | round first _ ih => exact .head first ih

/-- Each round leaves one place less to settle. -/
theorem Rounds.unsettled {count : Nat} {p r : Progress τ}
    (run : Rounds ns timelineDuration durationOf count p r) (sound : Progress.Sound ns p []) :
    count + r.unsettled = p.unsettled := by
  induction run with
  | none => exact Nat.zero_add _
  | round first _ ih =>
    have later := ih (sound.round first)
    obtain @⟨_, _, _, span, next, _, _⟩ := first
    have one := unsettled_settle timelineDuration span sound next
    omega

omit [Measure τ] in
theorem Progress.Sound.next?_none {p : Progress τ} (sound : Progress.Sound ns p [])
    (all : p.unsettled = 0) : p.next? = none := by
  cases next : p.next? with
  | none => rfl
  | some taken =>
    obtain ⟨inside, fresh, _⟩ := sound.next_ready next
    have := (sound.unsettled_entry inside fresh).2
    omega

theorem Rounds.sound {count : Nat} {p r : Progress τ}
    (rounds : Rounds ns timelineDuration durationOf count p r)
    (sound : Progress.Sound ns p []) : Progress.Sound ns r [] := by
  induction rounds with
  | none => exact sound
  | round first _ ih => exact ih (sound.round first)

/-- The work, allowed a number of rounds, takes that many or stops before. -/
theorem exists_rounds (left : Nat) {p r : Progress τ} (sound : Progress.Sound ns p [])
    (done : rounds ns timelineDuration durationOf left p = .ok r) :
    ∃ count ≤ left, Rounds ns timelineDuration durationOf count p r ∧
      (count < left → r.next? = none) := by
  induction left generalizing p with
  | zero =>
    cases done
    exact ⟨0, Nat.le_refl 0, .none, fun less => absurd less (Nat.lt_irrefl 0)⟩
  | succ left ih =>
    rw [rounds] at done
    split at done
    · next stop =>
      cases done
      exact ⟨0, Nat.zero_le _, .none, fun _ => stop⟩
    · next place q next =>
      obtain ⟨inside, _⟩ := sound.next_ready next
      rw [List.getElem?_eq_getElem inside] at done
      obtain ⟨span, worked, done⟩ := bind_ok_iff.1 done
      obtain ⟨count, within, run, stopped⟩ := ih (sound.settle span next) done
      exact ⟨count + 1, Nat.succ_le_succ within,
        .round (.settle next (List.getElem?_eq_getElem inside) worked) run,
        fun less => stopped (Nat.lt_of_succ_lt_succ less)⟩

/-- The whole work is a run of rounds that ends with empty queues. -/
theorem rounds_reaches (left : Nat) {p r : Progress τ} (sound : Progress.Sound ns p [])
    (enough : p.unsettled ≤ left) (done : rounds ns timelineDuration durationOf left p = .ok r) :
    Relation.ReflTransGen (Round ns timelineDuration durationOf) p r ∧ r.queue = [] := by
  obtain ⟨count, within, run, stopped⟩ := exists_rounds left sound done
  refine ⟨run.run, Progress.next?_none ?_⟩
  rcases within.lt_or_eq with less | rfl
  · exact stopped less
  · -- all rounds were taken, so that nothing is left to settle
    have settled := run.unsettled sound
    exact (run.sound sound).next?_none (by omega)

/-- The work fails only with a failure of the given durations. -/
theorem rounds_error (anchored : Anchored ns) (left : Nat) {p : Progress τ} {failure : Failure τ}
    (sound : Progress.Sound ns p [])
    (failed : rounds ns timelineDuration durationOf left p = .error failure) :
    ∃ n ∈ ns, n.element.duration.isFillGap = false ∧ durationOf n.element = .error failure := by
  induction left generalizing p with
  | zero => cases failed
  | succ left ih =>
    rw [rounds] at failed
    split at failed
    · cases failed
    · next place q next =>
      obtain ⟨inside, _, settled⟩ := sound.next_ready next
      rw [List.getElem?_eq_getElem inside] at failed
      simp only at failed
      cases worked : spanOf ns timelineDuration durationOf q ns[place] with
      | error cause =>
        simp only [worked, bind, Except.bind] at failed
        cases failed
        refine ⟨ns[place], List.getElem_mem inside, ?_⟩
        refine spanOf_error anchored (List.getElem_mem inside) (fun need member => ?_) worked
        rw [next_span? next]
        exact settled need (mem_needsAt.2 ⟨_, List.getElem?_eq_getElem inside, member⟩)
      | ok span =>
        simp only [worked, bind, Except.bind] at failed
        exact ih (sound.settle span next) failed

end Storyboard.Timeline
