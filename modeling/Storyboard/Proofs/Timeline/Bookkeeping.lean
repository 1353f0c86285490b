import Mathlib.Data.List.Sigma
import Storyboard.Proofs.Timeline.Nodes

/-!
# Counters and queues

What the counters and queues of the work on a timeline stand for. The counter of a place is the
number of its needs that are not settled, and the places in the queues are those that are not
settled and whose counter is zero, each once. While the places that waited for a settled one are
released, the counters are ahead by the releases that are still owed; the invariant carries these
along, so that each release is one step.
-/

namespace Storyboard.Timeline

variable {τ : Type} {ns : List (Node τ)} {timelineDuration : Option τ}

namespace Progress

/-- The places that can be settled, in either queue. -/
def queue (p : Progress τ) : List Nat := p.ready ++ p.deferred

/-- The counter of a place. -/
def left (p : Progress τ) (place : Nat) : Nat := (p.pending[place]?).getD 0

/-- How many needs of a place are not settled. -/
def openNeeds (ns : List (Node τ)) (p : Progress τ) (place : Nat) : Nat :=
  (needsAt ns place).countP fun need => (p.span? need).isNone

/-- How many places are not settled. -/
def unsettled (p : Progress τ) : Nat := p.settled.countP Option.isNone

/-- Counters and queues say what is settled, but for the releases that are owed. -/
structure Sound (ns : List (Node τ)) (p : Progress τ) (owed : List Nat) : Prop where
  settled_length : p.settled.length = ns.length
  pending_length : p.pending.length = ns.length
  pending : ∀ place < ns.length, p.left place = p.openNeeds ns place + owed.count place
  queued : ∀ place, place ∈ p.queue ↔
    place < ns.length ∧ p.span? place = none ∧ p.left place = 0
  once : p.queue.Nodup
  owed_open : ∀ place ∈ owed, place < ns.length ∧ p.span? place = none
  supported : ∀ place, (p.span? place).isSome = true → p.openNeeds ns place = 0

/-! ## The queues -/

@[simp] theorem enqueue_pending (p : Progress τ) (place : Nat) :
    (p.enqueue ns timelineDuration place).pending = p.pending := by
  unfold enqueue; split <;> rfl

@[simp] theorem enqueue_settled (p : Progress τ) (place : Nat) :
    (p.enqueue ns timelineDuration place).settled = p.settled := by
  unfold enqueue; split <;> rfl

@[simp] theorem enqueue_latestEnd (p : Progress τ) (place : Nat) :
    (p.enqueue ns timelineDuration place).latestEnd = p.latestEnd := by
  unfold enqueue; split <;> rfl

theorem enqueue_queue (p : Progress τ) (place : Nat) :
    (p.enqueue ns timelineDuration place).queue.Perm (place :: p.queue) := by
  unfold enqueue
  split
  · simp only [queue, ← List.append_assoc]
    exact List.perm_append_singleton _ _
  · simp only [queue, List.append_assoc, List.singleton_append]
    exact List.perm_middle

theorem next?_some {p q : Progress τ} {place : Nat} (next : p.next? = some (place, q)) :
    p.queue = place :: q.queue ∧ q.pending = p.pending ∧ q.settled = p.settled ∧
      q.latestEnd = p.latestEnd := by
  unfold next? at next
  split at next
  · next ready => cases next; simp [queue, ready]
  · next ready deferred => cases next; simp [queue, ready, deferred]
  · cases next

theorem next?_none {p : Progress τ} (stop : p.next? = none) : p.queue = [] := by
  unfold next? at stop
  split at stop
  · cases stop
  · cases stop
  · next ready deferred => simp [queue, ready, deferred]

/-! ## Releases -/

@[simp] theorem release_settled (p : Progress τ) (place : Nat) :
    (p.release ns timelineDuration place).settled = p.settled := by
  simp only [release]; split <;> simp

@[simp] theorem release_latestEnd (p : Progress τ) (place : Nat) :
    (p.release ns timelineDuration place).latestEnd = p.latestEnd := by
  simp only [release]; split <;> simp

@[simp] theorem release_span? (p : Progress τ) (place other : Nat) :
    (p.release ns timelineDuration place).span? other = p.span? other := by
  simp only [span?, release_settled]

theorem release_pending (p : Progress τ) (place : Nat) :
    (p.release ns timelineDuration place).pending = p.pending.set place (p.left place - 1) := by
  simp only [release, left]; split <;> simp

theorem release_left (p : Progress τ) (place other : Nat) :
    (p.release ns timelineDuration place).left other =
      if other = place then p.left place - 1 else p.left other := by
  simp only [left, release_pending, List.getElem?_set]
  split
  · next same =>
    subst same
    by_cases inside : place < p.pending.length <;> simp [inside]
  · next different => simp [Ne.symm different]

theorem release_queue (p : Progress τ) (place : Nat) :
    (p.release ns timelineDuration place).queue.Perm
      (if p.left place - 1 = 0 then place :: p.queue else p.queue) := by
  by_cases zero : p.left place - 1 = 0
  · have freed : (p.pending[place]?).getD 0 - 1 = 0 := zero
    simp only [release, if_pos zero, if_pos freed]
    exact enqueue_queue _ _
  · have kept : ¬ (p.pending[place]?).getD 0 - 1 = 0 := zero
    simp only [release, if_neg zero, if_neg kept]
    exact .refl _

@[simp] theorem release_openNeeds (p : Progress τ) (place other : Nat) :
    (p.release ns timelineDuration place).openNeeds ns other = p.openNeeds ns other := by
  simp only [openNeeds, release_span?]

/-- A release that was owed is done. -/
theorem Sound.release {p : Progress τ} {place : Nat} {owed : List Nat}
    (sound : Sound ns p (place :: owed)) : Sound ns (p.release ns timelineDuration place) owed := by
  have here := sound.owed_open place List.mem_cons_self
  have count := sound.pending place here.1
  rw [List.count_cons_self] at count
  have unqueued : place ∉ p.queue := by
    intro queued
    have := ((sound.queued place).1 queued).2.2
    omega
  refine ⟨?_, ?_, ?_, ?_, ?_, ?_, ?_⟩
  · rw [release_settled]; exact sound.settled_length
  · rw [release_pending, List.length_set]; exact sound.pending_length
  · intro other inside
    rw [release_left, release_openNeeds]
    split
    · next same => rw [same]; omega
    · next different =>
      rw [sound.pending other inside, List.count_cons_of_ne (Ne.symm different)]
  · intro other
    rw [(release_queue p place).mem_iff, release_span?, release_left]
    by_cases same : other = place
    · subst same
      by_cases zero : p.left other - 1 = 0 <;> simp [zero, here, unqueued]
    · have queued := sound.queued other
      by_cases zero : p.left place - 1 = 0 <;> simp [zero, same, queued]
  · refine (release_queue p place).nodup_iff.2 ?_
    split
    · exact List.nodup_cons.2 ⟨unqueued, sound.once⟩
    · exact sound.once
  · intro other member
    rw [release_span?]
    exact sound.owed_open other (List.mem_cons_of_mem _ member)
  · intro other settled
    rw [release_span?] at settled
    rw [release_openNeeds]
    exact sound.supported other settled

theorem Sound.releaseAll {owed : List Nat} {p : Progress τ} (sound : Sound ns p owed) :
    Sound ns (owed.foldl (fun p place => p.release ns timelineDuration place) p) [] := by
  induction owed generalizing p with
  | nil => exact sound
  | cons place rest ih => exact ih sound.release

theorem releaseAll_settled (owed : List Nat) (p : Progress τ) :
    (owed.foldl (fun p place => p.release ns timelineDuration place) p).settled = p.settled ∧
      (owed.foldl (fun p place => p.release ns timelineDuration place) p).latestEnd =
        p.latestEnd := by
  induction owed generalizing p with
  | nil => exact ⟨rfl, rfl⟩
  | cons place rest ih => simpa using ih (p.release ns timelineDuration place)

/-! ## The beginning -/

theorem enqueueAll (ns : List (Node τ)) (timelineDuration : Option τ)
    (entries : List (Nat × Nat)) (p : Progress τ) :
    let q := entries.foldl (fun p (_, place) => p.enqueue ns timelineDuration place) p
    q.queue.Perm (entries.map Prod.snd ++ p.queue) ∧ q.pending = p.pending ∧
      q.settled = p.settled ∧ q.latestEnd = p.latestEnd := by
  induction entries generalizing p with
  | nil => exact ⟨.refl _, rfl, rfl, rfl⟩
  | cons entry rest ih =>
    obtain ⟨queue, pending, settled, latest⟩ := ih (p.enqueue ns timelineDuration entry.2)
    refine ⟨queue.trans ?_, by simpa using pending, by simpa using settled, by simpa using latest⟩
    exact ((enqueue_queue p entry.2).append_left _).trans List.perm_middle

/-- The places without needs. -/
def idle (ns : List (Node τ)) : List Nat :=
  (((ns.map fun n => (needs ns n).length).zipIdx).filter fun (count, _) => count == 0).map Prod.snd

theorem initial_fields [Measure τ] (ns : List (Node τ)) (timelineDuration : Option τ) :
    (initial ns timelineDuration).queue.Perm (idle ns) ∧
      (initial ns timelineDuration).pending = ns.map (fun n => (needs ns n).length) ∧
      (initial ns timelineDuration).settled = ns.map (fun _ => none) ∧
      (initial ns timelineDuration).latestEnd = Measure.zero := by
  have fields := enqueueAll ns timelineDuration
    (((ns.map fun n => (needs ns n).length).zipIdx).filter fun (count, _) => count == 0)
    ⟨ns.map fun n => (needs ns n).length, [], [], ns.map fun _ => none, Measure.zero⟩
  exact ⟨fields.1.trans (by simp [queue, idle]), fields.2⟩

theorem mem_idle {place : Nat} :
    place ∈ idle ns ↔ place < ns.length ∧ (needsAt ns place).length = 0 := by
  simp only [idle, List.mem_map, List.mem_filter, Prod.exists, List.mem_zipIdx_iff_getElem?,
    List.getElem?_map, needsAt]
  by_cases inside : place < ns.length
  · simp [inside]
  · simp [inside]

theorem nodup_idle : (idle ns).Nodup :=
  (List.nodup_zipIdx_map_snd _).sublist (List.filter_sublist.map Prod.snd)

theorem initial_span? [Measure τ] (place : Nat) :
    (initial ns timelineDuration).span? place = none := by
  rw [span?, (initial_fields _ _).2.2.1, List.getElem?_map]
  cases ns[place]? <;> rfl

theorem initial_left [Measure τ] (place : Nat) :
    (initial ns timelineDuration).left place = (needsAt ns place).length := by
  rw [left, (initial_fields _ _).2.1, List.getElem?_map, needsAt]
  cases ns[place]? <;> rfl

/-- Before the first round the bookkeeping is right. -/
theorem sound_initial [Measure τ] : Sound ns (initial ns timelineDuration) [] := by
  obtain ⟨queue, pending, settled, _⟩ := initial_fields ns timelineDuration
  refine ⟨by simp [settled], by simp [pending], ?_, ?_, ?_, by simp, ?_⟩
  · intro place _
    simp [initial_left, openNeeds, initial_span?]
  · intro place
    rw [queue.mem_iff, mem_idle, initial_left]
    simp [initial_span?]
  · exact queue.nodup_iff.2 nodup_idle
  · intro place settled
    simp [initial_span?] at settled

/-! ## Settling a place -/

/-- The progress with one more place settled, before those that wait for it are released. -/
def put [Measure τ] (p : Progress τ) (place : Nat) (span : Span τ) : Progress τ :=
  { p with
    settled := p.settled.set place (some span)
    latestEnd := Measure.later p.latestEnd span.finish }

theorem put_span? [Measure τ] {p : Progress τ} {place : Nat} (span : Span τ)
    (inside : place < p.settled.length) (other : Nat) :
    (p.put place span).span? other = if other = place then some span else p.span? other := by
  simp only [span?, put, List.getElem?_set]
  split
  · next same =>
    subst same
    simp
  · next different => simp [Ne.symm different]

/-- A place is listed among those that wait for another one as often as it needs that one. -/
theorem count_dependents (ns : List (Node τ)) (place waiting : Nat) :
    (dependents ns place).count waiting = (needsAt ns waiting).count place := by
  have general : ∀ (l : List (Node τ)) (first : Nat),
      ((l.zipIdx first).flatMap fun entry =>
          ((needs ns entry.1).filter (· == place)).map fun _ => entry.2).count waiting =
        if first ≤ waiting then
          ((l[waiting - first]?.map (needs ns)).getD []).count place else 0 := by
    intro l
    induction l with
    | nil => simp
    | cons n rest ih =>
      intro first
      rw [List.zipIdx_cons, List.flatMap_cons, List.count_append, ih]
      dsimp only
      rw [List.map_const', List.count_replicate, ← List.count_eq_length_filter]
      rcases Nat.lt_trichotomy waiting first with less | rfl | more
      · simp [show ¬ first ≤ waiting by omega, show ¬ first + 1 ≤ waiting by omega,
          show first ≠ waiting by omega]
      · simp
      · rw [show waiting - first = waiting - (first + 1) + 1 by omega]
        simp [show first ≤ waiting by omega, show first + 1 ≤ waiting by omega,
          show first ≠ waiting by omega]
  simpa [dependents, needsAt] using general ns 0

/-- With one more place settled, a place has as many open needs less as it needs that one. -/
theorem openNeeds_settled (ns : List (Node τ)) {p q : Progress τ} {place : Nat} {span : Span τ}
    (fresh : p.span? place = none)
    (update : ∀ other, q.span? other = if other = place then some span else p.span? other)
    (waiting : Nat) :
    p.openNeeds ns waiting = q.openNeeds ns waiting + (needsAt ns waiting).count place := by
  unfold openNeeds
  induction needsAt ns waiting with
  | nil => rfl
  | cons need rest ih =>
    simp only [List.countP_cons, List.count_cons, ih, update]
    by_cases same : need = place
    · simp [same, fresh]
      omega
    · simp [same]
      omega

/-- The places that wait for an unsettled one are not settled themselves. -/
theorem Sound.waiting_open {p : Progress τ} {owed : List Nat} (sound : Sound ns p owed)
    {place waiting : Nat} (fresh : p.span? place = none) (need : place ∈ needsAt ns waiting) :
    p.openNeeds ns waiting ≠ 0 ∧ waiting < ns.length ∧ p.span? waiting = none := by
  have positive : p.openNeeds ns waiting ≠ 0 := by
    rw [openNeeds, ne_eq, List.countP_eq_zero]
    intro all
    exact all place need (by simp [fresh])
  refine ⟨positive, ?_, ?_⟩
  · obtain ⟨n, inside, _⟩ := mem_needsAt.1 need
    exact (List.getElem?_eq_some_iff.1 inside).1
  · by_contra settled
    exact positive (sound.supported waiting (Option.isSome_iff_ne_none.2 settled))

/-- When the next place is settled, a release is owed to each that waits for it. -/
theorem Sound.put [Measure τ] {p q : Progress τ} {place : Nat} (span : Span τ)
    (sound : Sound ns p []) (next : p.next? = some (place, q)) :
    Sound ns (q.put place span) (dependents ns place) := by
  obtain ⟨queue, pending, settled, _⟩ := next?_some next
  obtain ⟨inside, fresh, zero⟩ := (sound.queued place).1 (queue ▸ List.mem_cons_self)
  have nodup : (place :: q.queue).Nodup := queue ▸ sound.once
  have lefts : ∀ other, (q.put place span).left other = p.left other := by
    intro other; simp only [Progress.put, left, pending]
  have update : ∀ other, (q.put place span).span? other =
      if other = place then some span else p.span? other := by
    intro other
    rw [put_span? span (by rw [settled, sound.settled_length]; exact inside)]
    simp only [span?, settled]
  have opens := openNeeds_settled ns fresh update
  have idle : p.openNeeds ns place = 0 := by
    have := sound.pending place inside
    simp only [List.count_nil] at this
    omega
  refine ⟨?_, ?_, ?_, ?_, (List.nodup_cons.1 nodup).2, ?_, ?_⟩
  · rw [Progress.put, List.length_set, settled]; exact sound.settled_length
  · exact pending ▸ sound.pending_length
  · intro other bound
    rw [count_dependents, ← opens]
    simpa [lefts] using sound.pending other bound
  · intro other
    have before := sound.queued other
    rw [queue, List.mem_cons] at before
    change other ∈ q.queue ↔ _
    by_cases same : other = place
    · subst same
      simpa [update] using (List.nodup_cons.1 nodup).1
    · simpa [update, same, lefts] using before
  · intro waiting member
    have need : place ∈ needsAt ns waiting := by
      rw [← List.count_pos_iff, ← count_dependents]
      exact List.count_pos_iff.2 member
    obtain ⟨positive, bound, unsettled⟩ := sound.waiting_open fresh need
    refine ⟨bound, ?_⟩
    rw [update, if_neg (by rintro rfl; exact positive idle), unsettled]
  · intro other done
    have := opens other
    rw [update] at done
    by_cases same : other = place
    · subst same; omega
    · rw [if_neg same] at done
      have := sound.supported other done
      omega

end Progress

/-- **A round keeps the bookkeeping right**: the next place is settled and those that wait for it
are released. -/
theorem Progress.Sound.settle [Measure τ] {p q : Progress τ} {place : Nat} (span : Span τ)
    (sound : Sound ns p []) (next : p.next? = some (place, q)) :
    Sound ns (settle ns timelineDuration q place span) [] :=
  (sound.put span next).releaseAll

end Storyboard.Timeline
