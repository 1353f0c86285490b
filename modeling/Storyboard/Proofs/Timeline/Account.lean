import Storyboard.Proofs.Timeline.Asking

/-!
# The work on a timeline, moment by moment

A round takes a place from the queues, settles it, and then releases the places that waited for it
one after the other. At each moment of it the counters say how many needs are open, ahead by the
releases that are still owed, so that no counter is at zero when it is counted down. A place joins the
queues when its counter comes to zero and never again, and since each round settles one place more,
there are no more rounds than elements.
-/

namespace Storyboard

/-- An element was reached before what it needs, or was given no span in the end. -/
def Failure.Premature {τ : Type} : Failure τ → Prop
  | .timing _ .anchorPending | .timing _ .nextPending | .timing _ .missing => True
  | _ => False

namespace Timeline

variable {τ : Type} [Measure τ] {ns : List (Node τ)} {timelineDuration : Option τ}
  {durationOf : Template.Element τ → Except (Failure τ) τ}

/-- A moment of the work: how far it has come, and the places that are still to be released for the
place settled last. -/
structure Moment (τ : Type) where
  progress : Progress τ
  owed : List Nat

/-- From one moment to the next: a place is taken and settled, or one more place released. -/
inductive Passes (ns : List (Node τ)) (timelineDuration : Option τ)
    (durationOf : Template.Element τ → Except (Failure τ) τ) : Moment τ → Moment τ → Prop where
  | take {p q : Progress τ} {place : Nat} {n : Node τ} {span : Span τ} :
      p.next? = some (place, q) → ns[place]? = some n →
      spanOf ns timelineDuration durationOf q n = .ok span →
      Passes ns timelineDuration durationOf ⟨p, []⟩ ⟨q.put place span, dependents ns place⟩
  | release {p : Progress τ} {place : Nat} {owed : List Nat} :
      Passes ns timelineDuration durationOf ⟨p, place :: owed⟩
        ⟨p.release ns timelineDuration place, owed⟩

/-- The moment before the first round. -/
def Moment.start (ns : List (Node τ)) (timelineDuration : Option τ) : Moment τ :=
  ⟨.initial ns timelineDuration, []⟩

/-- The work passes through a moment. -/
def Passed (ns : List (Node τ)) (timelineDuration : Option τ)
    (durationOf : Template.Element τ → Except (Failure τ) τ) : Moment τ → Prop :=
  Relation.ReflTransGen (Passes ns timelineDuration durationOf) (.start ns timelineDuration)

/-! ## Rounds and moments -/

theorem passes_releases (owed : List Nat) (p : Progress τ) :
    Relation.ReflTransGen (Passes ns timelineDuration durationOf) ⟨p, owed⟩
      ⟨owed.foldl (fun p place => p.release ns timelineDuration place) p, []⟩ := by
  induction owed generalizing p with
  | nil => exact .refl
  | cons place rest ih => exact .head .release (ih _)

/-- A round is passed through from its first moment to its last one. -/
theorem Round.passes {p r : Progress τ} (round : Round ns timelineDuration durationOf p r) :
    Relation.ReflTransGen (Passes ns timelineDuration durationOf) ⟨p, []⟩ ⟨r, []⟩ := by
  obtain ⟨next, inside, worked⟩ := round
  exact .head (.take next inside worked) (passes_releases _ _)

theorem Rounds.passes {count : Nat} {p r : Progress τ}
    (run : Rounds ns timelineDuration durationOf count p r) :
    Relation.ReflTransGen (Passes ns timelineDuration durationOf) ⟨p, []⟩ ⟨r, []⟩ := by
  induction run with
  | none => exact .refl
  | round first _ ih => exact first.passes.trans ih

/-- Allowed as many rounds as there are places to settle, the work takes no more of them when it
may. -/
theorem rounds_of_le {left more : Nat} {p : Progress τ} (sound : Progress.Sound ns p [])
    (enough : p.unsettled ≤ left) (le : left ≤ more) :
    rounds ns timelineDuration durationOf more p =
      rounds ns timelineDuration durationOf left p := by
  induction left generalizing p more with
  | zero =>
    have stop := sound.next?_none (Nat.le_zero.1 enough)
    cases more with
    | zero => rfl
    | succ more => simp only [rounds, stop]
  | succ left ih =>
    obtain ⟨more, rfl⟩ := Nat.exists_eq_add_of_lt (Nat.lt_of_lt_of_le (Nat.succ_pos left) le)
    rw [Nat.zero_add] at le ⊢
    rw [rounds, rounds]
    cases next : p.next? with
    | none => rfl
    | some taken =>
      obtain ⟨place, q⟩ := taken
      obtain ⟨inside, _⟩ := sound.next_ready next
      dsimp only
      rw [List.getElem?_eq_getElem inside]
      refine bind_congr fun span => ih (sound.settle span next) ?_ (Nat.le_of_succ_le_succ le)
      have := unsettled_settle timelineDuration span sound next
      omega

/-! ## Counters and queues -/

theorem Passes.sound {m m' : Moment τ} (passes : Passes ns timelineDuration durationOf m m')
    (sound : Progress.Sound ns m.progress m.owed) : Progress.Sound ns m'.progress m'.owed := by
  cases passes with
  | take next _ _ => exact sound.put _ next
  | release => exact sound.release

theorem Passed.sound {m : Moment τ} (passed : Passed ns timelineDuration durationOf m) :
    Progress.Sound ns m.progress m.owed := by
  induction passed with
  | refl => exact Progress.sound_initial
  | tail _ passes ih => exact passes.sound ih

/-- How often a place has joined the queues by a moment that the work passes through. -/
inductive Joined (ns : List (Node τ)) (timelineDuration : Option τ)
    (durationOf : Template.Element τ → Except (Failure τ) τ) (place : Nat) : Moment τ → Nat → Prop
  where
  | start : Joined ns timelineDuration durationOf place (.start ns timelineDuration)
      ((Moment.start ns timelineDuration).progress.queue.count place)
  | pass {m m' : Moment τ} {times : Nat} : Joined ns timelineDuration durationOf place m times →
      Passes ns timelineDuration durationOf m m' →
      Joined ns timelineDuration durationOf place m'
        (times + (m'.progress.queue.count place - m.progress.queue.count place))

theorem Joined.passed {place times : Nat} {m : Moment τ}
    (joined : Joined ns timelineDuration durationOf place m times) :
    Passed ns timelineDuration durationOf m := by
  induction joined with
  | start => exact .refl
  | pass _ passes ih => exact .tail ih passes

/-- A place that has joined the queues is still there or is settled. -/
theorem Joined.times_eq {place times : Nat} {m : Moment τ}
    (joined : Joined ns timelineDuration durationOf place m times) :
    times = m.progress.queue.count place +
      if (m.progress.span? place).isSome then 1 else 0 := by
  induction joined with
  | start => simp [Moment.start, Progress.initial_span?]
  | @pass m m' times before passes ih =>
    have sound := before.passed.sound
    rw [ih]
    cases passes with
    | @take p q taken n span next inside worked =>
      obtain ⟨queue, _, settled, _⟩ := Progress.next?_some next
      obtain ⟨bound, fresh, _⟩ := sound.next_ready next
      have once : taken ∉ q.queue := (List.nodup_cons.1 (queue ▸ sound.once)).1
      have update : (q.put taken span).span? place =
          if place = taken then some span else p.span? place := by
        rw [Progress.put_span? span (by rw [settled, sound.settled_length]; exact bound),
          next_span? next]
      have same : (q.put taken span).queue = q.queue := rfl
      simp only [queue, update, same, List.count_cons]
      by_cases here : place = taken
      · subst here
        simp [fresh, List.count_eq_zero.2 once]
      · simp [here, Ne.symm here]
    | @release p released owed =>
      have grows : p.queue.count place ≤
          (p.release ns timelineDuration released).queue.count place := by
        rw [(Progress.release_queue p released).count_eq]
        split
        · exact List.count_le_count_cons
        · exact Nat.le_refl _
      simp only [Progress.release_span?]
      omega

/-- **A place joins the queues at most once.** -/
theorem Joined.once {place times : Nat} {m : Moment τ}
    (joined : Joined ns timelineDuration durationOf place m times) : times ≤ 1 := by
  have sound := joined.passed.sound
  rw [joined.times_eq]
  split
  · next settled =>
    have gone : place ∉ m.progress.queue := by
      intro queued
      rw [((sound.queued place).1 queued).2.1] at settled
      cases settled
    rw [List.count_eq_zero.2 gone]
  · exact List.nodup_iff_count_le_one.1 sound.once place

/-- What the counters and queues say at a moment. -/
structure Moment.Kept (ns : List (Node τ)) (m : Moment τ) : Prop where
  /-- There is a counter for each place: the number of its needs that are not settled, and of the
  releases that are owed to it. -/
  counters : m.progress.pending.length = ns.length ∧ ∀ place < ns.length,
    m.progress.pending[place]? = some (m.progress.openNeeds ns place + m.owed.count place)
  /-- Each place that is queued is queued once, is not settled and has a counter at zero. -/
  queued : m.progress.queue.Nodup ∧ ∀ place ∈ m.progress.queue, place < ns.length ∧
    m.progress.span? place = none ∧ m.progress.pending[place]? = some 0
  /-- The counter that is counted down next is not at zero. -/
  positive : ∀ place owed, m.owed = place :: owed →
    ∃ left, m.progress.pending[place]? = some (left + 1)

theorem Passed.kept {m : Moment τ} (passed : Passed ns timelineDuration durationOf m) :
    m.Kept ns := by
  have sound := passed.sound
  have counter : ∀ place < ns.length,
      m.progress.pending[place]? = some (m.progress.left place) := by
    intro place inside
    rw [Progress.left, List.getElem?_eq_getElem (sound.pending_length ▸ inside), Option.getD_some]
  refine ⟨⟨sound.pending_length, fun place inside => ?_⟩, ⟨sound.once, fun place queued => ?_⟩,
    fun place owed first => ?_⟩
  · rw [counter place inside, sound.pending place inside]
  · obtain ⟨inside, fresh, zero⟩ := (sound.queued place).1 queued
    exact ⟨inside, fresh, by rw [counter place inside, zero]⟩
  · have inside := (sound.owed_open place (first ▸ List.mem_cons_self)).1
    refine ⟨m.progress.openNeeds ns place + owed.count place, ?_⟩
    rw [counter place inside, sound.pending place inside, first, List.count_cons_self]
    rfl

/-! ## The whole work -/

variable {t : Template τ}

omit [Measure τ] in
theorem length_nodes (t : Template τ) : (nodes t).length = t.elements.length := by
  rw [← map_element_nodes, List.length_map]

theorem unsettled_initial_le (t : Template τ) (timelineDuration : Option τ) :
    (Progress.initial (nodes t) timelineDuration).unsettled ≤ t.elements.length := by
  have sound : Progress.Sound (nodes t) (.initial (nodes t) timelineDuration) [] :=
    Progress.sound_initial
  rw [← length_nodes, ← sound.settled_length]
  exact List.countP_le_length

/-- What the failures of a timeline have in common: those that its durations have in common, if the
faults of the template itself have it too. -/
theorem resolve_failsOnly {P : Failure τ → Prop}
    (durations : ∀ e ∈ t.elements, e.duration.isFillGap = false → FailsOnly P (durationOf e))
    (repeated : ∀ id, P (.timing id .duplicateId))
    (lost : ∀ id anchor, P (.timing id (.unknownAnchor anchor)))
    (circular : ∀ id, P (.timing id .circular)) :
    FailsOnly P (resolve t timelineDuration durationOf) := by
  intro failure failed
  by_cases distinct : t.DistinctIds
  case neg =>
    obtain ⟨id, named⟩ := resolve_repeated timelineDuration durationOf distinct
    obtain rfl := Except.error.inj (named.symm.trans failed)
    exact repeated id
  by_cases anchors : t.AnchorsExist
  case neg =>
    obtain ⟨e, _, id, _, named⟩ := resolve_lost timelineDuration durationOf distinct anchors
    obtain rfl := Except.error.inj (named.symm.trans failed)
    exact lost e.id id
  rcases resolve_cases timelineDuration durationOf distinct anchors with
    ⟨e, member, fixed, cause, given, named⟩ | ⟨p, reached, _, collected⟩
  · obtain rfl := Except.error.inj (named.symm.trans failed)
    exact durations e member fixed _ given
  · rw [collected] at failed
    rcases collect_missing reached.sound.settled_length with
      ⟨timeline, done⟩ | ⟨_, n, _, _, _, _, named⟩
    · cases done.symm.trans failed
    · obtain rfl := Except.error.inj (named.symm.trans failed)
      exact circular n.element.id

/-- How the work on a timeline is kept account of. -/
structure Accounted (t : Template τ) (timelineDuration : Option τ)
    (durationOf : Template.Element τ → Except (Failure τ) τ) : Prop where
  /-- After any number of rounds the work is at a moment that it passes through. -/
  rounds : ∀ count p, rounds (nodes t) timelineDuration durationOf count
    (.initial (nodes t) timelineDuration) = .ok p →
      Passed (nodes t) timelineDuration durationOf ⟨p, []⟩
  kept : ∀ m, Passed (nodes t) timelineDuration durationOf m → m.Kept (nodes t)
  joined : ∀ place m times, Joined (nodes t) timelineDuration durationOf place m times → times ≤ 1
  /-- There are no more rounds than elements. -/
  bounded : ∀ count p, Rounds (nodes t) timelineDuration durationOf count
    (.initial (nodes t) timelineDuration) p → count ≤ t.elements.length
  /-- Allowed that many rounds or more, the work ends with nothing in its queues. -/
  ends : ∀ count p, t.elements.length ≤ count →
    Timeline.rounds (nodes t) timelineDuration durationOf count
      (.initial (nodes t) timelineDuration) = .ok p → p.next? = none
  enough : ∀ count, t.elements.length ≤ count →
    Timeline.rounds (nodes t) timelineDuration durationOf count
        (.initial (nodes t) timelineDuration) =
      Timeline.rounds (nodes t) timelineDuration durationOf t.elements.length
        (.initial (nodes t) timelineDuration)
  /-- The durations that are asked for are those of elements that fill no gap, each once at most. -/
  asked : (resolveAsking timelineDuration (noting durationOf) t []).1 =
      resolve t timelineDuration durationOf ∧
    (resolveAsking timelineDuration (noting durationOf) t []).2.Subperm
      (t.elements.filter fun e => !e.duration.isFillGap)
  /-- No element is reached before what it needs, unless its duration is said to be. -/
  reasons : ∀ failure, resolve t timelineDuration durationOf = .error failure →
    failure.Premature → ∃ e ∈ t.elements, durationOf e = .error failure

theorem accounted_resolve (t : Template τ) (timelineDuration : Option τ)
    (durationOf : Template.Element τ → Except (Failure τ) τ) :
    Accounted t timelineDuration durationOf := by
  have sound : Progress.Sound (nodes t) (.initial (nodes t) timelineDuration) [] :=
    Progress.sound_initial
  have most := unsettled_initial_le t timelineDuration
  refine ⟨fun count p done => ?_, fun m => Passed.kept, fun place m times => Joined.once,
    fun count p run => ?_, fun count p enough done => ?_, fun count enough => ?_,
    ⟨resolveAsking_fst (noting_gives durationOf) [], ?_⟩, ?_⟩
  · obtain ⟨_, _, run, _⟩ := exists_rounds count sound done
    exact run.passes
  · have := run.unsettled sound
    omega
  · obtain ⟨taken, within, run, stopped⟩ := exists_rounds count sound done
    rcases within.lt_or_eq with less | rfl
    · exact stopped less
    · have := run.unsettled sound
      exact (run.sound sound).next?_none (by omega)
  · exact rounds_of_le sound most enough
  · obtain ⟨asked, among, noted⟩ := exists_asked timelineDuration (noting durationOf) t []
    rw [noted, after_noting]
    exact among
  · exact resolve_failsOnly (fun e member _ _ failed _ => ⟨e, member, failed⟩) (fun _ => False.elim)
      (fun _ _ => False.elim) fun _ => False.elim

end Timeline

end Storyboard
