import Storyboard.Proofs.Timeline.Rounds

/-!
# How the work on a timeline ends

When no round is left, the settled places are those of the elements whose chains of dependencies
all end. A settled place was settled after all it depends on, so its chains end; a place whose
chains end cannot be left waiting, since the places it waits for are settled by induction along the
chains.
-/

namespace Storyboard.Timeline

open Template (DependsOn)

variable {τ : Type} {t : Template τ}

/-! ## What is looked at first -/

theorem repeated?_none {seen ids : List String} :
    repeated? seen ids = none ↔ ids.Nodup ∧ ∀ id ∈ ids, id ∉ seen := by
  induction ids generalizing seen with
  | nil => simp [repeated?]
  | cons id rest ih =>
    simp only [repeated?, List.contains_iff_mem]
    split
    · next known => simp [known]
    · next fresh =>
      rw [ih]
      simp only [List.mem_cons, not_or, List.nodup_cons, forall_eq_or_imp]
      constructor
      · rintro ⟨nodup, apart⟩
        exact ⟨⟨fun member => (apart id member).1 rfl, nodup⟩, fresh,
          fun other member => (apart other member).2⟩
      · rintro ⟨⟨absent, nodup⟩, _, apart⟩
        exact ⟨nodup, fun other member =>
          ⟨fun same => absent (same ▸ member), apart other member⟩⟩

theorem distinctIds_iff :
    repeated? [] ((nodes t).map (·.element.id)) = none ↔ t.DistinctIds := by
  rw [repeated?_none, map_id_nodes]
  simp [Template.DistinctIds]

theorem anchored_iff : Anchored (nodes t) ↔ t.AnchorsExist := by
  unfold Anchored Template.AnchorsExist
  simp only [isSome_place?_iff, ← map_element_nodes, List.mem_map, forall_exists_index, and_imp,
    forall_apply_eq_imp_iff₂, exists_exists_and_eq_and]

theorem lostAnchor?_isSome {ns : List (Node τ)} {n : Node τ} :
    (lostAnchor? ns n).isSome = true ↔
      ∃ id, n.element.timing.anchorId? = some id ∧ place? ns id = none := by
  cases anchor : n.element.timing.anchorId? <;> simp [lostAnchor?, anchor, Option.filter]

theorem lost_none_iff :
    ((nodes t).find? fun n => (lostAnchor? (nodes t) n).isSome) = none ↔ t.AnchorsExist := by
  rw [List.find?_eq_none, ← anchored_iff]
  refine forall₂_congr fun n _ => ?_
  rw [lostAnchor?_isSome]
  simp only [not_exists, not_and, Option.isSome_iff_ne_none, ne_eq]

/-! ## The spans in track order -/

theorem collect_ok {ns : List (Node τ)} {spans : List (Option (Span τ))}
    {timeline : List (String × Span τ)} (length : spans.length = ns.length)
    (done : collect ns spans = .ok timeline) :
    timeline.map Prod.fst = ns.map (·.element.id) ∧ spans = timeline.map (some ·.2) := by
  induction ns generalizing spans timeline with
  | nil =>
    cases done
    simpa using length
  | cons n ns ih =>
    match spans, length, done with
    | some span :: spans, length, done =>
      obtain ⟨rest, collected, made⟩ := bind_ok_iff.1 done
      obtain rfl := pure_ok.1 made
      obtain ⟨ids, rfl⟩ := ih (Nat.succ.inj length) collected
      exact ⟨by simp [ids], by simp⟩

/-- Without all spans the first node that has none is named. -/
theorem collect_missing {ns : List (Node τ)} {spans : List (Option (Span τ))}
    (length : spans.length = ns.length) :
    (∃ timeline, collect ns spans = .ok timeline) ∨
      ∃ before n after, ns = before ++ n :: after ∧ spans[before.length]? = some none ∧
        (∀ place < before.length, (spans[place]?).join.isSome = true) ∧
        collect ns spans = .error (.timing n.element.id .circular) := by
  induction ns generalizing spans with
  | nil => exact .inl ⟨[], by cases spans <;> rfl⟩
  | cons n ns ih =>
    match spans, length with
    | none :: spans, _ =>
      exact .inr ⟨[], n, ns, rfl, rfl, by simp, rfl⟩
    | some span :: spans, length =>
      rcases ih (Nat.succ.inj length) with
        ⟨rest, done⟩ | ⟨before, m, after, rfl, missing, all, named⟩
      · exact .inl ⟨(n.element.id, span) :: rest, by simp [collect, done]⟩
      · refine .inr ⟨n :: before, m, after, rfl, by simpa using missing, ?_, ?_⟩
        · intro place inside
          cases place with
          | zero => rfl
          | succ place => simpa using all place (by simpa using inside)
        · simp [collect, named]

variable [Measure τ] {timelineDuration : Option τ}
  {durationOf : Template.Element τ → Except (Failure τ) τ}

/-! ## The end of the rounds -/

/-- A settled element has only chains of dependencies that end. -/
theorem grounded_of_settled (distinct : t.DistinctIds) (anchors : t.AnchorsExist) {p : Progress τ}
    (reached : Reached (nodes t) timelineDuration durationOf p) :
    ∀ place n, (nodes t)[place]? = some n → (p.span? place).isSome = true →
      t.Grounded n.element.id := by
  induction reached with
  | refl =>
    intro place n _ settled
    simp [Progress.initial_span?] at settled
  | @tail p r before round ih =>
    obtain ⟨place, _, n, span, _, inside, _, ready, _, spans, _⟩ :=
      round.settles (Reached.sound before)
    intro other m here settled
    rw [spans] at settled
    by_cases same : other = place
    · subst same
      obtain rfl : n = m := Option.some.inj (inside.symm.trans here)
      refine .intro _ fun needed depends => ?_
      obtain ⟨need, member, k, there, rfl⟩ :=
        exists_need_of_dependsOn distinct anchors (List.mem_of_getElem? here) depends
      exact ih need k there (ready need member)
    · rw [if_neg same] at settled
      exact ih other m here settled

omit [Measure τ] in
/-- Where no place is left to settle, an element whose chains of dependencies end is settled. -/
theorem settled_of_grounded {p : Progress τ} (sound : Progress.Sound (nodes t) p [])
    (stopped : p.queue = []) {id : String} (grounded : t.Grounded id) :
    ∀ place n, (nodes t)[place]? = some n → n.element.id = id → (p.span? place).isSome = true := by
  induction grounded with
  | intro id _ ih =>
    rintro place n inside rfl
    have bound := (List.getElem?_eq_some_iff.1 inside).1
    have supplied : p.openNeeds (nodes t) place = 0 := by
      rw [Progress.openNeeds, List.countP_eq_zero]
      intro need member
      obtain ⟨n', inside', member⟩ := mem_needsAt.1 member
      obtain rfl : n = n' := Option.some.inj (inside.symm.trans inside')
      have known := closed_nodes t n (List.mem_of_getElem? inside) need member
      have depends := dependsOn_of_needs (List.mem_of_getElem? inside) member
        (List.getElem?_eq_getElem known)
      have settled := ih _ depends need _ (List.getElem?_eq_getElem known) rfl
      simpa using Option.isSome_iff_ne_none.1 settled
    by_contra unsettled
    have fresh : p.span? place = none := by simpa using unsettled
    have zero : p.left place = 0 := by
      rw [sound.pending place bound, supplied, List.count_nil]
    have queued := (sound.queued place).2 ⟨bound, fresh, zero⟩
    simp [stopped] at queued

/-- What a settled span was worked out from is still there. -/
theorem worked_of_settled {ns : List (Node τ)} {p : Progress τ}
    (reached : Reached ns timelineDuration durationOf p) :
    ∀ place n span, ns[place]? = some n → p.span? place = some span →
      ∃ latest,
        spanOf ns timelineDuration durationOf { p with latestEnd := latest } n = .ok span := by
  induction reached with
  | refl =>
    intro place n span _ settled
    simp [Progress.initial_span?] at settled
  | @tail p r before round ih =>
    have sound := Reached.sound before
    obtain ⟨place, _, n, span, _, inside, fresh, ready, worked, spans, _⟩ := round.settles sound
    -- the spans of settled places are the same after the round
    have kept : ∀ need, (p.span? need).isSome = true → r.span? need = p.span? need := by
      intro need known
      rw [spans, if_neg]
      rintro rfl
      simp [fresh] at known
    intro other m result here settled
    rw [spans] at settled
    by_cases same : other = place
    · subst same
      obtain rfl : n = m := Option.some.inj (inside.symm.trans here)
      obtain rfl : span = result := by simpa using settled
      refine ⟨p.latestEnd, ?_⟩
      rw [← worked]
      exact spanOf_congr (fun need member => kept need (ready need member)) rfl
    · rw [if_neg same] at settled
      obtain ⟨latest, earlier⟩ := ih other m result here settled
      have supplied := sound.supported other (by rw [settled]; rfl)
      rw [Progress.openNeeds, List.countP_eq_zero] at supplied
      refine ⟨latest, ?_⟩
      rw [← earlier]
      refine spanOf_congr (fun need member => kept need ?_) rfl
      simpa [Option.isSome_iff_ne_none] using supplied need (mem_needsAt.2 ⟨m, here, member⟩)

/-! ## The timeline of a template -/

theorem resolve_repeated (timelineDuration : Option τ)
    (durationOf : Template.Element τ → Except (Failure τ) τ) (repeated : ¬ t.DistinctIds) :
    ∃ id, resolve t timelineDuration durationOf = .error (.timing id .duplicateId) := by
  rw [← distinctIds_iff] at repeated
  obtain ⟨id, found⟩ := Option.ne_none_iff_exists'.1 repeated
  exact ⟨id, by simp [resolve, found, bind, Except.bind, throw, throwThe, MonadExceptOf.throw]⟩

theorem resolve_lost (timelineDuration : Option τ)
    (durationOf : Template.Element τ → Except (Failure τ) τ) (distinct : t.DistinctIds)
    (lost : ¬ t.AnchorsExist) :
    ∃ e ∈ t.elements, ∃ id, e.timing.anchorId? = some id ∧
      resolve t timelineDuration durationOf = .error (.timing e.id (.unknownAnchor id)) := by
  rw [← lost_none_iff] at lost
  obtain ⟨n, found⟩ := Option.ne_none_iff_exists'.1 lost
  have whole := @List.find?_some _ (fun n => (lostAnchor? (nodes t) n).isSome) _ _ found
  obtain ⟨id, anchor⟩ := Option.isSome_iff_exists.1 whole
  have member : n.element ∈ t.elements := by
    rw [← map_element_nodes]
    exact List.mem_map_of_mem (List.mem_of_find?_eq_some found)
  refine ⟨n.element, member, id, (Option.filter_eq_some_iff.1 anchor).1, ?_⟩
  simp [resolve, distinctIds_iff.2 distinct, found, anchor, bind, Except.bind, throw, throwThe,
    MonadExceptOf.throw]

/-- **How the work ends**: with a failure of the given durations, or with empty queues and the
settled spans in track order. -/
theorem resolve_cases (timelineDuration : Option τ)
    (durationOf : Template.Element τ → Except (Failure τ) τ) (distinct : t.DistinctIds)
    (anchors : t.AnchorsExist) :
    (∃ e ∈ t.elements, e.duration.isFillGap = false ∧ ∃ failure,
        durationOf e = .error failure ∧ resolve t timelineDuration durationOf = .error failure) ∨
      ∃ p, Reached (nodes t) timelineDuration durationOf p ∧ p.queue = [] ∧
        resolve t timelineDuration durationOf = collect (nodes t) p.settled := by
  have work : resolve t timelineDuration durationOf =
      rounds (nodes t) timelineDuration durationOf (nodes t).length
        (.initial (nodes t) timelineDuration) >>= fun p => collect (nodes t) p.settled := by
    simp [resolve, distinctIds_iff.2 distinct, lost_none_iff.2 anchors, bind, Except.bind]
  have sound : Progress.Sound (nodes t) (.initial (nodes t) timelineDuration) [] :=
    Progress.sound_initial
  rcases ok_or_error (rounds (nodes t) timelineDuration durationOf (nodes t).length
    (.initial (nodes t) timelineDuration)) with ⟨p, done⟩ | ⟨failure, failed⟩
  · have enough : (Progress.initial (nodes t) timelineDuration).unsettled ≤ (nodes t).length := by
      rw [← sound.settled_length]; exact List.countP_le_length
    obtain ⟨run, stopped⟩ := rounds_reaches _ sound enough done
    exact .inr ⟨p, run, stopped, by rw [work, done]; rfl⟩
  · obtain ⟨n, member, fixed, cause⟩ := rounds_error (anchored_iff.2 anchors) _ sound failed
    refine .inl ⟨n.element, ?_, fixed, failure, cause, by rw [work, failed]; rfl⟩
    rw [← map_element_nodes]
    exact List.mem_map_of_mem member

/-! ## Other ways to give durations -/

variable {durationOf' : Template.Element τ → Except (Failure τ) τ}

theorem rounds_congr {ns : List (Node τ)} (same : ∀ n ∈ ns, n.element.duration.isFillGap = false →
    durationOf n.element = durationOf' n.element) (left : Nat) (p : Progress τ) :
    rounds ns timelineDuration durationOf left p =
      rounds ns timelineDuration durationOf' left p := by
  induction left generalizing p with
  | zero => rfl
  | succ left ih =>
    rw [rounds, rounds]
    split
    · rfl
    · next q next =>
      split
      · rfl
      · next n inside =>
        have worked : spanOf ns timelineDuration durationOf q n =
            spanOf ns timelineDuration durationOf' q n := by
          have given := same n (List.mem_of_getElem? inside)
          unfold spanOf
          cases duration : n.element.duration with
          | fillGap limit => rfl
          | _ => rw [given (by rw [duration]; rfl)]
        rw [worked]
        exact bind_congr fun span => ih _

/-- A timeline asks only for the durations of elements that fill no gap. -/
theorem resolve_congr (same : ∀ e ∈ t.elements, e.duration.isFillGap = false →
    durationOf e = durationOf' e) :
    resolve t timelineDuration durationOf = resolve t timelineDuration durationOf' := by
  have asked : ∀ n ∈ nodes t, n.element.duration.isFillGap = false →
      durationOf n.element = durationOf' n.element := by
    intro n member
    refine same n.element ?_
    rw [← map_element_nodes]
    exact List.mem_map_of_mem member
  simp only [resolve, rounds_congr asked]

end Storyboard.Timeline
