import Storyboard.Proofs.Timeline.Outcome

/-!
# When a timeline can be worked out

A template has a timeline exactly when its ids are distinct, its anchors exist, its dependencies
have no circle and the durations that are asked for are known. If only the circle stands in the way,
the first element that leads to one is named.
-/

namespace Storyboard.Timeline

variable {τ : Type} [Measure τ] {t : Template τ} {timelineDuration : Option τ}
  {durationOf : Template.Element τ → Except (Failure τ) τ}

/-- A timeline rests on a run of rounds that has settled every place. -/
theorem run_of_resolve {timeline : Timeline τ}
    (done : resolve t timelineDuration durationOf = .ok timeline) :
    t.DistinctIds ∧ t.AnchorsExist ∧ ∃ p, Reached (nodes t) timelineDuration durationOf p ∧
      p.queue = [] ∧ timeline.map Prod.fst = t.elements.map (·.id) ∧
      p.settled = timeline.map (some ·.2) := by
  have distinct : t.DistinctIds := by
    by_contra repeated
    obtain ⟨id, failed⟩ := resolve_repeated timelineDuration durationOf repeated
    simp [failed] at done
  have anchors : t.AnchorsExist := by
    by_contra lost
    obtain ⟨e, _, id, _, failed⟩ := resolve_lost timelineDuration durationOf distinct lost
    simp [failed] at done
  refine ⟨distinct, anchors, ?_⟩
  rcases resolve_cases timelineDuration durationOf distinct anchors with
    ⟨e, _, _, failure, _, failed⟩ | ⟨p, reached, stopped, collected⟩
  · simp [failed] at done
  · rw [collected] at done
    obtain ⟨ids, spans⟩ := collect_ok reached.sound.settled_length done
    exact ⟨p, reached, stopped, by rw [ids, map_id_nodes], spans⟩

theorem settled_of_resolve {timeline : Timeline τ} {p : Progress τ}
    (reached : Reached (nodes t) timelineDuration durationOf p)
    (spans : p.settled = timeline.map (some ·.2)) {place : Nat}
    (inside : place < (nodes t).length) :
    (p.span? place).isSome = true := by
  have bound : place < timeline.length := by
    rw [← reached.sound.settled_length, spans] at inside
    simpa using inside
  simp [Progress.span?, spans, bound]

/-- A template with a timeline has no circle. -/
theorem acyclic_of_resolve {timeline : Timeline τ}
    (done : resolve t timelineDuration durationOf = .ok timeline) : t.Acyclic := by
  obtain ⟨distinct, anchors, p, reached, _, _, spans⟩ := run_of_resolve done
  refine Template.acyclic_iff.2 fun e member => ?_
  rw [← map_element_nodes] at member
  obtain ⟨n, listed, rfl⟩ := List.mem_map.1 member
  obtain ⟨place, inside, rfl⟩ := List.mem_iff_getElem.1 listed
  exact grounded_of_settled distinct anchors reached place _ (List.getElem?_eq_getElem inside)
    (settled_of_resolve reached spans inside)

/-- Where a timeline was found, the durations of all elements but gaps are known. -/
theorem known_of_resolve {timeline : Timeline τ}
    (done : resolve t timelineDuration durationOf = .ok timeline) {e : Template.Element τ}
    (member : e ∈ t.elements) (fixed : e.duration.isFillGap = false) :
    ∃ d, durationOf e = .ok d := by
  obtain ⟨_, _, p, reached, _, _, spans⟩ := run_of_resolve done
  rw [← map_element_nodes] at member
  obtain ⟨n, listed, rfl⟩ := List.mem_map.1 member
  obtain ⟨place, inside, rfl⟩ := List.mem_iff_getElem.1 listed
  obtain ⟨span, settled⟩ := Option.isSome_iff_exists.1 (settled_of_resolve reached spans inside)
  obtain ⟨latest, worked⟩ :=
    worked_of_settled reached place _ span (List.getElem?_eq_getElem inside) settled
  obtain ⟨⟨start, provisional⟩, _, worked⟩ := bind_ok_iff.1 worked
  cases duration : ((nodes t)[place]).element.duration with
  | fillGap limit => simp [duration, Template.Duration.isFillGap] at fixed
  | _ =>
    simp only [duration] at worked
    obtain ⟨d, known, _⟩ := bind_ok_iff.1 worked
    exact ⟨d, known⟩

/-- Without a circle, only the given durations can fail. -/
theorem resolve_acyclic (timelineDuration : Option τ)
    (durationOf : Template.Element τ → Except (Failure τ) τ) (distinct : t.DistinctIds)
    (anchors : t.AnchorsExist) (acyclic : t.Acyclic) :
    (∃ timeline, resolve t timelineDuration durationOf = .ok timeline) ∨
      ∃ e ∈ t.elements, e.duration.isFillGap = false ∧ ∃ failure,
        durationOf e = .error failure ∧ resolve t timelineDuration durationOf = .error failure := by
  rcases resolve_cases timelineDuration durationOf distinct anchors with
    failed | ⟨p, reached, stopped, collected⟩
  · exact .inr failed
  rcases collect_missing (reached.sound.settled_length) with
    ⟨timeline, done⟩ | ⟨before, n, after, split, missing, _, _⟩
  · exact .inl ⟨timeline, collected.trans done⟩
  · have inside : (nodes t)[before.length]? = some n := by simp [split]
    have member : n.element ∈ t.elements := by
      rw [← map_element_nodes]
      exact List.mem_map_of_mem (List.mem_of_getElem? inside)
    have settled := settled_of_grounded reached.sound stopped
      (Template.acyclic_iff.1 acyclic _ member) _ n inside rfl
    simp [Progress.span?, missing] at settled

/-- With a circle, and known durations, the first element that leads to a circle is named. -/
theorem resolve_circular (timelineDuration : Option τ) (distinct : t.DistinctIds)
    (anchors : t.AnchorsExist)
    (known : ∀ e ∈ t.elements, e.duration.isFillGap = false → ∃ d, durationOf e = .ok d)
    (circle : ¬ t.Acyclic) :
    ∃ before e after, t.elements = before ++ e :: after ∧ t.LeadsToCircle e.id ∧
      (∀ earlier ∈ before, ¬ t.LeadsToCircle earlier.id) ∧
      resolve t timelineDuration durationOf = .error (.timing e.id .circular) := by
  rcases resolve_cases timelineDuration durationOf distinct anchors with
    ⟨e, member, fixed, failure, failed, _⟩ | ⟨p, reached, stopped, collected⟩
  · obtain ⟨d, given⟩ := known e member fixed
    simp [given] at failed
  rcases collect_missing (reached.sound.settled_length) with
    ⟨timeline, done⟩ | ⟨before, n, after, split, missing, all, named⟩
  · exact absurd (acyclic_of_resolve (collected.trans done)) circle
  refine ⟨before.map (·.element), n.element, after.map (·.element), ?_, ?_, ?_,
    collected.trans named⟩
  · rw [← map_element_nodes, split, List.map_append, List.map_cons]
  · by_contra grounded
    have settled := settled_of_grounded reached.sound stopped
      (Template.grounded_iff.2 grounded) before.length n (by simp [split]) rfl
    simp [Progress.span?, missing] at settled
  · intro earlier member
    obtain ⟨m, listed, rfl⟩ := List.mem_map.1 member
    obtain ⟨place, inside, rfl⟩ := List.mem_iff_getElem.1 listed
    have here : (nodes t)[place]? = some before[place] := by
      rw [split, List.getElem?_append_left inside, List.getElem?_eq_getElem inside]
    exact Template.grounded_iff.1
      (grounded_of_settled distinct anchors reached place _ here (all place inside))

/-- **When a timeline can be worked out**, and which element is named where a circle alone stands in
the way. -/
theorem resolve_succeeds_iff (t : Template τ) (timelineDuration : Option τ)
    (durationOf : Template.Element τ → Except (Failure τ) τ) :
    ((∃ timeline, resolve t timelineDuration durationOf = .ok timeline) ↔
      t.DistinctIds ∧ t.AnchorsExist ∧ t.Acyclic ∧
        ∀ e ∈ t.elements, e.duration.isFillGap = false → ∃ d, durationOf e = .ok d) ∧
    (t.DistinctIds → t.AnchorsExist →
      (∀ e ∈ t.elements, e.duration.isFillGap = false → ∃ d, durationOf e = .ok d) →
      ¬ t.Acyclic →
      ∃ before e after, t.elements = before ++ e :: after ∧ t.LeadsToCircle e.id ∧
        (∀ earlier ∈ before, ¬ t.LeadsToCircle earlier.id) ∧
        resolve t timelineDuration durationOf = .error (.timing e.id .circular) ∧
        TimingFault.circular.message = "circular timing dependency") := by
  refine ⟨⟨?_, ?_⟩, ?_⟩
  · rintro ⟨timeline, done⟩
    obtain ⟨distinct, anchors, _⟩ := run_of_resolve done
    exact ⟨distinct, anchors, acyclic_of_resolve done, fun e => known_of_resolve done⟩
  · rintro ⟨distinct, anchors, acyclic, known⟩
    rcases resolve_acyclic timelineDuration durationOf distinct anchors
      acyclic with done | ⟨e, member, fixed, failure, failed, _⟩
    · exact done
    · obtain ⟨d, given⟩ := known e member fixed
      simp [given] at failed
  · intro distinct anchors known circle
    obtain ⟨before, e, after, split, leads, first, named⟩ :=
      resolve_circular timelineDuration distinct anchors known circle
    exact ⟨before, e, after, split, leads, first, named, rfl⟩

/-- An element that lasts for one unit of time. -/
def still (id : String) (timing : Template.Timing Rat) : Template.Element Rat :=
  { id, name := id, timing, duration := .fixed 1, content := .fixed none none }

/-- A title, and two elements each of which starts where the other ends. -/
def entwined : Template Rat :=
  let video : Template.Track Rat :=
    { id := "video", name := "Video", kind := .media, role := .mainVideo
      elements := [still "title" (.absolute 0), still "first" (.relative "second" 0 .finish),
        still "second" (.relative "first" 0 .finish)] }
  { Template.new "entwined" "Entwined" .landscape ⟨0, 0⟩ with tracks := [video] }

theorem resolve_entwined :
    entwined.DistinctIds ∧ entwined.AnchorsExist ∧ ¬ entwined.Acyclic ∧
      ∃ before e after, entwined.elements = before ++ e :: after ∧ entwined.LeadsToCircle e.id ∧
        (∀ earlier ∈ before, ¬ entwined.LeadsToCircle earlier.id) ∧
        resolve entwined none (fun _ => .ok 1) = .error (.timing e.id .circular) ∧
        TimingFault.circular.message = "circular timing dependency" := by
  have distinct : entwined.DistinctIds := by decide
  have anchors : entwined.AnchorsExist := by decide
  have circle : ¬ entwined.Acyclic := by
    intro acyclic
    have onwards : entwined.DependsOn (still "first" (.relative "second" 0 .finish)).id "second" :=
      .anchor ⟨_, List.mem_singleton_self _, [_], [_], rfl, rfl⟩ rfl
    have back : entwined.DependsOn (still "second" (.relative "first" 0 .finish)).id "first" :=
      .anchor ⟨_, List.mem_singleton_self _, [_, _], [], rfl, rfl⟩ rfl
    exact acyclic "first" (.head onwards (.single back))
  refine ⟨distinct, anchors, circle, ?_⟩
  exact (resolve_succeeds_iff entwined none fun _ => .ok 1).2 distinct anchors
    (fun _ _ _ => ⟨1, rfl⟩) circle

end Storyboard.Timeline
