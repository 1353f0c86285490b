import Mathlib.Data.List.FinRange
import Storyboard.Proofs.Timeline.Outcome

/-!
# Durations that are asked for

The work on a timeline told with the questions that it asks: whoever answers for the duration of an
element may remember that it was asked. The answers are used as the durations are in the work as it
stands, and no element is asked about twice, since a place is taken only while it is not settled.
-/

namespace Storyboard.Timeline

variable {τ ω : Type} [Measure τ]

/-- Who answers for the durations of elements, and may remember what was asked. -/
abbrev Answerer (τ ω : Type) := Template.Element τ → ω → Except (Failure τ) τ × ω

/-- The answers are fixed, whatever is remembered. -/
def Answerer.Gives (ask : Answerer τ ω) (durationOf : Template.Element τ → Except (Failure τ) τ) :
    Prop :=
  ∀ e w, (ask e w).1 = durationOf e

/-- What is remembered of some questions, in their order. -/
def Answerer.after (ask : Answerer τ ω) (asked : List (Template.Element τ)) (w : ω) : ω :=
  asked.foldl (fun w e => (ask e w).2) w

/-- The answers are noted down along with the elements that were asked about. -/
def noting (durationOf : Template.Element τ → Except (Failure τ) τ) :
    Answerer τ (List (Template.Element τ)) :=
  fun e asked => (durationOf e, asked ++ [e])

section

variable (ns : List (Node τ)) (timelineDuration : Option τ) (ask : Answerer τ ω)

/-- The span of a node whose needs are settled; a node that fills no gap is asked about. -/
def spanAsking (p : Progress τ) (n : Node τ) (w : ω) : Except (Failure τ) (Span τ) × ω :=
  match startOf ns p n with
  | .error failure => (.error failure, w)
  | .ok (start, provisional) =>
    let lasting (duration : τ) : Span τ := ⟨start, duration, provisional⟩
    match n.element.duration with
    | .fillGap limit => ((gapLength p timelineDuration n start limit).map lasting, w)
    | _ => ((ask n.element w).1.map lasting, (ask n.element w).2)

/-- Rounds until nothing is ready, at most a given number of them. -/
def roundsAsking : Nat → Progress τ → ω → Except (Failure τ) (Progress τ) × ω
  | 0, p, w => (.ok p, w)
  | left + 1, p, w =>
    match p.next? with
    | none => (.ok p, w)
    | some (place, p) =>
      match ns[place]? with
      | none => (.ok p, w)
      | some n =>
        match spanAsking ns timelineDuration ask p n w with
        | (.error failure, w) => (.error failure, w)
        | (.ok span, w) => roundsAsking left (settle ns timelineDuration p place span) w

/-- Works out the spans of all elements. -/
def resolveAsking (t : Template τ) (w : ω) : Except (Failure τ) (Timeline τ) × ω :=
  let ns := nodes t
  match repeated? [] (ns.map (·.element.id)) with
  | some id => (.error (.timing id .duplicateId), w)
  | none =>
    match ns.find? fun n => (lostAnchor? ns n).isSome with
    | some n => (.error (.timing n.element.id (.unknownAnchor ((lostAnchor? ns n).getD ""))), w)
    | none =>
      let (worked, w) :=
        roundsAsking ns timelineDuration ask ns.length (.initial ns timelineDuration) w
      (worked.bind fun p => collect ns p.settled, w)

end

variable {ns : List (Node τ)} {timelineDuration : Option τ} {ask : Answerer τ ω}
  {durationOf : Template.Element τ → Except (Failure τ) τ} {t : Template τ}

/-! ## The answers -/

theorem spanAsking_fst (gives : ask.Gives durationOf) (p : Progress τ) (n : Node τ) (w : ω) :
    (spanAsking ns timelineDuration ask p n w).1 =
      spanOf ns timelineDuration durationOf p n := by
  unfold spanAsking spanOf
  cases startOf ns p n with
  | error failure => rfl
  | ok began =>
    obtain ⟨start, provisional⟩ := began
    cases n.element.duration with
    | fillGap limit =>
      dsimp only [bind, Except.bind]
      cases gapLength p timelineDuration n start limit <;> rfl
    | _ =>
      dsimp only [bind, Except.bind]
      rw [gives]
      cases durationOf n.element <;> rfl

theorem roundsAsking_fst (gives : ask.Gives durationOf) (left : Nat) (p : Progress τ) (w : ω) :
    (roundsAsking ns timelineDuration ask left p w).1 =
      rounds ns timelineDuration durationOf left p := by
  induction left generalizing p w with
  | zero => rfl
  | succ left ih =>
    rw [roundsAsking, rounds]
    cases p.next? with
    | none => rfl
    | some taken =>
      obtain ⟨place, q⟩ := taken
      dsimp only
      cases ns[place]? with
      | none => rfl
      | some n =>
        dsimp only
        rw [← spanAsking_fst gives q n w]
        rcases spanAsking ns timelineDuration ask q n w with ⟨failure | span, w⟩
        · rfl
        · exact ih _ w

/-- **The answers are the durations**: with fixed answers the timeline is the one worked out from
them. -/
theorem resolveAsking_fst (gives : ask.Gives durationOf) (w : ω) :
    (resolveAsking timelineDuration ask t w).1 = resolve t timelineDuration durationOf := by
  unfold resolveAsking resolve
  dsimp only
  cases repeated? [] ((nodes t).map (·.element.id)) with
  | some id => rfl
  | none =>
    cases (nodes t).find? fun n => (lostAnchor? (nodes t) n).isSome with
    | some n => rfl
    | none =>
      rw [← roundsAsking_fst gives _ _ w]
      rfl

/-! ## The questions -/

omit [Measure τ] in
theorem noting_gives (durationOf : Template.Element τ → Except (Failure τ) τ) :
    (noting durationOf).Gives durationOf := fun _ _ => rfl

omit [Measure τ] in
theorem after_noting (asked noted : List (Template.Element τ)) :
    (noting durationOf).after asked noted = noted ++ asked := by
  induction asked generalizing noted with
  | nil => exact (List.append_nil noted).symm
  | cons e rest ih =>
    refine (ih (noted ++ [e])).trans ?_
    rw [List.append_assoc, List.singleton_append]

/-- For its span a node is asked about once at most, and not at all if it fills a gap. -/
theorem exists_asked_span (timelineDuration : Option τ) (ask : Answerer τ ω) (p : Progress τ)
    (place : Fin ns.length) (w : ω) :
    ∃ places : List (Fin ns.length), places.Sublist [place] ∧
      (∀ place ∈ places, ns[place].element.duration.isFillGap = false) ∧
      (spanAsking ns timelineDuration ask p ns[place] w).2 =
        ask.after (places.map fun place => ns[place].element) w := by
  unfold spanAsking
  split
  · exact ⟨[], List.nil_sublist _, nofun, rfl⟩
  · cases duration : ns[place].element.duration with
    | fillGap limit => exact ⟨[], List.nil_sublist _, nofun, rfl⟩
    | _ =>
      refine ⟨[place], .refl _, List.forall_mem_singleton.2 ?_, rfl⟩
      rw [duration]
      rfl

/-- In the rounds that are left it is asked about places that are not settled yet, about each of them
once at most. -/
theorem exists_asked_rounds (timelineDuration : Option τ) (ask : Answerer τ ω) (left : Nat)
    {p : Progress τ} (sound : Progress.Sound ns p []) (w : ω) :
    ∃ places : List (Fin ns.length), places.Nodup ∧
      (∀ place ∈ places, p.span? place = none ∧ ns[place].element.duration.isFillGap = false) ∧
      (roundsAsking ns timelineDuration ask left p w).2 =
        ask.after (places.map fun place => ns[place].element) w := by
  induction left generalizing p w with
  | zero => exact ⟨[], List.nodup_nil, nofun, rfl⟩
  | succ left ih =>
    rw [roundsAsking]
    cases next : p.next? with
    | none => exact ⟨[], List.nodup_nil, nofun, rfl⟩
    | some taken =>
      obtain ⟨place, q⟩ := taken
      obtain ⟨inside, fresh, _⟩ := sound.next_ready next
      obtain ⟨first, within, fixed, asked⟩ :=
        exists_asked_span timelineDuration ask q ⟨place, inside⟩ w
      have here : ∀ other ∈ first, (other : Nat) = place := fun other member =>
        congrArg Fin.val (List.mem_singleton.1 (within.subset member))
      have once : first.Nodup := (List.nodup_singleton _).sublist within
      have waiting : ∀ other ∈ first, p.span? other = none ∧
          ns[other].element.duration.isFillGap = false := fun other member =>
        ⟨by rw [here other member, fresh], fixed other member⟩
      dsimp only
      rw [List.getElem?_eq_getElem inside]
      dsimp only
      change (spanAsking ns timelineDuration ask q ns[place] w).2 = _ at asked
      rcases result : spanAsking ns timelineDuration ask q ns[place] w with ⟨failure | span, w'⟩
      · rw [result] at asked
        exact ⟨first, once, waiting, asked⟩
      · rw [result] at asked
        dsimp only at asked
        have settled : Progress.Sound ns (settle ns timelineDuration q place span) [] :=
          sound.settle span next
        obtain ⟨later, once', waiting', asked'⟩ := ih settled w'
        -- the place is settled then, so that it is not among those that are asked about later
        have bound : place < q.settled.length := by
          rw [(Progress.next?_some next).2.2.1, sound.settled_length]
          exact inside
        have apart : ∀ other ∈ later, (other : Nat) ≠ place ∧ p.span? other = none := by
          intro other member
          have unsettled := (waiting' other member).1
          rw [settle_span? span bound, next_span? next] at unsettled
          split at unsettled
          · cases unsettled
          · next ne => exact ⟨ne, unsettled⟩
        refine ⟨first ++ later, ?_, ?_, ?_⟩
        · refine List.nodup_append.2 ⟨once, once', ?_⟩
          rintro other member _ member' rfl
          exact (apart other member').1 (here other member)
        · intro other member
          rcases List.mem_append.1 member with member | member
          · exact waiting other member
          · exact ⟨(apart other member).2, (waiting' other member).2⟩
        · rw [asked', asked, List.map_append, Answerer.after, Answerer.after, Answerer.after,
            List.foldl_append]

omit [Measure τ] in
theorem map_element_finRange (t : Template τ) :
    (List.finRange (nodes t).length).map (fun place => (nodes t)[place].element) = t.elements := by
  rw [← map_element_nodes]
  conv_rhs => rw [← List.map_getElem_finRange (nodes t), List.map_map]
  rfl

/-- **No duration is asked for twice**: it is asked about some of the elements that fill no gap, each
of them once. -/
theorem exists_asked (timelineDuration : Option τ) (ask : Answerer τ ω) (t : Template τ) (w : ω) :
    ∃ asked : List (Template.Element τ),
      asked.Subperm (t.elements.filter fun e => !e.duration.isFillGap) ∧
      (resolveAsking timelineDuration ask t w).2 = ask.after asked w := by
  unfold resolveAsking
  dsimp only
  split
  · exact ⟨[], List.nil_subperm, rfl⟩
  · split
    · exact ⟨[], List.nil_subperm, rfl⟩
    · have sound : Progress.Sound (nodes t) (.initial (nodes t) timelineDuration) [] :=
        Progress.sound_initial
      obtain ⟨places, once, fixed, asked⟩ :=
        exists_asked_rounds timelineDuration ask (nodes t).length sound w
      refine ⟨_, ?_, asked⟩
      have among : places.Subperm ((List.finRange (nodes t).length).filter fun place =>
          !(nodes t)[place].element.duration.isFillGap) := by
        refine List.subperm_of_subset once fun place member => List.mem_filter.2 ⟨?_, ?_⟩
        · exact List.mem_finRange _
        · rw [(fixed place member).2]
          rfl
      obtain ⟨l, same, part⟩ := among
      refine ⟨_, same.map _, ?_⟩
      rw [← map_element_finRange, List.filter_map]
      exact part.map _

end Storyboard.Timeline
