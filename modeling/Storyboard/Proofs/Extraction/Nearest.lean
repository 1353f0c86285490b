import Storyboard.Extraction
import Storyboard.Proofs.Double.Addition

/-!
# The nearest anchor

An element is placed relative to the nearest start or end of the elements before it, if one is near
enough. The search goes through these anchors once and keeps the best so far. What it keeps is the
first of the nearest among those that it has seen: a nearer one takes its place, one that is just as
near does not. Distances that are no numbers are never near enough, so that those that are compared
stand in one line.
-/

namespace Storyboard.Extraction

variable {tolerance start : Float} {emitted : List (Emitted Float)}

/-- How far an anchor of an emitted element is from a time. -/
def Emitted.distance {τ : Type} [Measure τ] (x : Emitted τ) (start : τ) (anchor : Anchor) : τ :=
  Measure.abs (start - x.time anchor)

/-- An anchor of an emitted element is no farther from a time than a tolerance. -/
def Emitted.Near {τ : Type} [Measure τ] (x : Emitted τ) (tolerance start : τ) (anchor : Anchor) :
    Prop :=
  Measure.le (x.distance start anchor) tolerance = true

/-- An anchor of an emitted element is the nearest to a time, and of those that are as near the first
in the order of the elements, the end of an element before its start. -/
structure IsNearest (tolerance start : Float) (earlier : List (Emitted Float)) (x : Emitted Float)
    (later : List (Emitted Float)) (anchor : Anchor) : Prop where
  near : x.Near tolerance start anchor
  least : ∀ y ∈ earlier ++ x :: later, ∀ other, y.Near tolerance start other →
    Measure.le (x.distance start anchor) (y.distance start other) = true
  earliest : ∀ y ∈ earlier, ∀ other, y.Near tolerance start other →
    Measure.lt (x.distance start anchor) (y.distance start other) = true
  endFirst : anchor = .start → x.Near tolerance start .finish →
    Measure.lt (x.distance start .start) (x.distance start .finish) = true

/-! ## The best so far -/

/-- A candidate is near enough. -/
def Candidate.Near (tolerance : Float) (c : Candidate Float) : Prop :=
  Measure.le c.distance tolerance = true

/-- What the search keeps of the candidates that it has seen. -/
inductive Best (tolerance : Float) (seen : List (Candidate Float)) : Option (Candidate Float) → Prop
  where
  | none : (∀ c ∈ seen, ¬ c.Near tolerance) → Best tolerance seen none
  | some {before after : List (Candidate Float)} {c : Candidate Float} :
      seen = before ++ c :: after → c.Near tolerance →
      (∀ b ∈ before, b.Near tolerance → Measure.lt c.distance b.distance = true) →
      (∀ a ∈ after, a.Near tolerance → Measure.le c.distance a.distance = true) →
      Best tolerance seen (some c)

theorem Candidate.Near.number {c : Candidate Float} (near : c.Near tolerance) :
    Measure.isNaN c.distance = false :=
  (LinearMeasure.isNaN_of_le near).1

/-- **One step**: a candidate takes the place of the best so far exactly where it is near enough and
nearer. -/
theorem Best.step {seen : List (Candidate Float)} {best : Option (Candidate Float)}
    (is : Best tolerance seen best) (c : Candidate Float) :
    Best tolerance (seen ++ [c]) (nearer tolerance best c) := by
  unfold nearer
  split
  · next better =>
    obtain ⟨near, closer⟩ := Bool.and_eq_true_iff.1 better
    refine .some rfl near (fun b member nearB => ?_) (by simp)
    cases is with
    | none none => exact absurd nearB (none b member)
    | @some before after kept split nearKept earlier later =>
      have closer : Measure.lt c.distance kept.distance = true := closer
      rw [split, List.mem_append, List.mem_cons] at member
      rcases member with member | rfl | member
      · exact OrderedMeasure.lt_trans closer (earlier b member nearB)
      · exact closer
      · exact Double.lt_of_lt_of_le closer (later b member nearB)
  · next worse =>
    rw [Bool.and_eq_true_iff, not_and, Bool.not_eq_true] at worse
    cases is with
    | none none =>
      refine .none fun b member near => ?_
      rcases List.mem_append.1 member with member | member
      · exact none b member near
      · obtain rfl := List.mem_singleton.1 member
        exact absurd (worse near) (by simp)
    | @some before after kept split nearKept earlier later =>
      have onwards : seen ++ [c] = before ++ kept :: (after ++ [c]) := by simp [split]
      refine .some onwards nearKept earlier fun a member near => ?_
      rcases List.mem_append.1 member with member | member
      · exact later a member near
      · obtain rfl := List.mem_singleton.1 member
        exact LinearMeasure.le_of_not_lt nearKept.number near.number (worse near)

/-- **The search** keeps the first of the nearest. -/
theorem best_foldl (cs : List (Candidate Float)) {seen : List (Candidate Float)}
    {best : Option (Candidate Float)} (is : Best tolerance seen best) :
    Best tolerance (seen ++ cs) (cs.foldl (nearer tolerance) best) := by
  induction cs generalizing seen best with
  | nil => rwa [List.append_nil]
  | cons c rest ih =>
    rw [List.append_cons]
    exact ih (is.step c)

/-! ## Candidates are anchors -/

/-- The candidate that an anchor of an emitted element is. -/
def Emitted.candidate (x : Emitted Float) (start : Float) (anchor : Anchor) : Candidate Float :=
  ⟨x, anchor, x.distance start anchor⟩

@[simp] theorem distance_candidate (x : Emitted Float) (start : Float) (anchor : Anchor) :
    (x.candidate start anchor).distance = x.distance start anchor :=
  rfl

@[simp] theorem near_candidate {x : Emitted Float} {anchor : Anchor} :
    (x.candidate start anchor).Near tolerance ↔ x.Near tolerance start anchor := by
  rw [Candidate.Near, distance_candidate, Emitted.Near]

theorem candidates_cons (x : Emitted Float) (rest : List (Emitted Float)) (start : Float) :
    candidates (x :: rest) start =
      x.candidate start .finish :: x.candidate start .start :: candidates rest start :=
  rfl

theorem mem_candidates {c : Candidate Float} :
    c ∈ candidates emitted start ↔ ∃ x ∈ emitted, ∃ anchor, c = x.candidate start anchor := by
  constructor
  · intro member
    obtain ⟨x, inside, listed⟩ := List.mem_flatMap.1 member
    obtain ⟨anchor, -, rfl⟩ := List.mem_map.1 listed
    exact ⟨x, inside, anchor, rfl⟩
  · rintro ⟨x, inside, anchor, rfl⟩
    refine List.mem_flatMap.2 ⟨x, inside, List.mem_map.2 ⟨anchor, ?_, rfl⟩⟩
    cases anchor <;> simp

/-- Where a candidate stands among the others, its element stands among the elements. -/
theorem candidates_split {before after : List (Candidate Float)} {c : Candidate Float}
    (split : candidates emitted start = before ++ c :: after) :
    ∃ earlier x later anchor, emitted = earlier ++ x :: later ∧ c = x.candidate start anchor ∧
      (∀ y ∈ earlier, ∀ other, y.candidate start other ∈ before) ∧
      (anchor = .start → x.candidate start .finish ∈ before) ∧
      (anchor = .finish → x.candidate start .start ∈ after) ∧
      ∀ y ∈ later, ∀ other, y.candidate start other ∈ after := by
  induction emitted generalizing before with
  | nil => simp [candidates] at split
  | cons first rest ih =>
    rw [candidates_cons] at split
    match before with
    | [] =>
      obtain ⟨rfl, rfl⟩ := List.cons.inj split
      refine ⟨[], first, rest, .finish, rfl, rfl, by simp, nofun, fun _ => List.mem_cons_self,
        fun y member other => ?_⟩
      exact List.mem_cons_of_mem _ (mem_candidates.2 ⟨y, member, other, rfl⟩)
    | [_] =>
      simp only [List.cons_append, List.nil_append, List.cons.injEq] at split
      obtain ⟨rfl, rfl, rfl⟩ := split
      exact ⟨[], first, rest, .start, rfl, rfl, by simp, fun _ => List.mem_cons_self, nofun,
        fun y member other => mem_candidates.2 ⟨y, member, other, rfl⟩⟩
    | _ :: _ :: before =>
      simp only [List.cons_append, List.cons.injEq] at split
      obtain ⟨rfl, rfl, tail⟩ := split
      obtain ⟨earlier, x, later, anchor, rfl, rfl, all, finish, begin, others⟩ := ih tail
      refine ⟨first :: earlier, x, later, anchor, rfl, rfl, ?_, ?_, begin, others⟩
      · intro y member other
        rcases List.mem_cons.1 member with rfl | member
        · cases other
          · exact List.mem_cons_of_mem _ List.mem_cons_self
          · exact List.mem_cons_self
        · exact List.mem_cons_of_mem _ (List.mem_cons_of_mem _ (all y member other))
      · exact fun atStart => List.mem_cons_of_mem _ (List.mem_cons_of_mem _ (finish atStart))

/-- The best of all candidates is the nearest anchor. -/
theorem isNearest_of_best {c : Candidate Float}
    (best : Best tolerance (candidates emitted start) (some c)) :
    ∃ earlier x later anchor, emitted = earlier ++ x :: later ∧ c = x.candidate start anchor ∧
      IsNearest tolerance start earlier x later anchor := by
  cases best with
  | @some before after _ split near first nearest =>
    obtain ⟨earlier, x, later, anchor, rfl, rfl, all, finish, begin, others⟩ :=
      candidates_split split
    have isNear := near_candidate.1 near
    have farther {y : Emitted Float} {other : Anchor} (member : y.candidate start other ∈ before)
        (nearY : y.Near tolerance start other) :
        Measure.lt (x.distance start anchor) (y.distance start other) = true := by
      simpa using first _ member (near_candidate.2 nearY)
    have noNearer {y : Emitted Float} {other : Anchor} (member : y.candidate start other ∈ after)
        (nearY : y.Near tolerance start other) :
        Measure.le (x.distance start anchor) (y.distance start other) = true := by
      simpa using nearest _ member (near_candidate.2 nearY)
    refine ⟨earlier, x, later, anchor, rfl, rfl, isNear, fun y member other nearY => ?_,
      fun y member other => farther (all y member other), ?_⟩
    · rcases List.mem_append.1 member with member | member
      · exact LinearMeasure.le_of_lt (farther (all y member other) nearY)
      · rcases List.mem_cons.1 member with rfl | member
        · cases anchor <;> cases other
          · exact Measure.le_refl_of_number near.number
          · exact LinearMeasure.le_of_lt (farther (finish rfl) nearY)
          · exact noNearer (begin rfl) nearY
          · exact Measure.le_refl_of_number near.number
        · exact noNearer (others y member other) nearY
    · rintro rfl nearFinish
      exact farther (finish rfl) nearFinish

/-! ## The timing of an element -/

/-- **The nearest anchor**: with detection on, an element is placed relative to an earlier one exactly
where an anchor of one is near enough, and then relative to the nearest anchor, at its distance from
it. Otherwise it is placed at its time. -/
theorem timingFor_nearest (options : ExtractOptions Float) (emitted : List (Emitted Float))
    (start : Float) (detects : options.detectRelativeTiming = true) :
    ((∃ id offset anchor, timingFor options emitted start = .relative id offset anchor) ↔
      ∃ x ∈ emitted, ∃ anchor, x.Near options.relativeTimingTolerance start anchor) ∧
    (∀ id offset anchor, timingFor options emitted start = .relative id offset anchor →
      ∃ earlier x later, emitted = earlier ++ x :: later ∧ id = x.id ∧
        offset = start - x.time anchor ∧
        IsNearest options.relativeTimingTolerance start earlier x later anchor) ∧
    ((∀ x ∈ emitted, ∀ anchor, ¬ x.Near options.relativeTimingTolerance start anchor) →
      timingFor options emitted start = .absolute start) := by
  have best : Best options.relativeTimingTolerance ([] ++ candidates emitted start) _ :=
    best_foldl (candidates emitted start) (.none (by simp))
  rw [List.nil_append] at best
  rw [timingFor, if_pos detects]
  split
  · next c chosen =>
    rw [chosen] at best
    obtain ⟨earlier, x, later, anchor, rfl, rfl, nearest⟩ := isNearest_of_best best
    have member : x ∈ earlier ++ x :: later := by simp
    refine ⟨iff_of_true ⟨_, _, _, rfl⟩ ⟨x, member, anchor, nearest.near⟩, ?_, fun far => ?_⟩
    · rintro _ _ _ ⟨⟩
      exact ⟨earlier, x, later, rfl, rfl, rfl, nearest⟩
    · exact absurd nearest.near (far x member anchor)
  · next nothing =>
    rw [nothing] at best
    refine ⟨iff_of_false nofun ?_, nofun, fun _ => rfl⟩
    rintro ⟨x, member, anchor, near⟩
    cases best with
    | none far => exact far _ (mem_candidates.2 ⟨x, member, anchor, rfl⟩) (near_candidate.2 near)

/-- An opening, and a flash that comes right after it. -/
def opening : List (Emitted Float) := [⟨"opening", 0.0, 2.0⟩, ⟨"flash", 2.0, 0.0⟩]

/-- What starts a little later is as near to the end of the opening as to both anchors of the flash. -/
theorem timingFor_opening :
    (ExtractOptions.default : ExtractOptions Float).detectRelativeTiming = true ∧
      timingFor .default opening 2.25 = .relative "opening" 0.25 .finish ∧
      ∃ earlier x later, opening = earlier ++ x :: later ∧ "opening" = x.id ∧
        (0.25 : Float) = 2.25 - x.time .finish ∧ IsNearest 0.5 2.25 earlier x later .finish := by
  have placed : timingFor .default opening 2.25 = .relative "opening" 0.25 .finish := by rfl
  exact ⟨rfl, placed, (timingFor_nearest .default opening 2.25 rfl).2.1 _ _ _ placed⟩

end Storyboard.Extraction
