import Storyboard.Proofs.Rule.Refusal

/-!
# Lists of rules one after the other

A run carries its report along, but no rule looks at it: what a run adds to a report is what it
would have reported by itself. Nor does a rule look at the duration of a project or at the effects
it remembers. So two lists of rules can be carried out at once or one after the other.
-/

namespace Storyboard

open Project (Element Track)

namespace Rule

/-- What two runs have done, one after the other. A name that both have ignored is listed once. -/
def Report.followedBy (first second : Report) : Report where
  evaluated := first.evaluated + second.evaluated
  skipped := first.skipped ++ second.skipped
  hits := first.hits + second.hits
  effects := first.effects ++ second.effects
  ignored := first.ignored ++ second.ignored.filter fun name => !first.ignored.contains name

theorem Report.followedBy_empty (first : Report) : first.followedBy {} = first := by
  simp [followedBy]

/-- A name is ignored after a first run as it is alone, unless the first run has listed it. -/
theorem Report.followedBy_ignore (first second : Report) (name : String) :
    first.followedBy (second.ignore name) = (first.followedBy second).ignore name := by
  by_cases before : name ∈ first.ignored
  · by_cases listed : name ∈ second.ignored <;> simp [followedBy, ignore, before, listed]
  · by_cases listed : name ∈ second.ignored <;> simp [followedBy, ignore, before, listed]

/-! ## A run that starts with a report -/

variable (first : Report) {r : Rule}

theorem act_followedBy (state : Element Float × Report) (a : Action) :
    r.act (state.1, first.followedBy state.2) a =
      ((r.act state a).1, first.followedBy (r.act state a).2) := by
  obtain ⟨e, report⟩ := state
  simp only [act]
  split
  · simp [Report.followedBy]
  · rw [Report.followedBy_ignore]
  · rfl

theorem onElement_followedBy (track : Track Float) (e : Element Float) (report : Report) :
    r.onElement track e (first.followedBy report) =
      (r.onElement track e report).map fun tried => (tried.1, first.followedBy tried.2) := by
  unfold onElement
  cases Condition.allHold r.id (e.view track) r.conditions with
  | error failure => rfl
  | ok holds =>
    cases holds with
    | false => rfl
    | true =>
      have ran : ∀ state : Element Float × Report,
          r.actions.foldl r.act (state.1, first.followedBy state.2) =
            ((r.actions.foldl r.act state).1, first.followedBy (r.actions.foldl r.act state).2) :=
        fun state => List.foldl_hom _ (act_followedBy first)
      exact congrArg Except.ok (ran (e, { report with hits := report.hits + 1 }))

theorem onElements_followedBy (track : Track Float) (es : List (Element Float)) (report : Report) :
    r.onElements track es (first.followedBy report) =
      ((r.onElements track es report).1, (r.onElements track es report).2.map first.followedBy) := by
  induction es generalizing report with
  | nil => rfl
  | cons e rest ih =>
    rw [onElements, onElements, onElement_followedBy]
    cases r.onElement track e report with
    | error failure => rfl
    | ok tried =>
      simp only [Except.map]
      rw [ih]
      rfl

theorem onTracks_followedBy (tracks : List (Track Float)) (report : Report) :
    r.onTracks tracks (first.followedBy report) =
      ((r.onTracks tracks report).1, (r.onTracks tracks report).2.map first.followedBy) := by
  induction tracks generalizing report with
  | nil => rfl
  | cons t rest ih =>
    rw [onTracks, onTracks, onElements_followedBy]
    obtain ⟨elements, result⟩ := r.onElements t t.elements report
    cases result with
    | error failure => rfl
    | ok report =>
      simp only [Except.map]
      rw [ih]
      rfl

/-- **What a run adds** to a report is what it reports where it starts with an empty one. -/
theorem runAll_followedBy (rules : List Rule) (tracks : List (Track Float)) (report : Report) :
    runAll rules tracks (first.followedBy report) =
      ((runAll rules tracks report).1, (runAll rules tracks report).2.map first.followedBy) := by
  induction rules generalizing tracks report with
  | nil => rfl
  | cons r rest ih =>
    unfold runAll
    split
    · have counted : { first.followedBy report with
          evaluated := (first.followedBy report).evaluated + 1 } =
          first.followedBy { report with evaluated := report.evaluated + 1 } := rfl
      rw [counted, onTracks_followedBy]
      obtain ⟨tracks, result⟩ := r.onTracks tracks { report with evaluated := report.evaluated + 1 }
      cases result with
      | error failure => rfl
      | ok report => exact ih tracks report
    · have noted : { first.followedBy report with
          skipped := (first.followedBy report).skipped ++ [r.id] } =
          first.followedBy { report with skipped := report.skipped ++ [r.id] } := by
        simp [Report.followedBy]
      rw [noted, ih]

omit first in
/-- Rules behind others run on what those have made, and go on with their report. -/
theorem runAll_append {before after : List Rule} {tracks made : List (Track Float)}
    {report reported : Report} (ran : runAll before tracks report = (made, .ok reported)) :
    runAll (before ++ after) tracks report = runAll after made reported := by
  induction before generalizing tracks report with
  | nil =>
    cases ran
    rfl
  | cons r rest ih =>
    rw [List.cons_append, runAll]
    rw [runAll] at ran
    split at ran
    · next enabled =>
      rw [if_pos enabled]
      split at ran
      · cases ran
      · next done => exact ih ran
    · next disabled =>
      rw [if_neg disabled]
      exact ih ran

end Rule

namespace Project

variable {rules : List Rule}

/-- Rules that are not refused run to their end. -/
theorem exists_applyRules (accepted : Rule.refused? rules = none) (p : Project Float) :
    ∃ tracks report, Rule.runAll rules p.tracks {} = (tracks, .ok report) ∧
      p.applyRules rules =
        (({ p with
            tracks
            provenance := { p.provenance with
              effects := p.provenance.effects ++ report.effects } } : Project Float).withDuration,
          .ok report) := by
  have never := Rule.runAll_failsOnly (P := fun _ => False) (Rule.refused?_none.1 accepted) p.tracks {}
  cases ran : Rule.runAll rules p.tracks {} with
  | mk tracks result =>
    rw [ran] at never
    rcases ok_or_error result with ⟨report, rfl⟩ | ⟨failure, rfl⟩
    · exact ⟨tracks, report, rfl, applyRules_of_ran accepted ran⟩
    · exact (never failure rfl).elim

/-- **Rules compose**: where no enabled rule has an operator that is not known, rules carried out
behind others make of a project what they make of it together with those, and the report on all is
that of the first followed by that of the second. -/
theorem applyRules_append (before after : List Rule)
    (known : ∀ r ∈ before ++ after, r.enabled = true →
      ∀ c ∈ r.conditions, c.operator.isKnown = true) (p : Project Float) :
    ∃ first second, (p.applyRules before).2 = .ok first ∧
      ((p.applyRules before).1.applyRules after).2 = .ok second ∧
      p.applyRules (before ++ after) =
        (((p.applyRules before).1.applyRules after).1, .ok (first.followedBy second)) := by
  have accepted : ∀ {rules : List Rule}, rules ⊆ before ++ after → Rule.refused? rules = none :=
    fun inside => Rule.refused?_none.2 fun r member enabled =>
      Rule.unknownOperators_eq_nil_iff.2 (known r (inside member) enabled)
  obtain ⟨made, first, ran, one⟩ := exists_applyRules (accepted (List.subset_append_left _ _)) p
  obtain ⟨last, second, ranOn, two⟩ :=
    exists_applyRules (accepted (List.subset_append_right _ _)) (p.applyRules before).1
  obtain ⟨_, _, ranAll, all⟩ := exists_applyRules (accepted (List.Subset.refl _)) p
  have together : Rule.runAll (before ++ after) p.tracks {} =
      (last, .ok (first.followedBy second)) := by
    have added := Rule.runAll_followedBy first after made {}
    rw [one] at ranOn
    change Rule.runAll after made {} = _ at ranOn
    rw [first.followedBy_empty, ranOn] at added
    exact (Rule.runAll_append ran).trans added
  cases ranAll.symm.trans together
  refine ⟨first, second, by rw [one], by rw [two], ?_⟩
  rw [all, two, one]
  simp only [Rule.Report.followedBy, withDuration, List.append_assoc]

/-- A rule with an action that is not known, and a disabled one. -/
def calming : List Rule :=
  [{ id := "fade", name := "Fade"
     actions := [{ kind := .other "fade" }, { kind := .setDuration, value := some (.int 3) }] },
    { id := "off", name := "Off", enabled := false
      conditions := [{ field := "name", operator := .other "like" }] }]

/-- A rule that looks at a duration set before, with the same action and another one. -/
def cutting : List Rule :=
  [{ id := "cut", name := "Cut"
     conditions := [{ field := "duration", operator := .equals, value := .int 3 }]
     actions := [{ kind := .other "zoom" }, { kind := .other "fade" }, { kind := .setHidden }] }]

theorem applyRules_calming :
    (∀ r ∈ calming ++ cutting, r.enabled = true → ∀ c ∈ r.conditions, c.operator.isKnown = true) ∧
    ∃ first second, (teaser.applyRules calming).2 = .ok first ∧
      ((teaser.applyRules calming).1.applyRules cutting).2 = .ok second ∧
      teaser.applyRules (calming ++ cutting) =
        (((teaser.applyRules calming).1.applyRules cutting).1, .ok (first.followedBy second)) ∧
      first.ignored = ["fade"] ∧ second.ignored = ["zoom", "fade"] ∧
      (first.followedBy second).ignored = ["fade", "zoom"] := by
  have known : ∀ r ∈ calming ++ cutting, r.enabled = true →
      ∀ c ∈ r.conditions, c.operator.isKnown = true := by decide
  obtain ⟨first, second, one, two, together⟩ := applyRules_append calming cutting known teaser
  refine ⟨known, first, second, one, two, together, ?_⟩
  cases one
  cases two
  exact ⟨rfl, rfl, rfl⟩

end Project

end Storyboard
