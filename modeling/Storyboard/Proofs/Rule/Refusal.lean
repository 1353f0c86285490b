import Storyboard.Proofs.Steps
import Storyboard.Rule.Application

/-!
# Refused rules

Rules are carried out on a project as a whole or refused as a whole. An operator is looked at only
when its condition is, which may be after elements have been changed; but where the first look at
the rules finds no unknown operator among those that are enabled, no condition of theirs can fail
on any view, be it of an element as it came or as earlier actions left it.
-/

namespace Storyboard

variable {P : Failure Float → Prop}

/-! ## Conditions -/

theorem Operator.isKnown_eq_false_iff {o : Operator} :
    o.isKnown = false ↔ ∃ name, o = .other name := by
  cases o <;> simp [isKnown]

theorem Condition.holds_failsOnly {ruleId : String} {c : Condition} {view : Json}
    (known : c.operator.isKnown = true) : FailsOnly P (c.holds ruleId view) := by
  unfold Condition.holds
  split
  case h_6 other => rw [other] at known; cases known
  all_goals exact .ok _

/-- Conditions whose operators are known can be evaluated on every view. -/
theorem Condition.allHold_failsOnly {ruleId : String} {view : Json} {conditions : List Condition}
    (known : ∀ c ∈ conditions, c.operator.isKnown = true) :
    FailsOnly P (Condition.allHold ruleId view conditions) := by
  induction conditions with
  | nil => exact .ok _
  | cons c rest ih =>
    unfold Condition.allHold
    refine (holds_failsOnly (known c List.mem_cons_self)).bind fun holds _ => ?_
    split
    · exact ih fun c member => known c (List.mem_cons_of_mem _ member)
    · exact .pure _

namespace Rule

/-! ## The first look at the rules -/

/-- An operator is the first of a rule's conditions that cannot be evaluated. -/
def FirstUnknown (r : Rule) (operator : String) : Prop :=
  ∃ before c after, r.conditions = before ++ c :: after ∧ c.operator = .other operator ∧
    ∀ earlier ∈ before, earlier.operator.isKnown = true

theorem unknownOperators_eq_nil_iff {r : Rule} :
    r.unknownOperators = [] ↔ ∀ c ∈ r.conditions, c.operator.isKnown = true := by
  simp [unknownOperators, List.filter_eq_nil_iff]

theorem head?_unknownOperators {r : Rule} {operator : String} :
    r.unknownOperators.head? = some operator ↔ r.FirstUnknown operator := by
  rw [unknownOperators, List.head?_map, List.head?_filter, FirstUnknown]
  constructor
  · intro first
    obtain ⟨c, found, name⟩ := Option.map_eq_some_iff.1 first
    obtain ⟨unknown, before, after, split, earlier⟩ := List.find?_eq_some_iff_append.1 found
    obtain ⟨other, same⟩ := Operator.isKnown_eq_false_iff.1 (by simpa using unknown)
    rw [same] at name
    obtain rfl : other = operator := name
    exact ⟨before, c, after, split, same, by simpa using earlier⟩
  · rintro ⟨before, c, after, split, same, earlier⟩
    refine Option.map_eq_some_iff.2 ⟨c, ?_, by rw [same]; rfl⟩
    refine List.find?_eq_some_iff_append.2 ⟨by rw [same]; rfl, before, after, split, ?_⟩
    simpa using earlier

/-- Rules are refused for the first one that is enabled and has an unknown operator. -/
theorem refused?_some {rules : List Rule} {id operator : String} :
    refused? rules = some (id, operator) ↔
      ∃ before r after, rules = before ++ r :: after ∧ r.enabled = true ∧
        r.FirstUnknown operator ∧ r.id = id ∧
        ∀ earlier ∈ before, earlier.enabled = true → earlier.unknownOperators = [] := by
  rw [refused?, List.findSome?_eq_some_iff]
  refine exists_congr fun before => exists_congr fun r => exists_congr fun after => ?_
  refine and_congr_right fun _ => ?_
  by_cases enabled : r.enabled = true
  · simp only [enabled, if_true, true_and, Option.map_eq_some_iff, head?_unknownOperators,
      Prod.mk.injEq, ite_eq_right_iff, Option.map_eq_none_iff, List.head?_eq_none_iff]
    constructor
    · rintro ⟨⟨_, first, id, rfl⟩, earlier⟩
      exact ⟨first, id, earlier⟩
    · rintro ⟨first, id, earlier⟩
      exact ⟨⟨_, first, id, rfl⟩, earlier⟩
  · rw [if_neg enabled]
    constructor
    · rintro ⟨found, _⟩
      cases found
    · rintro ⟨on, _⟩
      exact absurd on enabled

theorem refused?_none {rules : List Rule} :
    refused? rules = none ↔ ∀ r ∈ rules, r.enabled = true → r.unknownOperators = [] := by
  simp [refused?, List.findSome?_eq_none_iff]

/-! ## Runs -/

variable {r : Rule}

theorem onElements_failsOnly (known : ∀ c ∈ r.conditions, c.operator.isKnown = true)
    (track : Project.Track Float) (es : List (Project.Element Float)) (report : Report) :
    FailsOnly P (r.onElements track es report).2 := by
  induction es generalizing report with
  | nil => exact .ok _
  | cons e rest ih =>
    have first : FailsOnly P (r.onElement track e report) := by
      unfold onElement
      refine (Condition.allHold_failsOnly known).bind fun holds _ => ?_
      split <;> exact .pure _
    unfold onElements
    split
    · next failed => rw [failed] at first; exact .error (first _ rfl)
    · exact ih _

theorem onTracks_failsOnly (known : ∀ c ∈ r.conditions, c.operator.isKnown = true)
    (tracks : List (Project.Track Float)) (report : Report) :
    FailsOnly P (r.onTracks tracks report).2 := by
  induction tracks generalizing report with
  | nil => exact .ok _
  | cons track rest ih =>
    have first := onElements_failsOnly (P := P) known track track.elements report
    unfold onTracks
    split
    · next failed => rw [failed] at first; exact .error (first _ rfl)
    · exact ih _

/-- Rules of which those that are enabled can be evaluated run to their end. -/
theorem runAll_failsOnly {rules : List Rule}
    (known : ∀ r ∈ rules, r.enabled = true → r.unknownOperators = [])
    (tracks : List (Project.Track Float)) (report : Report) :
    FailsOnly P (runAll rules tracks report).2 := by
  induction rules generalizing tracks report with
  | nil => exact .ok _
  | cons r rest ih =>
    have later := fun tracks report =>
      ih (fun r member => known r (List.mem_cons_of_mem _ member)) tracks report
    unfold runAll
    split
    · next enabled =>
      have here := unknownOperators_eq_nil_iff.1 (known r List.mem_cons_self enabled)
      have first := onTracks_failsOnly (P := P) here tracks
        { report with evaluated := report.evaluated + 1 }
      split
      · next failed => rw [failed] at first; exact .error (first _ rfl)
      · exact later _ _
    · exact later _ _

end Rule

namespace Project

/-- Refused rules leave the project as it is. -/
theorem applyRules_refused {p : Project Float} {rules : List Rule} {id operator : String}
    (refused : Rule.refused? rules = some (id, operator)) :
    p.applyRules rules = (p, .error (.unknownOperator id operator)) := by
  rw [applyRules, refused]

/-- What rules that run to their end make of a project. -/
theorem applyRules_of_ran {rules : List Rule} {p : Project Float} {tracks : List (Track Float)}
    {report : Rule.Report} (accepted : Rule.refused? rules = none)
    (ran : Rule.runAll rules p.tracks {} = (tracks, .ok report)) :
    p.applyRules rules =
      (({ p with
          tracks
          provenance := { p.provenance with
            effects := p.provenance.effects ++ report.effects } } : Project Float).withDuration,
        .ok report) := by
  rw [applyRules, accepted]
  dsimp only
  rw [ran]

/-- Rules that are not refused do not fail. -/
theorem applyRules_failsOnly {rules : List Rule} (accepted : Rule.refused? rules = none)
    (p : Project Float) : FailsOnly P (p.applyRules rules).2 := by
  have ran := Rule.runAll_failsOnly (P := P) (Rule.refused?_none.1 accepted) p.tracks {}
  unfold applyRules
  rw [accepted]
  dsimp only
  split
  · next failed => rw [failed] at ran; exact .error (ran _ rfl)
  · exact .ok _

/-- **All or nothing**: carrying out rules fails exactly where an enabled rule has an operator that
is not known; the failure then names the first such rule and its first such operator, and the
project is what it was. -/
theorem applyRules_all_or_nothing (p : Project Float) (rules : List Rule) :
    ((∃ failure, (p.applyRules rules).2 = .error failure) ↔
      ∃ r ∈ rules, r.enabled = true ∧ ∃ c ∈ r.conditions, c.operator.isKnown = false) ∧
    ∀ failure, (p.applyRules rules).2 = .error failure →
      (p.applyRules rules).1 = p ∧
      ∃ before r after operator, rules = before ++ r :: after ∧ r.enabled = true ∧
        r.FirstUnknown operator ∧
        (∀ earlier ∈ before, earlier.enabled = true →
          ∀ c ∈ earlier.conditions, c.operator.isKnown = true) ∧
        failure = .unknownOperator r.id operator := by
  cases look : Rule.refused? rules with
  | none =>
    have never := applyRules_failsOnly (P := fun _ => False) look p
    have known := Rule.refused?_none.1 look
    refine ⟨⟨fun ⟨failure, failed⟩ => (never failure failed).elim, ?_⟩,
      fun failure failed => (never failure failed).elim⟩
    rintro ⟨r, member, enabled, c, inside, unknown⟩
    simp [Rule.unknownOperators_eq_nil_iff.1 (known r member enabled) c inside] at unknown
  | some refused =>
    obtain ⟨id, operator⟩ := refused
    obtain ⟨before, r, after, split, enabled, first, rfl, earlier⟩ := Rule.refused?_some.1 look
    rw [applyRules_refused look]
    constructor
    · refine ⟨fun _ => ?_, fun _ => ⟨_, rfl⟩⟩
      obtain ⟨_, c, _, conditions, same, _⟩ := first
      exact ⟨r, by simp [split], enabled, c, by simp [conditions], by rw [same]; rfl⟩
    · intro failure failed
      obtain rfl := Except.error.inj failed
      exact ⟨rfl, before, r, after, operator, split, enabled, first,
        fun other member on => Rule.unknownOperators_eq_nil_iff.1 (earlier other member on), rfl⟩

/-- A project with one text. -/
def teaser : Project Float :=
  let title : Element Float :=
    { id := "title", name := "Title", start := 0.0, duration := 2.0, content := .text "Soon" }
  let text : Track Float :=
    { id := "text", name := "Text", kind := .text, role := .title, elements := [title]
      volume := .one }
  { id := "teaser", name := "Teaser", canvas := .vertical, tracks := [text], duration := 2.0
    provenance := { templateId := "t", templateName := "T", generatedAt := ⟨0, 0⟩ } }

/-- A rule that changes every text, a disabled one with an unknown operator, and one whose second
and third conditions have unknown operators. -/
def teaserRules : List Rule :=
  [{ id := "loud", name := "Loud", actions := [{ kind := .setText, value := some (.str "NOW") }] },
    { id := "off", name := "Off", enabled := false
      conditions := [{ field := "name", operator := .other "like" }] },
    { id := "odd", name := "Odd"
      conditions := [{ field := "name", operator := .equals },
        { field := "duration", operator := .other "between" },
        { field := "name", operator := .other "matches" }] }]

theorem applyRules_teaser :
    (teaser.applyRules teaserRules).2 = .error (.unknownOperator "odd" "between") ∧
      (teaser.applyRules teaserRules).1 = teaser ∧
      ∃ before r after operator, teaserRules = before ++ r :: after ∧ r.enabled = true ∧
        r.FirstUnknown operator ∧
        (∀ earlier ∈ before, earlier.enabled = true →
          ∀ c ∈ earlier.conditions, c.operator.isKnown = true) ∧
        Failure.unknownOperator "odd" "between" = .unknownOperator (τ := Float) r.id operator := by
  have failed : (teaser.applyRules teaserRules).2 = .error (.unknownOperator "odd" "between") := rfl
  exact ⟨failed, (applyRules_all_or_nothing teaser teaserRules).2 _ failed⟩

end Project

end Storyboard
