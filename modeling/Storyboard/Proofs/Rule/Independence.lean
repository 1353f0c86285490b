import Storyboard.Proofs.Rule.Refusal

/-!
# Rules look at one element at a time

Rules run one after the other over all tracks, and what they see of an element is built from a track
whose other elements may have been changed by then. But a view reads nothing of a track except its
name, kind and role, which no action touches. So the loops over rules and over elements can be
exchanged: what becomes of an element is what becomes of it where the rules are tried on it alone,
and the changes recorded are those recorded there.
-/

namespace Storyboard

open Project (Element Track)

/-- Whether a condition of a rule holds for a view; one that cannot be evaluated does not. -/
def Condition.isMet (ruleId : String) (c : Condition) (view : Json) : Bool :=
  (c.holds ruleId view).toOption.getD false

theorem Condition.holds_known {ruleId : String} {c : Condition} {view : Json}
    (known : c.operator.isKnown = true) : c.holds ruleId view = .ok (c.isMet ruleId view) := by
  rcases ok_or_error (c.holds ruleId view) with ⟨met, done⟩ | ⟨failure, failed⟩
  · rw [isMet, done]
    rfl
  · exact (holds_failsOnly (P := fun _ => False) known failure failed).elim

theorem Condition.allHold_known {ruleId : String} {view : Json} {conditions : List Condition}
    (known : ∀ c ∈ conditions, c.operator.isKnown = true) :
    allHold ruleId view conditions = .ok (conditions.all (·.isMet ruleId view)) := by
  induction conditions with
  | nil => rfl
  | cons c rest ih =>
    have later := ih fun c member => known c (List.mem_cons_of_mem _ member)
    rw [allHold, holds_known (known c List.mem_cons_self), List.all_cons]
    cases c.isMet ruleId view with
    | false => rfl
    | true => exact later

namespace Project.Track

variable {τ : Type} (f : Element τ → Element τ) (t : Track τ)

/-- A track with its elements changed, each by itself. -/
def mapElements : Track τ := { t with elements := t.elements.map f }

@[simp] theorem elements_mapElements : (t.mapElements f).elements = t.elements.map f := rfl

@[simp] theorem name_mapElements : (t.mapElements f).name = t.name := rfl

@[simp] theorem kind_mapElements : (t.mapElements f).kind = t.kind := rfl

@[simp] theorem role_mapElements : (t.mapElements f).role = t.role := rfl

end Project.Track

namespace Rule

/-! ## One element -/

/-- Whether all conditions of a rule hold for an element on a track. -/
def holdsFor (r : Rule) (track : Track Float) (e : Element Float) : Bool :=
  r.conditions.all fun c => c.isMet r.id (e.view track)

/-- An element after a rule was tried on it: where all conditions hold, the actions are carried out
in their order, as far as they can be. -/
def alone (r : Rule) (track : Track Float) (e : Element Float) : Element Float :=
  if r.holdsFor track e then r.actions.foldl (fun e a => (a.carryOut e).getD e) e else e

/-- An element after rules were tried on it, one after the other. -/
def allAlone (rules : List Rule) (track : Track Float) (e : Element Float) : Element Float :=
  rules.foldl (fun e r => r.alone track e) e

/-- The effects of actions on an element, each on what the earlier ones have made of it. -/
def effectsOf (r : Rule) : List Action → Element Float → List Effect
  | [], _ => []
  | a :: rest, e =>
    ((a.carryOut e).map fun _ => r.effect a e.id).toList
      ++ r.effectsOf rest ((a.carryOut e).getD e)

/-- The effects of a rule on an element. -/
def effectsAlone (r : Rule) (track : Track Float) (e : Element Float) : List Effect :=
  if r.holdsFor track e then r.effectsOf r.actions e else []

/-- The effects of rules on an element, each on what the earlier ones have made of it. -/
def allEffectsAlone : List Rule → Track Float → Element Float → List Effect
  | [], _, _ => []
  | r :: rest, track, e =>
    r.effectsAlone track e ++ allEffectsAlone rest track (r.alone track e)

/-- What rules see of an element does not depend on the rest of its track. -/
theorem holdsFor_congr {r : Rule} {t u : Track Float} (name : t.name = u.name)
    (kind : t.kind = u.kind) (role : t.role = u.role) (e : Element Float) :
    r.holdsFor t e = r.holdsFor u e := by
  unfold holdsFor Element.view
  rw [name, kind, role]

theorem alone_congr {t u : Track Float} (name : t.name = u.name) (kind : t.kind = u.kind)
    (role : t.role = u.role) (r : Rule) : r.alone t = r.alone u := by
  funext e
  rw [alone, alone, holdsFor_congr name kind role]

theorem allAlone_congr {t u : Track Float} (name : t.name = u.name) (kind : t.kind = u.kind)
    (role : t.role = u.role) (rules : List Rule) : allAlone rules t = allAlone rules u := by
  funext e
  simp only [allAlone, alone_congr name kind role]

theorem allEffectsAlone_congr {t u : Track Float} (name : t.name = u.name) (kind : t.kind = u.kind)
    (role : t.role = u.role) (rules : List Rule) :
    allEffectsAlone rules t = allEffectsAlone rules u := by
  funext e
  induction rules generalizing e with
  | nil => rfl
  | cons r rest ih =>
    rw [allEffectsAlone, allEffectsAlone, effectsAlone, effectsAlone,
      holdsFor_congr name kind role, alone_congr name kind role, ih]

/-! ## A rule -/

variable {r : Rule}

theorem effects_ignore (report : Report) (name : String) :
    (report.ignore name).effects = report.effects := by
  unfold Report.ignore
  split <;> rfl

/-- An action changes the element or leaves it, and is recorded where it changes it. -/
theorem act_eq (r : Rule) (a : Action) (e : Element Float) (report : Report) :
    ∃ report', r.act (e, report) a = ((a.carryOut e).getD e, report') ∧
      report'.effects =
        report.effects ++ ((a.carryOut e).map fun _ => r.effect a e.id).toList := by
  unfold act
  dsimp only
  split
  · next changed _ done => exact ⟨_, by rw [done]; rfl, by rw [done]; rfl⟩
  · next name failed _ => exact ⟨_, by rw [failed]; rfl, by simp [failed, effects_ignore]⟩
  · next failed _ => exact ⟨report, by rw [failed]; rfl, by simp [failed]⟩

theorem foldl_act (r : Rule) (actions : List Action) (e : Element Float) (report : Report) :
    ∃ report', actions.foldl r.act (e, report) =
        (actions.foldl (fun e a => (a.carryOut e).getD e) e, report') ∧
      report'.effects = report.effects ++ r.effectsOf actions e := by
  induction actions generalizing e report with
  | nil => exact ⟨report, rfl, (List.append_nil _).symm⟩
  | cons a rest ih =>
    obtain ⟨first, acted, noted⟩ := act_eq r a e report
    obtain ⟨last, ran, recorded⟩ := ih ((a.carryOut e).getD e) first
    refine ⟨last, ?_, ?_⟩
    · rw [List.foldl_cons, acted, ran, List.foldl_cons]
    · rw [recorded, noted, effectsOf, List.append_assoc]

variable (known : ∀ c ∈ r.conditions, c.operator.isKnown = true)
include known

theorem onElement_eq (track : Track Float) (e : Element Float) (report : Report) :
    ∃ report', r.onElement track e report = .ok (r.alone track e, report') ∧
      report'.effects = report.effects ++ r.effectsAlone track e := by
  unfold onElement alone effectsAlone
  rw [Condition.allHold_known known]
  change ∃ report', (if r.holdsFor track e = true then _ else _) = _ ∧ _
  cases r.holdsFor track e with
  | true =>
    obtain ⟨report', ran, recorded⟩ :=
      foldl_act r r.actions e { report with hits := report.hits + 1 }
    exact ⟨report', congrArg Except.ok ran, recorded⟩
  | false => exact ⟨report, rfl, (List.append_nil _).symm⟩

theorem onElements_eq (track : Track Float) (es : List (Element Float)) (report : Report) :
    ∃ report', r.onElements track es report = (es.map (r.alone track), .ok report') ∧
      report'.effects = report.effects ++ es.flatMap (r.effectsAlone track) := by
  induction es generalizing report with
  | nil => exact ⟨report, rfl, (List.append_nil _).symm⟩
  | cons e rest ih =>
    obtain ⟨first, tried, noted⟩ := onElement_eq known track e report
    obtain ⟨last, ran, recorded⟩ := ih first
    refine ⟨last, ?_, ?_⟩
    · rw [onElements, tried, List.map_cons]
      dsimp only
      rw [ran]
    · rw [recorded, noted, List.flatMap_cons, List.append_assoc]

theorem onTracks_eq (tracks : List (Track Float)) (report : Report) :
    ∃ report', r.onTracks tracks report =
        (tracks.map fun t => t.mapElements (r.alone t), .ok report') ∧
      report'.effects =
        report.effects ++ tracks.flatMap fun t => t.elements.flatMap (r.effectsAlone t) := by
  induction tracks generalizing report with
  | nil => exact ⟨report, rfl, (List.append_nil _).symm⟩
  | cons t rest ih =>
    obtain ⟨first, tried, noted⟩ := onElements_eq known t t.elements report
    obtain ⟨last, ran, recorded⟩ := ih first
    refine ⟨last, ?_, ?_⟩
    · rw [onTracks, tried, List.map_cons]
      dsimp only
      rw [ran]
      rfl
    · rw [recorded, noted, List.flatMap_cons, List.append_assoc]

omit known

/-! ## All rules -/

/-- An effect is recorded where rules are tried on an element of some tracks alone. -/
def IsEffect (rules : List Rule) (tracks : List (Track Float)) (f : Effect) : Prop :=
  ∃ t ∈ tracks, ∃ e ∈ t.elements, f ∈ allEffectsAlone rules t e

/-- The effects of a first rule, and those of the others on what it has made. -/
theorem isEffect_cons {rules : List Rule} {tracks : List (Track Float)} {f : Effect} :
    IsEffect (r :: rules) tracks f ↔
      (f ∈ tracks.flatMap fun t => t.elements.flatMap (r.effectsAlone t)) ∨
        IsEffect rules (tracks.map fun t => t.mapElements (r.alone t)) f := by
  have same : ∀ t : Track Float,
      allEffectsAlone rules (t.mapElements (r.alone t)) = allEffectsAlone rules t := fun t =>
    allEffectsAlone_congr (t.name_mapElements _) (t.kind_mapElements _) (t.role_mapElements _) rules
  simp only [IsEffect, allEffectsAlone, List.mem_append, List.mem_flatMap, List.mem_map,
    exists_exists_and_eq_and, same, and_or_left, exists_or, Track.elements_mapElements]

/-- **The loops exchanged**: the enabled rules make of each element what they make of it alone. -/
theorem runAll_eq {rules : List Rule}
    (known : ∀ r ∈ rules, r.enabled = true → r.unknownOperators = [])
    (tracks : List (Track Float)) (report : Report) :
    ∃ report', runAll rules tracks report =
        (tracks.map fun t => t.mapElements (allAlone (rules.filter (·.enabled)) t), .ok report') ∧
      ∀ f, f ∈ report'.effects ↔
        f ∈ report.effects ∨ IsEffect (rules.filter (·.enabled)) tracks f := by
  induction rules generalizing tracks report with
  | nil =>
    have idle : ∀ t : Track Float, t.mapElements (allAlone [] t) = t := fun t =>
      congrArg (fun es => { t with elements := es }) (List.map_id t.elements)
    exact ⟨report, by simp [runAll, idle], by simp [IsEffect, allEffectsAlone]⟩
  | cons r rest ih =>
    have later := ih fun r member => known r (List.mem_cons_of_mem _ member)
    unfold runAll
    split
    · next enabled =>
      have here := unknownOperators_eq_nil_iff.1 (known r List.mem_cons_self enabled)
      obtain ⟨first, tried, noted⟩ :=
        onTracks_eq here tracks { report with evaluated := report.evaluated + 1 }
      obtain ⟨last, ran, recorded⟩ := later (tracks.map fun t => t.mapElements (r.alone t)) first
      rw [List.filter_cons_of_pos enabled]
      refine ⟨last, ?_, fun f => ?_⟩
      · rw [tried]
        dsimp only
        rw [ran, List.map_map]
        refine congrArg (·, _) (List.map_congr_left fun t _ => ?_)
        -- a track has its name, kind and role after a rule as before
        have same : allAlone (rest.filter (·.enabled)) (t.mapElements (r.alone t)) =
            allAlone (rest.filter (·.enabled)) t :=
          allAlone_congr (t.name_mapElements _) (t.kind_mapElements _) (t.role_mapElements _) _
        simp only [Function.comp_apply, same]
        exact congrArg (fun es => { t with elements := es }) List.map_map
      · rw [recorded, noted, List.mem_append, isEffect_cons, or_assoc]
    · next disabled =>
      rw [List.filter_cons_of_neg disabled]
      exact later tracks _

/-! ## The order of conditions -/

/-- A rule with its conditions in another order. -/
def Reordered (r s : Rule) : Prop := ∃ cs, cs.Perm r.conditions ∧ s = { r with conditions := cs }

theorem Reordered.alone_eq {s : Rule} (reordered : r.Reordered s) (track : Track Float) :
    s.alone track = r.alone track := by
  obtain ⟨cs, same, rfl⟩ := reordered
  have holds : ∀ e, holdsFor { r with conditions := cs } track e = r.holdsFor track e :=
    fun e => same.all_eq
  funext e
  rw [alone, alone, holds]

theorem allAlone_reordered {rules reordered : List Rule}
    (same : List.Forall₂ Reordered rules reordered) (track : Track Float) :
    allAlone (reordered.filter (·.enabled)) track = allAlone (rules.filter (·.enabled)) track := by
  funext e
  induction same generalizing e with
  | nil => rfl
  | @cons r s _ _ first _ ih =>
    have enabled : s.enabled = r.enabled := by
      obtain ⟨cs, _, rfl⟩ := first
      rfl
    rw [List.filter_cons, List.filter_cons, enabled]
    split
    · rw [allAlone, allAlone, List.foldl_cons, List.foldl_cons, first.alone_eq]
      exact ih _
    · exact ih e

theorem known_reordered {rules reordered : List Rule}
    (same : List.Forall₂ Reordered rules reordered)
    (known : ∀ r ∈ rules, r.enabled = true → ∀ c ∈ r.conditions, c.operator.isKnown = true) :
    ∀ r ∈ reordered, r.enabled = true → ∀ c ∈ r.conditions, c.operator.isKnown = true := by
  induction same with
  | nil => nofun
  | cons first _ ih =>
    rw [List.forall_mem_cons] at known ⊢
    obtain ⟨cs, same, rfl⟩ := first
    exact ⟨fun enabled c member => known.1 enabled c (same.subset member), ih known.2⟩

end Rule

namespace Project

/-- **Rules look at one element at a time**: what is not refused makes of each element what it makes
of it alone, and records the effects that it has there. -/
theorem applyRules_eq {rules : List Rule} (accepted : Rule.refused? rules = none)
    (p : Project Float) :
    ∃ report : Rule.Report, p.applyRules rules =
        (({ p with
            tracks := p.tracks.map fun t =>
              t.mapElements (Rule.allAlone (rules.filter (·.enabled)) t)
            provenance := { p.provenance with
              effects := p.provenance.effects ++ report.effects } } : Project Float).withDuration,
          .ok report) ∧
      ∀ f, f ∈ report.effects ↔ Rule.IsEffect (rules.filter (·.enabled)) p.tracks f := by
  obtain ⟨report, ran, recorded⟩ := Rule.runAll_eq (Rule.refused?_none.1 accepted) p.tracks {}
  exact ⟨report, applyRules_of_ran accepted ran, fun f => by simp [recorded]⟩

/-- The element at a place of the track at a place. -/
def elementAt? {τ : Type} (p : Project τ) (track place : Nat) : Option (Element τ) :=
  p.tracks[track]?.bind (·.elements[place]?)

/-- **Each element by itself**: rules without unknown operators are carried out, and make of each
element what they make of it alone. So what becomes of it does not depend on the rest of its track
or of its project, nor on the order of the conditions of a rule. -/
theorem applyRules_each (rules : List Rule)
    (known : ∀ r ∈ rules, r.enabled = true → ∀ c ∈ r.conditions, c.operator.isKnown = true) :
    (∀ p : Project Float, (∃ report, (p.applyRules rules).2 = .ok report) ∧
      (p.applyRules rules).1.tracks =
        p.tracks.map fun t => t.mapElements (Rule.allAlone (rules.filter (·.enabled)) t)) ∧
    (∀ (p q : Project Float) (t u : Track Float) (i j k l : Nat),
      p.tracks[i]? = some t → q.tracks[j]? = some u →
      t.name = u.name → t.kind = u.kind → t.role = u.role → t.elements[k]? = u.elements[l]? →
      (p.applyRules rules).1.elementAt? i k = (q.applyRules rules).1.elementAt? j l) ∧
    ∀ reordered, List.Forall₂ Rule.Reordered rules reordered → ∀ p : Project Float,
      (p.applyRules reordered).1.tracks = (p.applyRules rules).1.tracks := by
  have each : ∀ {rules : List Rule},
      (∀ r ∈ rules, r.enabled = true → ∀ c ∈ r.conditions, c.operator.isKnown = true) →
      ∀ p : Project Float, (∃ report, (p.applyRules rules).2 = .ok report) ∧
        (p.applyRules rules).1.tracks =
          p.tracks.map fun t => t.mapElements (Rule.allAlone (rules.filter (·.enabled)) t) := by
    intro rules known p
    have accepted := Rule.refused?_none.2 fun r member enabled =>
      Rule.unknownOperators_eq_nil_iff.2 (known r member enabled)
    obtain ⟨report, ran, _⟩ := applyRules_eq accepted p
    rw [ran]
    exact ⟨⟨report, rfl⟩, rfl⟩
  refine ⟨each known, fun p q t u i j k l here there name kind role same => ?_,
    fun reordered order p => ?_⟩
  · simp only [elementAt?, (each known p).2, (each known q).2, List.getElem?_map, here, there,
      Option.map_some, Option.bind_some, Track.elements_mapElements, same,
      Rule.allAlone_congr name kind role]
  · rw [(each known p).2, (each (Rule.known_reordered order known) p).2]
    simp only [Rule.allAlone_reordered order]

/-- Three headlines whose starts are still to be settled. -/
def headlines : Project Float :=
  let headline (id text : String) (start : Float) : Element Float :=
    { id, name := id, start, duration := 2.0, content := .text text, provisional := true }
  let titles : Track Float :=
    { id := "titles", name := "Titles", kind := .text, role := .title, volume := .one
      elements := [headline "short" "Hi" 0.0, headline "early" "A much longer headline" 0.0,
        headline "late" "Another long headline" 10.0] }
  { id := "news", name := "News", canvas := .vertical, tracks := [titles], duration := 12.0
    provenance := { templateId := "t", templateName := "T", generatedAt := ⟨0, 0⟩ } }

/-- A rule for long and early headlines, one of whose actions cannot be carried out; a disabled one;
and one that looks at what the first has made. -/
def headlineRules : List Rule :=
  [{ id := "calm", name := "Calm"
     conditions :=
      [{ field := "textContent.length", operator := .greaterThan, value := .int 10 },
        { field := "startTime", operator := .lessThan, value := .int 5 }]
     actions := [{ kind := .setText, value := some (.str "Later") },
      { kind := .setDuration, value := some (.str "long") },
      { kind := .setStartTime, value := some (.str " 7.5 ") }] },
    { id := "off", name := "Off", enabled := false
      conditions := [{ field := "name", operator := .other "like" }]
      actions := [{ kind := .setHidden }] },
    { id := "hide", name := "Hide"
      conditions := [{ field := "textContent", operator := .equals, value := .str "Later" }]
      actions := [{ kind := .setHidden }] }]

theorem applyRules_headlines :
    (∀ r ∈ headlineRules, r.enabled = true → ∀ c ∈ r.conditions, c.operator.isKnown = true) ∧
    (∃ report, (headlines.applyRules headlineRules).2 = .ok report) ∧
    (headlines.applyRules headlineRules).1.tracks = headlines.tracks.map (fun t =>
      t.mapElements (Rule.allAlone (headlineRules.filter (·.enabled)) t)) ∧
    (headlines.applyRules headlineRules).1.elements.map (fun e => (e.content.text?, e.hidden)) =
      [(some "Hi", false), (some "Later", true), (some "Another long headline", false)] ∧
    (headlines.applyRules headlineRules).1.elementAt? 0 1 =
      (applyRules { headlines with
        tracks := headlines.tracks.map fun t => { t with elements := t.elements.drop 1 }
        duration := 0.0 } headlineRules).1.elementAt? 0 0 ∧
    (headlines.applyRules (headlineRules.map fun r =>
      { r with conditions := r.conditions.reverse })).1.tracks =
      (headlines.applyRules headlineRules).1.tracks := by
  have known : ∀ r ∈ headlineRules, r.enabled = true →
      ∀ c ∈ r.conditions, c.operator.isKnown = true := by decide
  obtain ⟨each, alike, reordered⟩ := applyRules_each headlineRules known
  refine ⟨known, (each headlines).1, (each headlines).2, rfl, ?_, reordered _ ?_ headlines⟩
  · exact alike _ _ _ _ 0 0 1 0 rfl rfl rfl rfl rfl rfl
  · exact List.forall₂_map_right_iff.2
      (List.forall₂_same.2 fun r _ => ⟨_, List.reverse_perm _, rfl⟩)

end Project

end Storyboard
