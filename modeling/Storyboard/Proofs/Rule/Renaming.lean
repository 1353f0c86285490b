import Storyboard.Proofs.Project.Renaming
import Storyboard.Proofs.Rule.Effects
import Storyboard.Proofs.Text.Parts

/-!
# Rules and ids

A rule sees the id of an element in its view like any other field. Rules none of whose conditions
look at it are carried out in the same way under other ids: what they make of a project that was
renamed is what they make of the project, renamed. What the project remembers, such as when it was
made, they never see.
-/

namespace Storyboard

open Json
open Project (Element Track)

/-! ## Conditions -/

/-- Whether a condition looks at the id of an element: whether its path starts there. -/
def Condition.looksAtId (c : Condition) : Bool :=
  (Text.splitAll '.' c.field.toList).head? == some "id".toList

/-- No condition of a rule looks at ids. -/
def Rule.IgnoresIds (r : Rule) : Prop := ∀ c ∈ r.conditions, c.looksAtId = false

instance : DecidablePred Rule.IgnoresIds := fun r =>
  inferInstanceAs (Decidable (∀ c ∈ r.conditions, c.looksAtId = false))

theorem Keyed.get?_foldl_insert_congr {α : Type} {key : String} (added : List (String × α))
    {a b : Keyed α} (same : a.get? key = b.get? key) :
    get? (added.foldl (fun kept (k, v) => insert k v kept) a) key =
      get? (added.foldl (fun kept (k, v) => insert k v kept) b) key := by
  induction added generalizing a b with
  | nil => exact same
  | cons entry rest ih =>
    refine ih ?_
    rw [get?_insert, get?_insert, same]

/-- A value is not looked at under another key. -/
theorem Keyed.get?_ofList_cons {α : Type} {key other : String} (ne : key ≠ other) (a b : α)
    (added : List (String × α)) :
    get? (ofList ((other, a) :: added)) key = get? (ofList ((other, b) :: added)) key := by
  refine get?_foldl_insert_congr added ?_
  rw [get?_insert, get?_insert, if_neg ne, if_neg ne]

variable {f : String → String}

/-- The fields by which rules see an element, all but its id. -/
def Project.Element.shown (track : Track Float) (e : Element Float) : List (String × Json) :=
  e.fields.tail
  ++ opt "textContent" .str e.content.text?
  ++ [("trackRole", .str track.role.name), ("trackType", .str track.kind.name),
    ("trackName", .str track.name), ("endTime", number e.finish)]

theorem Project.Element.view_eq (track : Track Float) (e : Element Float) :
    e.view track = .obj (Keyed.ofList (("id", .str e.id) :: e.shown track)) := rfl

/-- Under another id an element looks the same but for its id. -/
theorem step_view_rename {key : String} (other : key ≠ "id") (track : Track Float)
    (e : Element Float) :
    ((e.rename f).view (track.rename f)).step key = (e.view track).step key := by
  have same : (e.rename f).shown (track.rename f) = e.shown track := rfl
  rw [Element.view_eq, Element.view_eq, same]
  exact Keyed.get?_ofList_cons other _ _ _

theorem resolve_view_rename {c : Condition} (ignores : c.looksAtId = false) (track : Track Float)
    (e : Element Float) :
    ((e.rename f).view (track.rename f)).resolve c.field = (e.view track).resolve c.field := by
  unfold resolve
  unfold Condition.looksAtId at ignores
  cases steps : Text.splitAll '.' c.field.toList with
  | nil => exact absurd steps (Text.splitAll_ne_nil _ _)
  | cons first rest =>
    have other : String.ofList first ≠ "id" := by
      intro same
      rw [steps, List.head?_cons, ← same, String.toList_ofList, beq_self_eq_true] at ignores
      cases ignores
    rw [List.map_cons, List.foldlM_cons, List.foldlM_cons, step_view_rename other]

theorem allHold_rename {ruleId : String} {conditions : List Condition}
    (ignores : ∀ c ∈ conditions, c.looksAtId = false) (track : Track Float) (e : Element Float) :
    Condition.allHold ruleId ((e.rename f).view (track.rename f)) conditions =
      Condition.allHold ruleId (e.view track) conditions := by
  induction conditions with
  | nil => rfl
  | cons c rest ih =>
    have first : c.holds ruleId ((e.rename f).view (track.rename f)) =
        c.holds ruleId (e.view track) := by
      unfold Condition.holds
      rw [resolve_view_rename (ignores c List.mem_cons_self)]
    rw [Condition.allHold, Condition.allHold, first,
      ih fun c member => ignores c (List.mem_cons_of_mem _ member)]

/-! ## Actions -/

theorem carryOut_rename (a : Action) (e : Element Float) :
    a.carryOut (e.rename f) = (a.carryOut e).map (·.rename f) := by
  unfold Action.carryOut
  split
  · split
    · rw [Option.map_map]
      rfl
    · rfl
  · have content : (e.rename f).content = e.content := rfl
    rw [content]
    cases e.content <;> rfl
  · rfl
  · rw [Option.map_map]
    rfl
  · rw [Option.map_map]
    rfl
  · rfl

namespace Rule

/-- The report with the elements renamed. -/
def Report.rename (f : String → String) (report : Report) : Report :=
  { report with effects := report.effects.map (·.rename f) }

theorem ignore_rename (report : Report) (name : String) :
    (report.rename f).ignore name = (report.ignore name).rename f := by
  unfold Report.ignore
  change (if report.ignored.contains name then _ else _) = _
  split <;> rfl

variable {r : Rule}

/-- **An action** does under another id what it does. -/
theorem act_rename (r : Rule) (a : Action) (e : Element Float) (report : Report) :
    r.act (e.rename f, report.rename f) a =
      ((r.act (e, report) a).1.rename f, (r.act (e, report) a).2.rename f) := by
  simp only [act, carryOut_rename]
  cases a.carryOut e with
  | some changed => simp [Report.rename, effect, Effect.rename, Element.rename]
  | none =>
    cases a.kind with
    | other name => exact congrArg (e.rename f, ·) (ignore_rename report name)
    | _ => rfl

theorem foldl_act_rename (r : Rule) (actions : List Action) (e : Element Float) (report : Report) :
    actions.foldl r.act (e.rename f, report.rename f) =
      ((actions.foldl r.act (e, report)).1.rename f,
        (actions.foldl r.act (e, report)).2.rename f) := by
  induction actions generalizing e report with
  | nil => rfl
  | cons a rest ih => rw [List.foldl_cons, act_rename, ih, List.foldl_cons]

/-! ## Runs -/

theorem onElement_rename (ignores : r.IgnoresIds) (track : Track Float) (e : Element Float)
    (report : Report) :
    r.onElement (track.rename f) (e.rename f) (report.rename f) =
      (r.onElement track e report).map fun (e, report) => (e.rename f, report.rename f) := by
  unfold onElement
  rw [allHold_rename ignores]
  cases Condition.allHold r.id (e.view track) r.conditions with
  | error failure => rfl
  | ok holds =>
    cases holds with
    | false => rfl
    | true =>
      exact congrArg Except.ok
        (foldl_act_rename r r.actions e { report with hits := report.hits + 1 })

theorem onElements_rename (ignores : r.IgnoresIds) (track : Track Float) (es : List (Element Float))
    (report : Report) :
    r.onElements (track.rename f) (es.map (·.rename f)) (report.rename f) =
      ((r.onElements track es report).1.map (·.rename f),
        (r.onElements track es report).2.map (·.rename f)) := by
  induction es generalizing report with
  | nil => rfl
  | cons e rest ih =>
    rw [List.map_cons, onElements, onElements, onElement_rename ignores]
    cases r.onElement track e report with
    | error failure => rfl
    | ok tried =>
      dsimp only [Except.map]
      rw [ih]
      rfl

theorem onTracks_rename (ignores : r.IgnoresIds) (tracks : List (Track Float)) (report : Report) :
    r.onTracks (tracks.map (·.rename f)) (report.rename f) =
      ((r.onTracks tracks report).1.map (·.rename f),
        (r.onTracks tracks report).2.map (·.rename f)) := by
  induction tracks generalizing report with
  | nil => rfl
  | cons t rest ih =>
    have elements : (t.rename f).elements = t.elements.map (·.rename f) := rfl
    rw [List.map_cons, onTracks, onTracks, elements, onElements_rename ignores]
    obtain ⟨elements, result⟩ := r.onElements t t.elements report
    cases result with
    | error failure => rfl
    | ok report =>
      dsimp only [Except.map]
      rw [ih]
      rfl

/-- **A run** of rules that do not look at ids does under other ids what it does. -/
theorem runAll_rename {rules : List Rule}
    (ignores : ∀ r ∈ rules, r.enabled = true → r.IgnoresIds) (tracks : List (Track Float))
    (report : Report) :
    runAll rules (tracks.map (·.rename f)) (report.rename f) =
      ((runAll rules tracks report).1.map (·.rename f),
        (runAll rules tracks report).2.map (·.rename f)) := by
  induction rules generalizing tracks report with
  | nil => rfl
  | cons r rest ih =>
    have later := ih fun r member => ignores r (List.mem_cons_of_mem _ member)
    unfold runAll
    split
    · next enabled =>
      have first := onTracks_rename (f := f) (ignores r List.mem_cons_self enabled) tracks
        { report with evaluated := report.evaluated + 1 }
      rw [show ({ report.rename f with evaluated := (report.rename f).evaluated + 1 } : Report) =
        ({ report with evaluated := report.evaluated + 1 } : Report).rename f from rfl, first]
      obtain ⟨tracks, result⟩ := r.onTracks tracks { report with evaluated := report.evaluated + 1 }
      cases result with
      | error failure => rfl
      | ok report => exact later tracks report
    · exact later tracks { report with skipped := report.skipped ++ [r.id] }

end Rule

namespace Project

variable {p : Project Float} {rules : List Rule}

theorem applyRules_rename (ignores : ∀ r ∈ rules, r.enabled = true → r.IgnoresIds)
    (p : Project Float) :
    (p.rename f).applyRules rules =
      ((p.applyRules rules).1.rename f, (p.applyRules rules).2.map (·.rename f)) := by
  unfold applyRules
  split
  · rfl
  · have run : Rule.runAll rules (p.rename f).tracks {} = _ :=
      Rule.runAll_rename (f := f) ignores p.tracks {}
    rw [run]
    obtain ⟨tracks, result⟩ := Rule.runAll rules p.tracks {}
    cases result with
    | error failure => rfl
    | ok report =>
      simp [Except.map, rename, withDuration, Template.finish_rename, Rule.Report.rename]

/-- Rules do not look at what a project remembers: they add their effects to it, whatever it is. -/
theorem applyRules_remembering (g : Provenance → Provenance)
    (adds : ∀ (m : Provenance) effects, g { m with effects := m.effects ++ effects } =
      { g m with effects := (g m).effects ++ effects })
    (p : Project Float) (rules : List Rule) :
    ({ p with provenance := g p.provenance } : Project Float).applyRules rules =
      ({ (p.applyRules rules).1 with provenance := g (p.applyRules rules).1.provenance },
        (p.applyRules rules).2) := by
  unfold applyRules
  split
  · rfl
  · dsimp only
    cases Rule.runAll rules p.tracks {} with
    | mk tracks result =>
      cases result with
      | error failure => rfl
      | ok report =>
        dsimp only [withDuration]
        rw [adds]

theorem applyRules_madeAt (p : Project Float) (now : Instant) (rules : List Rule) :
    (p.madeAt now).applyRules rules =
      ((p.applyRules rules).1.madeAt now, (p.applyRules rules).2) :=
  applyRules_remembering (fun m => { m with generatedAt := now }) (fun _ _ => rfl) p rules

theorem freshIds_applyRules (accepted : Rule.refused? rules = none) (p : Project Float) :
    (p.applyRules rules).1.freshIds = p.freshIds := by
  obtain ⟨report, ran, _⟩ := applyRules_eq accepted p
  rw [ran]
  simp [freshIds, withDuration, List.flatMap_map, Track.mapElements, Function.comp_def,
    (Rule.told_allAlone _ _ _).id]

/-- What rules record is about elements of the project. -/
theorem refersToOwn_applyRules (accepted : Rule.refused? rules = none) (own : p.RefersToOwn) :
    (p.applyRules rules).1.RefersToOwn := by
  obtain ⟨report, ran, recorded⟩ := applyRules_eq accepted p
  have ids := Rule.map_id_allAlone (rules.filter (·.enabled)) p.tracks
  rw [ran]
  refine ⟨fun entry member => ids ▸ own.elementIds entry member, fun f member => ids ▸ ?_⟩
  rcases List.mem_append.1 member with before | added
  · exact own.effects f before
  · obtain ⟨t, here, e, inside, effect⟩ := (recorded f).1 added
    rw [Rule.elementId_allEffectsAlone effect]
    exact List.mem_map_of_mem (List.mem_flatMap.2 ⟨t, here, inside⟩)

end Project

end Storyboard
