import Storyboard.Proofs.Batch.Bookkeeping
import Storyboard.Proofs.Interpretation.Completion
import Storyboard.Proofs.Rule.Renaming

/-!
# Rows by themselves

The rows of a batch share a supply of ids, the surroundings of the collaborators and the counters
of the job. What becomes of a row depends on none of these but for the ids in its project and the
time it was made: a row comes to a plan, or to a failure, without looking at them, and projects
built from one plan differ in their ids only.
-/

namespace Storyboard

/-! ## Plans -/

/-- What a project is built from, apart from ids and the time. -/
structure Template.Plan (τ : Type) where
  canvas : Canvas
  name : String
  used : List String
  defaultsApplied : List String
  filled : List (Template.Track τ × List (Filled τ))

namespace Template

variable {τ ω : Type} [Measure τ] {t : Template τ} {c : Collaborators τ ω} {inputs : Inputs τ}
  {known : MediaRef τ → Option (MediaMetadata τ)}

/-- The project built from a plan. -/
def Plan.build (t : Template τ) (now : Instant) (ids : IdSupply) (plan : Plan τ) :
    Project τ × IdSupply :=
  t.build plan.canvas plan.name now plan.used plan.defaultsApplied plan.filled ids

theorem interpretPrepared_planned (t : Template τ) (c : Collaborators τ ω) (prepared : Prepared τ)
    (options : FillOptions τ) : ∃ plan : Except (Failure τ) (Plan τ), ∀ now ids,
      t.interpretPrepared c prepared options now ids = plan.map (Plan.build t now ids) := by
  refine ⟨do
    let unknown := Validation.unknownPlaceholders t
    unless unknown.isEmpty do throw (.inputs unknown)
    let findings := Validation.inputs t.placeholders prepared.inputs
    unless findings.isValid do throw (.inputs findings.errors)
    t.checkKinds prepared.inputs
    let timeline ← Timeline.resolve t options.timelineDuration (durationOf prepared.inputs options)
    let filled ← fillTracks timeline (substitute c prepared.inputs) t.tracks
    return ⟨options.targetCanvas.getD t.canvas, options.projectName.getD t.name, prepared.used,
      prepared.defaultsApplied, filled⟩, fun now ids => ?_⟩
  change _ = Plan.build t now ids <$> _
  unfold interpretPrepared
  simp only [apply_ite (Plan.build t now ids <$> ·), map_bind, map_pure]
  rfl

section

omit [Measure τ]

/-- Looking up inputs with a probe that answers alike in all surroundings comes to the same in all. -/
theorem probeInputs_fixed (fixed : ∀ file w, (c.probe file w).1 = .ok (known file))
    (inputs : Inputs τ) : ∃ learned, ∀ w, (probeInputs c inputs w).1 = .ok learned := by
  refine ⟨inputs.mapValues (Input.informed fun file => .ok (known file)), fun w => ?_⟩
  rcases probeInputs_cases fixed inputs w with ⟨-, done⟩ | ⟨entry, -, fault, failed, -⟩
  · exact done
  · unfold Input.answered at failed
    generalize entry.2.unknown? = unknown at failed
    cases unknown <;> cases failed

end

theorem interpret_planned (fixed : ∀ file w, (c.probe file w).1 = .ok (known file))
    (t : Template τ) (inputs : Inputs τ) (options : FillOptions τ) :
    ∃ plan : Except (Failure τ) (Plan τ), ∀ now ids w,
      (t.interpret c inputs options now ids w).1 = plan.map (Plan.build t now ids) := by
  obtain ⟨learned, probed⟩ := probeInputs_fixed fixed (t.withDefaults inputs)
  obtain ⟨plan, planned⟩ := interpretPrepared_planned t c
    ⟨learned, t.given inputs, (t.defaulted inputs).map (·.1)⟩ options
  refine ⟨plan, fun now ids w => ?_⟩
  have prepared : t.prepare c inputs w =
      (.ok ⟨learned, t.given inputs, (t.defaulted inputs).map (·.1)⟩,
        (t.prepare c inputs w).2) :=
    Prod.ext (by rw [prepare_fst, probed]; rfl) rfl
  rw [interpret, prepared]
  exact planned now ids

end Template

/-! ## Projects of one plan -/

/-- Projects are alike: made from the same ids they are the same, but for when they were made, and
made from other ids they are the same under other ids, where rules do not look at ids. -/
structure Project.Alike (rules : List Rule) (p q : Project Float) : Prop where
  same : p.freshIds = q.freshIds → q = p.madeAt q.provenance.generatedAt
  renamed : (∀ r ∈ rules, r.enabled = true → r.IgnoresIds) → p.freshIds.Nodup →
    ∃ f, q = (p.rename f).madeAt q.provenance.generatedAt

namespace Template

variable {t : Template Float}

/-- Every project of a plan is one project under the ids drawn for it. -/
theorem Plan.build_eq (t : Template Float) (plan : Plan Float) (now : Instant) (ids : IdSupply) :
    (plan.build t now ids).1 =
      ((plan.build t ⟨0, 0⟩ ⟨tally, 0⟩).1.rename fun id => ids.name (ids.used + id.length)).madeAt
        now :=
  build_rename ids.renames_tally _ _ _ _ _ _ _

/-- Projects of one plan are alike, after rules as well. -/
theorem Plan.alike (accepted : Rule.refused? t.rules = none) (plan : Plan Float)
    (now now' : Instant) (ids ids' : IdSupply) :
    Project.Alike t.rules ((plan.build t now ids).1.applyRules t.rules).1
      ((plan.build t now' ids').1.applyRules t.rules).1 := by
  have own : (plan.build t ⟨0, 0⟩ ⟨tally, 0⟩).1.RefersToOwn := refersToOwn_build ..
  rw [plan.build_eq t now ids, plan.build_eq t now' ids']
  generalize (plan.build t ⟨0, 0⟩ ⟨tally, 0⟩).1 = base at own ⊢
  generalize (fun id : String => ids.name (ids.used + id.length)) = f
  generalize (fun id : String => ids'.name (ids'.used + id.length)) = g
  rw [Project.applyRules_madeAt, Project.applyRules_madeAt]
  constructor
  · intro same
    -- Rules may look at ids here, but they see the same ones.
    change ((base.rename f).applyRules t.rules).1.freshIds =
      ((base.rename g).applyRules t.rules).1.freshIds at same
    rw [Project.freshIds_applyRules accepted, Project.freshIds_applyRules accepted,
      Project.freshIds_rename, Project.freshIds_rename] at same
    rw [Project.rename_congr own (List.map_inj_left.1 same)]
    rfl
  · intro ignores distinct
    rw [Project.applyRules_rename ignores, Project.applyRules_rename ignores] at *
    obtain ⟨h, renamed⟩ := Project.exists_rename (g := g)
      (Project.refersToOwn_applyRules accepted own) distinct
    exact ⟨h, by rw [← renamed]; rfl⟩

end Template

namespace Batch

open Template (Plan)

variable {ω : Type} {t : Template Float} {c : Collaborators Float ω} {cancelled : ω → Bool × ω}
  {known : MediaRef Float → Option (MediaMetadata Float)} {job job' : Job}

/-! ## Rows -/

theorem quickProject_planned {τ : Type} [Measure τ] (t : Template τ) (inputs : Inputs τ)
    (name : String) : ∃ plan : Except (Failure τ) (Plan τ), ∀ now ids,
      quickProject t inputs name now ids = plan.map (Plan.build t now ids) := by
  refine ⟨do
    let findings := quickFindings t inputs
    unless findings.isEmpty do throw (.inputs findings)
    let timeline ← Timeline.hinted t none
    let filled ← Template.fillTracks timeline
      (fun track e => (quickContent t inputs track e).map some) t.tracks
    return ⟨t.canvas, name, inputs.keys, defaultsUsed t inputs, filled⟩, fun now ids => ?_⟩
  change _ = Plan.build t now ids <$> _
  unfold quickProject
  simp only [apply_ite (Plan.build t now ids <$> ·), map_bind, map_pure]
  rfl

/-- What becomes of a project that was made, or not. -/
theorem map_settle (made : Except (Failure Float) (Project Float × IdSupply)) :
    ((made.bind t.settle).map fun (p, _, ids) => (p, ids)).map (·.1) =
      made.bind fun made => (t.settle made).map (·.1) := by
  cases made with
  | error failure => rfl
  | ok made => cases settled : t.settle made <;> simp [Except.bind, Except.map, settled]

/-- A row comes to a plan without looking at ids, at the time or at the surroundings. -/
theorem makeRow_planned (fixed : ∀ file w, (c.probe file w).1 = .ok (known file))
    (t : Template Float) (source : DataSource) (mode : Mode) (options : FillOptions Float)
    (row : Row) (name : String) : ∃ plan : Except (Failure Float) (Plan Float), ∀ now ids w,
      (makeRow t source (mode.maker t c options now) row name ids w).1.map (·.1) =
        (plan.map (Plan.build t now ids)).bind fun made => (t.settle made).map (·.1) := by
  unfold makeRow
  cases rowInputs t source row with
  | error failure => exact ⟨.error failure, fun _ _ _ => rfl⟩
  | ok inputs =>
    cases mode with
    | quick =>
      obtain ⟨plan, planned⟩ := quickProject_planned t inputs name
      exact ⟨plan, fun now ids w => by simp only [Mode.maker, quickMaker, planned, map_settle]⟩
    | full =>
      obtain ⟨plan, planned⟩ := Template.interpret_planned fixed t inputs
        { options with projectName := some name }
      exact ⟨plan, fun now ids w => by
        simp only [Mode.maker, fullMaker, Template.interpretWithRules, planned, map_settle]⟩

/-! ## Outcomes -/

/-- Outcomes are alike: of the same row, under the same name, with the same failure or with projects
that are alike. -/
structure Outcome.Alike (rules : List Rule) (o o' : Outcome) : Prop where
  index : o'.rowIndex = o.rowIndex
  name : o'.name = o.name
  failure : ∀ failure, o.result = .error failure ↔ o'.result = .error failure
  project : ∀ p p', o.result = .ok p → o'.result = .ok p' → p.Alike rules p'

/-- What comes of one plan at different times, with different ids. -/
theorem result_alike (plan : Except (Failure Float) (Plan Float)) (now now' : Instant)
    (ids ids' : IdSupply) {result result' : Except (Failure Float) (Project Float)}
    (made : result =
      (plan.map (Plan.build t now ids)).bind fun made => (t.settle made).map (·.1))
    (made' : result' =
      (plan.map (Plan.build t now' ids')).bind fun made => (t.settle made).map (·.1)) :
    (∀ failure, result = .error failure ↔ result' = .error failure) ∧
      ∀ p p', result = .ok p → result' = .ok p' → p.Alike t.rules p' := by
  cases plan with
  | error failure =>
    subst made made'
    exact ⟨fun _ => Iff.rfl, nofun⟩
  | ok plan =>
    subst made made'
    dsimp only [Except.map, Except.bind]
    cases look : Rule.refused? t.rules with
    | some refused =>
      simp only [Template.settle, Project.applyRules_refused look]
      exact ⟨fun _ => trivial, nofun⟩
    | none =>
      obtain ⟨report, ran, _⟩ := Project.applyRules_eq look (plan.build t now ids).1
      obtain ⟨report', ran', _⟩ := Project.applyRules_eq look (plan.build t now' ids').1
      have alike := plan.alike look now now' ids ids'
      rw [ran, ran'] at alike
      simp only [Template.settle, ran, ran']
      exact ⟨fun _ => ⟨nofun, nofun⟩, fun p p' made made' =>
        Except.ok.inj made ▸ Except.ok.inj made' ▸ alike⟩

/-- Without cancellation every row has an outcome. -/
theorem outcome_process (never : ∀ w, (cancelled w).1 = false) (make : Maker ω) (now : Instant)
    (ids : IdSupply) (w : ω) {i : Nat} {row : Row} (found : job.dataSource.rows[i]? = some row) :
    ∃ o, (process job t make cancelled now ids w).1[i]? = some o ∧
      Outcome.Of job t make (row, i) o := by
  have all : job.dataSource.rows.length ≤ (process job t make cancelled now ids w).1.length := by
    unfold process
    generalize done : processRows t make cancelled 0 job.dataSource.rows (start job ids w) = result
    obtain ⟨-, -, stopped⟩ := processRows_noted _ 0 (noted_start job ids w) done
    by_contra fewer
    obtain ⟨w, stop⟩ := stopped (Nat.lt_of_not_le fewer)
    have go := never w
    rw [stop] at go
    cases go
  obtain ⟨bound, -⟩ := List.getElem?_eq_some_iff.1 found
  have here := List.getElem?_eq_getElem (Nat.lt_of_lt_of_le bound all)
  obtain ⟨row', found', outcome⟩ := of_getElem?_process here
  obtain rfl := Option.some.inj (found.symm.trans found')
  exact ⟨_, here, outcome⟩

/-- **Rows are isolated**: in two jobs that fill templates in the same way, whatever their other
rows are and whatever becomes of them, a row has outcomes that are alike, where looking up media
does not fail and answers alike in all surroundings, and nobody cancels. -/
theorem run_isolated (fixed : ∀ file w, (c.probe file w).1 = .ok (known file))
    (never : ∀ w, (cancelled w).1 = false) (mode : job'.mode = job.mode)
    (pattern : job'.namingPattern = job.namingPattern)
    (mappings : job'.dataSource.mappings = job.dataSource.mappings) {i : Nat} {row : Row}
    (found : job.dataSource.rows[i]? = some row) (found' : job'.dataSource.rows[i]? = some row)
    (t : Template Float) (options : FillOptions Float) (now now' : Instant) (ids ids' : IdSupply)
    (w w' : ω) :
    ∃ o o', (run job t c options cancelled now ids w).1[i]? = some o ∧
      (run job' t c options cancelled now' ids' w').1[i]? = some o' ∧ o.Alike t.rules o' := by
  rw [run_eq_process, run_eq_process, mode]
  obtain ⟨o, here, index, name, drawn, state, made⟩ :=
    outcome_process never (job.mode.maker t c options now) now ids w found
  obtain ⟨o', here', index', name', drawn', state', made'⟩ :=
    outcome_process never (job.mode.maker t c options now') now' ids' w' found'
  have sameName : o'.name = o.name := by rw [name, name', pattern]
  have source (make : Maker ω) :
      makeRow t job'.dataSource make = makeRow t job.dataSource make := by
    unfold makeRow rowInputs
    rw [mappings]
  obtain ⟨plan, planned⟩ := makeRow_planned fixed t job.dataSource job.mode options row o.name
  rw [planned] at made
  rw [source, sameName, planned] at made'
  obtain ⟨failure, project⟩ := result_alike plan now now' drawn drawn' made made'
  exact ⟨o, o', here, here', index'.trans index.symm, sameName, failure, project⟩

/-- The last row of a table that was worked on before, after other rows. -/
def replaced : Job :=
  { repeated with dataSource :=
      (DataSource.ofTable ["name"] [[""], ["Zoe"], ["Bob"]]).withMapping "Name" "name" }

theorem run_replaced :
    (∀ (file : MediaRef Float) (w : Unit), (Collaborators.none.probe file w).1 = .ok none) ∧
      repeated.dataSource.rows[2]? = replaced.dataSource.rows[2]? ∧
      (run repeated greeting .none {} (fun w => (false, w)) ⟨0, 0⟩ ⟨Nat.repr, 0⟩ ()).1.map
        (·.failed) = [false, true, false] ∧
      (run replaced greeting .none {} (fun w => (false, w)) ⟨7, 0⟩ ⟨Nat.repr, 9⟩ ()).1.map
        (·.failed) = [true, false, false] ∧
      ∃ o o', (run repeated greeting .none {} (fun w => (false, w)) ⟨0, 0⟩ ⟨Nat.repr, 0⟩ ()).1[2]? =
          some o ∧
        (run replaced greeting .none {} (fun w => (false, w)) ⟨7, 0⟩ ⟨Nat.repr, 9⟩ ()).1[2]? =
          some o' ∧ o.Alike greeting.rules o' := by
  have known : ∀ (file : MediaRef Float) (w : Unit),
      (Collaborators.none.probe file w).1 = .ok none := fun _ _ => rfl
  have found : repeated.dataSource.rows[2]? = some [("name", "Bob")] := rfl
  refine ⟨known, rfl, by decide +kernel, by decide +kernel, ?_⟩
  refine run_isolated known ?_ ?_ ?_ ?_ found ?_ greeting {} ⟨0, 0⟩ ⟨7, 0⟩ _ _ () ()
  · exact fun _ => rfl
  all_goals rfl

end Batch

end Storyboard
