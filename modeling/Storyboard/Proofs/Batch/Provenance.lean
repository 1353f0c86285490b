import Mathlib.Data.List.Lemmas
import Storyboard.Proofs.Batch.Bookkeeping
import Storyboard.Proofs.Interpretation.Settlement

/-!
# Inputs and defaults in what a project remembers

A project remembers which placeholders were filled by inputs and which by their defaults. With
collaborators no placeholder is among both. Without them every input of a row is remembered, also
one that cannot be used as it is, although the default is shown in its place.
-/

namespace Storyboard

/-- No placeholder is remembered both as filled by an input and as filled by its default. -/
def Project.Consistent {τ : Type} (p : Project τ) : Prop :=
  p.provenance.placeholdersUsed.Disjoint p.provenance.defaultsApplied

/-- Rules add effects to what a project remembers, and nothing else. -/
theorem Project.provenance_applyRules {p : Project Float} {rules : List Rule} {report : Rule.Report}
    (done : (p.applyRules rules).2 = .ok report) :
    (p.applyRules rules).1.provenance =
      { p.provenance with effects := p.provenance.effects ++ report.effects } := by
  rw [(applyRules_ok done).1]
  rfl

namespace Template

theorem provenance_settle {t : Template Float} {p q : Project Float} {report : Rule.Report}
    {ids left : IdSupply} (settled : t.settle (p, ids) = .ok (q, report, left)) :
    q.provenance = { p.provenance with effects := p.provenance.effects ++ report.effects } := by
  obtain ⟨carried, -⟩ := settle_ok_iff.1 settled
  have kept := Project.provenance_applyRules (congrArg Prod.snd carried)
  rwa [carried] at kept

/-! ## With collaborators -/

variable {ω : Type}

theorem consistent_interpret {τ : Type} [Measure τ] {t : Template τ} {c : Collaborators τ ω}
    {inputs : Inputs τ} {options : FillOptions τ} {now : Instant} {ids left : IdSupply} {w : ω}
    {p : Project τ} (done : (t.interpret c inputs options now ids w).1 = .ok (p, left)) :
    p.Consistent := by
  obtain ⟨prepared, ready, filled⟩ := interpret_ok_iff.1 done
  obtain ⟨-, -, -, timeline, kept, -, -, made⟩ := interpretPrepared_ok_iff.1 filled
  unfold prepare at ready
  split at ready
  · cases ready
  · cases ready
    obtain rfl : _ = p := congrArg Prod.fst made
    exact disjoint_given t inputs

theorem consistent_interpretWithRules {t : Template Float} {c : Collaborators Float ω}
    {inputs : Inputs Float} {options : FillOptions Float} {now : Instant} {ids left : IdSupply}
    {w : ω} {p : Project Float} {report : Rule.Report}
    (done : (t.interpretWithRules c inputs options now ids w).1 = .ok (p, report, left)) :
    p.Consistent := by
  obtain ⟨⟨made, drawn⟩, interpreted, settled⟩ := bind_ok_iff.1 done
  rw [Project.Consistent, provenance_settle settled]
  exact consistent_interpret interpreted

end Template

/-! ## Rows -/

namespace Batch

variable {ω : Type} {t : Template Float}

theorem consistent_full {c : Collaborators Float ω} {options : FillOptions Float}
    {source : DataSource} {row : Row} {name : String} {now : Instant} {ids left : IdSupply} {w : ω}
    {p : Project Float}
    (made : (makeRow t source (fullMaker t c options now) row name ids w).1 = .ok (p, left)) :
    p.Consistent := by
  unfold makeRow at made
  split at made
  · obtain ⟨⟨p, report, rest⟩, filled, same⟩ := map_ok_iff.1 made
    obtain ⟨rfl, rfl⟩ := Prod.mk.inj same
    exact Template.consistent_interpretWithRules filled
  · cases made

/-- The default of a placeholder is shown in place of an input that cannot be used as it is. -/
def Overridden {τ : Type} (t : Template τ) (inputs : Inputs τ) (id : String) : Prop :=
  (∃ e ∈ t.elements, e.content = .placeholder id) ∧
    (∃ input, inputs.get? id = some input ∧ isQuick input = false) ∧
    (quickDefault? t id).isSome = true

theorem mem_foldl_once {ids kept : List String} {id : String} :
    id ∈ ids.foldl (fun kept id => if kept.contains id then kept else kept ++ [id]) kept ↔
      id ∈ kept ∨ id ∈ ids := by
  induction ids generalizing kept with
  | nil => simp
  | cons first rest ih =>
    rw [List.foldl_cons, ih, List.mem_cons, ← or_assoc]
    refine or_congr_left ?_
    split
    · next known =>
      have member : first ∈ kept := by simpa using known
      exact (or_iff_left_of_imp fun same => same ▸ member).symm
    · rw [List.mem_append, List.mem_singleton]

theorem mem_defaultsUsed {τ : Type} {t : Template τ} {inputs : Inputs τ} {id : String} :
    id ∈ defaultsUsed t inputs ↔ (∃ e ∈ t.elements, e.content = .placeholder id) ∧
      ((inputs.get? id).filter isQuick).isNone = true ∧ (quickDefault? t id).isSome = true := by
  have used (e : Template.Element τ) : defaultUsed? t inputs e = some id ↔
      e.content = .placeholder id ∧ ((inputs.get? id).filter isQuick).isNone = true ∧
        (quickDefault? t id).isSome = true := by
    unfold defaultUsed?
    split
    · next other shown =>
      rw [shown, Template.Content.placeholder.injEq]
      by_cases same : other = id
      · subst same
        simp [Option.isSome_iff_ne_none]
      · simp [same]
    · next other => simpa using fun shown => absurd shown (other id)
  simp only [defaultsUsed, mem_foldl_once, List.not_mem_nil, false_or, List.mem_filterMap, used]
  constructor
  · rintro ⟨e, member, shown, rest⟩
    exact ⟨⟨e, member, shown⟩, rest⟩
  · rintro ⟨⟨e, member, shown⟩, rest⟩
    exact ⟨e, member, shown, rest⟩

/-- What is remembered of a row that was filled without collaborators. -/
theorem provenance_quick {source : DataSource} {row : Row} {name : String} {now : Instant}
    {ids : IdSupply} {w : ω} {p : Project Float} {left : IdSupply}
    (made : (makeRow t source (quickMaker t now) row name ids w).1 = .ok (p, left)) :
    ∃ inputs, rowInputs t source row = .ok inputs ∧
      p.provenance.placeholdersUsed = inputs.keys ∧
      p.provenance.defaultsApplied = defaultsUsed t inputs := by
  obtain ⟨inputs, ⟨before, drawn⟩, report, read, quick, settled⟩ := makeRow_quick_ok made
  obtain ⟨timeline, filled, -, -, built⟩ := quickProject_ok quick
  refine ⟨inputs, read, ?_⟩
  rw [Template.provenance_settle settled]
  obtain rfl : _ = before := congrArg Prod.fst built
  exact ⟨rfl, rfl⟩

theorem overridden_iff {inputs : Inputs Float} {id : String} :
    id ∈ inputs.keys ∧ id ∈ defaultsUsed t inputs ↔ Overridden t inputs id := by
  rw [Keyed.mem_keys, mem_defaultsUsed, Overridden]
  cases inputs.get? id with
  | none => simp
  | some input => cases isQuick input <;> simp [Option.filter, *]

/-- What a project remembers that was made of the row at a place of a job. -/
structure Remembered (job : Job) (t : Template Float) (i : Nat) (p : Project Float) : Prop where
  full : job.mode = .full → p.Consistent
  quick : job.mode = .quick → ∃ row inputs, job.dataSource.rows[i]? = some row ∧
    rowInputs t job.dataSource row = .ok inputs ∧ ∀ id,
      id ∈ p.provenance.placeholdersUsed ∧ id ∈ p.provenance.defaultsApplied ↔
        Overridden t inputs id

/-- **Inputs and defaults exclude each other** in what projects remember that were made with
collaborators. Made from a row without them, a project remembers a placeholder twice just where the
default of the placeholder is shown in place of an input that cannot be used as it is. -/
theorem remembered_once (t : Template Float) (c : Collaborators Float ω)
    (options : FillOptions Float) (now : Instant) (ids : IdSupply) (w : ω) :
    (∀ inputs p left, (t.interpret c inputs options now ids w).1 = .ok (p, left) →
      p.Consistent) ∧
    (∀ inputs p report left,
      (t.interpretWithRules c inputs options now ids w).1 = .ok (p, report, left) →
        p.Consistent) ∧
    ∀ job cancelled, ∀ o ∈ (run job t c options cancelled now ids w).1, ∀ p,
      o.result = .ok p → Remembered job t o.rowIndex p := by
  refine ⟨fun inputs p left => Template.consistent_interpret,
    fun inputs p report left => Template.consistent_interpretWithRules, ?_⟩
  intro job cancelled o member p done
  obtain ⟨i, here⟩ := List.mem_iff_getElem?.1 member
  rw [run_eq_process] at here
  obtain ⟨row, found, index, -, drawn, state, made⟩ := of_getElem?_process here
  obtain ⟨⟨q, left⟩, made, rfl⟩ := map_ok_iff.1 (made.symm.trans done)
  refine ⟨fun mode => ?_, fun mode => ?_⟩
  · rw [mode] at made
    exact consistent_full made
  · rw [mode] at made
    obtain ⟨inputs, read, used, defaults⟩ := provenance_quick made
    refine ⟨row, inputs, index ▸ found, read, fun id => ?_⟩
    rw [used, defaults]
    exact overridden_iff

/-- A caption in a color that has a default. -/
def tinted : Template Float :=
  let caption : Template.Element Float :=
    { id := "caption", name := "Caption", timing := .absolute 0.0, duration := .fixed 2.0
      content := .placeholder "tint" }
  let text : Template.Track Float :=
    { id := "text", name := "Text", kind := .text, role := .title, elements := [caption] }
  { (Template.new "tinted" "Tinted" .landscape ⟨0, 0⟩ : Template Float) with
    tracks := [text]
    placeholders := [{ id := "tint", name := "Tint", kind := .color
                       default := some (.color "#00ff00") }] }

/-- A row with a color of its own. -/
def shades : Job :=
  { id := "shades", name := "Shades", templateId := "tinted"
    dataSource := (DataSource.ofTable ["shade"] [["#ff0000"]]).withMapping "Tint" "shade"
    createdAt := ⟨0, 0⟩ }

/-- What is remembered of the row. -/
theorem result_shades :
    ∃ o ∈ (run shades tinted .none {} (fun w => (false, w)) ⟨0, 0⟩ ⟨Nat.repr, 0⟩ ()).1, ∃ p,
      o.result = .ok p ∧ p.provenance.placeholdersUsed = ["tint"] ∧
        p.provenance.defaultsApplied = ["tint"] := by
  have remembered : (run shades tinted .none {} (fun w => (false, w)) ⟨0, 0⟩ ⟨Nat.repr, 0⟩ ()).1.any
      (fun o => o.result.toOption.any fun p => p.provenance.placeholdersUsed == ["tint"] &&
        p.provenance.defaultsApplied == ["tint"]) = true := by decide +kernel
  obtain ⟨o, member, remembered⟩ := List.any_eq_true.1 remembered
  obtain ⟨p, given, remembered⟩ := (Option.any_eq_true _ _).1 remembered
  have made : o.result = .ok p := by
    cases result : o.result with
    | error failure =>
      rw [result] at given
      cases given
    | ok q =>
      rw [result] at given
      exact congrArg Except.ok (Option.some.inj given)
  rw [Bool.and_eq_true, beq_iff_eq, beq_iff_eq] at remembered
  exact ⟨o, member, p, made, remembered⟩

theorem remembered_shades :
    (∃ p left, (tinted.interpret .none [] {} ⟨0, 0⟩ ⟨Nat.repr, 0⟩ ()).1 = .ok (p, left) ∧
        p.Consistent) ∧
      (∃ p report left, (tinted.interpretWithRules .none [("tint", .color "#ff0000")] {} ⟨0, 0⟩
        ⟨Nat.repr, 0⟩ ()).1 = .ok (p, report, left) ∧ p.Consistent) ∧
      ∃ o ∈ (run shades tinted .none {} (fun w => (false, w)) ⟨0, 0⟩ ⟨Nat.repr, 0⟩ ()).1, ∃ p,
        o.result = .ok p ∧ Remembered shades tinted o.rowIndex p ∧
        Overridden tinted [("tint", .color "#ff0000")] "tint" := by
  obtain ⟨filled, settled, rows⟩ :=
    remembered_once tinted .none {} ⟨0, 0⟩ ⟨Nat.repr, 0⟩ ()
  obtain ⟨⟨p, left⟩, made⟩ := isOk_iff.1 (show (tinted.interpret .none [] {} ⟨0, 0⟩ ⟨Nat.repr, 0⟩
    ()).1.isOk = true by decide +kernel)
  obtain ⟨⟨q, report, rest⟩, carried⟩ := isOk_iff.1 (show (tinted.interpretWithRules .none
    [("tint", .color "#ff0000")] {} ⟨0, 0⟩ ⟨Nat.repr, 0⟩ ()).1.isOk = true by decide +kernel)
  obtain ⟨o, member, r, result, -⟩ := result_shades
  exact ⟨⟨p, left, made, filled _ p left made⟩,
    ⟨q, report, rest, carried, settled _ q report rest carried⟩, o, member, r, result,
    rows shades _ o member r result, ⟨_, List.mem_cons_self, rfl⟩, ⟨_, rfl, rfl⟩, rfl⟩

/-- The color of the row is not shown, and its placeholder is remembered twice. -/
theorem not_consistent_shades :
    ∃ o ∈ (run shades tinted .none {} (fun w => (false, w)) ⟨0, 0⟩ ⟨Nat.repr, 0⟩ ()).1,
      ∃ p, o.result = .ok p ∧ ¬ p.Consistent := by
  obtain ⟨o, member, p, made, used, defaults⟩ := result_shades
  refine ⟨o, member, p, made, fun consistent => ?_⟩
  rw [Project.Consistent, used, defaults] at consistent
  exact consistent List.mem_cons_self List.mem_cons_self

end Batch

end Storyboard
