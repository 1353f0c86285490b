import Storyboard.Proofs.Interpretation.Preparation
import Storyboard.Proofs.Validation.Acceptance

/-!
# Only accepted inputs are filled in

A template is filled in with values that its placeholders accept, wherever they come from: given by
the caller, taken from a default, or completed by what was looked up about a file.
-/

namespace Storyboard.Template

variable {ω : Type} {t : Template Float} {c : Collaborators Float ω} {inputs : Inputs Float}

/-- A value that passes both checks, of its constraints and of its kind, is accepted. -/
theorem accepts_of_checks {given : Inputs Float} {p : Placeholder Float} (member : p ∈ t.placeholders)
    (passes : (Validation.inputs t.placeholders given).errors = []) (kinds : t.checkKinds given = .ok ())
    {input : Input Float} (value : given.get? p.id = some input) : p.Accepts input := by
  have kind := checkKinds_ok_iff.1 kinds p member input value
  have silent := errors_inputs_eq_nil_iff.1 passes p member
  -- A value of another kind would not have been looked at here, but the kinds agree.
  rw [Validation.checkFilled, value, Option.some_or] at silent
  simp only [kind, beq_self_eq_true, if_true] at silent
  exact Validation.accepts_iff.2 ⟨kind, silent⟩

/-- A required placeholder that passes has a value among the prepared inputs, not only a default. -/
theorem isSome_of_required {prepared : Prepared Float} {w : ω}
    (done : (t.prepare c inputs w).1 = .ok prepared) {p : Placeholder Float}
    (member : p ∈ t.placeholders)
    (passes : (Validation.inputs t.placeholders prepared.inputs).errors = [])
    (required : p.required = true) : (prepared.inputs.get? p.id).isSome = true := by
  have value := value_of_checkFilled (errors_inputs_eq_nil_iff.1 passes p member) required
  cases given : prepared.inputs.get? p.id with
  | some input => rfl
  | none =>
    rw [given, Option.none_or] at value
    have kept := isSome_withDefaults member value inputs
    rw [← isSome_prepare done, given] at kept
    cases kept

/-- **Only accepted inputs are filled in**: what a template is filled with is, for each placeholder,
a value that it accepts or, where it is not required, none. -/
theorem interpret_accepts {options : FillOptions Float} {now : Instant} {ids : IdSupply} {w : ω}
    {made : Project Float × IdSupply} (done : (t.interpret c inputs options now ids w).1 = .ok made) :
    ∃ prepared, (t.prepare c inputs w).1 = .ok prepared ∧
      t.interpretPrepared c prepared options now ids = .ok made ∧
      ∀ p ∈ t.placeholders,
        (p.required = true → (prepared.inputs.get? p.id).isSome = true) ∧
        ∀ input, prepared.inputs.get? p.id = some input → p.Accepts input := by
  obtain ⟨prepared, ready, filled⟩ := interpret_ok_iff.1 done
  obtain ⟨_, passes, kinds, _⟩ := interpretPrepared_ok_iff.1 filled
  refine ⟨prepared, ready, filled, fun p member => ⟨?_, ?_⟩⟩
  · exact isSome_of_required ready member passes
  · intro input value
    exact accepts_of_checks member passes kinds value

/-- A clip that must be an mp4 file of some seconds, under a headline that has a default. -/
def poster : Template Float :=
  let clip : Element Float :=
    { id := "clip", name := "Clip", timing := .absolute 0.0, duration := .content none none
      content := .placeholder "clip" }
  let headline : Element Float :=
    { id := "headline", name := "Headline", timing := .absolute 0.0, duration := .fixed 2.0
      content := .placeholder "headline" }
  let media : Track Float :=
    { id := "media", name := "Media", kind := .media, role := .mainVideo, elements := [clip] }
  let text : Track Float :=
    { id := "text", name := "Text", kind := .text, role := .title, elements := [headline] }
  { (Template.new "poster" "Poster" .landscape ⟨0, 0⟩ : Template Float) with
    tracks := [media, text]
    placeholders := [
      { id := "clip", name := "Clip", kind := .video, required := true
        constraints := { minDuration := some 2.0, maxDuration := some 8.0, allowedFormats := ["mp4"] } },
      { id := "headline", name := "Headline", kind := .text, required := true
        constraints := { minLength := some 2, maxLength := some 10 }
        default := some (.text "Summer") }] }

/-- Collaborators that know one file. -/
def seaProbe : Collaborators Float Unit :=
  { (Collaborators.none : Collaborators Float Unit) with
    probe := fun file w =>
      (Collaborators.tableProbe [("sea", { duration := some 4.0, format := some "MP4" })] file, w) }

theorem interpret_poster :
    ∃ made prepared,
      (poster.interpret seaProbe [("clip", .video { id := "sea", name := "Sea" })] {} ⟨0, 0⟩
        ⟨Nat.repr, 0⟩ ()).1 = .ok made ∧
      poster.prepare seaProbe [("clip", .video { id := "sea", name := "Sea" })] () =
        (.ok prepared, ()) ∧
      (prepared.inputs.get? "headline").isSome = true ∧
      ∀ p ∈ poster.placeholders, ∀ input, prepared.inputs.get? p.id = some input →
        p.Accepts input := by
  have ordered : poster.orderedPlaceholders = poster.placeholders :=
    List.mergeSort_of_pairwise (by decide)
  obtain ⟨prepared, ready⟩ : ∃ prepared, poster.prepare seaProbe
      [("clip", .video { id := "sea", name := "Sea" })] () = (.ok prepared, ()) := by
    rw [prepare, withDefaults, given, defaulted, ordered]
    exact ⟨_, rfl⟩
  obtain ⟨made, done⟩ : ∃ made, (poster.interpret seaProbe
      [("clip", .video { id := "sea", name := "Sea" })] {} ⟨0, 0⟩ ⟨Nat.repr, 0⟩ ()).1 = .ok made := by
    rw [interpret, prepare, withDefaults, given, defaulted, ordered]
    exact ⟨_, rfl⟩
  obtain ⟨same, ready', _, accepted⟩ := interpret_accepts done
  obtain rfl : prepared = same := Except.ok.inj ((congrArg Prod.fst ready).symm.trans ready')
  refine ⟨made, prepared, done, ready, ?_, fun p member => (accepted p member).2⟩
  exact (accepted _ (List.mem_cons_of_mem _ List.mem_cons_self)).1 rfl

end Storyboard.Template
