import Storyboard.Batch
import Storyboard.Proofs.Interpretation.Structural

/-!
# Structural failures in batches

The rows of a batch without collaborators are filled by other means than a single template is. They,
too, never fail for the sake of a template that is in order.
-/

namespace Storyboard.Batch

variable {τ ω : Type}

/-! ## Inputs from rows -/

theorem cellInput_unstructural (p : Placeholder τ) (value : String) :
    Unstructural (cellInput p value) := by
  unfold cellInput
  split <;> try exact .ok _
  split
  · exact .ok _
  · exact .error not_false

theorem addMapping_unstructural (t : Template τ) (row : Row) (state : Inputs τ × List (Finding τ))
    (mapping : String × String) : Unstructural (addMapping t row state mapping) := by
  unfold addMapping
  dsimp only
  split
  · exact .ok _
  · exact .ok _
  · split <;> exact .ok _
  · exact (cellInput_unstructural _ _).bind fun _ _ => .pure _

/-- All that a mapping finds missing is a value. -/
theorem addMapping_missing {t : Template τ} {row : Row} {state state' : Inputs τ × List (Finding τ)}
    {mapping : String × String} (added : addMapping t row state mapping = .ok state')
    (values : ∀ f ∈ state.2, f.cause.code = .missingRequired) :
    ∀ f ∈ state'.2, f.cause.code = .missingRequired := by
  unfold addMapping at added
  dsimp only at added
  split at added
  · cases added
    exact values
  · cases added
    exact values
  · split at added
    · cases added
      intro f member
      rcases List.mem_append.1 member with member | member
      · exact values f member
      · rw [List.mem_singleton.1 member]
        rfl
    · cases added
      exact values
  · obtain ⟨_, _, made⟩ := bind_ok_iff.1 added
    cases made
    exact values

theorem rowInputs_unstructural (t : Template τ) (source : DataSource) (row : Row) :
    Unstructural (rowInputs t source row) := by
  unfold rowInputs
  refine (FailsOnly.foldlM (fun mapping _ state =>
    addMapping_unstructural t row state mapping) _).bind fun state done => ?_
  have values : ∀ f ∈ state.2, f.cause.code = .missingRequired :=
    foldlM_preserves (fun _ _ _ _ values added => addMapping_missing added values)
      (by simp) done
  dsimp only
  split
  · exact .pure _
  · refine FailsOnly.throw_bind ?_
    rintro ⟨f, member, code⟩
    rw [values f member] at code
    cases code

/-! ## Projects without collaborators -/

theorem quickContent_unstructural (t : Template τ) (inputs : Inputs τ) (track : TrackKind)
    (e : Template.Element τ) : Unstructural (quickContent t inputs track e) := by
  unfold quickContent
  split
  · split
    · exact Template.coerce_unstructural _ _ track
    · exact .ok _
  · exact .ok _
  · exact .ok _
  · exact .ok _

theorem makeRow_failsOnly {P : Failure Float → Prop} {t : Template Float} {source : DataSource}
    {make : Maker ω} {row : Row} (inputs : FailsOnly P (rowInputs t source row))
    (makes : ∀ inputs name ids w, FailsOnly P (make inputs name ids w).1) (name : String)
    (ids : IdSupply) (w : ω) : FailsOnly P (makeRow t source make row name ids w).1 := by
  unfold makeRow
  split
  · exact makes _ name ids w
  · next failed => exact .error (inputs _ failed)

theorem processRows_failsOnly {P : Failure Float → Prop} {t : Template Float} {make : Maker ω}
    {cancelled : ω → Bool × ω}
    (each : ∀ source row name ids w, FailsOnly P (makeRow t source make row name ids w).1)
    (rows : List Row) (index : Nat) (work : Work ω) :
    ∀ o ∈ (processRows t make cancelled index rows work).1, FailsOnly P o.result := by
  induction rows generalizing index work with
  | nil => intro o member; cases member
  | cons row rest ih =>
    unfold processRows
    split
    · intro o member; cases member
    · intro o member
      rcases List.mem_cons.1 member with rfl | later
      · exact .map _ (each _ row _ _ _)
      · exact ih _ _ o later

theorem process_failsOnly {P : Failure Float → Prop} (job : Job) (t : Template Float)
    (inputs : ∀ source row, FailsOnly P (rowInputs t source row)) {make : Maker ω}
    (makes : ∀ inputs name ids w, FailsOnly P (make inputs name ids w).1) (cancelled : ω → Bool × ω)
    (now : Instant) (ids : IdSupply) (w : ω) :
    ∀ o ∈ (process job t make cancelled now ids w).1, FailsOnly P o.result :=
  processRows_failsOnly (fun source row => makeRow_failsOnly (inputs source row) makes) _ _ _

/-- A headline from a placeholder, and a closing that follows it and that a rule changes. -/
def greeting : Template Float :=
  let headline : Template.Element Float :=
    { id := "headline", name := "Headline", timing := .absolute 0.0
      duration := .content none (some 3.0), content := .placeholder "name" }
  let closing : Template.Element Float :=
    { id := "closing", name := "Closing", timing := .relative "headline" 0.5 .finish
      duration := .fillGap none, content := .fixed (some "Bye") none }
  let text : Template.Track Float :=
    { id := "text", name := "Text", kind := .text, role := .title, elements := [headline, closing] }
  let polite : Rule :=
    { id := "polite", name := "Polite"
      conditions := [{ field := "name", operator := .equals, value := .str "Closing" }]
      actions := [{ kind := .setText, value := some (.str "Goodbye") }] }
  { (Template.new "greeting" "Greeting" .vertical ⟨0, 0⟩ : Template Float) with
    tracks := [text], rules := [polite]
    placeholders := [{ id := "name", name := "Name", kind := .text, required := true }] }

/-- Two rows, the second of which has no name. -/
def greetings : Job :=
  { id := "greetings", name := "Greetings", templateId := "greeting"
    dataSource := (DataSource.ofTable ["name"] [["Ann"], [""]]).withMapping "Name" "name"
    createdAt := ⟨0, 0⟩ }

end Storyboard.Batch
