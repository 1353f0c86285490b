import Mathlib.Data.Option.Basic
import Storyboard.Proofs.Interpretation.Filling

/-!
# Prepared inputs

What becomes of the inputs before a template is filled: a placeholder without an input gets its
default, and of a media file about which nothing is known some data may come to be known. Nothing
else changes, and nothing is lost.
-/

namespace Storyboard

variable {τ ω : Type}

/-- An input after media were looked up: it is as it was, but for what has come to be known of a file
about which nothing was known. -/
def Input.Learned (before after : Input τ) : Prop :=
  after = before ∨ ∃ file found, before.media? = some file ∧ file.metadata = none ∧
    after = before.mapMedia ({ · with metadata := some found })

namespace Template

variable {t : Template τ} {inputs : Inputs τ} {c : Collaborators τ ω}

/-- A placeholder with a default has a value after defaults are added. -/
theorem isSome_withDefaults {p : Placeholder τ} (member : p ∈ t.placeholders)
    (default : p.default.isSome = true) (inputs : Inputs τ) :
    ((t.withDefaults inputs).get? p.id).isSome = true := by
  rw [withDefaults, Keyed.isSome_get?_foldl_insert]
  cases given : inputs.get? p.id with
  | some input => exact .inr rfl
  | none =>
    obtain ⟨value, known⟩ := Option.isSome_iff_exists.1 default
    exact .inl (List.mem_map_of_mem (mem_defaulted.2 ⟨given, p, member, rfl, known⟩))

/-- A placeholder with an input does not take its default. -/
theorem disjoint_given (t : Template τ) (inputs : Inputs τ) :
    (t.given inputs).Disjoint ((t.defaulted inputs).map (·.1)) := by
  intro id used defaulted
  obtain ⟨⟨id, value⟩, member, rfl⟩ := List.mem_map.1 defaulted
  obtain ⟨p, listed, rfl⟩ := List.mem_map.1 used
  have present := (List.mem_filter.1 listed).2
  rw [Keyed.has, (mem_defaulted.1 member).1] at present
  cases present

theorem probeInput_learned {input after : Input τ} {w w' : ω}
    (done : probeInput c input w = (.ok after, w')) : input.Learned after := by
  unfold probeInput at done
  split at done
  · cases done
    exact .inl rfl
  · next file asked =>
    obtain ⟨media, unknown⟩ := Option.filter_eq_some_iff.1 asked
    split at done
    · cases done
    · cases done
      exact .inl rfl
    · next found _ _ =>
      cases done
      exact .inr ⟨file, found, media, Option.isNone_iff_eq_none.1 unknown, rfl⟩

/-- Looking up media keeps every input in its place. -/
theorem probeInputs_learned {after : Inputs τ} {w w' : ω}
    (done : probeInputs c inputs w = (.ok after, w')) :
    List.Forall₂ (fun a b => b.1 = a.1 ∧ a.2.Learned b.2) inputs after := by
  induction inputs generalizing after w with
  | nil =>
    cases done
    exact .nil
  | cons entry rest ih =>
    obtain ⟨id, input⟩ := entry
    unfold probeInputs at done
    split at done
    · cases done
    · next first =>
      split at done
      · cases done
      · next later =>
        cases done
        exact .cons ⟨rfl, probeInput_learned first⟩ (ih later)

/-- **Preparing inputs** keeps what was given, adds defaults, and learns about files. -/
theorem prepare_learned {prepared : Prepared τ} {w : ω}
    (done : (t.prepare c inputs w).1 = .ok prepared) (id : String) :
    Option.Rel Input.Learned ((t.withDefaults inputs).get? id) (prepared.inputs.get? id) := by
  unfold prepare at done
  split at done
  · cases done
  · next probed =>
    cases done
    exact Keyed.get?_forall₂ (R := fun _ => Input.Learned) (probeInputs_learned probed) id

theorem isSome_prepare {prepared : Prepared τ} {w : ω}
    (done : (t.prepare c inputs w).1 = .ok prepared) (id : String) :
    (prepared.inputs.get? id).isSome = ((t.withDefaults inputs).get? id).isSome := by
  have learned := prepare_learned done id
  generalize (t.withDefaults inputs).get? id = before at learned ⊢
  generalize prepared.inputs.get? id = after at learned ⊢
  cases learned <;> rfl

/-- Filling a template is preparing its inputs and filling it with what they have become. -/
theorem interpret_ok_iff [Measure τ] {options : FillOptions τ} {now : Instant} {ids : IdSupply}
    {w : ω} {made : Project τ × IdSupply} :
    (t.interpret c inputs options now ids w).1 = .ok made ↔
      ∃ prepared, (t.prepare c inputs w).1 = .ok prepared ∧
        t.interpretPrepared c prepared options now ids = .ok made := by
  unfold interpret
  cases t.prepare c inputs w with
  | mk result w' => cases result <;> simp

end Template

end Storyboard
