import Storyboard.Validation
import Storyboard.Validation.Waiting

/-!
# The findings about a template

All checks of a template, in the order in which their findings are reported.
-/

namespace Storyboard.Template

variable {τ : Type} [Measure τ]

/-- The findings about a template. -/
def validate (t : Template τ) : Findings τ :=
  let version : Findings τ :=
    if t.version == currentVersion then {} else .error { cause := .unsupportedVersion t.version }
  let tracks : Findings τ := if t.tracks.isEmpty then .warning { cause := .noTracks } else {}
  version ++ tracks
    ++ ⟨Validation.duplicates t, []⟩
    ++ .join (t.placeholders.map (Validation.checkPlaceholder t))
    ++ ⟨Validation.unknownPlaceholders t, []⟩
    ++ .join (t.elements.map (Validation.checkElement t))
    ++ ⟨Validation.waiting t, []⟩
    ++ ⟨Validation.unknownOperators t, []⟩

/-- No finding stands in the way of using the template. -/
def isValid (t : Template τ) : Bool := t.validate.isValid

end Storyboard.Template
