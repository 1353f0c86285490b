import Storyboard.Proofs.Validation.Report
import Storyboard.Validation.Inputs

/-!
# What a report on inputs says

The findings that each check of an input makes, by their categories.
-/

namespace Storyboard.Validation

variable {τ : Type} [Measure τ] {c : Constraints τ} {file : MediaRef τ} {cause : Cause τ}

end Storyboard.Validation
