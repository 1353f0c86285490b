import Storyboard.Interpretation
import Storyboard.Rule.Application

/-!
# Filling templates with rules

A template is filled and its rules are carried out on the project.
-/

namespace Storyboard.Template

variable {ω : Type}

/-- Carries out the rules of a template on a project made from it. -/
def settle (t : Template Float) (made : Project Float × IdSupply) :
    Except (Failure Float) (Project Float × Rule.Report × IdSupply) :=
  match made.1.applyRules t.rules with
  | (_, .error failure) => .error failure
  | (project, .ok report) => .ok (project, report, made.2)

/-- Fills a template with inputs and carries out its rules. -/
def interpretWithRules (t : Template Float) (c : Collaborators Float ω) (inputs : Inputs Float)
    (options : FillOptions Float) (now : Instant) (ids : IdSupply) (w : ω) :
    Except (Failure Float) (Project Float × Rule.Report × IdSupply) × ω :=
  let (made, w) := t.interpret c inputs options now ids w
  (made.bind t.settle, w)

end Storyboard.Template
