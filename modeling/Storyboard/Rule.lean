import Storyboard.Json
import Storyboard.Text.Blank

/-!
# Rules

Rules change a project's elements: where all conditions of a rule hold for an element, its actions
are carried out on it. The names of operators and actions are open. A name this library does not
know is kept as it was written, so that a rule survives being read and written again.
-/

namespace Storyboard

/-- How a condition compares a field with its value. -/
inductive Operator where
  | equals
  | notEquals
  | greaterThan
  | lessThan
  | contains
  | other (name : String)
  deriving DecidableEq

/-- What an action changes. -/
inductive ActionKind where
  | setStyle
  | setText
  | setHidden
  | setStartTime
  | setDuration
  | other (name : String)
  deriving DecidableEq

/-- A test of one field of an element. -/
structure Condition where
  field : String
  operator : Operator
  value : Json := .null
  deriving BEq

/-- A change of an element. -/
structure Action where
  kind : ActionKind
  target : Option String := none
  value : Option Json := none
  deriving BEq

/-- Conditions and the actions taken where all of them hold. -/
structure Rule where
  id : String
  name : String
  enabled : Bool := true
  description : Option String := none
  conditions : List Condition := []
  actions : List Action := []
  deriving BEq

/-- A change that a rule has made to an element. -/
structure Effect where
  ruleId : String
  ruleName : String
  elementId : String
  action : ActionKind
  target : Option String := none
  deriving DecidableEq

/-- A name in words joined by underscores: blanks and hyphens become underscores, and a capital
after a small letter or a digit starts a new word. `previous` is the character before. -/
def canonicalFrom (previous : Option Char) : List Char → List Char
  | [] => []
  | c :: rest =>
    let written :=
      if c = ' ' ∨ c = '-' then ['_']
      else if c.isUpper then
        if previous.any fun p => p.isLower || p.isDigit then ['_', c.toLower] else [c.toLower]
      else [c]
    written ++ canonicalFrom (some c) rest

/-- The canonical spelling of a name. -/
def canonicalName (name : String) : String :=
  String.ofList (canonicalFrom none (Text.trim name).toList)

namespace Operator

/-- The operator that a name stands for. -/
def ofName (name : String) : Operator :=
  match canonicalName name with
  | "equals" => equals
  | "not_equals" => notEquals
  | "greater_than" => greaterThan
  | "less_than" => lessThan
  | "contains" => contains
  | _ => other name

/-- The name of an operator. -/
def name : Operator → String
  | equals => "equals"
  | notEquals => "not_equals"
  | greaterThan => "greater_than"
  | lessThan => "less_than"
  | contains => "contains"
  | other name => name

/-- Whether the operator can be evaluated. -/
def isKnown : Operator → Bool
  | other _ => false
  | _ => true

end Operator

namespace ActionKind

/-- The action that a name stands for. -/
def ofName (name : String) : ActionKind :=
  match canonicalName name with
  | "set_style" => setStyle
  | "set_text" => setText
  | "set_hidden" => setHidden
  | "set_start_time" => setStartTime
  | "set_duration" => setDuration
  | _ => other name

/-- The name of an action. -/
def name : ActionKind → String
  | setStyle => "set_style"
  | setText => "set_text"
  | setHidden => "set_hidden"
  | setStartTime => "set_start_time"
  | setDuration => "set_duration"
  | other name => name

end ActionKind

/-- The names of the operators of a rule that cannot be evaluated, in the order of its conditions. -/
def Rule.unknownOperators (r : Rule) : List String :=
  (r.conditions.filter fun c => !c.operator.isKnown).map fun c => c.operator.name

end Storyboard
