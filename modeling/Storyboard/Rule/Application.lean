import Storyboard.Rule.Field
import Storyboard.Failure

/-!
# Carrying out rules

Rules run in the order of their list. Each enabled rule is tried on every element of every track by
itself, and where all its conditions hold its actions are carried out on that element. Rules whose
operators cannot be evaluated are refused before anything is changed; actions that cannot be carried
out are passed over.
-/

namespace Storyboard

open Json

/-- What a list of rules has done. -/
structure Rule.Report where
  /-- How many enabled rules were tried. -/
  evaluated : Nat := 0
  /-- The rules that are not enabled. -/
  skipped : List String := []
  /-- How many times the conditions of a rule held for an element. -/
  hits : Nat := 0
  /-- The changes made, in their order. -/
  effects : List Effect := []
  /-- The names of actions that are not known. -/
  ignored : List String := []
  deriving DecidableEq

/-- Whether a condition holds for a view. -/
def Condition.holds (ruleId : String) (c : Condition) (view : Json) : Except (Failure Float) Bool :=
  let actual := view.resolve c.field
  match c.operator with
  | .equals => .ok (fieldEquals actual c.value)
  | .notEquals => .ok !fieldEquals actual c.value
  | .greaterThan => .ok (numberOf c.value < fieldNumber actual)
  | .lessThan => .ok (fieldNumber actual < numberOf c.value)
  | .contains => .ok (fieldContains actual c.value)
  | .other operator => .error (.unknownOperator ruleId operator)

/-- Whether all conditions hold, looked at from left to right until one does not. -/
def Condition.allHold (ruleId : String) (view : Json) :
    List Condition → Except (Failure Float) Bool
  | [] => .ok true
  | c :: rest => do if ← c.holds ruleId view then allHold ruleId view rest else return false

/-- A text as the truth value or the finite number it spells. -/
def coerceScalar : Json → Option Json
  | .str s =>
    match Text.trim s with
    | "true" => some (.bool true)
    | "false" => some (.bool false)
    | _ =>
      let x := numberOfText s
      if x.isFinite then some (.float x) else none
  | _ => none

/-- The finite number that an action gives. -/
def finiteNumber? (value : Option Json) : Option Float :=
  (value.map numberOf).filter fun x => x.isFinite

namespace Action

open Project (Element)

/-- A style property set to the value of an action or, where the value is a text that does not fit,
to what the text spells. -/
def restyle (style : TextStyle) (property : String) (value : Json) : Option TextStyle :=
  (style.setProperty property value).or ((coerceScalar value).bind (style.setProperty property))

/-- The element after an action, if the action can be carried out on it. -/
def carryOut (a : Action) (e : Element Float) : Option (Element Float) :=
  match a.kind with
  | .setStyle =>
    match a.target, a.value with
    | some property, some value =>
      (restyle (e.style.getD {}) property value).map fun style => { e with style := some style }
    | _, _ => none
  | .setText =>
    match e.content with
    | .text _ => some { e with content := .text (fieldText a.value) }
    | _ => none
  | .setHidden => some { e with hidden := a.value.elim true isTruthy }
  | .setStartTime =>
    (finiteNumber? a.value).map fun start =>
      { e with start := Measure.nonneg start, provisional := false }
  | .setDuration =>
    (finiteNumber? a.value).map fun duration => { e with duration := Measure.nonneg duration }
  | .other _ => none

end Action

/-- The effect of an action of a rule on an element. -/
def Rule.effect (r : Rule) (a : Action) (elementId : String) : Effect :=
  { ruleId := r.id, ruleName := r.name, elementId, action := a.kind, target := a.target }

/-- Takes note of an action that is not known, once for each name. -/
def Rule.Report.ignore (report : Rule.Report) (name : String) : Rule.Report :=
  if report.ignored.contains name then report
  else { report with ignored := report.ignored ++ [name] }

namespace Rule

open Project (Element Track)

/-- Carries out an action of a rule on an element. -/
def act (r : Rule) (state : Element Float × Report) (a : Action) : Element Float × Report :=
  let (e, report) := state
  match a.carryOut e, a.kind with
  | some changed, _ => (changed, { report with effects := report.effects ++ [r.effect a e.id] })
  | none, .other name => (e, report.ignore name)
  | none, _ => (e, report)

/-- Tries a rule on an element. -/
def onElement (r : Rule) (track : Track Float) (e : Element Float) (report : Report) :
    Except (Failure Float) (Element Float × Report) := do
  if ← Condition.allHold r.id (e.view track) r.conditions then
    return r.actions.foldl r.act (e, { report with hits := report.hits + 1 })
  else return (e, report)

/-- Tries a rule on elements of a track, one after the other. A failure stops the work and leaves
the elements as they are by then. -/
def onElements (r : Rule) (track : Track Float) :
    List (Element Float) → Report → List (Element Float) × Except (Failure Float) Report
  | [], report => ([], .ok report)
  | e :: rest, report =>
    match r.onElement track e report with
    | .error failure => (e :: rest, .error failure)
    | .ok (e, report) =>
      let (rest, result) := r.onElements track rest report
      (e :: rest, result)

/-- Tries a rule on tracks, one after the other. -/
def onTracks (r : Rule) :
    List (Track Float) → Report → List (Track Float) × Except (Failure Float) Report
  | [], report => ([], .ok report)
  | t :: rest, report =>
    match r.onElements t t.elements report with
    | (elements, .error failure) => ({ t with elements } :: rest, .error failure)
    | (elements, .ok report) =>
      let (rest, result) := r.onTracks rest report
      ({ t with elements } :: rest, result)

/-- Tries rules on tracks, one after the other. -/
def runAll :
    List Rule → List (Track Float) → Report → List (Track Float) × Except (Failure Float) Report
  | [], tracks, report => (tracks, .ok report)
  | r :: rest, tracks, report =>
    if r.enabled then
      match r.onTracks tracks { report with evaluated := report.evaluated + 1 } with
      | (tracks, .error failure) => (tracks, .error failure)
      | (tracks, .ok report) => runAll rest tracks report
    else runAll rest tracks { report with skipped := report.skipped ++ [r.id] }

/-- The first enabled rule with an operator that cannot be evaluated, and the operator. -/
def refused? (rules : List Rule) : Option (String × String) :=
  rules.findSome? fun r =>
    if r.enabled then r.unknownOperators.head?.map fun operator => (r.id, operator) else none

end Rule

/-- Carries out rules on a project: the project afterwards, and the report or why the rules were
refused. -/
def Project.applyRules (p : Project Float) (rules : List Rule) :
    Project Float × Except (Failure Float) Rule.Report :=
  match Rule.refused? rules with
  | some (ruleId, operator) => (p, .error (.unknownOperator ruleId operator))
  | none =>
    match Rule.runAll rules p.tracks {} with
    | (tracks, .error failure) => ({ p with tracks }, .error failure)
    | (tracks, .ok report) =>
      let provenance := { p.provenance with effects := p.provenance.effects ++ report.effects }
      (({ p with tracks, provenance } : Project Float).withDuration, .ok report)

/-- A report as a document. -/
def Rule.Report.toJson (r : Rule.Report) : Json :=
  .obj [("rulesEvaluated", nat r.evaluated), ("rulesSkipped", strs r.skipped),
    ("matches", nat r.hits), ("effects", list Effect.toJson r.effects),
    ("ignoredActions", strs r.ignored)]

end Storyboard
