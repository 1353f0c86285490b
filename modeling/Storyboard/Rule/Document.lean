import Storyboard.Rule
import Storyboard.Json.Fields

/-!
# Rules in documents

Reading and writing rules. Known names are written in their canonical spelling, others as they came.
-/

namespace Storyboard

open Json

/-- An operator from a document. -/
def Operator.ofJson : Reader Operator := fun v => (asText v).map ofName

/-- An action kind from a document. -/
def ActionKind.ofJson : Reader ActionKind := fun v => (asText v).map ofName

/-- A condition as a document. -/
def Condition.toJson (c : Condition) : Json :=
  .obj [("field", .str c.field), ("operator", .str c.operator.name), ("value", c.value)]

/-- A condition from a document. -/
def Condition.ofJson : Reader Condition := fun v => do
  let fields ← asRecord ["field", "operator", "value"] v
  return {
    field := ← fetch fields "field" asText
    operator := ← fetch fields "operator" Operator.ofJson
    value := ← fetchOr fields "value" .null some }

/-- An action as a document. -/
def Action.toJson (a : Action) : Json :=
  .obj ([("type", .str a.kind.name)] ++ opt "target" .str a.target ++ opt "value" id a.value)

/-- An action from a document. -/
def Action.ofJson : Reader Action := fun v => do
  let fields ← asRecord ["type", "target", "value"] v
  return {
    kind := ← fetch fields "type" ActionKind.ofJson
    target := ← fetch? fields "target" asText
    value := ← fetch? fields "value" some }

/-- A rule as a document. -/
def Rule.toJson (r : Rule) : Json :=
  .obj <|
    [("id", .str r.id), ("name", .str r.name), ("enabled", .bool r.enabled)]
    ++ opt "description" .str r.description
    ++ [("conditions", list Condition.toJson r.conditions), ("actions", list Action.toJson r.actions)]

/-- A rule from a document. -/
def Rule.ofJson : Reader Rule := fun v => do
  let fields ← asRecord ["id", "name", "enabled", "description", "conditions", "actions"] v
  return {
    id := ← fetch fields "id" asText
    name := ← fetch fields "name" asText
    enabled := ← fetchOr fields "enabled" true asBool
    description := ← fetch? fields "description" asText
    conditions := ← fetchOr fields "conditions" [] (asList Condition.ofJson)
    actions := ← fetchOr fields "actions" [] (asList Action.ofJson) }

/-- An effect as a document. -/
def Effect.toJson (e : Effect) : Json :=
  .obj <|
    [("ruleId", .str e.ruleId), ("ruleName", .str e.ruleName), ("elementId", .str e.elementId),
      ("action", .str e.action.name)]
    ++ opt "target" .str e.target

/-- An effect from a document. -/
def Effect.ofJson : Reader Effect := fun v => do
  let fields ← asRecord ["ruleId", "ruleName", "elementId", "action", "target"] v
  return {
    ruleId := ← fetch fields "ruleId" asText
    ruleName := ← fetch fields "ruleName" asText
    elementId := ← fetch fields "elementId" asText
    action := ← fetch fields "action" ActionKind.ofJson
    target := ← fetch? fields "target" asText }

end Storyboard
