import Storyboard.Rule.Document
import Storyboard.Proofs.Json.Stable

/-!
# Stable rules

Rules read from documents are read again from what is written of them. A known name in any spelling
is written in its canonical one, which stands for the same; a name that is not known is written as it
came.
-/

namespace Storyboard

open Json

theorem Operator.ofName_name (s : String) : ofName (ofName s).name = ofName s := by
  cases read : ofName s with
  | other name =>
    have same : name = s := by
      unfold ofName at read
      split at read <;> cases read
      rfl
    rw [Operator.name, same, read, same]
  | equals | notEquals | greaterThan | lessThan | contains => decide +kernel

theorem ActionKind.ofName_name (s : String) : ofName (ofName s).name = ofName s := by
  cases read : ofName s with
  | other name =>
    have same : name = s := by
      unfold ofName at read
      split at read <;> cases read
      rfl
    rw [ActionKind.name, same, read, same]
  | setStyle | setText | setHidden | setStartTime | setDuration => decide +kernel

theorem Operator.stable : Stable Operator.ofJson fun o => .str o.name where
  again := by
    intro v o _ done
    obtain ⟨s, _, rfl⟩ := Option.map_eq_some_iff.1 done
    exact congrArg some (ofName_name s)
  null := rfl

theorem ActionKind.stable : Stable ActionKind.ofJson fun k => .str k.name where
  again := by
    intro v k _ done
    obtain ⟨s, _, rfl⟩ := Option.map_eq_some_iff.1 done
    exact congrArg some (ofName_name s)
  null := rfl

theorem Condition.stable : Stable Condition.ofJson Condition.toJson where
  again := by
    intro v c plain done
    simp only [Condition.ofJson, ↓do_eq_some_iff, Option.pure_def, Option.some.injEq] at done
    obtain ⟨fields, record, field, readField, operator, readOperator, value, -, rfl⟩ := done
    have plain := fieldsPlain_of_asRecord plain record
    simp only [Condition.ofJson, Condition.toJson]
    simp [↓do_asRecord, ↓Option.bind_eq_bind, fetch_eq, fetchOr_eq, List.lookup_cons,
      stable_text.fetch plain readField, Operator.stable.fetch plain readOperator]
  null := rfl

/-- A value of any kind that may be absent is not null where it is present, and so is read again. -/
theorem readOr_value {fields : List (String × Json)} {key : String} {value : Option Json}
    (done : fetch? fields key some = some value) :
    readOr none (asOptional some) value = some value := by
  cases value with
  | none => rfl
  | some w =>
    unfold fetch? fetchOr at done
    split at done
    · next v _ =>
      have same : v = w := by
        unfold asOptional at done
        split at done <;> cases done
        rfl
      exact same ▸ done
    · cases done

theorem Action.stable : Stable Action.ofJson Action.toJson where
  again := by
    intro v a plain done
    simp only [Action.ofJson, ↓do_eq_some_iff, Option.pure_def, Option.some.injEq] at done
    obtain ⟨fields, record, kind, readKind, target, readTarget, value, readValue, rfl⟩ := done
    have plain := fieldsPlain_of_asRecord plain record
    simp only [Action.ofJson, Action.toJson]
    simp [↓do_asRecord, ↓Option.bind_eq_bind, fetch_eq, fetch?_eq, List.lookup_append,
      List.lookup_cons, ActionKind.stable.fetch plain readKind, stable_text.fetch? plain readTarget,
      readOr_value readValue]
  null := rfl

theorem Rule.stable : Stable Rule.ofJson Rule.toJson where
  again := by
    intro v r plain done
    simp only [Rule.ofJson, ↓do_eq_some_iff, Option.pure_def, Option.some.injEq] at done
    obtain ⟨fields, record, id, readId, name, readName, enabled, readEnabled, description,
      readDescription, conditions, readConditions, actions, readActions, rfl⟩ := done
    have plain := fieldsPlain_of_asRecord plain record
    simp only [Rule.ofJson, Rule.toJson]
    simp [↓do_asRecord, ↓Option.bind_eq_bind, fetch_eq, fetchOr_eq, fetch?_eq, List.lookup_append,
      List.lookup_cons, stable_text.fetch plain readId, stable_text.fetch plain readName,
      stable_bool.fetchOr plain rfl readEnabled, stable_text.fetch? plain readDescription,
      Condition.stable.list.fetchOr plain rfl readConditions,
      Action.stable.list.fetchOr plain rfl readActions]
  null := rfl

theorem Effect.stable : Stable Effect.ofJson Effect.toJson where
  again := by
    intro v e plain done
    simp only [Effect.ofJson, ↓do_eq_some_iff, Option.pure_def, Option.some.injEq] at done
    obtain ⟨fields, record, ruleId, readRuleId, ruleName, readRuleName, elementId, readElementId,
      action, readAction, target, readTarget, rfl⟩ := done
    have plain := fieldsPlain_of_asRecord plain record
    simp only [Effect.ofJson, Effect.toJson]
    simp [↓do_asRecord, ↓Option.bind_eq_bind, fetch_eq, fetch?_eq, List.lookup_cons,
      stable_text.fetch plain readRuleId, stable_text.fetch plain readRuleName,
      stable_text.fetch plain readElementId, ActionKind.stable.fetch plain readAction,
      stable_text.fetch? plain readTarget]
  null := rfl

end Storyboard
