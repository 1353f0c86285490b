import Storyboard.Finding

/-!
# Validation of templates

What can be said against a template before any input is given: ids used twice, constraints that
nothing meets, references that lead nowhere, elements that wait for themselves, rules that cannot be
evaluated.
-/

namespace Storyboard.Validation

variable {τ : Type}

/-- The ids that an earlier member of a list has too, once for each time they come back. -/
def repeats (seen : List String) : List String → List String
  | [] => []
  | id :: rest => if seen.contains id then id :: repeats seen rest else repeats (id :: seen) rest

/-- The ids of one kind that are used twice. -/
def duplicateFindings (owner : IdOwner) (ids : List String) : List (Finding τ) :=
  (repeats [] ids).map fun id => { cause := .duplicateId owner id }

/-- The ids of tracks, elements, placeholders and rules that are used twice. -/
def duplicates (t : Template τ) : List (Finding τ) :=
  duplicateFindings .track (t.tracks.map (·.id))
    ++ duplicateFindings .element (t.elements.map (·.id))
    ++ duplicateFindings .placeholder (t.placeholders.map (·.id))
    ++ duplicateFindings .rule (t.rules.map (·.id))

/-- The placeholders that the content or the duration of an element names. -/
def referenced (t : Template τ) : List String :=
  t.elements.flatMap fun e =>
    e.content.placeholderId?.toList ++ match e.duration with
      | .matchAudio id _ => id.toList
      | _ => []

/-- Elements whose content names a placeholder that the template does not have. -/
def unknownPlaceholders (t : Template τ) : List (Finding τ) :=
  t.elements.filterMap fun e =>
    match e.content.placeholderId? with
    | none => none
    | some id =>
      if (t.placeholder? id).isSome then none
      else some {
        cause := .unknownPlaceholder e.name id
        placeholderId := some id
        elementId := some e.id }

/-- A pair of bounds of which the least exceeds the most. -/
def crossed {α : Type} (exceeds : α → α → Bool) (least most : Option α) : Option (α × α) :=
  match least, most with
  | some a, some b => if exceeds a b then some (a, b) else none
  | _, _ => none

variable [Measure τ]

/-- What is wrong with a placeholder's constraints. -/
def constraintFaults (c : Constraints τ) : List (ConstraintFault τ) :=
  let negative (bound : Option τ) := bound.any fun d => Measure.lt d Measure.zero
  ((crossed (fun a b => Measure.lt b a) c.minDuration c.maxDuration).map fun (a, b) =>
      .durationBounds a b).toList
    ++ (if negative c.minDuration || negative c.maxDuration then [.negativeDuration] else [])
    ++ ((crossed (fun a b => b < a) c.minLength c.maxLength).map fun (a, b) =>
      .lengthBounds a b).toList
    ++ ((crossed (fun a b => b < a) c.minValue c.maxValue).map fun (a, b) =>
      .valueBounds a b).toList
    ++ ((c.aspectRatio.filter fun _ => c.targetAspectRatio.isNone).map fun written =>
      .aspectRatio written).toList
    ++ (if c.aspectRatioTolerance.any fun x => !(0.0 ≤ x) then [.aspectTolerance] else [])
    ++ (if c.maxFileSize == some 0 then [.noFileSize] else [])

/-- The findings about a placeholder. -/
def checkPlaceholder (t : Template τ) (p : Placeholder τ) : Findings τ :=
  let about (cause : Cause τ) : Finding τ := { cause, placeholderId := some p.id }
  let badDefault := p.default.filter fun input => input.kind != p.kind
  { errors := (constraintFaults p.constraints).map (fun fault => about (.badConstraint fault))
      ++ (badDefault.map fun input => about (.wrongDefault input.kind p.kind)).toList
    warnings := if (referenced t).contains p.id then [] else [about (.unusedPlaceholder p.name)] }

/-- What is wrong with the duration of an element. -/
def durationFault? (t : Template τ) (e : Template.Element τ) : Option (Cause τ) :=
  let negative (limit : τ) : Option (Cause τ) :=
    if Measure.lt limit Measure.zero then some (.negativeLimit limit) else none
  match e.duration with
  | .fixed value =>
    if Measure.lt value Measure.zero || !Measure.isFinite value then some (.badDuration value)
    else none
  | .content limit _ | .fillGap limit => limit.bind negative
  | .matchAudio none _ => none
  | .matchAudio (some id) _ =>
    match t.placeholder? id with
    | none => some (.unknownAudio id)
    | some p => if p.kind.hasDuration then none else some (.silentPlaceholder p.name)

/-- The findings about an element by itself. -/
def checkElement (t : Template τ) (e : Template.Element τ) : Findings τ :=
  let about (cause : Cause τ) : Finding τ := { cause, elementId := some e.id }
  let styleless := e.captionStyleId.filter fun id => (t.captionStyle? id).isNone
  let outside := e.position.filter fun p => !p.isOnCanvas
  { errors := ((durationFault? t e).map about).toList
    warnings := (styleless.map fun id => about (.unknownCaptionStyle id)).toList
      ++ (outside.map fun p => about (.offCanvas p.x p.y)).toList }

omit [Measure τ] in
/-- The rules with operators that cannot be evaluated. -/
def unknownOperators (t : Template τ) : List (Finding τ) :=
  t.rules.flatMap fun r =>
    r.unknownOperators.map fun operator => { cause := .unknownOperator r.name operator }

end Storyboard.Validation
