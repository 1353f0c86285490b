import Storyboard.Timeline
import Storyboard.Json.Fields

/-!
# Summaries

What a list of templates shows of each.
-/

namespace Storyboard

open Json

/-- A template at a glance. -/
structure Summary (τ : Type) where
  id : String
  name : String
  description : String
  tags : List String
  trackCount : Nat
  elementCount : Nat
  placeholderCount : Nat
  requiredPlaceholders : Nat
  /-- How many placeholders there are of each kind that occurs. -/
  placeholdersByKind : Keyed Nat
  ruleCount : Nat
  /-- The length of the timeline by the recorded durations. -/
  estimatedDuration : τ
  updatedAt : Instant

/-- How many placeholders of a list there are of each kind that occurs, by the name of the kind. -/
def countKinds {τ : Type} (placeholders : List (Placeholder τ)) : Keyed Nat :=
  placeholders.foldl
    (fun counts p => Keyed.insert p.kind.name ((counts.get? p.kind.name).getD 0 + 1) counts) []

/-- The summary of a template. -/
def Template.summary {τ : Type} [Measure τ] (t : Template τ) : Summary τ :=
  { id := t.id
    name := t.name
    description := t.description
    tags := t.tags
    trackCount := t.tracks.length
    elementCount := t.elementCount
    placeholderCount := t.placeholders.length
    requiredPlaceholders := t.placeholders.countP (·.required)
    placeholdersByKind := countKinds t.placeholders
    ruleCount := t.rules.length
    estimatedDuration := match Timeline.hinted t none with
      | .ok timeline => timeline.finish
      | .error _ => Measure.zero
    updatedAt := t.updatedAt }

/-- A summary as a document. -/
def Summary.toJson (s : Summary Float) : Json :=
  .obj [("id", .str s.id), ("name", .str s.name), ("description", .str s.description),
    ("tags", strs s.tags), ("trackCount", nat s.trackCount), ("elementCount", nat s.elementCount),
    ("placeholderCount", nat s.placeholderCount),
    ("requiredPlaceholders", nat s.requiredPlaceholders),
    ("placeholdersByType", keyed nat s.placeholdersByKind), ("ruleCount", nat s.ruleCount),
    ("estimatedDuration", number s.estimatedDuration), ("updatedAt", instant s.updatedAt)]

/-- A summary from a document. -/
def Summary.ofJson : Reader (Summary Float) := fun v => do
  let fields ← asRecord ["id", "name", "description", "tags", "trackCount", "elementCount",
      "placeholderCount", "requiredPlaceholders", "placeholdersByType", "ruleCount",
      "estimatedDuration", "updatedAt"] v
  return {
    id := ← fetch fields "id" asText
    name := ← fetch fields "name" asText
    description := ← fetch fields "description" asText
    tags := ← fetch fields "tags" (asList asText)
    trackCount := ← fetch fields "trackCount" asCount64
    elementCount := ← fetch fields "elementCount" asCount64
    placeholderCount := ← fetch fields "placeholderCount" asCount64
    requiredPlaceholders := ← fetch fields "requiredPlaceholders" asCount64
    placeholdersByKind := ← fetch fields "placeholdersByType" (asKeyed asCount64)
    ruleCount := ← fetch fields "ruleCount" asCount64
    estimatedDuration := ← fetch fields "estimatedDuration" asFloat
    updatedAt := ← fetch fields "updatedAt" asInstant }

end Storyboard
