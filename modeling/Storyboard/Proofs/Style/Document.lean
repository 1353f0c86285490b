import Storyboard.Proofs.Json.Stable
import Storyboard.Style.Document

/-!
# Stable styles

Styles read from documents are read again from what is written of them, properties of unknown names
included: these stand behind the known ones, and no known property is among them.
-/

namespace Storyboard

open Json

theorem Alignment.lookup_name (a : Alignment) : Alignment.names.lookup a.name = some a := by
  cases a <;> rfl

theorem CaptionAnimation.lookup_name (a : CaptionAnimation) :
    CaptionAnimation.names.lookup a.name = some a := by
  cases a <;> rfl

theorem CaptionPlacement.lookup_name (p : CaptionPlacement) :
    CaptionPlacement.names.lookup p.name = some p := by
  cases p <;> rfl

namespace TextStyle

/-- The fields of properties of unknown names. -/
def unknown (fields : List (String × Json)) : List (String × Json) :=
  fields.filter fun (key, _) => !knownProperties.contains key

theorem filter_eq_unknown (fields : List (String × Json)) :
    (fields.filter fun (key, _) => !knownProperties.contains key) = unknown fields := rfl

theorem lookup_unknown {key : String} (known : key ∈ knownProperties)
    (fields : List (String × Json)) : (unknown fields).lookup key = none := by
  cases found : (unknown fields).lookup key with
  | none => rfl
  | some v =>
    have listed := (List.mem_filter.1 (Keyed.mem_of_get? found)).2
    simp [known] at listed

theorem unknown_unknown (fields : List (String × Json)) :
    unknown (unknown fields) = unknown fields := by
  simp [unknown, List.filter_filter]

/-- Known properties, then properties of unknown names: the latter are told apart again. -/
theorem unknown_append {known fields : List (String × Json)} (left : unknown known = []) :
    unknown (known ++ unknown fields) = unknown fields := by
  rw [unknown, List.filter_append, ← unknown, left, ← unknown, unknown_unknown, List.nil_append]

theorem stable : Stable TextStyle.ofJson TextStyle.toJson where
  again := by
    intro v s plain done
    obtain ⟨fields, record, done⟩ := Option.bind_eq_some_iff.1 done
    simp only [ofFields, ↓do_eq_some_iff, Option.pure_def, Option.some.injEq] at done
    obtain ⟨family, readFamily, size, readSize, color, readColor, background, readBackground,
      alignment, readAlignment, bold, readBold, italic, readItalic, underline, readUnderline, height,
      readHeight, spacing, readSpacing, stroke, readStroke, strokeWidth, readStrokeWidth, rfl⟩ := done
    have plain : fieldsPlain fields = true := by
      cases v <;> cases record
      exact plain
    have left : ∀ key ∈ knownProperties, (unknown fields).lookup key = none :=
      fun key known => lookup_unknown known fields
    simp only [knownProperties, List.forall_mem_cons] at left
    simp only [TextStyle.ofJson, TextStyle.toJson, asFields, Option.bind_some, ofFields,
      filter_eq_unknown]
    -- Every field written before the unknown ones is known, whichever of the optional ones are there.
    rw [unknown_append (by cases background <;> cases stroke <;> cases strokeWidth <;> rfl)]
    generalize unknown fields = others at left ⊢
    simp [fetchOr_eq, fetch?_eq, List.lookup_append, List.lookup_cons,
      stable_text.fetchOr plain rfl readFamily,
      stable_float.fetchOr plain rfl readSize, stable_text.fetchOr plain rfl readColor,
      stable_text.fetch? plain readBackground,
      (stable_named Alignment.lookup_name).fetchOr plain rfl readAlignment,
      stable_bool.fetchOr plain rfl readBold, stable_bool.fetchOr plain rfl readItalic,
      stable_bool.fetchOr plain rfl readUnderline, stable_float.fetchOr plain rfl readHeight,
      stable_float.fetchOr plain rfl readSpacing, stable_text.fetch? plain readStroke,
      stable_float.fetch? plain readStrokeWidth, left]
  null := rfl

end TextStyle

theorem CaptionStyle.stable : Stable CaptionStyle.ofJson CaptionStyle.toJson where
  again := by
    intro v s plain done
    simp only [CaptionStyle.ofJson, ↓do_eq_some_iff, Option.pure_def, Option.some.injEq] at done
    obtain ⟨fields, record, id, readId, name, readName, style, readStyle, animation, readAnimation,
      highlight, readHighlight, words, readWords, lines, readLines, placement, readPlacement,
      rfl⟩ := done
    have plain := fieldsPlain_of_asRecord plain record
    simp only [CaptionStyle.ofJson, CaptionStyle.toJson]
    simp [↓do_asRecord, ↓Option.bind_eq_bind, fetch_eq, fetchOr_eq, fetch?_eq,
      List.lookup_append, List.lookup_cons, stable_text.fetch plain readId,
      stable_text.fetch plain readName, TextStyle.stable.fetch plain readStyle,
      (stable_named CaptionAnimation.lookup_name).fetchOr plain rfl readAnimation,
      stable_text.fetch? plain readHighlight, stable_count32.fetchOr plain rfl readWords,
      stable_count32.fetchOr plain rfl readLines,
      (stable_named CaptionPlacement.lookup_name).fetchOr plain rfl readPlacement]
  null := rfl

end Storyboard
