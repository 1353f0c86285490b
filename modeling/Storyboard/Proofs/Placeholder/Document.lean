import Storyboard.Placeholder.Document
import Storyboard.Proofs.Json.Stable

/-!
# Stable placeholders

Canvases, positions, media, inputs and placeholders read from documents are read again from what is
written of them.
-/

namespace Storyboard

open Json

theorem Canvas.stable : Stable Canvas.ofJson Canvas.toJson where
  again := by
    intro v c plain done
    simp only [Canvas.ofJson, ↓do_eq_some_iff, Option.pure_def, Option.some.injEq] at done
    obtain ⟨fields, record, width, readWidth, height, readHeight, fps, readFps, background,
      readBackground, rfl⟩ := done
    have plain := fieldsPlain_of_asRecord plain record
    simp only [Canvas.ofJson, Canvas.toJson]
    simp [↓do_asRecord, ↓Option.bind_eq_bind, fetch_eq, fetchOr_eq, List.lookup_cons,
      stable_count32.fetch plain readWidth, stable_count32.fetch plain readHeight,
      stable_float.fetchOr plain rfl readFps, stable_text.fetchOr plain rfl readBackground]
  null := rfl

theorem PercentPosition.stable : Stable PercentPosition.ofJson PercentPosition.toJson where
  again := by
    intro v p plain done
    simp only [PercentPosition.ofJson, Option.bind_eq_bind, Option.bind_eq_some_iff,
      Option.pure_def, Option.some.injEq] at done
    obtain ⟨fields, record, x, readX, y, readY, rotation, readRotation, width, readWidth, height,
      readHeight, rfl⟩ := done
    have plain := fieldsPlain_of_asRecord plain record
    simp only [PercentPosition.ofJson, PercentPosition.toJson]
    simp [↓do_asRecord, ↓Option.bind_eq_bind, fetch_eq, fetchOr_eq, fetch?_eq,
      List.lookup_append, List.lookup_cons, stable_float.fetch plain readX,
      stable_float.fetch plain readY, stable_float.fetchOr plain rfl readRotation,
      stable_float.fetch? plain readWidth, stable_float.fetch? plain readHeight]
  null := rfl

theorem PixelPosition.stable : Stable PixelPosition.ofJson PixelPosition.toJson where
  again := by
    intro v p plain done
    simp only [PixelPosition.ofJson, ↓do_eq_some_iff, Option.pure_def, Option.some.injEq] at done
    obtain ⟨fields, record, x, readX, y, readY, rotation, readRotation, width, readWidth, height,
      readHeight, rfl⟩ := done
    have plain := fieldsPlain_of_asRecord plain record
    simp only [PixelPosition.ofJson, PixelPosition.toJson]
    simp [↓do_asRecord, ↓Option.bind_eq_bind, fetch_eq, fetchOr_eq, fetch?_eq,
      List.lookup_append, List.lookup_cons, stable_float.fetch plain readX,
      stable_float.fetch plain readY, stable_float.fetchOr plain rfl readRotation,
      stable_float.fetch? plain readWidth, stable_float.fetch? plain readHeight]
  null := rfl

theorem MediaMetadata.stable : Stable MediaMetadata.ofJson MediaMetadata.toJson where
  again := by
    intro v m plain done
    simp only [MediaMetadata.ofJson, ↓do_eq_some_iff, Option.pure_def, Option.some.injEq] at done
    obtain ⟨fields, record, duration, readDuration, width, readWidth, height, readHeight, size,
      readSize, format, readFormat, rfl⟩ := done
    have plain := fieldsPlain_of_asRecord plain record
    simp only [MediaMetadata.ofJson, MediaMetadata.toJson]
    simp [↓do_asRecord, ↓Option.bind_eq_bind, fetch?_eq, List.lookup_append,
      stable_float.fetch? plain readDuration, stable_count32.fetch? plain readWidth,
      stable_count32.fetch? plain readHeight, stable_count64.fetch? plain readSize,
      stable_text.fetch? plain readFormat]
  null := rfl

theorem MediaRef.stable : Stable MediaRef.ofJson MediaRef.toJson where
  again := by
    intro v m plain done
    simp only [MediaRef.ofJson, ↓do_eq_some_iff, Option.pure_def, Option.some.injEq] at done
    obtain ⟨fields, record, id, readId, name, readName, path, readPath, mimeType, readMimeType,
      metadata, readMetadata, rfl⟩ := done
    have plain := fieldsPlain_of_asRecord plain record
    simp only [MediaRef.ofJson, MediaRef.toJson]
    simp [↓do_asRecord, ↓Option.bind_eq_bind, fetch_eq, fetch?_eq, List.lookup_append,
      List.lookup_cons, stable_text.fetch plain readId, stable_text.fetch plain readName,
      stable_text.fetch? plain readPath, stable_text.fetch? plain readMimeType,
      MediaMetadata.stable.fetch? plain readMetadata]
  null := rfl

theorem InputKind.lookup_name (kind : InputKind) : InputKind.names.lookup kind.name = some kind := by
  cases kind <;> rfl

theorem Input.stable : Stable Input.ofJson Input.toJson where
  again := by
    intro v i plain done
    simp only [Input.ofJson, ↓do_eq_some_iff, Option.pure_def] at done
    obtain ⟨⟨tag, rest⟩, tagged, fields, record, kind, named, done⟩ := done
    have plain := fieldsPlain_of_asRecord (isPlain_of_asTagged plain tagged) record
    have written : ∀ i : Input Float, asTagged i.toJson =
        some (i.kind.name, .obj [("type", .str i.kind.name), ("value", i.valueJson)]) := fun _ => rfl
    simp only [Input.ofJson, written, Option.bind_eq_bind, Option.bind_some, asRecord,
      InputKind.lookup_name]
    cases kind with
    | video | audio | image =>
      obtain ⟨file, readFile, same⟩ := Option.bind_eq_some_iff.1 done
      cases same
      exact Option.bind_eq_some_iff.2 ⟨file, MediaRef.stable.fetch plain readFile, rfl⟩
    | text | transcript | color | font =>
      obtain ⟨value, readValue, same⟩ := Option.bind_eq_some_iff.1 done
      cases same
      rfl
    | number =>
      obtain ⟨value, readValue, same⟩ := Option.bind_eq_some_iff.1 done
      cases same
      exact Option.bind_eq_some_iff.2 ⟨value, stable_float.fetch plain readValue, rfl⟩
  null := rfl

theorem Constraints.stable : Stable Constraints.ofJson Constraints.toJson where
  again := by
    intro v c plain done
    simp only [Constraints.ofJson, ↓do_eq_some_iff, Option.pure_def, Option.some.injEq] at done
    obtain ⟨fields, record, minDuration, readMinDuration, maxDuration, readMaxDuration, ratio,
      readRatio, tolerance, readTolerance, formats, readFormats, maxFileSize, readMaxFileSize,
      minLength, readMinLength, maxLength, readMaxLength, minValue, readMinValue, maxValue,
      readMaxValue, rfl⟩ := done
    have plain := fieldsPlain_of_asRecord plain record
    have listed : readOr [] (asList asText) (if formats = [] then none else some (strs formats)) =
        some formats := by
      split
      · next none => rw [none]; rfl
      · exact stable_strs.fetchOr plain rfl readFormats
    simp only [Constraints.ofJson, Constraints.toJson]
    simp [↓do_asRecord, ↓Option.bind_eq_bind, fetchOr_eq, fetch?_eq,
      List.lookup_append, stable_float.fetch? plain readMinDuration,
      stable_float.fetch? plain readMaxDuration, stable_text.fetch? plain readRatio,
      stable_float.fetch? plain readTolerance, stable_count64.fetch? plain readMaxFileSize,
      stable_count64.fetch? plain readMinLength, stable_count64.fetch? plain readMaxLength,
      stable_float.fetch? plain readMinValue, stable_float.fetch? plain readMaxValue, listed]
  null := rfl

theorem Placeholder.stable : Stable Placeholder.ofJson Placeholder.toJson where
  again := by
    intro v p plain done
    simp only [Placeholder.ofJson, ↓do_eq_some_iff, Option.pure_def, Option.some.injEq] at done
    obtain ⟨fields, record, id, readId, name, readName, kind, readKind, required, readRequired,
      constraints, readConstraints, default, readDefault, order, readOrder, description,
      readDescription, rfl⟩ := done
    have plain := fieldsPlain_of_asRecord plain record
    simp only [Placeholder.ofJson, Placeholder.toJson]
    simp [↓do_asRecord, ↓Option.bind_eq_bind, fetch_eq, fetchOr_eq, fetch?_eq,
      List.lookup_append, List.lookup_cons, stable_text.fetch plain readId,
      stable_text.fetch plain readName,
      (stable_named InputKind.lookup_name).fetch plain readKind,
      stable_bool.fetchOr plain rfl readRequired, Constraints.stable.fetchOr plain rfl readConstraints,
      Input.stable.fetch? plain readDefault, stable_count32.fetchOr plain rfl readOrder,
      stable_text.fetch? plain readDescription]
  null := rfl

end Storyboard
