import Storyboard.Template.Document
import Storyboard.Proofs.Placeholder.Document
import Storyboard.Proofs.Rule.Document
import Storyboard.Proofs.Single
import Storyboard.Proofs.Style.Document

/-!
# Stable templates

A template read from a document is read again from what is written of it, if all its volumes are
finite. A volume beyond the singles is read as infinite, written as nothing, and then refused.
-/

namespace Storyboard

open Json

theorem TrackKind.lookup_name (kind : TrackKind) : TrackKind.names.lookup kind.name = some kind := by
  cases kind <;> rfl

theorem TrackRole.lookup_name (role : TrackRole) : TrackRole.names.lookup role.name = some role := by
  cases role <;> rfl

theorem Anchor.lookup_name (anchor : Anchor) : Anchor.names.lookup anchor.name = some anchor := by
  cases anchor <;> rfl

theorem Granularity.lookup_name (granularity : Granularity) :
    Granularity.names.lookup granularity.name = some granularity := by
  cases granularity <;> rfl

/-- An instant in writing is read as itself. -/
def Instant.ReadsBack (i : Instant) : Prop := Instant.parse i.text = some i

instance : DecidablePred Instant.ReadsBack := fun i =>
  inferInstanceAs (Decidable (Instant.parse i.text = some i))

/-! ## Volumes -/

namespace Single

/-- A finite single out of a document has a proper pattern. -/
theorem proper_asSingle {v : Json} {s : Single} (plain : v.isPlain = true)
    (done : asSingle v = some s) (finite : s.isFinite = true) : s.Proper := by
  unfold asSingle at done
  split at done
  · cases done
    exact proper_nearest finite
  · cases done
    exact proper_ofFloat finite
  · cases plain
  · cases done

/-- A single out of a document is read again if it is finite. -/
theorem asSingle_number32 {v : Json} {s : Single} (plain : v.isPlain = true)
    (done : asSingle v = some s) :
    asSingle (number32 s) = if s.isFinite = true then some s else none := by
  by_cases finite : s.isFinite = true
  · rw [number32, if_pos finite, if_pos finite, asSingle,
      ofFloat_toFloat (proper_asSingle plain done finite)]
  · rw [number32, if_neg finite, if_neg finite]
    rfl

end Single

namespace Template

theorem Timing.stable : Stable Timing.ofJson Timing.toJson where
  again := by
    intro v t plain done
    simp only [Timing.ofJson, ↓do_eq_some_iff, Option.pure_def] at done
    obtain ⟨⟨tag, rest⟩, tagged, done⟩ := done
    have plain := isPlain_of_asTagged plain tagged
    -- There is one case a tag, in the order of the reader, and the last is that of no tag.
    split at done
    · simp only [↓do_eq_some_iff, Option.some.injEq] at done
      obtain ⟨fields, record, start, readStart, rfl⟩ := done
      have plain := fieldsPlain_of_asRecord plain record
      simp [Timing.ofJson, Timing.toJson, asTagged, asText, asRecord, fetch_eq, List.lookup_cons,
        stable_float.fetch plain readStart]
    · simp only [↓do_eq_some_iff, Option.some.injEq] at done
      obtain ⟨fields, record, anchorId, readAnchorId, offset, readOffset, anchor, readAnchor,
        rfl⟩ := done
      have plain := fieldsPlain_of_asRecord plain record
      simp [Timing.ofJson, Timing.toJson, asTagged, asText, asRecord, fetch_eq, fetchOr_eq,
        List.lookup_cons, stable_float.fetchOr plain rfl readOffset,
        (stable_namedWithin Anchor.lookup_name).fetchOr plain rfl readAnchor]
    · simp only [↓do_eq_some_iff, Option.some.injEq] at done
      obtain ⟨fields, record, hint, readHint, rfl⟩ := done
      have plain := fieldsPlain_of_asRecord plain record
      simp [Timing.ofJson, Timing.toJson, asTagged, asText, asRecord, fetch?_eq,
        List.lookup_cons, stable_text.fetch? plain readHint]
    · cases done
  null := rfl

theorem Duration.stable : Stable Duration.ofJson Duration.toJson where
  again := by
    intro v d plain done
    simp only [Duration.ofJson, ↓do_eq_some_iff, Option.pure_def] at done
    obtain ⟨⟨tag, rest⟩, tagged, done⟩ := done
    have plain := isPlain_of_asTagged plain tagged
    split at done
    · simp only [↓do_eq_some_iff, Option.some.injEq] at done
      obtain ⟨fields, record, value, readValue, rfl⟩ := done
      have plain := fieldsPlain_of_asRecord plain record
      simp [Duration.ofJson, Duration.toJson, asTagged, asText, asRecord, fetch_eq, List.lookup_cons,
        stable_float.fetch plain readValue]
    · simp only [↓do_eq_some_iff, Option.some.injEq] at done
      obtain ⟨fields, record, limit, readLimit, hint, readHint, rfl⟩ := done
      have plain := fieldsPlain_of_asRecord plain record
      simp [Duration.ofJson, Duration.toJson, asTagged, asText, asRecord, fetch?_eq,
        List.lookup_append, List.lookup_cons, stable_float.fetch? plain readLimit,
        stable_float.fetch? plain readHint]
    · simp only [↓do_eq_some_iff, Option.some.injEq] at done
      obtain ⟨fields, record, placeholderId, readPlaceholderId, hint, readHint, rfl⟩ := done
      have plain := fieldsPlain_of_asRecord plain record
      simp [Duration.ofJson, Duration.toJson, asTagged, asText, asRecord, fetch?_eq,
        List.lookup_append, List.lookup_cons, stable_text.fetch? plain readPlaceholderId,
        stable_float.fetch? plain readHint]
    · simp only [↓do_eq_some_iff, Option.some.injEq] at done
      obtain ⟨fields, record, limit, readLimit, rfl⟩ := done
      have plain := fieldsPlain_of_asRecord plain record
      simp [Duration.ofJson, Duration.toJson, asTagged, asText, asRecord, fetch?_eq,
        List.lookup_cons, stable_float.fetch? plain readLimit]
    · cases done
  null := rfl

theorem Content.stable : Stable Content.ofJson Content.toJson where
  again := by
    intro v c plain done
    simp only [Content.ofJson, ↓do_eq_some_iff, Option.pure_def] at done
    obtain ⟨⟨tag, rest⟩, tagged, done⟩ := done
    have plain := isPlain_of_asTagged plain tagged
    split at done
    · simp only [↓do_eq_some_iff, Option.some.injEq] at done
      obtain ⟨fields, record, placeholderId, readPlaceholderId, rfl⟩ := done
      rfl
    · simp only [↓do_eq_some_iff, Option.some.injEq] at done
      obtain ⟨fields, record, placeholderId, readPlaceholderId, granularity, readGranularity, index,
        readIndex, rfl⟩ := done
      have plain := fieldsPlain_of_asRecord plain record
      simp [Content.ofJson, Content.toJson, asTagged, asText, asRecord, fetchOr_eq, fetch?_eq,
        List.lookup_append, List.lookup_cons, stable_text.fetch? plain readPlaceholderId,
        (stable_namedWithin Granularity.lookup_name).fetchOr plain rfl readGranularity,
        stable_count64.fetchOr plain rfl readIndex]
    · simp only [↓do_eq_some_iff, Option.some.injEq] at done
      obtain ⟨fields, record, text, readText, source, readSource, rfl⟩ := done
      have plain := fieldsPlain_of_asRecord plain record
      simp [Content.ofJson, Content.toJson, asTagged, asText, asRecord, fetch?_eq,
        List.lookup_append, List.lookup_cons, stable_text.fetch? plain readText,
        MediaRef.stable.fetch? plain readSource]
    · simp only [↓do_eq_some_iff, Option.some.injEq] at done
      obtain ⟨fields, record, generator, readGenerator, params, readParams, rfl⟩ := done
      rfl
    · cases done
  null := rfl

theorem Element.stable : Stable Element.ofJson Element.toJson where
  again := by
    intro v e plain done
    simp only [Element.ofJson, ↓do_eq_some_iff, Option.pure_def, Option.some.injEq] at done
    obtain ⟨fields, record, id, readId, name, readName, timing, readTiming, duration, readDuration,
      content, readContent, style, readStyle, captionStyleId, readCaptionStyleId, position,
      readPosition, hidden, readHidden, muted, readMuted, rfl⟩ := done
    have plain := fieldsPlain_of_asRecord plain record
    simp only [Element.ofJson, Element.toJson]
    simp [↓do_asRecord, ↓Option.bind_eq_bind, fetch_eq, fetchOr_eq, fetch?_eq,
      List.lookup_append, List.lookup_cons, stable_text.fetch plain readId,
      stable_text.fetch plain readName, Timing.stable.fetch plain readTiming,
      Duration.stable.fetch plain readDuration, Content.stable.fetch plain readContent,
      TextStyle.stable.fetch? plain readStyle, stable_text.fetch? plain readCaptionStyleId,
      PercentPosition.stable.fetch? plain readPosition, stable_bool.fetchOr plain rfl readHidden,
      stable_bool.fetchOr plain rfl readMuted]
  null := rfl

/-- A track is read again if its volume is finite. -/
theorem Track.ofJson_toJson {v : Json} {t : Track Float} (plain : v.isPlain = true)
    (done : Track.ofJson v = some t) :
    Track.ofJson t.toJson = if t.volume.isFinite = true then some t else none := by
  simp only [Track.ofJson, ↓do_eq_some_iff, Option.pure_def, Option.some.injEq] at done
  obtain ⟨fields, record, id, readId, name, readName, kind, readKind, role, readRole, elements,
    readElements, muted, readMuted, isMain, readIsMain, volume, readVolume, rfl⟩ := done
  have plain := fieldsPlain_of_asRecord plain record
  have again : asSingle (number32 volume) = if volume.isFinite = true then some volume else none := by
    -- Full volume, where none was given, is what the number 1 is read as.
    rcases exists_of_fetchOr plain readVolume with rfl | ⟨w, plain, read⟩
    · exact Single.asSingle_number32 (v := .int 1) rfl rfl
    · exact Single.asSingle_number32 plain read
  simp only [Track.ofJson, Track.toJson]
  simp [↓do_asRecord, ↓Option.bind_eq_bind, fetch_eq, fetchOr_eq, List.lookup_cons,
    stable_text.fetch plain readId, stable_text.fetch plain readName,
    (stable_named TrackKind.lookup_name).fetch plain readKind,
    (stable_named TrackRole.lookup_name).fetch plain readRole,
    Element.stable.list.fetchOr plain rfl readElements, stable_bool.fetchOr plain rfl readMuted,
    stable_bool.fetchOr plain rfl readIsMain, again]
  split <;> rfl

/-- A template is read again if all its volumes are finite. -/
theorem ofJson_toJson {v : Json} {t : Template Float} (plain : v.isPlain = true)
    (done : ofJson v = some t) (created : t.createdAt.ReadsBack) (updated : t.updatedAt.ReadsBack) :
    ofJson t.toJson =
      if ∀ track ∈ t.tracks, track.volume.isFinite = true then some t else none := by
  simp only [ofJson, ↓do_eq_some_iff, Option.pure_def, Option.some.injEq] at done
  obtain ⟨fields, record, version, readVersion, id, readId, name, readName, description,
    readDescription, createdAt, readCreatedAt, updatedAt, readUpdatedAt, sourceProjectId,
    readSourceProjectId, canvas, readCanvas, tracks, readTracks, rules, readRules, captionStyles,
    readCaptionStyles, placeholders, readPlaceholders, tags, readTags, rfl⟩ := done
  have plain := fieldsPlain_of_asRecord plain record
  have again : asList Track.ofJson (list Track.toJson tracks) =
      if ∀ track ∈ tracks, track.volume.isFinite = true then some tracks else none := by
    rcases exists_of_fetchOr plain readTracks with rfl | ⟨w, plain, read⟩
    · rfl
    · exact asList_again Track.ofJson_toJson plain read
  have created : asInstant (instant createdAt) = some createdAt := created
  have updated : asInstant (instant updatedAt) = some updatedAt := updated
  simp only [ofJson, toJson]
  simp [↓do_asRecord, ↓Option.bind_eq_bind, fetch_eq, fetchOr_eq, fetch?_eq, List.lookup_append,
    List.lookup_cons, stable_text.fetch plain readVersion, stable_text.fetch plain readId,
    stable_text.fetch plain readName, stable_text.fetchOr plain rfl readDescription, created, updated,
    stable_text.fetch? plain readSourceProjectId, Canvas.stable.fetch plain readCanvas,
    Rule.stable.list.fetchOr plain rfl readRules,
    CaptionStyle.stable.list.fetchOr plain rfl readCaptionStyles,
    Placeholder.stable.list.fetchOr plain rfl readPlaceholders,
    stable_strs.fetchOr plain rfl readTags, again]
  split <;> rfl

end Template

end Storyboard
