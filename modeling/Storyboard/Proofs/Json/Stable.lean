import Mathlib.Data.List.Basic
import Storyboard.Json.Fields
import Storyboard.Proofs.Double.Finite
import Storyboard.Proofs.Keyed

/-!
# Stable documents

Reading a document and writing what was read may change the document: names come in their canonical
spelling, absent values are filled in, unknown fields are gone. What matters is that it happens once:
the reader gets from the written document what it got before. This is shown of readers and writers of
single values, of fields, and of lists, for values as documents hold them.
-/

namespace Storyboard.Json

/-! ## Plain values -/

mutual

/-- A value as documents hold it: doubles are finite, and no number is a single. -/
def isPlain : Json → Bool
  | .null | .bool _ | .int _ | .str _ => true
  | .float x => x.isFinite
  | .single _ => false
  | .arr items => itemsPlain items
  | .obj fields => fieldsPlain fields

/-- All values of a list are plain. -/
def itemsPlain : List Json → Bool
  | [] => true
  | item :: rest => isPlain item && itemsPlain rest

/-- All values of a dictionary are plain. -/
def fieldsPlain : List (String × Json) → Bool
  | [] => true
  | (_, item) :: rest => isPlain item && fieldsPlain rest

end

theorem itemsPlain_iff {items : List Json} :
    itemsPlain items = true ↔ ∀ v ∈ items, v.isPlain = true := by
  induction items with
  | nil => simp [itemsPlain]
  | cons v rest ih => simp [itemsPlain, ih]

theorem fieldsPlain_iff {fields : List (String × Json)} :
    fieldsPlain fields = true ↔ ∀ field ∈ fields, field.2.isPlain = true := by
  induction fields with
  | nil => simp [fieldsPlain]
  | cons field rest ih =>
    obtain ⟨key, v⟩ := field
    simp [fieldsPlain, ih]

variable {fields : List (String × Json)} {key : String} {v : Json}

theorem isPlain_of_lookup (plain : fieldsPlain fields = true) (found : fields.lookup key = some v) :
    v.isPlain = true :=
  fieldsPlain_iff.1 plain _ (Keyed.mem_of_get? found)

/-- The fields of a plain record are plain. -/
theorem fieldsPlain_of_asRecord {names : List String} (plain : v.isPlain = true)
    (record : asRecord names v = some fields) : fieldsPlain fields = true := by
  unfold asRecord at record
  split at record
  · cases record
    exact plain
  · split at record
    · cases record
      rw [fieldsPlain_iff]
      rintro ⟨name, w⟩ member
      exact itemsPlain_iff.1 plain w (List.of_mem_zip member).2
    · cases record
  · cases record

/-- The rest of a plain tagged record is plain. -/
theorem isPlain_of_asTagged {tag : String} {rest : Json} (plain : v.isPlain = true)
    (tagged : asTagged v = some (tag, rest)) : rest.isPlain = true := by
  unfold asTagged at tagged
  split at tagged
  · obtain ⟨_, _, same⟩ := Option.map_eq_some_iff.1 tagged
    cases same
    exact plain
  · obtain ⟨_, _, same⟩ := Option.map_eq_some_iff.1 tagged
    cases same
    exact itemsPlain_iff.2 fun w member =>
      itemsPlain_iff.1 plain w (List.mem_cons_of_mem _ member)
  · cases tagged

/-! ## Stable readers -/

variable {α : Type} {read : Reader α} {write : α → Json} {a : α}

/-- What the reader gets from a plain value, it gets from that in writing. It gets nothing from
nothing, so that an optional value in writing is not taken for an absent one. -/
structure Stable (read : Reader α) (write : α → Json) : Prop where
  again : ∀ {v a}, v.isPlain = true → read v = some a → read (write a) = some a
  null : read .null = none

@[simp] theorem asText_str (x : String) : asText (.str x) = some x := rfl

@[simp] theorem asBool_bool (x : Bool) : asBool (.bool x) = some x := rfl

theorem stable_text : Stable asText .str where
  again := fun _ _ => rfl
  null := rfl

theorem stable_bool : Stable asBool .bool where
  again := fun _ _ => rfl
  null := rfl

/-- A double in writing is itself. -/
theorem asFloat_number {x : Float} (finite : x.isFinite = true) : asFloat (number x) = some x := by
  rw [number, if_pos finite]
  rfl

theorem isFinite_of_asFloat {x : Float} (plain : v.isPlain = true) (done : asFloat v = some x) :
    x.isFinite = true := by
  unfold asFloat at done
  split at done
  · cases done
    split
    · exact Double.isFinite_neg (Double.isFinite_toFloat _)
    · exact Double.isFinite_toFloat _
  · cases done
    exact plain
  · cases plain
  · cases done

theorem stable_float : Stable asFloat number where
  again := fun plain done => asFloat_number (isFinite_of_asFloat plain done)
  null := rfl

theorem stable_count (limit : Nat) : Stable (asCount limit) nat where
  again := by
    intro v n _ done
    unfold asCount at done
    split at done
    · split at done
      · cases done
        simp only [asCount, nat, Int.toNat_natCast]
        rw [if_pos (by omega)]
      · cases done
    · cases done
  null := rfl

theorem stable_count32 : Stable asCount32 nat := stable_count _

theorem stable_count64 : Stable asCount64 nat := stable_count _

/-- Names are stable where each value is listed under its own. -/
theorem stable_named {names : List (String × α)} {name : α → String}
    (listed : ∀ a, names.lookup (name a) = some a) :
    Stable (asNamed names) (fun a => .str (name a)) where
  again := fun _ _ => listed _
  null := rfl

theorem stable_namedWithin {names : List (String × α)} {name : α → String}
    (listed : ∀ a, names.lookup (name a) = some a) :
    Stable (asNamedWithin names) (fun a => .str (name a)) where
  again := fun _ _ => listed _
  null := rfl

/-! ## Lists and dictionaries -/

/-- Where some items are not read again, the list is not. -/
theorem asList_write_if {p : α → Prop} [DecidablePred p] {items : List α}
    (each : ∀ a ∈ items, read (write a) = if p a then some a else none) :
    asList read (list write items) = if ∀ a ∈ items, p a then some items else none := by
  change (items.map write).mapM read = _
  induction items with
  | nil => simp
  | cons a rest ih =>
    have first := each a List.mem_cons_self
    have later := ih fun b member => each b (List.mem_cons_of_mem _ member)
    simp only [List.map_cons, List.mapM_cons, first, later, List.forall_mem_cons, ite_and]
    split
    · split <;> rfl
    · rfl

/-- Every item that was read comes from a value in the list. -/
theorem exists_of_mapM {values : List Json} {items : List α} (done : values.mapM read = some items)
    (member : a ∈ items) : ∃ v ∈ values, read v = some a := by
  induction values generalizing items with
  | nil =>
    cases done
    cases member
  | cons v rest ih =>
    rw [List.mapM_cons] at done
    obtain ⟨b, first, done⟩ := Option.bind_eq_some_iff.1 done
    obtain ⟨others, later, done⟩ := Option.bind_eq_some_iff.1 done
    cases done
    rcases List.mem_cons.1 member with rfl | inside
    · exact ⟨v, List.mem_cons_self, first⟩
    · obtain ⟨w, listed, same⟩ := ih later inside
      exact ⟨w, List.mem_cons_of_mem _ listed, same⟩

theorem exists_of_asList {items : List α} (plain : v.isPlain = true)
    (done : asList read v = some items) (member : a ∈ items) :
    ∃ w, w.isPlain = true ∧ read w = some a := by
  unfold asList at done
  split at done
  · obtain ⟨w, listed, same⟩ := exists_of_mapM done member
    exact ⟨w, itemsPlain_iff.1 plain w listed, same⟩
  · cases done

/-- A list out of a document is read again if all its items are. -/
theorem asList_again {p : α → Prop} [DecidablePred p] {items : List α}
    (again : ∀ {v a}, v.isPlain = true → read v = some a →
      read (write a) = if p a then some a else none)
    (plain : v.isPlain = true) (done : asList read v = some items) :
    asList read (list write items) = if ∀ a ∈ items, p a then some items else none := by
  refine asList_write_if fun a member => ?_
  obtain ⟨w, plain, same⟩ := exists_of_asList plain done member
  exact again plain same

/-- A list is stable where its items are. -/
theorem Stable.list (stable : Stable read write) : Stable (asList read) (list write) where
  again := fun plain done =>
    (asList_again (fun plain same => (stable.again plain same).trans (if_pos trivial).symm) plain
      done).trans (if_pos fun _ _ => trivial)
  null := rfl

theorem stable_strs : Stable (asList asText) strs := stable_text.list

theorem asKeyed_texts (entries : Keyed String) :
    asKeyed asText (keyed .str entries) = some entries := by
  change ((Keyed.mapValues Json.str entries).mapM fun entry =>
    (asText entry.2).map fun x => (entry.1, x)) = some entries
  induction entries with
  | nil => rfl
  | cons entry rest ih =>
    rw [Keyed.mapValues, List.map_cons, List.mapM_cons, ← Keyed.mapValues, ih]
    rfl

theorem stable_keyedTexts : Stable (asKeyed asText) (keyed .str) where
  again := fun _ _ => asKeyed_texts _
  null := rfl

/-! ## Fields -/

/-- What a reader gets from a field that may be absent. -/
def readOr (absent : α) (read : Reader α) : Option Json → Option α
  | some v => read v
  | none => some absent

section

variable {β : Type} {f : α → Option β} {x : Option α} {b : β}

/-- A reader gets something if it gets something at every step. -/
theorem do_eq_some_iff : (do f (← x)) = some b ↔ ∃ a, x = some a ∧ f a = some b :=
  Option.bind_eq_some_iff

/-- A record in writing is read from its fields. -/
theorem do_asRecord {names : List String} {f : List (String × Json) → Option β} :
    (do f (← asRecord names (.obj fields))) = f fields := rfl

end

theorem fetchOr_eq (absent : α) : fetchOr fields key absent read =
    readOr absent read (fields.lookup key) := rfl

theorem fetch?_eq : fetch? fields key read =
    readOr none (asOptional read) (fields.lookup key) := rfl

theorem fetch_eq : fetch fields key read = (fields.lookup key).bind read := rfl

@[simp] theorem readOr_some (absent : α) : readOr absent read (some v) = read v := rfl

@[simp] theorem lookup_opt {k : String} {value : Option α} :
    (opt key write value).lookup k = if k = key then value.map write else none := by
  cases value with
  | none => simp [opt]
  | some a =>
    rw [opt, List.lookup_cons]
    by_cases same : k = key
    · simp [same]
    · rw [beq_eq_false_iff_ne.2 same, if_neg same]
      rfl

/-- A field that is left out under a condition. -/
@[simp] theorem lookup_unless {c : Prop} [Decidable c] {k : String} {w : Json} :
    (if c then [] else [(key, w)]).lookup k =
      if k = key then if c then none else some w else none := by
  by_cases same : k = key
  · by_cases left : c <;> simp [left, same]
  · by_cases left : c <;> simp [left, same, List.lookup_cons, beq_eq_false_iff_ne.2 same]

theorem exists_of_fetch (plain : fieldsPlain fields = true)
    (done : fetch fields key read = some a) : ∃ v, v.isPlain = true ∧ read v = some a := by
  obtain ⟨v, found, done⟩ := Option.bind_eq_some_iff.1 done
  exact ⟨v, isPlain_of_lookup plain found, done⟩

theorem exists_of_fetchOr {absent : α} (plain : fieldsPlain fields = true)
    (done : fetchOr fields key absent read = some a) :
    a = absent ∨ ∃ v, v.isPlain = true ∧ read v = some a := by
  unfold fetchOr at done
  split at done
  · next found => exact .inr ⟨_, isPlain_of_lookup plain found, done⟩
  · exact .inl (Option.some.inj done).symm

theorem of_asOptional (done : asOptional read v = some (some a)) : read v = some a := by
  unfold asOptional at done
  split at done
  · cases done
  · obtain ⟨_, got, same⟩ := Option.map_eq_some_iff.1 done
    cases same
    exact got

theorem exists_of_fetch? (plain : fieldsPlain fields = true)
    (done : fetch? fields key read = some (some a)) : ∃ v, v.isPlain = true ∧ read v = some a := by
  rcases exists_of_fetchOr plain done with absent | ⟨v, plain, same⟩
  · cases absent
  · exact ⟨v, plain, of_asOptional same⟩

/-- A required field in writing. -/
theorem Stable.fetch (stable : Stable read write) (plain : fieldsPlain fields = true)
    (done : fetch fields key read = some a) : read (write a) = some a := by
  obtain ⟨v, plain, same⟩ := exists_of_fetch plain done
  exact stable.again plain same

/-- A field in writing whose default can be read again. -/
theorem Stable.fetchOr (stable : Stable read write) (plain : fieldsPlain fields = true) {absent : α}
    (default : read (write absent) = some absent)
    (done : fetchOr fields key absent read = some a) : read (write a) = some a := by
  rcases exists_of_fetchOr plain done with rfl | ⟨v, plain, same⟩
  · exact default
  · exact stable.again plain same

/-- An optional value in writing, where nothing is not taken for a value. -/
theorem readOr_map (null : read .null = none) {value : Option α}
    (again : ∀ a, value = some a → read (write a) = some a) :
    readOr none (asOptional read) (value.map write) = some value := by
  cases value with
  | none => rfl
  | some a =>
    have again := again a rfl
    change asOptional read (write a) = some (some a)
    unfold asOptional
    split
    · next nothing =>
      rw [nothing, null] at again
      cases again
    · rw [again]
      rfl

/-- An optional field in writing. -/
theorem Stable.fetch? (stable : Stable read write) (plain : fieldsPlain fields = true)
    {value : Option α} (done : fetch? fields key read = some value) :
    readOr none (asOptional read) (value.map write) = some value := by
  refine readOr_map stable.null ?_
  rintro a rfl
  obtain ⟨v, plain, same⟩ := exists_of_fetch? plain done
  exact stable.again plain same

end Storyboard.Json
