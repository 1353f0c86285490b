import Storyboard.Proofs.Style.Document

/-!
# Setting one property

To set a property the whole style is written, the value is put under the name, and what results is
read. That this changes one property and no other rests on the reader getting every property from
what was written of it. Styles keep what it takes: their numbers are finite, and no property of an
unknown name stands under a known one.
-/

namespace Storyboard.TextStyle

open Json

/-! ## Known properties -/

/-- The known properties. -/
inductive Property where
  | fontFamily
  | fontSize
  | color
  | backgroundColor
  | alignment
  | bold
  | italic
  | underline
  | lineHeight
  | letterSpacing
  | strokeColor
  | strokeWidth
  deriving DecidableEq

namespace Property

/-- The known properties in the order in which they are written. -/
def all : List Property :=
  [fontFamily, fontSize, color, backgroundColor, alignment, bold, italic, underline, lineHeight,
    letterSpacing, strokeColor, strokeWidth]

/-- The name of a property. -/
def name : Property → String
  | fontFamily => "fontFamily"
  | fontSize => "fontSize"
  | color => "color"
  | backgroundColor => "backgroundColor"
  | alignment => "alignment"
  | bold => "bold"
  | italic => "italic"
  | underline => "underline"
  | lineHeight => "lineHeight"
  | letterSpacing => "letterSpacing"
  | strokeColor => "strokeColor"
  | strokeWidth => "strokeWidth"

/-- What is written of a property; nothing of an optional one that is absent. -/
def shown (s : TextStyle) : Property → Option Json
  | fontFamily => some (.str s.fontFamily)
  | fontSize => some (number s.fontSize)
  | color => some (.str s.color)
  | backgroundColor => s.backgroundColor.map .str
  | alignment => some (.str s.alignment.name)
  | bold => some (.bool s.bold)
  | italic => some (.bool s.italic)
  | underline => some (.bool s.underline)
  | lineHeight => some (number s.lineHeight)
  | letterSpacing => some (number s.letterSpacing)
  | strokeColor => s.strokeColor.map .str
  | strokeWidth => s.strokeWidth.map number

/-- The style with the reading of a value for a property, if the value can be read for it. -/
def put (s : TextStyle) (value : Json) : Property → Option TextStyle
  | fontFamily => (asText value).map fun x => { s with fontFamily := x }
  | fontSize => (asFloat value).map fun x => { s with fontSize := x }
  | color => (asText value).map fun x => { s with color := x }
  | backgroundColor => (asOptional asText value).map fun x => { s with backgroundColor := x }
  | alignment => (asNamed Alignment.names value).map fun x => { s with alignment := x }
  | bold => (asBool value).map fun x => { s with bold := x }
  | italic => (asBool value).map fun x => { s with italic := x }
  | underline => (asBool value).map fun x => { s with underline := x }
  | lineHeight => (asFloat value).map fun x => { s with lineHeight := x }
  | letterSpacing => (asFloat value).map fun x => { s with letterSpacing := x }
  | strokeColor => (asOptional asText value).map fun x => { s with strokeColor := x }
  | strokeWidth => (asOptional asFloat value).map fun x => { s with strokeWidth := x }

theorem mem_all (p : Property) : p ∈ all := by
  cases p <;> decide

theorem nodup_names : (all.map name).Nodup := by
  decide

theorem name_injective : Function.Injective name := fun p q same =>
  List.inj_on_of_nodup_map nodup_names (mem_all p) (mem_all q) same

theorem mem_knownProperties_iff {id : String} :
    id ∈ knownProperties ↔ ∃ p : Property, p.name = id := by
  change id ∈ all.map name ↔ _
  simp [mem_all]

end Property

variable {s : TextStyle} {fields : List (String × Json)} {value : Json}

/-! ## Written fields -/

/-- The fields that are written of the known properties. -/
def known (s : TextStyle) : List (String × Json) :=
  Property.all.filterMap fun p => (p.shown s).map fun v => (p.name, v)

theorem toJson_eq (s : TextStyle) : s.toJson = .obj (s.known ++ s.extra) := by
  obtain ⟨_, _, _, background, _, _, _, _, _, _, stroke, width, _⟩ := s
  cases background <;> cases stroke <;> cases width <;> rfl

theorem mem_known {p : Property} {v : Json} : (p.name, v) ∈ s.known ↔ p.shown s = some v := by
  simp only [known, List.mem_filterMap, Option.map_eq_some_iff, Prod.mk.injEq]
  constructor
  · rintro ⟨q, -, w, shown, same, rfl⟩
    exact Property.name_injective same ▸ shown
  · exact fun shown => ⟨p, p.mem_all, v, shown, rfl, rfl⟩

theorem nodup_known (s : TextStyle) : (s.known.map Prod.fst).Nodup := by
  rw [known, List.map_filterMap]
  refine Property.nodup_names.of_map.filterMap fun p q key first second => ?_
  obtain ⟨_, _, rfl⟩ : ∃ v, p.shown s = some v ∧ p.name = key := by simpa using first
  obtain ⟨_, _, same⟩ : ∃ v, q.shown s = some v ∧ q.name = p.name := by simpa using second
  exact Property.name_injective same.symm

theorem mem_knownProperties_of_mem_known {key : String} {v : Json} (member : (key, v) ∈ s.known) :
    key ∈ knownProperties := by
  obtain ⟨p, -, shown⟩ := List.mem_filterMap.1 member
  obtain ⟨_, _, same⟩ := Option.map_eq_some_iff.1 shown
  cases same
  exact Property.mem_knownProperties_iff.2 ⟨p, rfl⟩

/-! ## Reading back -/

/-- The numbers of a style are finite, and properties of unknown names stand in order, none of them
under a known name. -/
structure WellFormed (s : TextStyle) : Prop where
  fontSize : s.fontSize.isFinite = true
  lineHeight : s.lineHeight.isFinite = true
  letterSpacing : s.letterSpacing.isFinite = true
  strokeWidth : ∀ w, s.strokeWidth = some w → w.isFinite = true
  ordered : Keyed.Ordered s.extra
  unknown : ∀ entry ∈ s.extra, entry.1 ∉ knownProperties

/-- Where the fields are what is written of a style, but for a value under the name of one property,
that property is read from the value and every other one is read back. -/
theorem ofFields_of_put (wf : s.WellFormed) (p : Property)
    (shown : ∀ q : Property, fields.lookup q.name = if q = p then some value else q.shown s) :
    ofFields fields = p.put { s with extra := unknown fields } value := by
  have shown : ∀ q ∈ Property.all, fields.lookup q.name = if q = p then some value else q.shown s :=
    fun q _ => shown q
  have width : readOr none (asOptional asFloat) (s.strokeWidth.map number) = some s.strokeWidth :=
    readOr_map rfl fun w given => asFloat_number (wf.strokeWidth w given)
  have text (x : Option String) : readOr none (asOptional asText) (x.map .str) = some x :=
    readOr_map rfl fun _ _ => rfl
  have named : asNamed Alignment.names (.str s.alignment.name) = some s.alignment :=
    s.alignment.lookup_name
  simp only [Property.all, List.forall_mem_cons, Property.name, Property.shown] at shown
  simp only [ofFields, filter_eq_unknown, fetchOr_eq, fetch?_eq]
  -- Whichever property it is, the readings of all others are known, and one reading is left.
  cases p <;> simp only [↓reduceIte, reduceCtorEq] at shown <;>
    simp only [shown, readOr_some, width, text, asText_str, asBool_bool, named,
      asFloat_number wf.fontSize, asFloat_number wf.lineHeight, asFloat_number wf.letterSpacing,
      Option.pure_def, Option.bind_eq_bind, Option.bind_some] <;>
    exact Option.map_eq_bind.symm

/-- Where the fields are what is written of a style, every property is read back. -/
theorem ofFields_of_shown (wf : s.WellFormed)
    (shown : ∀ p : Property, fields.lookup p.name = p.shown s) :
    ofFields fields = some { s with extra := unknown fields } := by
  have put (p : Property) : fields.lookup p.name =
      if p = .fontFamily then some (.str s.fontFamily) else p.shown s := by
    rw [shown]
    split
    · next same =>
      subst same
      rfl
    · rfl
  exact ofFields_of_put wf .fontFamily put

/-! ## The patched fields -/

theorem putField_toJson (s : TextStyle) (id : String) (value : Json) :
    putField id value s.toJson =
      .obj (Keyed.insert id value (Keyed.ofList (s.known ++ s.extra))) := by
  rw [toJson_eq, putField, Keyed.ofList, List.foldl_append]
  rfl

namespace WellFormed

theorem get?_extra (wf : s.WellFormed) {id : String} (known : id ∈ knownProperties) :
    Keyed.get? s.extra id = none := by
  refine Keyed.get?_eq_none_iff.2 fun member => ?_
  obtain ⟨entry, listed, rfl⟩ := List.mem_map.1 member
  exact wf.unknown entry listed known

/-- No two fields of a style in writing have one name. -/
theorem nodup_fields (wf : s.WellFormed) : ((s.known ++ s.extra).map Prod.fst).Nodup := by
  rw [List.map_append]
  refine (nodup_known s).append wf.ordered.nodup fun id first second => ?_
  obtain ⟨⟨_, v⟩, member, rfl⟩ := List.mem_map.1 first
  exact Keyed.get?_eq_none_iff.1 (wf.get?_extra (mem_knownProperties_of_mem_known member)) second

theorem get?_written (wf : s.WellFormed) (p : Property) :
    Keyed.get? (Keyed.ofList (s.known ++ s.extra)) p.name = p.shown s := by
  have absent := wf.get?_extra (Property.mem_knownProperties_iff.2 ⟨p, rfl⟩)
  rw [Keyed.get?_ofList wf.nodup_fields]
  ext v
  rw [Keyed.get?_eq_some_iff wf.nodup_fields, List.mem_append, mem_known,
    ← Keyed.get?_eq_some_iff wf.ordered.nodup, absent]
  simp

theorem unknown_written (wf : s.WellFormed) :
    TextStyle.unknown (Keyed.ofList (s.known ++ s.extra)) = s.extra := by
  refine ((Keyed.ordered_ofList _).filter _).ext wf.ordered fun id => ?_
  rw [Keyed.get?_filter fun key => !knownProperties.contains key]
  by_cases known : id ∈ knownProperties
  · simp [known, wf.get?_extra known]
  · have other : ∀ v, (id, v) ∉ s.known := fun v member =>
      known (mem_knownProperties_of_mem_known member)
    ext v
    simp [known, Keyed.get?_ofList wf.nodup_fields, Keyed.get?_eq_some_iff wf.nodup_fields,
      Keyed.get?_eq_some_iff wf.ordered.nodup, other]

/-- With a value under a name the properties of unknown names have it where the name is not known,
and are the same where it is. -/
theorem unknown_patched (wf : s.WellFormed) (id : String) (value : Json) :
    TextStyle.unknown (Keyed.insert id value (Keyed.ofList (s.known ++ s.extra))) =
      if id ∈ knownProperties then s.extra else s.extra.insert id value := by
  rw [TextStyle.unknown,
    (Keyed.ordered_ofList _).filter_insert fun key => !knownProperties.contains key,
    ← TextStyle.unknown, wf.unknown_written]
  by_cases known : id ∈ knownProperties <;> simp [known]

end WellFormed

/-! ## Setting a property -/

/-- Under a name that is not known a value is kept as it is. -/
theorem setProperty_unknown (wf : s.WellFormed) {id : String} (unlisted : id ∉ knownProperties)
    (value : Json) :
    s.setProperty id value = some { s with extra := s.extra.insert id value } := by
  have others := wf.unknown_patched id value
  rw [if_neg unlisted] at others
  rw [setProperty, putField_toJson, ← others]
  refine ofFields_of_shown wf fun p => ?_
  have different : p.name ≠ id := fun same =>
    unlisted (Property.mem_knownProperties_iff.2 ⟨p, same⟩)
  rw [← Keyed.get?, Keyed.get?_insert, if_neg different, wf.get?_written]

/-- Under the name of a known property a value is read for it. -/
theorem setProperty_known (wf : s.WellFormed) (p : Property) (value : Json) :
    s.setProperty p.name value = p.put s value := by
  have others := wf.unknown_patched p.name value
  rw [if_pos (Property.mem_knownProperties_iff.2 ⟨p, rfl⟩)] at others
  have shown (q : Property) : (Keyed.insert p.name value (Keyed.ofList (s.known ++ s.extra))).lookup
      q.name = if q = p then some value else q.shown s := by
    rw [← Keyed.get?, Keyed.get?_insert, wf.get?_written]
    simp only [Property.name_injective.eq_iff]
  rw [setProperty, putField_toJson]
  exact (ofFields_of_put wf p shown).trans (by rw [others])

/-- The style after an attempt to set a property. -/
def afterSetting (s : TextStyle) (id : String) (value : Json) : TextStyle :=
  (s.setProperty id value).getD s

/-- A property that is read from a plain value keeps a style well formed. -/
theorem WellFormed.put (wf : s.WellFormed) (plain : value.isPlain = true) {p : Property}
    {after : TextStyle} (done : p.put s value = some after) : after.WellFormed := by
  cases p <;> obtain ⟨x, read, rfl⟩ := Option.map_eq_some_iff.1 done
  case fontSize => exact { wf with fontSize := isFinite_of_asFloat plain read }
  case lineHeight => exact { wf with lineHeight := isFinite_of_asFloat plain read }
  case letterSpacing => exact { wf with letterSpacing := isFinite_of_asFloat plain read }
  case strokeWidth =>
    refine { wf with strokeWidth := ?_ }
    rintro w rfl
    exact isFinite_of_asFloat plain (of_asOptional read)
  all_goals exact { wf with }

theorem WellFormed.afterSetting (wf : s.WellFormed) (id : String) (plain : value.isPlain = true) :
    (s.afterSetting id value).WellFormed := by
  rw [TextStyle.afterSetting]
  by_cases known : id ∈ knownProperties
  · obtain ⟨p, rfl⟩ := Property.mem_knownProperties_iff.1 known
    rw [setProperty_known wf]
    cases done : p.put s value with
    | none => exact wf
    | some after => exact wf.put plain done
  · rw [setProperty_unknown wf known]
    refine { wf with ordered := Keyed.ordered_insert id value wf.ordered, unknown := ?_ }
    intro entry member
    rcases Keyed.mem_insert member with rfl | before
    · exact known
    · exact wf.unknown entry before

/-! ## Styles of documents -/

/-- A style that is read from a dictionary as documents hold it is well formed. -/
theorem WellFormed.of_ofFields (plain : fieldsPlain fields = true) (ordered : Keyed.Ordered fields)
    (done : ofFields fields = some s) : s.WellFormed := by
  simp only [ofFields, ↓do_eq_some_iff, Option.pure_def, Option.some.injEq] at done
  obtain ⟨_, -, size, readSize, _, -, _, -, _, -, _, -, _, -, _, -, height, readHeight, spacing,
    readSpacing, _, -, _, readWidth, rfl⟩ := done
  have finite {key : String} {absent x : Float} (default : absent.isFinite = true)
      (read : fetchOr fields key absent asFloat = some x) : x.isFinite = true := by
    rcases exists_of_fetchOr plain read with rfl | ⟨v, plain, read⟩
    · exact default
    · exact isFinite_of_asFloat plain read
  exact
    { fontSize := finite rfl readSize
      lineHeight := finite rfl readHeight
      letterSpacing := finite rfl readSpacing
      strokeWidth := by
        rintro w rfl
        obtain ⟨v, plain, read⟩ := exists_of_fetch? plain readWidth
        exact isFinite_of_asFloat plain read
      ordered := ordered.filter _
      unknown := fun entry member => by simpa using (List.mem_filter.1 member).2 }

/-- A style that is read from a document, or comes from one by setting properties. -/
inductive Reached : TextStyle → Prop where
  | read {fields : List (String × Json)} {s : TextStyle} (plain : fieldsPlain fields = true)
    (ordered : Keyed.Ordered fields) (done : ofJson (.obj fields) = some s) : Reached s
  | set {s : TextStyle} (before : Reached s) (id : String) {value : Json}
    (plain : value.isPlain = true) : Reached (s.afterSetting id value)

theorem Reached.wellFormed (reached : Reached s) : s.WellFormed := by
  induction reached with
  | read plain ordered done => exact .of_ofFields plain ordered done
  | set _ id plain ih => exact ih.afterSetting id plain

/-- Setting a property changes that property and nothing else. This is so of every well-formed style,
and styles that are read from documents are well formed, whatever is set of them. A value under a
name that is not known is kept as it came, beside all other properties; one under a known name is
read for the property of that name; and a value that cannot be read for it leaves the style. -/
theorem setProperty_frame :
    (∀ s : TextStyle, Reached s → s.WellFormed) ∧
      (∀ id, id ∈ knownProperties ↔ ∃ p : Property, p.name = id) ∧
      ∀ s : TextStyle, s.WellFormed → ∀ (id : String) (value : Json),
        (id ∉ knownProperties →
          s.setProperty id value = some { s with extra := s.extra.insert id value } ∧
            ∀ key, (s.extra.insert id value).get? key =
              if key = id then some value else s.extra.get? key) ∧
        (∀ p : Property, p.name = id → s.setProperty id value = p.put s value) ∧
        (s.setProperty id value = none → s.afterSetting id value = s) ∧
        (value.isPlain = true → (s.afterSetting id value).WellFormed) := by
  refine ⟨fun _ => Reached.wellFormed, fun _ => Property.mem_knownProperties_iff,
    fun s wf id value => ⟨fun unlisted => ?_, ?_, fun failed => ?_, wf.afterSetting id⟩⟩
  · exact ⟨setProperty_unknown wf unlisted value, Keyed.get?_insert id value s.extra⟩
  · rintro p rfl
    exact setProperty_known wf p value
  · rw [afterSetting, failed]
    rfl

/-- A style out of a document with a shadow gets a blur beside it and another font size, and is left
by a font size that is no number. -/
theorem setProperty_blur :
    let shadow : String × Json := ("textShadow", .str "2px")
    let s : TextStyle := { bold := true, extra := [shadow] }
    s.setProperty "blur" (.arr [.null]) =
        some { bold := true, extra := [("blur", .arr [.null]), shadow] } ∧
      s.setProperty "fontSize" (.float 36.5) =
        some { bold := true, fontSize := 36.5, extra := [shadow] } ∧
      s.afterSetting "fontSize" (.str "huge") = s := by
  intro shadow s
  have done : ofJson (.obj [("bold", .bool true), shadow]) = some s := rfl
  have reached : Reached s := .read rfl (by decide) done
  have frame := setProperty_frame.2.2 s (setProperty_frame.1 s reached)
  have unlisted : "blur" ∉ knownProperties := by decide
  refine ⟨((frame "blur" (.arr [.null])).1 unlisted).1, ?_, ?_⟩
  · exact (frame "fontSize" (.float 36.5)).2.1 .fontSize rfl
  · exact (frame "fontSize" (.str "huge")).2.2.1 ((frame _ _).2.1 .fontSize rfl)

end Storyboard.TextStyle
