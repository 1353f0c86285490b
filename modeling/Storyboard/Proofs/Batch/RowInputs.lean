import Mathlib.Data.List.Lemmas
import Storyboard.Batch.DataSource
import Storyboard.Proofs.Batch.Provenance

/-!
# What a row gives

Several columns of a table can fill one placeholder, once by its name and once by its id, and a name
of one placeholder can be the id of another. A row fails where a number cannot be read or where a
required placeholder has a mapping without a cell. Otherwise every placeholder that a cell leads to
has an input of its own kind, out of the last cell that does; keys that lead nowhere are kept as
texts under names that no placeholder has.

Mappings are walked in the order of their keys, which is the order of the list that they are.
-/

namespace Storyboard

variable {τ : Type}

namespace Batch

/-! ## Where a key leads -/

/-- A key leads to the first placeholder that has it for its name or, where none has, to one that
has it for its id. -/
inductive Leads (t : Template τ) (key : String) (p : Placeholder τ) : Prop where
  | named (first : t.placeholderNamed? key = some p)
  | identified (unnamed : ∀ q ∈ t.placeholders, q.name ≠ key) (member : p ∈ t.placeholders)
    (id : p.id = key)

variable {t : Template τ}

theorem placeholderNamed?_eq_none_iff {key : String} :
    t.placeholderNamed? key = none ↔ ∀ p ∈ t.placeholders, p.name ≠ key := by
  simp [Template.placeholderNamed?]

theorem target?_eq_some_iff (distinct : t.DistinctPlaceholders) {key : String} {p : Placeholder τ} :
    target? t key = some p ↔ Leads t key p := by
  unfold target?
  cases named : t.placeholderNamed? key with
  | some q =>
    rw [Option.some_or]
    constructor
    · rintro ⟨⟩
      exact .named named
    · rintro (first | ⟨unnamed, -, -⟩)
      · exact named.symm.trans first
      · rw [placeholderNamed?_eq_none_iff.2 unnamed] at named
        cases named
  | none =>
    rw [Option.none_or]
    constructor
    · intro found
      obtain ⟨member, id⟩ := Template.mem_of_placeholder? found
      exact .identified (placeholderNamed?_eq_none_iff.1 named) member id
    · rintro (first | ⟨-, member, rfl⟩)
      · rw [named] at first
        cases first
      · exact Template.placeholder?_some distinct member

theorem Leads.member {key : String} {p : Placeholder τ} (leads : Leads t key p) :
    p ∈ t.placeholders := by
  cases leads with
  | named first => exact List.mem_of_find?_eq_some first
  | identified _ member _ => exact member

/-- A key that is the id of a placeholder leads to it or to another one. -/
theorem exists_leads {p : Placeholder τ} (member : p ∈ t.placeholders) :
    ∃ q, Leads t p.id q := by
  cases named : t.placeholderNamed? p.id with
  | some q => exact ⟨q, .named named⟩
  | none => exact ⟨p, .identified (placeholderNamed?_eq_none_iff.1 named) member rfl⟩

/-- The name under which the input of a key is kept. -/
def place (t : Template τ) (key : String) : String := ((target? t key).map (·.id)).getD key

theorem place_eq_id_iff (distinct : t.DistinctPlaceholders) {key : String} {p : Placeholder τ}
    (member : p ∈ t.placeholders) : place t key = p.id ↔ Leads t key p := by
  rw [← target?_eq_some_iff distinct, place]
  cases target : target? t key with
  | some q =>
    have there : q ∈ t.placeholders := ((target?_eq_some_iff distinct).1 target).member
    rw [Option.map_some, Option.getD_some, Option.some.injEq]
    exact ⟨fun same => List.inj_on_of_nodup_map distinct there member same, congrArg _⟩
  | none =>
    refine iff_of_false (fun same => ?_) nofun
    obtain ⟨q, leads⟩ := exists_leads member
    rw [← target?_eq_some_iff distinct, ← same, Option.map_none, Option.getD_none, target] at leads
    cases leads

theorem place_eq_stray_iff (distinct : t.DistinctPlaceholders) {key stray : String}
    (nowhere : ∀ p, ¬ Leads t stray p) : place t key = stray ↔ key = stray := by
  rw [place]
  cases target : target? t key with
  | some q =>
    have leads : Leads t key q := (target?_eq_some_iff distinct).1 target
    rw [Option.map_some, Option.getD_some]
    refine iff_of_false ?_ ?_
    · rintro rfl
      obtain ⟨p, there⟩ := exists_leads leads.member
      exact nowhere p there
    · rintro rfl
      exact nowhere q leads
  | none => rw [Option.map_none, Option.getD_none]

/-- An input is kept under a name when its key leads to a placeholder with the name for its id, or when
it leads nowhere and is itself the name. -/
theorem place_eq_iff (distinct : t.DistinctPlaceholders) {key id : String} :
    place t key = id ↔ (∃ p, p.id = id ∧ Leads t key p) ∨ (∀ p, ¬ Leads t id p) ∧ key = id := by
  constructor
  · rintro rfl
    cases target : target? t key with
    | some p =>
      have leads := (target?_eq_some_iff distinct).1 target
      exact .inl ⟨p, ((place_eq_id_iff distinct leads.member).2 leads).symm, leads⟩
    | none =>
      have same : place t key = key := by rw [place, target]; rfl
      refine .inr ⟨fun p leads => ?_, same.symm⟩
      rw [same, ← target?_eq_some_iff distinct, target] at leads
      cases leads
  · rintro (⟨p, rfl, leads⟩ | ⟨nowhere, here⟩)
    · exact (place_eq_id_iff distinct leads.member).2 leads
    · exact (place_eq_stray_iff distinct nowhere).2 here

/-! ## One mapping -/

/-- A cell as the input of a key: of the kind of its placeholder, or a text. -/
def readCell (t : Template τ) (key cell : String) : Except (Failure τ) (Input τ) :=
  match target? t key with
  | none => .ok (.text cell)
  | some p => cellInput p cell

theorem cellInput_ok_iff {p : Placeholder τ} {cell : String} :
    (∃ input, cellInput p cell = .ok input) ↔
      (p.kind = .number → (Decimal.read? cell).isSome = true) := by
  unfold cellInput
  cases p.kind <;> cases Decimal.read? cell <;> simp

/-- A cell becomes an input of the placeholder's kind. -/
theorem kind_cellInput {p : Placeholder τ} {cell : String} {input : Input τ}
    (made : cellInput p cell = .ok input) : input.kind = p.kind := by
  unfold cellInput at made
  generalize p.kind = kind at made
  cases kind with
  | number =>
    dsimp only at made
    split at made <;> cases made
    rfl
  | _ =>
    cases made
    rfl

/-- Where a text is wanted the input is the cell. -/
theorem text?_cellInput {p : Placeholder τ} {cell : String} {input : Input τ}
    (made : cellInput p cell = .ok input) (textual : p.kind ∈ [.text, .transcript, .color, .font]) :
    input.text? = some cell := by
  unfold cellInput at made
  generalize p.kind = kind at made textual
  cases kind <;> first | (cases made; rfl) | simp at textual

/-- The cell of a mapping, if there is one, can be read. -/
def Readable (t : Template τ) (row : Row) (mapping : String × String) : Prop :=
  ∀ cell, cell? row mapping.2 = some cell → ∃ input, readCell t mapping.1 cell = .ok input

/-- A mapping of a placeholder that is required and has no default has a cell. -/
def Supplied (t : Template τ) (row : Row) (mapping : String × String) : Prop :=
  ∀ p, target? t mapping.1 = some p → p.required = true → p.default = none →
    (cell? row mapping.2).isSome = true

/-- Only numbers can fail to be read. -/
theorem readable_iff {row : Row} {mapping : String × String} :
    Readable t row mapping ↔ ∀ p, target? t mapping.1 = some p → p.kind = .number →
      ∀ cell, cell? row mapping.2 = some cell → (Decimal.read? cell).isSome = true := by
  unfold Readable readCell
  cases target? t mapping.1 with
  | none => simp
  | some p =>
    simp only [cellInput_ok_iff, Option.some.injEq, forall_eq']
    exact ⟨fun read number cell here => read cell here number,
      fun read cell here number => read number cell here⟩

/-- The entry that a mapping gives, made of its cell. -/
def given? (t : Template τ) (row : Row) (mapping : String × String) : Option (String × Input τ) :=
  (cell? row mapping.2).bind fun cell =>
    (readCell t mapping.1 cell).toOption.map (place t mapping.1, ·)

theorem given?_eq_some_iff {row : Row} {mapping : String × String} {id : String}
    {input : Input τ} :
    given? t row mapping = some (id, input) ↔ place t mapping.1 = id ∧
      ∃ cell, cell? row mapping.2 = some cell ∧ readCell t mapping.1 cell = .ok input := by
  have read : ∀ (x : Except (Failure τ) (Input τ)) value, x.toOption = some value ↔ x = .ok value := by
    intro x value
    cases x <;> simp [Except.toOption]
  simp only [given?, Option.bind_eq_some_iff, Option.map_eq_some_iff, Prod.mk.injEq, read]
  constructor
  · rintro ⟨cell, here, _, made, same, rfl⟩
    exact ⟨same, cell, here, made⟩
  · rintro ⟨same, cell, here, made⟩
    exact ⟨cell, here, input, made, same, rfl⟩

/-- A mapping puts in the entry that it makes, and nothing is missing after it where nothing was
before and it has the cell that it needs. -/
theorem addMapping_ok {row : Row} {state state' : Inputs τ × List (Finding τ)}
    {mapping : String × String} (added : addMapping t row state mapping = .ok state') :
    state'.1 = (given? t row mapping).toList.foldl (fun kept (key, value) =>
        Keyed.insert key value kept) state.1 ∧
      (state'.2 = [] ↔ state.2 = [] ∧ Supplied t row mapping) := by
  obtain ⟨inputs, missing⟩ := state
  obtain ⟨key, column⟩ := mapping
  unfold addMapping at added
  simp only [given?, readCell, place, Supplied]
  cases target : target? t key <;> cases cell : cell? row column <;>
    simp only [target, cell] at added
  · cases added
    simp
  · cases added
    simp [Except.toOption]
  · split at added
    · next needed =>
      cases added
      simp_all
    · next free =>
      cases added
      simp_all
  · obtain ⟨input, made, same⟩ := bind_ok_iff.1 added
    cases same
    simp [made, Except.toOption]

theorem addMapping_readable {row : Row} {state : Inputs τ × List (Finding τ)}
    {mapping : String × String} :
    (∃ state', addMapping t row state mapping = .ok state') ↔ Readable t row mapping := by
  obtain ⟨inputs, missing⟩ := state
  obtain ⟨key, column⟩ := mapping
  unfold addMapping Readable readCell
  dsimp only
  cases target? t key with
  | none => cases cell? row column <;> simp
  | some p =>
    cases cell? row column with
    | none =>
      simp only [reduceCtorEq, false_implies, implies_true, iff_true]
      split <;> exact ⟨_, rfl⟩
    | some cell =>
      simp only [Option.some.injEq, forall_eq']
      constructor
      · rintro ⟨_, added⟩
        obtain ⟨input, made, -⟩ := bind_ok_iff.1 added
        exact ⟨input, made⟩
      · rintro ⟨input, made⟩
        rw [made]
        exact ⟨_, rfl⟩

/-! ## All mappings -/

theorem foldlM_addMapping_readable {row : Row} {mappings : List (String × String)}
    {state : Inputs τ × List (Finding τ)} :
    (∃ state', mappings.foldlM (addMapping t row) state = .ok state') ↔
      ∀ mapping ∈ mappings, Readable t row mapping := by
  induction mappings generalizing state with
  | nil => simp [pure, Except.pure]
  | cons first rest ih =>
    rw [List.forall_mem_cons, ← addMapping_readable]
    simp only [List.foldlM_cons, bind_ok_iff]
    constructor
    · rintro ⟨state', middle, added, later⟩
      exact ⟨⟨middle, added⟩, ih.1 ⟨state', later⟩⟩
    · rintro ⟨⟨middle, added⟩, readable⟩
      obtain ⟨state', later⟩ := ih.2 readable
      exact ⟨state', middle, added, later⟩

theorem foldlM_addMapping_ok {row : Row} {mappings : List (String × String)}
    {state state' : Inputs τ × List (Finding τ)}
    (done : mappings.foldlM (addMapping t row) state = .ok state') :
    state'.1 = (mappings.filterMap (given? t row)).foldl (fun kept (key, value) =>
        Keyed.insert key value kept) state.1 ∧
      (state'.2 = [] ↔ state.2 = [] ∧ ∀ mapping ∈ mappings, Supplied t row mapping) := by
  induction mappings generalizing state with
  | nil =>
    obtain rfl := pure_ok.1 done
    simp
  | cons first rest ih =>
    rw [List.foldlM_cons] at done
    obtain ⟨middle, added, later⟩ := bind_ok_iff.1 done
    obtain ⟨entries, missing⟩ := ih later
    obtain ⟨entry, gap⟩ := addMapping_ok added
    rw [entries, missing, entry, gap, List.forall_mem_cons, and_assoc]
    refine ⟨?_, Iff.rfl⟩
    cases made : given? t row first with
    | none => rw [List.filterMap_cons_none made]; rfl
    | some e => rw [List.filterMap_cons_some made]; rfl

theorem rowInputs_ok_iff {source : DataSource} {row : Row} {inputs : Inputs τ} :
    rowInputs t source row = .ok inputs ↔
      source.mappings.foldlM (addMapping t row) ([], []) = .ok (inputs, []) := by
  unfold rowInputs
  rw [bind_ok_iff]
  constructor
  · rintro ⟨⟨entries, missing⟩, done, rest⟩
    obtain ⟨none, same⟩ := unless_ok_iff.1 rest
    obtain rfl := pure_ok.1 same
    rw [done, List.isEmpty_iff.1 none]
  · intro done
    exact ⟨_, done, rfl⟩

/-- A row gives inputs when every cell can be read and none that is needed is missing. -/
theorem rowInputs_succeeds {source : DataSource} {row : Row} :
    (∃ inputs, rowInputs t source row = .ok inputs) ↔
      (∀ mapping ∈ source.mappings, Readable t row mapping) ∧
        ∀ mapping ∈ source.mappings, Supplied t row mapping := by
  simp only [rowInputs_ok_iff]
  constructor
  · rintro ⟨inputs, done⟩
    obtain ⟨-, gap⟩ := foldlM_addMapping_ok done
    exact ⟨foldlM_addMapping_readable.1 ⟨_, done⟩, (gap.1 rfl).2⟩
  · rintro ⟨readable, supplied⟩
    obtain ⟨⟨inputs, missing⟩, done⟩ : ∃ state',
        source.mappings.foldlM (addMapping t row) ([], []) = .ok state' :=
      foldlM_addMapping_readable.2 readable
    obtain ⟨-, gap⟩ := foldlM_addMapping_ok done
    obtain rfl : missing = [] := gap.2 ⟨rfl, supplied⟩
    exact ⟨inputs, done⟩

/-- The inputs of a row are the entries that its mappings make, put in one after the other. -/
theorem rowInputs_entries {source : DataSource} {row : Row} {inputs : Inputs τ}
    (done : rowInputs t source row = .ok inputs) :
    inputs = Keyed.ofList (source.mappings.filterMap (given? t row)) :=
  (foldlM_addMapping_ok (rowInputs_ok_iff.1 done)).1

/-! ## The last cell -/

/-- Of the mappings with a cell whose keys are wanted the last one has this cell. -/
def LastCell (source : DataSource) (row : Row) (wanted : String → Prop) (cell : String) : Prop :=
  ∃ before key column after, source.mappings = before ++ (key, column) :: after ∧ wanted key ∧
    cell? row column = some cell ∧
      ∀ later ∈ after, wanted later.1 → cell? row later.2 = none

theorem DataSource.ordered_withMapping {source : DataSource} (ordered : source.mappings.Ordered)
    (placeholder column : String) : (source.withMapping placeholder column).mappings.Ordered :=
  Keyed.ordered_insert placeholder column ordered

/-- Of the mappings with a cell whose keys are wanted the one with the greatest key has this cell. -/
def GreatestCell (source : DataSource) (row : Row) (wanted : String → Prop) (cell : String) : Prop :=
  ∃ mapping ∈ source.mappings, wanted mapping.1 ∧ cell? row mapping.2 = some cell ∧
    ∀ later ∈ source.mappings, mapping.1 < later.1 → wanted later.1 → cell? row later.2 = none

/-- What comes later in a dictionary are the greater keys. -/
theorem lastCell_iff_of_ordered {source : DataSource} (ordered : source.mappings.Ordered) {row : Row}
    {wanted : String → Prop} {cell : String} :
    LastCell source row wanted cell ↔ GreatestCell source row wanted cell := by
  constructor
  · rintro ⟨before, key, column, after, split, here, found, last⟩
    rw [split] at ordered
    rw [GreatestCell, split]
    obtain ⟨-, -, less⟩ := List.pairwise_append.1 ordered
    refine ⟨(key, column), by simp, here, found, fun later member greater => ?_⟩
    rcases List.mem_append.1 member with first | rest
    · exact absurd (less later first _ List.mem_cons_self) greater.asymm
    · rcases List.mem_cons.1 rest with rfl | rest
      · exact absurd greater (lt_irrefl _)
      · exact last later rest
  · rintro ⟨⟨key, column⟩, member, here, found, last⟩
    obtain ⟨before, after, split⟩ := List.append_of_mem member
    refine ⟨before, key, column, after, split, here, found, fun later rest => ?_⟩
    rw [split] at ordered
    obtain ⟨-, greater, -⟩ := List.pairwise_append.1 ordered
    exact last later (split ▸ List.mem_append_right _ (List.mem_cons_of_mem _ rest))
      ((List.pairwise_cons.1 greater).1 later rest)

/-- The input under a name is out of the last cell that is kept there. -/
theorem lastCell_of_get? {source : DataSource} {row : Row} {inputs : Inputs τ}
    (done : rowInputs t source row = .ok inputs) {id : String} {input : Input τ}
    (found : inputs.get? id = some input) :
    ∃ key cell, place t key = id ∧ readCell t key cell = .ok input ∧
      LastCell source row (fun key => place t key = id) cell := by
  have readable := (rowInputs_succeeds.1 ⟨inputs, done⟩).1
  rw [rowInputs_entries done, Keyed.ofList] at found
  obtain ⟨before, after, split, absent⟩ :=
    (Keyed.last_of_get?_foldl_insert found).resolve_right fun none => nomatch none.2
  obtain ⟨first, rest, cut, -, made⟩ := List.filterMap_eq_append_iff.1 split
  obtain ⟨skipped, ⟨key, column⟩, later, rfl, -, entry, rfl⟩ := List.filterMap_eq_cons_iff.1 made
  obtain ⟨here, cell, found, read⟩ := given?_eq_some_iff.1 entry
  refine ⟨key, cell, here, read, first ++ skipped, key, column, later, by simp [cut], here, found,
    fun mapping member there => ?_⟩
  -- a later cell would have been put in the place of this one
  by_contra filled
  obtain ⟨other, filled⟩ := Option.ne_none_iff_exists'.1 filled
  obtain ⟨value, read⟩ := readable mapping (by simp [cut, member]) other filled
  refine absent (List.mem_map.2 ⟨(id, value), List.mem_filterMap.2 ⟨mapping, member, ?_⟩, rfl⟩)
  exact given?_eq_some_iff.2 ⟨there, other, filled, read⟩

theorem has_rowInputs {source : DataSource} {row : Row} {inputs : Inputs τ}
    (done : rowInputs t source row = .ok inputs) (id : String) :
    inputs.has id = true ↔ ∃ mapping ∈ source.mappings, place t mapping.1 = id ∧
      (cell? row mapping.2).isSome = true := by
  have readable := (rowInputs_succeeds.1 ⟨inputs, done⟩).1
  rw [Keyed.has, rowInputs_entries done, Keyed.ofList, Keyed.isSome_get?_foldl_insert, List.mem_map]
  constructor
  · rintro (⟨⟨_, input⟩, member, rfl⟩ | none)
    · obtain ⟨mapping, member, entry⟩ := List.mem_filterMap.1 member
      obtain ⟨there, cell, found, -⟩ := given?_eq_some_iff.1 entry
      exact ⟨mapping, member, there, Option.isSome_of_eq_some found⟩
    · cases none
  · rintro ⟨mapping, member, there, filled⟩
    obtain ⟨cell, found⟩ := Option.isSome_iff_exists.1 filled
    obtain ⟨input, read⟩ := readable mapping member cell found
    exact .inl ⟨(id, input), List.mem_filterMap.2 ⟨mapping, member,
      given?_eq_some_iff.2 ⟨there, cell, found, read⟩⟩, rfl⟩

/-! ## The inputs of a row -/

/-- The inputs that a row gives: under which names there are any, what those of placeholders are,
and what those of other keys are. -/
structure GivenBy (t : Template τ) (source : DataSource) (row : Row) (inputs : Inputs τ) : Prop where
  names : ∀ id, inputs.has id = true ↔
    (∃ p, p.id = id ∧ ∃ mapping ∈ source.mappings, Leads t mapping.1 p ∧
      (cell? row mapping.2).isSome = true) ∨
    (∀ p, ¬ Leads t id p) ∧ ∃ mapping ∈ source.mappings, mapping.1 = id ∧
      (cell? row mapping.2).isSome = true
  kinds : ∀ p ∈ t.placeholders, ∀ input, inputs.get? p.id = some input → input.kind = p.kind
  cells : ∀ p ∈ t.placeholders, ∀ input, inputs.get? p.id = some input →
    ∃ cell, LastCell source row (Leads t · p) cell ∧ cellInput p cell = .ok input ∧
      (p.kind ∈ [.text, .transcript, .color, .font] → input.text? = some cell)
  strays : ∀ key, (∀ p, ¬ Leads t key p) → (∀ p ∈ t.placeholders, p.id ≠ key) ∧
    ∀ input, inputs.get? key = some input →
      ∃ cell, LastCell source row (· = key) cell ∧ input = .text cell

theorem cell_of_placeholder (distinct : t.DistinctPlaceholders) {source : DataSource} {row : Row}
    {inputs : Inputs τ} (done : rowInputs t source row = .ok inputs) {p : Placeholder τ}
    (member : p ∈ t.placeholders) {input : Input τ} (found : inputs.get? p.id = some input) :
    ∃ cell, LastCell source row (Leads t · p) cell ∧ cellInput p cell = .ok input := by
  obtain ⟨key, cell, here, read, last⟩ := lastCell_of_get? done found
  simp only [place_eq_id_iff distinct member] at here last
  rw [readCell, (target?_eq_some_iff distinct).2 here] at read
  exact ⟨cell, last, read⟩

theorem cell_of_stray (distinct : t.DistinctPlaceholders) {source : DataSource} {row : Row}
    {inputs : Inputs τ} (done : rowInputs t source row = .ok inputs) {key : String}
    (nowhere : ∀ p, ¬ Leads t key p) {input : Input τ} (found : inputs.get? key = some input) :
    ∃ cell, LastCell source row (· = key) cell ∧ input = .text cell := by
  obtain ⟨other, cell, here, read, last⟩ := lastCell_of_get? done found
  simp only [place_eq_stray_iff distinct nowhere] at here last
  obtain rfl := here
  refine ⟨cell, last, ?_⟩
  cases target : target? t other with
  | some p => exact absurd ((target?_eq_some_iff distinct).1 target) (nowhere p)
  | none =>
    rw [readCell, target] at read
    exact (Except.ok.inj read).symm

theorem givenBy_of_rowInputs (distinct : t.DistinctPlaceholders) {source : DataSource} {row : Row}
    {inputs : Inputs τ} (done : rowInputs t source row = .ok inputs) :
    GivenBy t source row inputs where
  names id := by
    simp only [has_rowInputs done, place_eq_iff distinct]
    constructor
    · rintro ⟨mapping, member, ⟨p, same, leads⟩ | ⟨nowhere, here⟩, cell⟩
      · exact .inl ⟨p, same, mapping, member, leads, cell⟩
      · exact .inr ⟨nowhere, mapping, member, here, cell⟩
    · rintro (⟨p, same, mapping, member, leads, cell⟩ | ⟨nowhere, mapping, member, here, cell⟩)
      · exact ⟨mapping, member, .inl ⟨p, same, leads⟩, cell⟩
      · exact ⟨mapping, member, .inr ⟨nowhere, here⟩, cell⟩
  kinds p member input found := by
    obtain ⟨cell, -, made⟩ := cell_of_placeholder distinct done member found
    exact kind_cellInput made
  cells p member input found := by
    obtain ⟨cell, last, made⟩ := cell_of_placeholder distinct done member found
    exact ⟨cell, last, made, text?_cellInput made⟩
  strays key nowhere := by
    refine ⟨fun p member same => ?_, fun input found => cell_of_stray distinct done nowhere found⟩
    obtain ⟨q, leads⟩ := exists_leads member
    exact nowhere q (same ▸ leads)

/-- **Rows give complete and well-typed inputs**: a row is refused only where the cell of a number
is none or where a mapping of a required placeholder without default has no cell, and what it gives
otherwise is, name by name, what the last of its cells say. In a dictionary the last cell of a
placeholder is the one with the greatest key that leads to it. -/
theorem rowInputs_givenBy (t : Template τ) (distinct : t.DistinctPlaceholders) (source : DataSource)
    (row : Row) :
    ((∃ inputs, rowInputs t source row = .ok inputs) ↔
      (∀ mapping ∈ source.mappings, ∀ p, Leads t mapping.1 p → p.kind = .number →
        ∀ cell, cell? row mapping.2 = some cell → (Decimal.read? cell).isSome = true) ∧
      ∀ mapping ∈ source.mappings, ∀ p, Leads t mapping.1 p → p.required = true →
        p.default = none → (cell? row mapping.2).isSome = true) ∧
    ∀ inputs, rowInputs t source row = .ok inputs → GivenBy t source row inputs ∧
      (source.mappings.Ordered → ∀ p ∈ t.placeholders, ∀ input, inputs.get? p.id = some input →
        ∃ cell, GreatestCell source row (Leads t · p) cell ∧ cellInput p cell = .ok input) := by
  refine ⟨?_, fun inputs done => ⟨givenBy_of_rowInputs distinct done, ?_⟩⟩
  · simp only [rowInputs_succeeds, readable_iff, Supplied, target?_eq_some_iff distinct]
  · intro ordered p member input found
    obtain ⟨cell, last, made⟩ := cell_of_placeholder distinct done member found
    exact ⟨cell, (lastCell_iff_of_ordered ordered).1 last, made⟩

/-- A title, named like the id of a price, a price, and a footer. -/
def flyer : Template Rat where
  id := "flyer"
  name := "Flyer"
  version := "1"
  createdAt := ⟨0, 0⟩
  updatedAt := ⟨0, 0⟩
  canvas := .landscape
  placeholders := [
    { id := "title", name := "price", kind := .text },
    { id := "price", name := "Price", kind := .number, required := true },
    { id := "footer", name := "Footer", kind := .color }]

/-- Two columns for the title, of which the later one is blank in the row, a column for the price by
its name, and one that no placeholder takes. -/
def flyers : DataSource :=
  let table := DataSource.ofTable ["headline", "subtitle", "cost", "motto"]
    [[" Sale ", "  ", "9.5", "Hurry"]]
  (((table.withMapping "title" "subtitle").withMapping "Price" "cost").withMapping
    "slogan" "motto").withMapping "price" "headline"

theorem ordered_flyers : flyers.mappings.Ordered := by
  unfold flyers
  iterate 4 apply DataSource.ordered_withMapping
  exact List.Pairwise.nil

theorem rowInputs_flyers : flyer.DistinctPlaceholders ∧ flyers.mappings.Ordered ∧
    ∃ row inputs, flyers.rows = [row] ∧ rowInputs flyer flyers row = .ok inputs ∧
      inputs.keys = ["price", "slogan", "title"] ∧ GivenBy flyer flyers row inputs ∧
      ∀ p ∈ flyer.placeholders, ∀ input, inputs.get? p.id = some input → ∃ cell,
        GreatestCell flyers row (Leads flyer · p) cell ∧ cellInput p cell = .ok input := by
  have distinct : flyer.DistinctPlaceholders := by decide
  let row : Row := [("cost", "9.5"), ("headline", " Sale "), ("motto", "Hurry"), ("subtitle", "  ")]
  obtain ⟨inputs, done, keys⟩ : ∃ inputs, rowInputs flyer flyers row = .ok inputs ∧
      inputs.keys = ["price", "slogan", "title"] := ⟨_, rfl, rfl⟩
  obtain ⟨given, greatest⟩ := (rowInputs_givenBy flyer distinct flyers row).2 inputs done
  exact ⟨distinct, ordered_flyers, row, inputs, rfl, done, keys, given, greatest ordered_flyers⟩

end Batch

end Storyboard
