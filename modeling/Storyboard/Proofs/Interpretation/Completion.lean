import Storyboard.Proofs.Interpretation.Preparation

/-!
# Completed inputs

Where what is known of a file does not depend on when it is asked for, preparing inputs adds what is
missing and nothing else: defaults for placeholders without an input, and data for files about which
nothing is known. What is found under a key depends on nothing but the key, so it makes no difference
in which order the inputs are walked, except that of several files that cannot be looked up another
one may be asked about first. Inputs that are prepared again stay as they are.
-/

namespace Storyboard

variable {τ ω : Type} {c : Collaborators τ ω}
  {answer : MediaRef τ → Except (Failure τ) (Option (MediaMetadata τ))}

/-- What a probe answers is a fixed function of the file, whatever it does to the surroundings. -/
def Collaborators.Answers (c : Collaborators τ ω)
    (answer : MediaRef τ → Except (Failure τ) (Option (MediaMetadata τ))) : Prop :=
  ∀ file w, (c.probe file w).1 = answer file

/-- Sorting by a number lists what has a lower one first, and what has the same in the order it was
listed in. -/
theorem pairwise_mergeSort_rank {α : Type} (rank : α → Nat) (l : List α) :
    (l.mergeSort fun a b => rank a ≤ rank b).Pairwise fun a b => rank a < rank b ∨
      rank a = rank b ∧ ∃ i j : Nat, i < j ∧ l[i]? = some a ∧ l[j]? = some b := by
  have trans (a b c : α) (first : decide (rank a ≤ rank b) = true)
      (second : decide (rank b ≤ rank c) = true) : decide (rank a ≤ rank c) = true :=
    decide_eq_true ((of_decide_eq_true first).trans (of_decide_eq_true second))
  have total (a b : α) : (decide (rank a ≤ rank b) || decide (rank b ≤ rank a)) = true := by
    simp [Nat.le_total]
  -- With their places the members are sorted by their numbers first and by their places then.
  have sorted :=
    List.pairwise_mergeSort (List.zipIdxLE_trans trans) (List.zipIdxLE_total total) l.zipIdx
  have places : (l.zipIdx.mergeSort (List.zipIdxLE fun a b => rank a ≤ rank b)).Pairwise
      fun a b => a.2 ≠ b.2 := by
    refine List.pairwise_map.1 (((List.mergeSort_perm _ _).map Prod.snd).nodup_iff.2 ?_)
    rw [List.zipIdx_map_snd]
    exact List.nodup_range'
  rw [← List.mergeSort_zipIdx, List.pairwise_map]
  refine (sorted.and places).imp_of_mem fun {a b} memberA memberB ⟨before, apart⟩ => ?_
  rw [List.mem_mergeSort, List.mem_zipIdx_iff_getElem?] at memberA memberB
  have lower : rank a.1 ≤ rank b.1 ∧ (rank a.1 < rank b.1 ∨ a.2 ≤ b.2) := by
    simpa [List.zipIdxLE] using before
  rcases lower with ⟨notAbove, less | earlier⟩
  · exact .inl less
  · rcases notAbove.lt_or_eq with less | same
    · exact .inl less
    · exact .inr ⟨same, a.2, b.2, earlier.lt_of_ne apart, memberA, memberB⟩

namespace Keyed

variable {α β : Type} {f : α → β} {entries : Keyed α}

theorem get?_mapValues (id : String) :
    (entries.mapValues f).get? id = (entries.get? id).map f := by
  induction entries with
  | nil => rfl
  | cons entry rest ih =>
    rw [mapValues, List.map_cons, get?_cons, get?_cons]
    split
    · rfl
    · exact ih

theorem mapValues_eq_self {g : α → α} (same : ∀ entry ∈ entries, g entry.2 = entry.2) :
    entries.mapValues g = entries :=
  (List.map_congr_left fun entry member => congrArg (Prod.mk entry.1) (same entry member)).trans
    (List.map_id entries)

theorem Ordered.mapValues (ordered : entries.Ordered) : (entries.mapValues f).Ordered :=
  List.pairwise_map.2 ordered

end Keyed

/-! ## One input -/

namespace Input

variable {input : Input τ} {file : MediaRef τ}

/-- The file of an input, if nothing is known of it. -/
def unknown? (input : Input τ) : Option (MediaRef τ) := input.media?.filter (·.metadata.isNone)

/-- What is answered about the file of an input, where it is asked about. -/
def answered (answer : MediaRef τ → Except (Failure τ) (Option (MediaMetadata τ)))
    (input : Input τ) : Except (Failure τ) (Option (MediaMetadata τ)) :=
  input.unknown?.elim (.ok none) answer

/-- The input with what is answered about its file, if nothing is known of the file. -/
def informed (answer : MediaRef τ → Except (Failure τ) (Option (MediaMetadata τ)))
    (input : Input τ) : Input τ :=
  input.mapMedia fun file => { file with metadata := file.metadata.or (answer file).toOption.join }

theorem unknown?_eq_some_iff :
    input.unknown? = some file ↔ input.media? = some file ∧ file.metadata = none := by
  rw [unknown?, Option.filter_eq_some_iff, Option.isNone_iff_eq_none]

theorem media?_mapMedia (f : MediaRef τ → MediaRef τ) :
    (input.mapMedia f).media? = input.media?.map f := by
  cases input <;> rfl

theorem mapMedia_congr {f g : MediaRef τ → MediaRef τ}
    (same : ∀ file, input.media? = some file → f file = g file) :
    input.mapMedia f = input.mapMedia g := by
  cases input with
  | video file => exact congrArg video (same file rfl)
  | audio file => exact congrArg audio (same file rfl)
  | image file => exact congrArg image (same file rfl)
  | _ => rfl

theorem mapMedia_eq_self {f : MediaRef τ → MediaRef τ}
    (same : ∀ file, input.media? = some file → f file = file) : input.mapMedia f = input := by
  have whole : input.mapMedia id = input := by cases input <;> rfl
  exact (mapMedia_congr same).trans whole

/-- An input about which nothing is asked, or nothing is known by those who are asked, stays. -/
theorem informed_eq_self (nothing : ∀ file, input.unknown? = some file → answer file = .ok none) :
    input.informed answer = input := by
  refine mapMedia_eq_self fun file media => ?_
  obtain ⟨id, name, path, mimeType, metadata⟩ := file
  cases metadata with
  | some known => rfl
  | none => rw [nothing _ (unknown?_eq_some_iff.2 ⟨media, rfl⟩)]; rfl

/-- What has come to be known of a file is put in. -/
theorem informed_eq_mapMedia {found : MediaMetadata τ} (asked : input.unknown? = some file)
    (known : answer file = .ok (some found)) :
    input.informed answer = input.mapMedia ({ · with metadata := some found }) := by
  obtain ⟨media, unknown⟩ := unknown?_eq_some_iff.1 asked
  refine mapMedia_congr fun other same => ?_
  obtain rfl := Option.some.inj (media.symm.trans same)
  rw [known, unknown]
  rfl

/-- Once a file has been asked about, nothing more comes to be known of it. -/
theorem informed_again {found : Option (MediaMetadata τ)} (asked : input.answered answer = .ok found) :
    (∃ found, (input.informed answer).answered answer = .ok found) ∧
      (input.informed answer).informed answer = input.informed answer := by
  unfold answered at asked
  cases unknown : input.unknown? with
  | none =>
    have same : input.informed answer = input := informed_eq_self (by simp [unknown])
    simp only [same, answered, unknown, Option.elim_none]
    exact ⟨⟨_, rfl⟩, trivial⟩
  | some file =>
    rw [unknown, Option.elim_some] at asked
    cases found with
    | none =>
      have same : input.informed answer = input := informed_eq_self (by simp [unknown, asked])
      simp only [same, answered, unknown, Option.elim_some, asked]
      exact ⟨⟨_, rfl⟩, trivial⟩
    | some found =>
      have settled : (input.informed answer).unknown? = none := by
        rw [informed_eq_mapMedia unknown asked, unknown?, media?_mapMedia,
          (unknown?_eq_some_iff.1 unknown).1]
        rfl
      refine ⟨⟨none, by rw [answered, settled, Option.elim_none]⟩, informed_eq_self ?_⟩
      simp [settled]

end Input

namespace Template

variable {t : Template τ} {inputs : Inputs τ}

/-- Looking up an input makes known what is answered. -/
theorem probeInput_eq (answers : c.Answers answer) (input : Input τ) (w : ω) :
    (probeInput c input w).1 = (input.answered answer).map fun _ => input.informed answer := by
  rw [probeInput, ← Input.unknown?, Input.answered]
  cases unknown : input.unknown? with
  | none =>
    rw [Input.informed_eq_self (by simp [unknown])]
    rfl
  | some file =>
    have asked := answers file w
    dsimp only
    generalize c.probe file w = probed at asked ⊢
    obtain ⟨result, w⟩ := probed
    obtain rfl : result = answer file := asked
    rw [Option.elim_some]
    cases known : answer file with
    | error failure => rfl
    | ok found =>
      cases found with
      | none =>
        rw [Input.informed_eq_self (by simp [unknown, known])]
        rfl
      | some found =>
        rw [Input.informed_eq_mapMedia unknown known]
        rfl

/-! ## All inputs -/

/-- Looking up inputs makes known what is answered about each, or fails on one of them. -/
theorem probeInputs_cases (answers : c.Answers answer) (inputs : Inputs τ) (w : ω) :
    ((∀ entry ∈ inputs, ∃ found, entry.2.answered answer = .ok found) ∧
        (probeInputs c inputs w).1 = .ok (inputs.mapValues (Input.informed answer))) ∨
      ∃ entry ∈ inputs, ∃ failure, entry.2.answered answer = .error failure ∧
        (probeInputs c inputs w).1 = .error failure := by
  induction inputs generalizing w with
  | nil => exact .inl ⟨by simp, rfl⟩
  | cons entry rest ih =>
    obtain ⟨id, input⟩ := entry
    have first := probeInput_eq answers input w
    rw [probeInputs]
    generalize probeInput c input w = looked at first ⊢
    obtain ⟨result, w⟩ := looked
    obtain rfl : result = _ := first
    cases asked : input.answered answer with
    | error failure => exact .inr ⟨_, List.mem_cons_self, failure, asked, rfl⟩
    | ok found =>
      have later := ih w
      dsimp only [Except.map]
      generalize probeInputs c rest w = others at later ⊢
      obtain ⟨results, w⟩ := others
      rcases later with ⟨all, rfl⟩ | ⟨entry, member, failure, failed, rfl⟩
      · exact .inl ⟨List.forall_mem_cons.2 ⟨⟨found, asked⟩, all⟩, rfl⟩
      · exact .inr ⟨entry, List.mem_cons_of_mem _ member, failure, failed, rfl⟩

theorem prepare_fst (t : Template τ) (c : Collaborators τ ω) (inputs : Inputs τ) (w : ω) :
    (t.prepare c inputs w).1 = (probeInputs c (t.withDefaults inputs) w).1.map fun prepared =>
      ⟨prepared, t.given inputs, (t.defaulted inputs).map Prod.fst⟩ := by
  rw [prepare]
  rcases probeInputs c (t.withDefaults inputs) w with ⟨_ | _, w⟩ <;> rfl

/-! ## Display order -/

/-- A placeholder is shown before another one: its order is lower or, where the two are equal, it is
listed earlier. -/
def ShownBefore (t : Template τ) (p q : Placeholder τ) : Prop :=
  p.order < q.order ∨ p.order = q.order ∧
    ∃ i j : Nat, i < j ∧ t.placeholders[i]? = some p ∧ t.placeholders[j]? = some q

theorem orderedPlaceholders_pairwise (t : Template τ) :
    t.orderedPlaceholders.Pairwise t.ShownBefore :=
  pairwise_mergeSort_rank (fun p : Placeholder τ => p.order) t.placeholders

/-- Ids are listed as those of the chosen placeholders, in display order. -/
def Displays (t : Template τ) (chosen : Placeholder τ → Prop) (ids : List String) : Prop :=
  ∃ shown : List (Placeholder τ), shown.Pairwise t.ShownBefore ∧
    (∀ p, p ∈ shown ↔ p ∈ t.placeholders ∧ chosen p) ∧ ids = shown.map (·.id)

theorem displays_filter (t : Template τ) {chosen : Placeholder τ → Prop}
    {test : Placeholder τ → Bool} (tests : ∀ p, test p = true ↔ chosen p) :
    t.Displays chosen ((t.orderedPlaceholders.filter test).map (·.id)) :=
  ⟨_, t.orderedPlaceholders_pairwise.filter test,
    fun p => by rw [List.mem_filter, mem_orderedPlaceholders, tests], rfl⟩

theorem displays_given (t : Template τ) (inputs : Inputs τ) :
    t.Displays (fun p => p.id ∈ inputs.keys) (t.given inputs) :=
  t.displays_filter fun _ => Keyed.mem_keys.symm

theorem displays_defaulted (t : Template τ) (inputs : Inputs τ) :
    t.Displays (fun p => p.id ∉ inputs.keys ∧ p.default.isSome = true)
      ((t.defaulted inputs).map Prod.fst) := by
  have same : (t.defaulted inputs).map Prod.fst =
      (t.orderedPlaceholders.filter fun p => !inputs.has p.id && p.default.isSome).map (·.id) := by
    unfold defaulted
    generalize t.orderedPlaceholders = placeholders
    induction placeholders with
    | nil => rfl
    | cons p rest ih =>
      rw [List.filterMap_cons, List.filter_cons]
      cases inputs.has p.id <;> cases p.default <;> simp [ih]
  rw [same]
  refine t.displays_filter fun p => ?_
  rw [Bool.and_eq_true, Bool.not_eq_true', ← Bool.not_eq_true, Keyed.mem_keys, Keyed.has]

/-! ## Completed inputs -/

/-- The input of a key before files are looked up: the one that is given, else the default of the
placeholder. -/
def supplied (t : Template τ) (inputs : Inputs τ) (id : String) : Option (Input τ) :=
  (inputs.get? id).or ((t.placeholder? id).bind (·.default))

/-- A file is asked about: it is that of an input, given or a default, and nothing is known of it. -/
def AsksAbout (t : Template τ) (inputs : Inputs τ) (file : MediaRef τ) : Prop :=
  ∃ id input, t.supplied inputs id = some input ∧ input.media? = some file ∧ file.metadata = none

/-- Prepared inputs are those given and what was missing. -/
structure Completed (t : Template τ)
    (answer : MediaRef τ → Except (Failure τ) (Option (MediaMetadata τ))) (inputs : Inputs τ)
    (prepared : Prepared τ) : Prop where
  ordered : prepared.inputs.Ordered
  /-- Keys are added for the placeholders that have a default and no input. -/
  keys : ∀ id, id ∈ prepared.inputs.keys ↔ id ∈ inputs.keys ∨
    ∃ p ∈ t.placeholders, p.id = id ∧ p.default.isSome = true ∧ id ∉ inputs.keys
  /-- A value is the one given, else the default, with what is answered about an unknown file. -/
  values : ∀ id, prepared.inputs.get? id = (t.supplied inputs id).map (·.informed answer)
  used : t.Displays (fun p => p.id ∈ inputs.keys) prepared.used
  defaultsApplied : t.Displays (fun p => p.id ∉ inputs.keys ∧ p.default.isSome = true)
    prepared.defaultsApplied
  disjoint : prepared.used.Disjoint prepared.defaultsApplied

theorem ordered_withDefaults (t : Template τ) (ordered : inputs.Ordered) :
    (t.withDefaults inputs).Ordered := Keyed.ordered_foldl_insert ordered

theorem isSome_default_iff (distinct : t.DistinctPlaceholders) {id : String} :
    ((t.placeholder? id).bind (·.default)).isSome = true ↔
      ∃ p ∈ t.placeholders, p.id = id ∧ p.default.isSome = true := by
  constructor
  · intro default
    obtain ⟨value, given⟩ := Option.isSome_iff_exists.1 default
    obtain ⟨p, found, known⟩ := Option.bind_eq_some_iff.1 given
    obtain ⟨member, rfl⟩ := mem_of_placeholder? found
    exact ⟨p, member, rfl, by rw [known]; rfl⟩
  · rintro ⟨p, member, rfl, known⟩
    rw [placeholder?_some distinct member, Option.bind_some, known]

theorem isSome_supplied_iff (distinct : t.DistinctPlaceholders) {id : String} :
    (t.supplied inputs id).isSome = true ↔ id ∈ inputs.keys ∨
      ∃ p ∈ t.placeholders, p.id = id ∧ p.default.isSome = true ∧ id ∉ inputs.keys := by
  rw [supplied, Option.isSome_or, Bool.or_eq_true, isSome_default_iff distinct, ← Keyed.mem_keys]
  by_cases given : id ∈ inputs.keys <;> simp [given]

/-- The entries that are looked up are those of the inputs as they are supplied. -/
theorem mem_withDefaults_iff (distinct : t.DistinctPlaceholders) (ordered : inputs.Ordered)
    {id : String} {input : Input τ} :
    (id, input) ∈ t.withDefaults inputs ↔ t.supplied inputs id = some input := by
  rw [← Keyed.get?_eq_some_iff (ordered_withDefaults t ordered).nodup,
    get?_withDefaults distinct, supplied]

theorem completed_prepare (distinct : t.DistinctPlaceholders) (ordered : inputs.Ordered) :
    Completed t answer inputs ⟨(t.withDefaults inputs).mapValues (Input.informed answer),
      t.given inputs, (t.defaulted inputs).map Prod.fst⟩ := by
  have values : ∀ id, ((t.withDefaults inputs).mapValues (Input.informed answer)).get? id =
      (t.supplied inputs id).map (·.informed answer) := fun id => by
    rw [Keyed.get?_mapValues, get?_withDefaults distinct, supplied]
  refine ⟨(ordered_withDefaults t ordered).mapValues, fun id => ?_, values, t.displays_given inputs,
    t.displays_defaulted inputs, disjoint_given t inputs⟩
  rw [Keyed.mem_keys, values, Option.isSome_map, isSome_supplied_iff distinct]

/-- Inputs among which every default has its place get no more of them. -/
theorem withDefaults_eq_self
    (placed : ∀ p ∈ t.placeholders, p.default.isSome = true → p.id ∈ inputs.keys) :
    t.withDefaults inputs = inputs := by
  have nothing : t.defaulted inputs = [] := by
    refine List.eq_nil_iff_forall_not_mem.2 fun ⟨id, value⟩ added => ?_
    obtain ⟨absent, p, member, rfl, known⟩ := mem_defaulted.1 added
    have present := Keyed.mem_keys.1 (placed p member (by rw [known]; rfl))
    rw [absent] at present
    cases present
  rw [withDefaults, nothing, List.foldl_nil]

/-- A failed look-up was about a file that is asked about. -/
theorem asksAbout_of_failed (distinct : t.DistinctPlaceholders) (ordered : inputs.Ordered)
    {entry : String × Input τ} (member : entry ∈ t.withDefaults inputs) {failure : Failure τ}
    (failed : entry.2.answered answer = .error failure) :
    ∃ file, t.AsksAbout inputs file ∧ answer file = .error failure := by
  cases unknown : entry.2.unknown? with
  | none =>
    rw [Input.answered, unknown] at failed
    cases failed
  | some file =>
    rw [Input.answered, unknown] at failed
    obtain ⟨media, nothing⟩ := Input.unknown?_eq_some_iff.1 unknown
    exact ⟨file, ⟨_, _, (mem_withDefaults_iff distinct ordered).1 member, media, nothing⟩, failed⟩

/-- Inputs that are prepared stay as they are when they are prepared again. -/
theorem prepare_informed (answers : c.Answers answer)
    (known : ∀ entry ∈ t.withDefaults inputs, ∃ found, entry.2.answered answer = .ok found)
    (w : ω) :
    ∃ again, (t.prepare c ((t.withDefaults inputs).mapValues (Input.informed answer)) w).1 =
        .ok again ∧
      again.inputs = (t.withDefaults inputs).mapValues (Input.informed answer) := by
  have placed : ∀ p ∈ t.placeholders, p.default.isSome = true →
      p.id ∈ ((t.withDefaults inputs).mapValues (Input.informed answer)).keys := by
    intro p member default
    rw [Keyed.mem_keys, Keyed.get?_mapValues, Option.isSome_map]
    exact isSome_withDefaults member default inputs
  rcases probeInputs_cases answers
    ((t.withDefaults inputs).mapValues (Input.informed answer)) w with
    ⟨-, done⟩ | ⟨entry, inside, failure, failed, -⟩
  · refine ⟨_, by rw [prepare_fst, withDefaults_eq_self placed, done]; rfl, ?_⟩
    refine Keyed.mapValues_eq_self fun entry inside => ?_
    obtain ⟨entry, member, rfl⟩ := List.mem_map.1 inside
    obtain ⟨found, asked⟩ := known entry member
    exact (Input.informed_again asked).2
  · obtain ⟨entry, member, rfl⟩ := List.mem_map.1 inside
    obtain ⟨found, asked⟩ := known entry member
    obtain ⟨⟨_, fine⟩, -⟩ := Input.informed_again asked
    cases failed.symm.trans fine

/-- What comes of looking up inputs in any order: a failure on one of them, or, wherever the inputs
are looked up in their own order, the same entries. -/
theorem probeInputs_perm (distinct : t.DistinctPlaceholders) (ordered : inputs.Ordered)
    (answers : c.Answers answer) {walked : Inputs τ} (perm : walked.Perm (t.withDefaults inputs))
    (w w' : ω) :
    (∀ failure, (probeInputs c walked w).1 = .error failure →
      ∃ file, t.AsksAbout inputs file ∧ answer file = .error failure) ∧
    ∀ found, (probeInputs c walked w).1 = .ok found →
      ∃ prepared, (t.prepare c inputs w').1 = .ok prepared ∧ found.Perm prepared.inputs := by
  rcases probeInputs_cases answers walked w with
    ⟨known, done⟩ | ⟨entry, member, failure, failed, stopped⟩
  · rw [done]
    refine ⟨nofun, fun found same => ?_⟩
    cases same
    rcases probeInputs_cases answers (t.withDefaults inputs) w' with
      ⟨-, done'⟩ | ⟨entry, member, failure, failed, -⟩
    · refine ⟨_, by rw [prepare_fst, done']; rfl, ?_⟩
      exact perm.map _
    · obtain ⟨found, asked⟩ := known entry (perm.mem_iff.2 member)
      cases failed.symm.trans asked
  · rw [stopped]
    refine ⟨fun failure' same => ?_, nofun⟩
    cases same
    exact asksAbout_of_failed distinct ordered (perm.mem_iff.1 member) failed

/-- **Preparing adds only what is missing.** It fails only where the probe fails on a file about which
nothing is known; otherwise the inputs are completed, and preparing them again changes nothing. In
whichever order the inputs are walked, the same comes of it. -/
theorem prepare_completes (distinct : t.DistinctPlaceholders) (ordered : inputs.Ordered)
    (answers : c.Answers answer) (w : ω) :
    (∀ failure, (t.prepare c inputs w).1 = .error failure →
      ∃ file, t.AsksAbout inputs file ∧ answer file = .error failure) ∧
    (∀ prepared, (t.prepare c inputs w).1 = .ok prepared →
      Completed t answer inputs prepared ∧
      ∀ w', ∃ again, (t.prepare c prepared.inputs w').1 = .ok again ∧
        again.inputs = prepared.inputs) ∧
    ∀ walked : Inputs τ, walked.Perm (t.withDefaults inputs) → ∀ w',
      (∀ failure, (probeInputs c walked w').1 = .error failure →
        ∃ file, t.AsksAbout inputs file ∧ answer file = .error failure) ∧
      ∀ found, (probeInputs c walked w').1 = .ok found →
        ∃ prepared, (t.prepare c inputs w).1 = .ok prepared ∧ found.Perm prepared.inputs := by
  refine ⟨?_, ?_, fun walked perm w' => probeInputs_perm distinct ordered answers perm w' w⟩
  · intro failure stopped
    rw [prepare_fst] at stopped
    cases probed : (probeInputs c (t.withDefaults inputs) w).1 with
    | ok found => simp [probed, Except.map] at stopped
    | error failure' =>
      rw [probed] at stopped
      cases stopped
      exact (probeInputs_perm distinct ordered answers (.refl _) w w).1 failure probed
  · intro prepared done
    rcases probeInputs_cases answers (t.withDefaults inputs) w with
      ⟨known, found⟩ | ⟨entry, member, failure, failed, stopped⟩
    · rw [prepare_fst, found] at done
      cases done
      exact ⟨completed_prepare distinct ordered, prepare_informed answers known⟩
    · rw [prepare_fst, stopped] at done
      cases done

/-- A template with a default for a clip and one for a caption, and a title that has none. -/
def trailer : Template Float :=
  { (Template.new "trailer" "Trailer" .landscape ⟨0, 0⟩ : Template Float) with
    placeholders := [
      { id := "title", name := "Title", kind := .text, order := 0 },
      { id := "clip", name := "Clip", kind := .video, order := 1
        default := some (.video { id := "sea", name := "Sea" }) },
      { id := "caption", name := "Caption", kind := .text, order := 2
        default := some (.text "Soon") }] }

/-- What is answered where one file is known. -/
def seaAnswer (file : MediaRef Float) : Except (Failure Float) (Option (MediaMetadata Float)) :=
  .ok (if file.id = "sea" then some { duration := some 4.0 } else none)

/-- Collaborators that count what they are asked. -/
def seaCollaborators : Collaborators Float Nat :=
  { (Collaborators.none : Collaborators Float Nat) with
    probe := fun file asked => (seaAnswer file, asked + 1) }

/-- A title and a note that no placeholder asks for are given. The clip is looked up, and what comes
to be known of it stays as it is when the inputs are prepared again. -/
theorem prepare_trailer :
    let inputs : Inputs Float := [("note", .text "cut"), ("title", .text "Waves")]
    ∃ prepared again : Prepared Float,
      trailer.prepare seaCollaborators inputs 0 = (.ok prepared, 1) ∧
      prepared.used = ["title"] ∧ prepared.defaultsApplied = ["clip", "caption"] ∧
      prepared.inputs.get? "clip" =
        some (.video { id := "sea", name := "Sea", metadata := some { duration := some 4.0 } }) ∧
      Completed trailer seaAnswer inputs prepared ∧
      (trailer.prepare seaCollaborators prepared.inputs 1).1 = .ok again ∧
      again.inputs = prepared.inputs := by
  intro inputs
  have shown : trailer.orderedPlaceholders = trailer.placeholders :=
    List.mergeSort_of_pairwise (by decide)
  obtain ⟨prepared, done, used, defaults, clip⟩ : ∃ prepared : Prepared Float,
      trailer.prepare seaCollaborators inputs 0 = (.ok prepared, 1) ∧
      prepared.used = ["title"] ∧ prepared.defaultsApplied = ["clip", "caption"] ∧
      prepared.inputs.get? "clip" = some (.video
        { id := "sea", name := "Sea", metadata := some { duration := some 4.0 } }) := by
    rw [prepare, withDefaults, given, defaulted, shown]
    exact ⟨_, rfl, rfl, rfl, rfl⟩
  have distinct : trailer.DistinctPlaceholders := by decide
  have ordered : inputs.Ordered := by decide
  have answers : seaCollaborators.Answers seaAnswer := fun _ _ => rfl
  obtain ⟨completed, same⟩ :=
    (prepare_completes distinct ordered answers 0).2.1 prepared (by rw [done])
  obtain ⟨again, repeated, unchanged⟩ := same 1
  exact ⟨prepared, again, done, used, defaults, clip, completed, repeated, unchanged⟩

end Template

end Storyboard
