import Mathlib.Data.List.DropRight
import Mathlib.Data.List.TakeWhile
import Storyboard.Batch.DataSource
import Storyboard.Interpretation.Collaborators

/-!
# Tokens by their places

Which parts of a text are tokens can be told from the places of its braces, without passing over the
text in any order. No two tokens share a place, so all of them can be replaced at once: the value of
a token comes in the place where it opens, nothing in its other places, and every place outside such
a token keeps its character. Passing over the text once makes the same text. What is put in is not
part of the text whose braces are looked at.
-/

namespace Storyboard.Text

variable {isKey scan : Char → Bool} {value : String → Option String} {stead : Nat → List Char}
  {cs before rest key after : List Char} {first last : Nat}

/-! ## Tokens -/

/-- The characters between two places. -/
def between (cs : List Char) (first last : Nat) : List Char := cs.extract (first + 1) last

/-- A token, by the places where it opens and closes: the next brace behind the one that opens it
closes it, and the characters between, of which there are some, may all stand in a key. -/
structure IsToken (isKey : Char → Bool) (cs : List Char) (first last : Nat) : Prop where
  opens : cs[first]? = some '\x7b'
  closes : cs[last]? = some '\x7d'
  next : ∀ i, first < i → i < last → cs[i]? ≠ some '\x7b' ∧ cs[i]? ≠ some '\x7d'
  nonempty : first + 1 < last
  key : ∀ c ∈ between cs first last, isKey c = true

/-- What is taken for a key when a text is passed over: characters that may stand in one, and no
braces. -/
def Reads (scan isKey : Char → Bool) : Prop :=
  ∀ c, scan c = true ↔ c ≠ '\x7b' ∧ c ≠ '\x7d' ∧ isKey c = true

/-- Two tokens that share a place are one. -/
theorem IsToken.eq_of_share {first' last' i : Nat} (token : IsToken isKey cs first last)
    (other : IsToken isKey cs first' last') (opened : first ≤ i) (closed : i ≤ last)
    (opened' : first' ≤ i) (closed' : i ≤ last') : first = first' ∧ last = last' := by
  -- No token opens in the places behind the opening of another one.
  have apart : ∀ {a b a' b'}, IsToken isKey cs a b → IsToken isKey cs a' b' → a < a' → b < a' := by
    intro a b a' b' token other later
    by_contra shared
    rcases (not_lt.1 shared).lt_or_eq with inside | rfl
    · exact (token.next a' later inside).1 other.opens
    · exact absurd (token.closes.symm.trans other.opens) (by decide)
  obtain rfl : first = first' := by
    rcases Nat.lt_trichotomy first first' with later | same | earlier
    · exact absurd (apart token other later) (by omega)
    · exact same
    · exact absurd (apart other token earlier) (by omega)
  refine ⟨rfl, ?_⟩
  have nonempty := token.nonempty
  have nonempty' := other.nonempty
  rcases Nat.lt_trichotomy last last' with shorter | same | longer
  · exact absurd token.closes (other.next last (by omega) shorter).2
  · exact same
  · exact absurd other.closes (token.next last' (by omega) longer).2

theorem getElem?_behind (before rest : List Char) (c : Char) (i : Nat) :
    (before ++ c :: rest)[before.length + i + 1]? = rest[i]? := by
  rw [List.getElem?_append_right (by omega), Nat.add_assoc, Nat.add_sub_cancel_left,
    List.getElem?_cons_succ]

theorem between_behind (before rest : List Char) (c : Char) (count : Nat) :
    between (before ++ c :: rest) before.length (before.length + count + 1) = rest.take count := by
  rw [between, List.extract_eq_take_drop, List.drop_length_add_append, List.drop_succ_cons,
    List.drop_zero, Nat.add_right_comm, Nat.add_sub_cancel_left]

/-- A token is an opening brace, a key and a closing brace. -/
theorem isToken_append_iff (reads : Reads scan isKey) :
    IsToken isKey (before ++ rest) before.length last ↔
      ∃ key after, rest = '\x7b' :: (key ++ '\x7d' :: after) ∧ key ≠ [] ∧
        (∀ c ∈ key, scan c = true) ∧ last = before.length + key.length + 1 := by
  constructor
  · intro token
    obtain ⟨tail, rfl⟩ : ∃ tail, rest = '\x7b' :: tail := by
      have opens := token.opens
      rw [List.getElem?_append_right le_rfl, Nat.sub_self, ← List.head?_eq_getElem?] at opens
      exact List.head?_eq_some_iff.1 opens
    have some := token.nonempty
    obtain ⟨count, rfl⟩ : ∃ count, last = before.length + count + 1 :=
      Nat.exists_eq_add_of_lt (by omega)
    have closes := token.closes
    rw [getElem?_behind] at closes
    obtain ⟨bound, closes⟩ := List.getElem?_eq_some_iff.1 closes
    have length : (tail.take count).length = count := List.length_take_of_le bound.le
    refine ⟨tail.take count, tail.drop (count + 1), ?_, ?_, fun c member => ?_, by rw [length]⟩
    · rw [← closes, ← List.drop_eq_getElem_cons, List.take_append_drop]
    · exact List.ne_nil_of_length_pos (by omega)
    · have inKey := token.key c (by rwa [between_behind])
      obtain ⟨i, inside, here⟩ := List.mem_take_iff_getElem.1 member
      have noBrace := token.next (before.length + i + 1) (by omega) (by omega)
      rw [getElem?_behind, List.getElem?_eq_getElem (by omega), here] at noBrace
      exact (reads c).2 ⟨fun same => noBrace.1 (congrArg _ same),
        fun same => noBrace.2 (congrArg _ same), inKey⟩
  · rintro ⟨key, after, rfl, some, inside, rfl⟩
    have length := List.length_pos_iff.2 some
    refine ⟨by simp, by simp [getElem?_behind], fun i opened closed => ?_, by omega, ?_⟩
    · obtain ⟨j, rfl⟩ := Nat.exists_eq_add_of_lt opened
      have bound : j < key.length := by omega
      have noBrace := (reads _).1 (inside _ (List.getElem_mem bound))
      rw [getElem?_behind, List.getElem?_append_left bound, List.getElem?_eq_getElem bound]
      exact ⟨fun same => noBrace.1 (Option.some.inj same),
        fun same => noBrace.2.1 (Option.some.inj same)⟩
    · rw [between_behind, List.take_left]
      exact fun c member => ((reads c).1 (inside c member)).2.2

/-! ## All at once -/

/-- What comes in a place of a text when all tokens that have values are replaced. -/
structure Instead (isKey : Char → Bool) (value : String → Option String) (cs : List Char) (i : Nat)
    (out : List Char) : Prop where
  /-- The value of a token comes where it opens. -/
  opens : ∀ last v, IsToken isKey cs i last → value (String.ofList (between cs i last)) = some v →
    out = v.toList
  /-- Nothing comes in its other places. -/
  inside : ∀ first last v, IsToken isKey cs first last →
    value (String.ofList (between cs first last)) = some v → first < i → i ≤ last → out = []
  /-- A place that is not in such a token keeps its character. -/
  kept : ∀ c, cs[i]? = some c → (∀ first last, IsToken isKey cs first last → first ≤ i → i ≤ last →
    value (String.ofList (between cs first last)) = none) → out = [c]

/-- A text with all its tokens replaced at once: what comes in each of its places, in order. -/
def Replaced (isKey : Char → Bool) (value : String → Option String) (s result : String) : Prop :=
  ∃ stead, (∀ i, Instead isKey value s.toList i (stead i)) ∧
    result.toList = (List.range s.toList.length).flatMap stead

/-- What comes in a place of a token with a value. -/
theorem exists_instead_of_token {v : String} {i : Nat} (token : IsToken isKey cs first last)
    (known : value (String.ofList (between cs first last)) = some v) (opened : first ≤ i)
    (closed : i ≤ last) :
    Instead isKey value cs i (if i = first then v.toList else []) := by
  have unique : ∀ first' last' v', IsToken isKey cs first' last' →
      value (String.ofList (between cs first' last')) = some v' → first' ≤ i → i ≤ last' →
      first' = first ∧ v' = v := by
    intro first' last' v' token' known' opened' closed'
    obtain ⟨rfl, rfl⟩ := token'.eq_of_share token opened' closed' opened closed
    exact ⟨rfl, Option.some.inj (known'.symm.trans known)⟩
  refine ⟨fun last' v' token' known' => ?_, fun first' last' v' token' known' opened' closed' => ?_,
    fun c _ outside => ?_⟩
  · obtain ⟨rfl, rfl⟩ := unique i last' v' token' known' le_rfl (by have := token'.nonempty; omega)
    rw [if_pos rfl]
  · obtain ⟨rfl, rfl⟩ := unique first' last' v' token' known' opened'.le closed'
    rw [if_neg opened'.ne']
  · rw [outside first last token opened closed] at known
    cases known

/-- There is something to come in every place. -/
theorem exists_instead (isKey : Char → Bool) (value : String → Option String) (cs : List Char)
    (i : Nat) : ∃ out, Instead isKey value cs i out := by
  by_cases inside : ∃ first last v, IsToken isKey cs first last ∧
      value (String.ofList (between cs first last)) = some v ∧ first ≤ i ∧ i ≤ last
  · obtain ⟨first, last, v, token, known, opened, closed⟩ := inside
    exact ⟨_, exists_instead_of_token token known opened closed⟩
  · refine ⟨cs[i]?.toList, fun last v token known => ?_,
      fun first last v token known opened closed => ?_, fun c here _ => by rw [here]; rfl⟩
    · exact absurd ⟨i, last, v, token, known, le_rfl, by have := token.nonempty; omega⟩ inside
    · exact absurd ⟨first, last, v, token, known, opened.le, closed⟩ inside

/-! ## One after the other -/

theorem expandAfter_length (key rest : List Char) :
    expandAfter scan value key.length (key ++ rest) = expandAfter scan value 0 rest := by
  induction key with
  | nil => rfl
  | cons c key ih => exact ih

/-- Passing over a token: its value is put in, or the token where it has none. -/
theorem expandAfter_token (some : key ≠ []) (inside : ∀ c ∈ key, scan c = true)
    (closes : scan '\x7d' = false) (after : List Char) :
    expandAfter scan value 0 ('\x7b' :: (key ++ '\x7d' :: after)) =
      ((value (String.ofList key)).elim ('\x7b' :: (key ++ ['\x7d'])) String.toList) ++
        expandAfter scan value 0 after := by
  have taken : (key ++ '\x7d' :: after).takeWhile scan = key := by
    rw [List.takeWhile_append_of_pos inside, List.takeWhile_cons_of_neg (by simp [closes]),
      List.append_nil]
  have left : (key ++ '\x7d' :: after).dropWhile scan = '\x7d' :: after := by
    rw [List.dropWhile_append_of_pos inside, List.dropWhile_cons_of_neg (by simp [closes])]
  have skipped : expandAfter scan value (key.length + 1) (key ++ '\x7d' :: after) =
      expandAfter scan value 0 after := by
    have passed : expandAfter scan value (key ++ ['\x7d']).length ((key ++ ['\x7d']) ++ after) =
        expandAfter scan value 0 after := expandAfter_length _ _
    simpa using passed
  rw [expandAfter, if_pos rfl]
  simp only [taken, left, List.isEmpty_iff, some, if_false, skipped]
  cases value (String.ofList key) <;> simp

/-- Passing over a character with which no token opens. -/
theorem expandAfter_char {c : Char}
    (plain : ¬ ∃ key after, c :: rest = '\x7b' :: (key ++ '\x7d' :: after) ∧ key ≠ [] ∧
      ∀ c ∈ key, scan c = true) :
    expandAfter scan value 0 (c :: rest) = c :: expandAfter scan value 0 rest := by
  rw [expandAfter]
  split
  · next opens =>
    dsimp only
    split
    · next after left =>
      split
      · rfl
      · next some =>
        refine absurd ⟨rest.takeWhile scan, after, ?_, ?_, fun c member => ?_⟩ plain
        · rw [opens, ← left, List.takeWhile_append_dropWhile]
        · simpa using some
        · exact List.mem_takeWhile_imp member
    · rfl
  · rfl

/-- Places that keep their characters make the part of the text that they are. -/
theorem flatMap_kept {part : List Char} {start : Nat}
    (kept : ∀ i c, part[i]? = some c → stead (start + i) = [c]) :
    (List.range' start part.length).flatMap stead = part := by
  induction part generalizing start with
  | nil => rfl
  | cons c rest ih =>
    have first : stead start = [c] := kept 0 c rfl
    have later : ∀ i c', rest[i]? = some c' → stead (start + 1 + i) = [c'] := fun i c' here => by
      rw [Nat.add_assoc, Nat.add_comm 1 i]
      exact kept (i + 1) c' here
    rw [List.length_cons, List.range'_succ, List.flatMap_cons, first, ih later, List.singleton_append]

/-- What comes in the places of a token is its value, or the token where it has none. -/
theorem flatMap_token (reads : Reads scan isKey)
    (instead : ∀ i, Instead isKey value (before ++ '\x7b' :: (key ++ '\x7d' :: after)) i (stead i))
    (some : key ≠ []) (inside : ∀ c ∈ key, scan c = true) :
    (List.range' before.length (key.length + 2)).flatMap stead =
      (value (String.ofList key)).elim ('\x7b' :: (key ++ ['\x7d'])) String.toList := by
  have token : IsToken isKey (before ++ '\x7b' :: (key ++ '\x7d' :: after)) before.length
      (before.length + key.length + 1) :=
    (isToken_append_iff reads).2 ⟨key, after, rfl, some, inside, rfl⟩
  have read : between (before ++ '\x7b' :: (key ++ '\x7d' :: after)) before.length
      (before.length + key.length + 1) = key := by
    rw [between_behind, List.take_left]
  cases known : value (String.ofList key) with
  | none =>
    have length : ('\x7b' :: (key ++ ['\x7d'])).length = key.length + 2 := by simp
    rw [← length, Option.elim_none]
    refine flatMap_kept fun i c here => ?_
    have bound : i < ('\x7b' :: (key ++ ['\x7d'])).length := (List.getElem?_eq_some_iff.1 here).1
    refine (instead _).kept c ?_ fun first last token' opened closed => ?_
    · rw [List.append_cons key, ← List.cons_append, ← List.append_assoc,
        List.getElem?_append_left (by rw [List.length_append]; omega),
        List.getElem?_append_right (by omega), Nat.add_sub_cancel_left, here]
    · obtain ⟨rfl, rfl⟩ := token'.eq_of_share token opened closed (by omega) (by omega)
      rw [read, known]
  | some v =>
    rw [List.range'_succ, List.flatMap_cons, (instead _).opens _ v token (by rw [read, known])]
    have others : (List.range' (before.length + 1) (key.length + 1)).flatMap stead = [] := by
      refine List.flatMap_eq_nil_iff.2 fun i member => ?_
      obtain ⟨later, bound⟩ := List.mem_range'_1.1 member
      exact (instead i).inside _ _ v token (by rw [read, known]) (by omega) (by omega)
    rw [others, List.append_nil, Option.elim_some]

/-- No token goes on behind a place that opens before it. -/
def Ended (isKey : Char → Bool) (cs : List Char) (place : Nat) : Prop :=
  ∀ first last, IsToken isKey cs first last → first < place → last < place

theorem Ended.token (ended : Ended isKey cs first) (token : IsToken isKey cs first last) :
    Ended isKey cs (last + 1) := by
  intro first' last' other opened
  have nonempty := token.nonempty
  rcases Nat.lt_or_ge first' first with earlier | here
  · exact (ended first' last' other earlier).trans (by omega)
  · have nonempty' := other.nonempty
    obtain ⟨-, rfl⟩ := other.eq_of_share token le_rfl (by omega) here (by omega)
    exact Nat.lt_succ_self _

theorem Ended.char {place : Nat} (ended : Ended isKey cs place)
    (none : ∀ last, ¬ IsToken isKey cs place last) : Ended isKey cs (place + 1) := by
  intro first last token opened
  rcases (Nat.lt_succ_iff.1 opened).lt_or_eq with earlier | rfl
  · exact (ended first last token earlier).trans (Nat.lt_succ_self _)
  · exact absurd token (none last)

/-- A place where no token opens and none goes on keeps its character. -/
theorem Ended.stead_eq {place : Nat} {c : Char} (ended : Ended isKey cs place)
    (none : ∀ last, ¬ IsToken isKey cs place last)
    (instead : ∀ i, Instead isKey value cs i (stead i)) (here : cs[place]? = some c) :
    stead place = [c] := by
  refine (instead place).kept c here fun first last token opened closed => ?_
  rcases opened.lt_or_eq with earlier | rfl
  · exact absurd (ended first last token earlier) (not_lt.2 closed)
  · exact absurd token (none last)

/-- **Passing over the rest of a text** makes what comes in its places, if no token goes on into it. -/
theorem expandAfter_eq_flatMap (reads : Reads scan isKey)
    (instead : ∀ i, Instead isKey value (before ++ rest) i (stead i))
    (ended : Ended isKey (before ++ rest) before.length) :
    expandAfter scan value 0 rest = (List.range' before.length rest.length).flatMap stead := by
  induction length : rest.length using Nat.strong_induction_on generalizing before rest with
  | _ n ih =>
  subst length
  by_cases opens : ∃ key after, rest = '\x7b' :: (key ++ '\x7d' :: after) ∧ key ≠ [] ∧
      ∀ c ∈ key, scan c = true
  · obtain ⟨key, after, rfl, some, inside⟩ := opens
    have token : IsToken isKey (before ++ '\x7b' :: (key ++ '\x7d' :: after)) before.length
        (before.length + key.length + 1) :=
      (isToken_append_iff reads).2 ⟨key, after, rfl, some, inside, rfl⟩
    have whole : before ++ '\x7b' :: (key ++ '\x7d' :: after) =
        (before ++ '\x7b' :: (key ++ ['\x7d'])) ++ after := by simp
    have behind : (before ++ '\x7b' :: (key ++ ['\x7d'])).length =
        before.length + (key.length + 2) := by simp
    have length : ('\x7b' :: (key ++ '\x7d' :: after)).length = key.length + 2 + after.length := by
      simp only [List.length_cons, List.length_append]
      omega
    have later : expandAfter scan value 0 after =
        (List.range' (before ++ '\x7b' :: (key ++ ['\x7d'])).length after.length).flatMap stead :=
      ih after.length (by omega) (by rwa [← whole])
        (by rw [← whole, behind]; exact ended.token token) rfl
    have closes : scan '\x7d' = false := Bool.eq_false_iff.2 fun read => ((reads _).1 read).2.1 rfl
    rw [expandAfter_token some inside closes, later, length,
      ← List.range'_append_1, List.flatMap_append, flatMap_token reads instead some inside, behind]
  · cases rest with
    | nil => rfl
    | cons c rest =>
      have none : ∀ last, ¬ IsToken isKey (before ++ c :: rest) before.length last := by
        intro last token
        obtain ⟨key, after, same, some, inside, -⟩ := (isToken_append_iff reads).1 token
        exact opens ⟨key, after, same, some, inside⟩
      have first : stead before.length = [c] := ended.stead_eq none instead (by simp)
      have later : expandAfter scan value 0 rest =
          (List.range' (before ++ [c]).length rest.length).flatMap stead :=
        ih rest.length (by simp) (by simpa using instead) (by simpa using ended.char none) rfl
      rw [expandAfter_char opens, List.length_cons, List.range'_succ, List.flatMap_cons, first, later,
        List.length_append, List.length_singleton, List.singleton_append]

/-- **A single pass** replaces all tokens at once, whatever their values are. -/
theorem replaced_iff (reads : Reads scan isKey) (s result : String) :
    Replaced isKey value s result ↔ result = expand scan value s := by
  have pass : ∀ stead, (∀ i, Instead isKey value s.toList i (stead i)) →
      expandAfter scan value 0 s.toList = (List.range s.toList.length).flatMap stead := by
    intro stead instead
    have all : expandAfter scan value 0 s.toList =
        (List.range' ([] : List Char).length s.toList.length).flatMap stead :=
      expandAfter_eq_flatMap reads instead fun _ _ _ opened => absurd opened (Nat.not_lt_zero _)
    rw [all, List.range_eq_range', List.length_nil]
  constructor
  · rintro ⟨stead, instead, joined⟩
    rw [expand, pass stead instead, ← joined, String.ofList_toList]
  · rintro rfl
    have instead := fun i => (exists_instead isKey value s.toList i).choose_spec
    exact ⟨_, instead, by rw [expand, String.toList_ofList, pass _ instead]⟩

/-! ## Names and texts -/

theorem dropBlank_eq_nil_iff : dropBlank cs = [] ↔ ∀ c ∈ cs, isBlank c = true := by
  rw [dropBlank, List.dropWhile_eq_nil_iff]

/-- Nothing is left of a text when blanks are cut off if there was nothing else. -/
theorem trim_eq_empty_iff {s : String} : trim s = "" ↔ ∀ c ∈ s.toList, isBlank c = true := by
  rw [trim, String.ofList_eq_empty_iff, dropBlankEnd, List.reverse_eq_nil_iff, dropBlank_eq_nil_iff]
  simp only [List.mem_reverse]
  rw [← dropBlank_eq_nil_iff, dropBlank, dropBlank, List.dropWhile_idempotent,
    List.dropWhile_eq_nil_iff]

theorem expandName_eq_expand {pattern : String} (written : ∃ c ∈ pattern.toList, isBlank c = false)
    (index : Nat) (row : Batch.Row) (templateName : String) :
    Batch.expandName pattern index row templateName =
      expand (fun c => c != '\x7b' && c != '\x7d')
        (fun key => if key = "index" then some (toString (index + 1)) else row.get? key) pattern := by
  obtain ⟨c, member, mark⟩ := written
  have blank : (trim pattern).isEmpty = false := by
    rw [String.isEmpty_eq_false_iff]
    intro nothing
    simp [trim_eq_empty_iff.1 nothing c member] at mark
  simp only [Batch.expandName, blank, Bool.false_eq_true, if_false, beq_iff_eq]

theorem textTemplate_eq_expand {τ : Type} {params : Keyed Json} {template : String}
    (given : params.get? "template" = some (.str template) ∨
      template = "" ∧ ∀ s, params.get? "template" ≠ some (.str s)) (inputs : Inputs τ) :
    Generator.textTemplate params inputs = .ok (.text (expand Generator.isNameChar
      (fun name => (inputs.get? name).bind (·.text?)) template)) := by
  unfold Generator.textTemplate
  rcases given with given | ⟨rfl, other⟩
  · rw [given]
  · split
    · next s given => exact absurd given (other s)
    · rfl

theorem reads_isNameChar : Reads Generator.isNameChar Generator.isNameChar := by
  refine fun c => ⟨fun inName => ⟨?_, ?_, inName⟩, fun inName => inName.2.2⟩ <;>
  · rintro rfl
    exact absurd inName (by decide)

/-- **Tokens are replaced in a single pass.** The name of a project is its pattern, where that is not
blank, with every token replaced at once: any brace whose next brace closes it, with some key between.
The key `index` stands for the number of the row, counted from one, any other for the cell of its
column. What a text template makes is its text with every token replaced at once whose key is made of
letters, digits, hyphens and underscores, and stands for the text of an input. Tokens without a value
are copied, and braces in values are not looked at. -/
theorem tokens_replaced {τ : Type} :
    (∀ (pattern : String) (index : Nat) (row : Batch.Row) (templateName result : String),
      (∃ c ∈ pattern.toList, isBlank c = false) →
      (Replaced (fun _ => true)
          (fun key => if key = "index" then some (toString (index + 1)) else row.get? key)
          pattern result ↔
        result = Batch.expandName pattern index row templateName)) ∧
    ∀ (params : Keyed Json) (inputs : Inputs τ) (template result : String),
      (params.get? "template" = some (.str template) ∨
        template = "" ∧ ∀ s, params.get? "template" ≠ some (.str s)) →
      (Replaced Generator.isNameChar (fun name => (inputs.get? name).bind (·.text?))
          template result ↔
        Generator.textTemplate params inputs = .ok (.text result)) := by
  constructor
  · intro pattern index row templateName result written
    have reads : Reads (fun c => c != '\x7b' && c != '\x7d') fun _ => true := fun c => by simp
    rw [replaced_iff reads, expandName_eq_expand written]
  · intro params inputs template result given
    rw [replaced_iff reads_isNameChar, textTemplate_eq_expand given]
    simp only [Except.ok.injEq, Project.Content.text.injEq]
    exact eq_comm

/-- A text with a token in braces, one that is not closed, one without a key, and one with a blank. -/
def ticket : String := "\x7b\x7btown\x7d\x7d \x7ba\x7bindex\x7d \x7b\x7d \x7bto go\x7d"

/-- The third row of a table puts a text in braces into its name, which stays as it is. -/
theorem tokens_replaced_ticket :
    (∃ c ∈ ticket.toList, isBlank c = false) ∧
      Replaced (fun _ => true)
        (fun key => if key = "index" then some (toString 3)
          else Keyed.get? [("to go", "\x7bindex\x7d"), ("town", "Oban")] key)
        ticket "\x7bOban\x7d \x7ba3 \x7b\x7d \x7bindex\x7d" ∧
      Replaced Generator.isNameChar
        (fun name => (Keyed.get? [("to go", .text "Iona"), ("town", .font "Oban")] name).bind
          (Input.text? (τ := Rat)))
        ticket "\x7bOban\x7d \x7ba\x7bindex\x7d \x7b\x7d \x7bto go\x7d" := by
  have written : ∃ c ∈ ticket.toList, isBlank c = false := ⟨'\x7b', by decide, by decide⟩
  obtain ⟨names, texts⟩ := tokens_replaced (τ := Rat)
  refine ⟨written, (names ticket 2 _ "Ferry" _ written).2 (by decide), ?_⟩
  exact (texts [("template", .str ticket)] _ ticket _ (.inl rfl)).2 rfl

end Storyboard.Text
