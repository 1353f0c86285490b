import Mathlib.Data.List.Nodup
import Mathlib.Data.String.Basic
import Storyboard.Keyed

/-!
# Looking things up

What a dictionary has under a key after something was put into it. These facts need no order of the
keys: a look-up finds the first entry, and an entry is put before any other one under its key. Where
the keys stand in order, what is found under them is all there is to a dictionary.
-/

namespace Storyboard.Keyed

variable {α : Type} {entries : Keyed α}

theorem get?_cons (key : String) (value : α) (rest : Keyed α) (id : String) :
    get? ((key, value) :: rest) id = if id = key then some value else get? rest id := by
  rw [get?, List.lookup_cons]
  by_cases same : id = key
  · rw [if_pos same, beq_iff_eq.2 same]
  · rw [if_neg same, beq_eq_false_iff_ne.2 same, get?]

/-- A value that is found under a key is there. -/
theorem mem_of_get? {id : String} {value : α} (found : entries.get? id = some value) :
    (id, value) ∈ entries := by
  induction entries with
  | nil => cases found
  | cons entry rest ih =>
    obtain ⟨key, first⟩ := entry
    rw [get?_cons] at found
    split at found
    · next same =>
      cases found
      exact same ▸ List.mem_cons_self
    · exact List.mem_cons_of_mem _ (ih found)

theorem get?_eq_none_iff {id : String} :
    entries.get? id = none ↔ id ∉ entries.map Prod.fst := by
  rw [get?, List.lookup_eq_none_iff, List.mem_map]
  exact ⟨fun other ⟨entry, member, same⟩ => by simpa [same] using other entry member,
    fun absent entry member => bne_iff_ne.2 fun same => absent ⟨entry, member, same.symm⟩⟩

theorem mem_keys {id : String} : id ∈ entries.keys ↔ (entries.get? id).isSome = true := by
  rw [← not_iff_not, Bool.not_eq_true, Option.isSome_eq_false_iff, Option.isNone_iff_eq_none,
    get?_eq_none_iff, keys]

/-- Of some of the entries, chosen by their keys, those under chosen keys are found. -/
theorem get?_filter (chosen : String → Bool) (entries : Keyed α) (id : String) :
    get? (entries.filter fun entry => chosen entry.1) id =
      if chosen id then entries.get? id else none := by
  induction entries with
  | nil => simp [get?]
  | cons entry rest ih =>
    obtain ⟨key, value⟩ := entry
    rw [List.filter_cons, get?_cons]
    by_cases same : id = key
    · subst same
      by_cases kept : chosen id = true <;> simp [kept, get?_cons, ih]
    · by_cases kept : chosen key = true <;> simp [kept, get?_cons, ih, same]

/-- In two dictionaries with related entries the values under a key are related. -/
theorem get?_forall₂ {β : Type} {R : String → α → β → Prop} {others : Keyed β}
    (related : List.Forall₂ (fun a b => b.1 = a.1 ∧ R a.1 a.2 b.2) entries others) (id : String) :
    Option.Rel (R id) (entries.get? id) (others.get? id) := by
  induction related with
  | nil => exact .none
  | @cons a b _ _ first _ ih =>
    obtain ⟨key, value⟩ := a
    obtain ⟨_, value'⟩ := b
    obtain ⟨rfl, first⟩ := first
    rw [get?_cons, get?_cons]
    split
    · next same => exact .some (same ▸ first)
    · exact ih

theorem get?_insert (key : String) (value : α) (entries : Keyed α) (id : String) :
    get? (insert key value entries) id = if id = key then some value else entries.get? id := by
  induction entries with
  | nil => exact get?_cons key value [] id
  | cons entry rest ih =>
    obtain ⟨k, v⟩ := entry
    unfold insert
    by_cases here : key = k
    · subst here
      rw [if_pos rfl, get?_cons, get?_cons]
      split <;> rfl
    · rw [if_neg here]
      by_cases before : key < k
      · rw [if_pos before, get?_cons]
      · rw [if_neg before, get?_cons, get?_cons, ih]
        by_cases first : id = k
        · rw [if_pos first, if_neg (first ▸ Ne.symm here), if_pos first]
        · rw [if_neg first, if_neg first]

theorem mem_insert {key : String} {value : α} {entry : String × α}
    (member : entry ∈ insert key value entries) : entry = (key, value) ∨ entry ∈ entries := by
  induction entries with
  | nil => exact .inl (List.mem_singleton.1 member)
  | cons first rest ih =>
    obtain ⟨k, v⟩ := first
    unfold insert at member
    split at member
    · exact (List.mem_cons.1 member).imp id (List.mem_cons_of_mem _)
    · split at member
      · exact List.mem_cons.1 member
      · rcases List.mem_cons.1 member with same | later
        · exact .inr (same ▸ List.mem_cons_self)
        · exact (ih later).imp id (List.mem_cons_of_mem _)

/-- What is found after a list of entries was put in is one of them or was there before. -/
theorem mem_foldl_insert {added : List (String × α)} {entry : String × α}
    (member : entry ∈ added.foldl (fun kept (key, value) => insert key value kept) entries) :
    entry ∈ added ∨ entry ∈ entries := by
  induction added generalizing entries with
  | nil => exact .inr member
  | cons first rest ih =>
    rcases ih member with later | kept
    · exact .inl (List.mem_cons_of_mem _ later)
    · rcases mem_insert kept with rfl | before
      · exact .inl List.mem_cons_self
      · exact .inr before

/-- A list of entries put in one after the other changes nothing under other keys. -/
theorem get?_foldl_insert_not {id : String} {added : List (String × α)}
    (other : id ∉ added.map Prod.fst) (entries : Keyed α) :
    get? (added.foldl (fun kept (key, value) => insert key value kept) entries) id =
      entries.get? id := by
  induction added generalizing entries with
  | nil => rfl
  | cons entry rest ih =>
    rw [List.map_cons, List.mem_cons, not_or] at other
    rw [List.foldl_cons, ih other.2, get?_insert, if_neg other.1]

/-- Of a list of entries under distinct keys each is found. -/
theorem get?_foldl_insert {id : String} {value : α} {added : List (String × α)}
    (distinct : (added.map Prod.fst).Nodup) (member : (id, value) ∈ added) (entries : Keyed α) :
    get? (added.foldl (fun kept (key, value) => insert key value kept) entries) id =
      some value := by
  induction added generalizing entries with
  | nil => cases member
  | cons entry rest ih =>
    rw [List.map_cons, List.nodup_cons] at distinct
    rw [List.foldl_cons]
    rcases List.mem_cons.1 member with rfl | later
    · rw [get?_foldl_insert_not distinct.1, get?_insert, if_pos rfl]
    · exact ih distinct.2 later _

/-- What is found after a list of entries was put in is the last of them under its key, or was there
before. -/
theorem last_of_get?_foldl_insert {id : String} {value : α} {added : List (String × α)}
    (found : get? (added.foldl (fun kept (key, value) => insert key value kept) entries) id =
      some value) :
    (∃ before after, added = before ++ (id, value) :: after ∧ id ∉ after.map Prod.fst) ∨
      id ∉ added.map Prod.fst ∧ entries.get? id = some value := by
  induction added generalizing entries with
  | nil => exact .inr ⟨List.not_mem_nil, found⟩
  | cons entry rest ih =>
    obtain ⟨key, first⟩ := entry
    rcases ih found with ⟨before, after, rfl, absent⟩ | ⟨absent, kept⟩
    · exact .inl ⟨(key, first) :: before, after, rfl, absent⟩
    · rw [get?_insert] at kept
      split at kept
      · next here =>
        cases kept
        exact .inl ⟨[], rest, here ▸ rfl, absent⟩
      · next other => exact .inr ⟨fun member => (List.mem_cons.1 member).elim other absent, kept⟩

/-- After a list of entries was put in there is a value under their keys and under those there were. -/
theorem isSome_get?_foldl_insert {id : String} {added : List (String × α)} :
    (get? (added.foldl (fun kept (key, value) => insert key value kept) entries) id).isSome = true ↔
      id ∈ added.map Prod.fst ∨ (entries.get? id).isSome = true := by
  induction added generalizing entries with
  | nil => simp
  | cons entry rest ih =>
    rw [List.foldl_cons, ih, get?_insert, List.map_cons, List.mem_cons]
    by_cases here : id = entry.1 <;> simp [here]

/-- A dictionary made of entries under distinct keys has each of them. -/
theorem get?_ofList (distinct : (entries.map Prod.fst).Nodup) (id : String) :
    get? (ofList entries) id = entries.get? id := by
  cases found : entries.get? id with
  | none => exact get?_foldl_insert_not (get?_eq_none_iff.1 found) []
  | some value => exact get?_foldl_insert distinct (mem_of_get? found) []

theorem get?_eq_some_iff (distinct : (entries.map Prod.fst).Nodup) {id : String} {value : α} :
    entries.get? id = some value ↔ (id, value) ∈ entries :=
  ⟨mem_of_get?, fun member =>
    (get?_ofList distinct id).symm.trans (get?_foldl_insert distinct member [])⟩

/-! ## The order of keys -/

/-- The keys stand in increasing order. -/
def Ordered (entries : Keyed α) : Prop := entries.Pairwise fun a b => a.1 < b.1

instance (entries : Keyed α) : Decidable entries.Ordered :=
  inferInstanceAs (Decidable (entries.Pairwise fun a b => a.1 < b.1))

theorem ordered_insert (key : String) (value : α) {entries : Keyed α} (ordered : entries.Ordered) :
    (insert key value entries).Ordered := by
  induction entries with
  | nil => exact List.pairwise_singleton _ _
  | cons entry rest ih =>
    obtain ⟨k, v⟩ := entry
    obtain ⟨first, later⟩ := List.pairwise_cons.1 ordered
    unfold insert
    split
    · next same => exact List.pairwise_cons.2 ⟨fun other member => same ▸ first other member, later⟩
    · next different =>
      split
      · next less =>
        refine List.pairwise_cons.2 ⟨fun other member => ?_, ordered⟩
        rcases List.mem_cons.1 member with rfl | member
        · exact less
        · exact less.trans (first other member)
      · next notLess =>
        refine List.pairwise_cons.2 ⟨fun other member => ?_, ih later⟩
        rcases mem_insert member with rfl | member
        · exact lt_of_le_of_ne (not_lt.1 notLess) (Ne.symm different)
        · exact first other member

theorem ordered_foldl_insert {added : List (String × α)} (ordered : entries.Ordered) :
    Ordered (added.foldl (fun kept (key, value) => insert key value kept) entries) := by
  induction added generalizing entries with
  | nil => exact ordered
  | cons entry rest ih => exact ih (ordered_insert entry.1 entry.2 ordered)

theorem ordered_ofList (added : List (String × α)) : Ordered (ofList added) :=
  ordered_foldl_insert List.Pairwise.nil

theorem Ordered.nodup (ordered : entries.Ordered) : (entries.map Prod.fst).Nodup :=
  List.pairwise_map.2 (ordered.imp ne_of_lt)

/-- Two dictionaries in order are the same where the same is found in them. -/
theorem Ordered.ext {others : Keyed α} (ordered : entries.Ordered) (orderedOthers : others.Ordered)
    (same : ∀ id, entries.get? id = others.get? id) : entries = others := by
  have perm : entries.Perm others :=
    (List.perm_ext_iff_of_nodup ordered.nodup.of_map orderedOthers.nodup.of_map).2 fun entry => by
      rw [← get?_eq_some_iff ordered.nodup, same, get?_eq_some_iff orderedOthers.nodup]
  exact perm.eq_of_pairwise (fun a b _ _ less greater => absurd greater less.not_gt) ordered
    orderedOthers

theorem Ordered.filter (ordered : entries.Ordered) (chosen : String × α → Bool) :
    Ordered (entries.filter chosen) :=
  List.Pairwise.filter chosen ordered

/-- A value that is put in is among the entries chosen by their keys if its key is chosen. -/
theorem Ordered.filter_insert (ordered : entries.Ordered) (chosen : String → Bool) (key : String)
    (value : α) :
    ((insert key value entries).filter fun entry => chosen entry.1) =
      if chosen key then insert key value (entries.filter fun entry => chosen entry.1)
      else entries.filter fun entry => chosen entry.1 := by
  have inserted := (ordered_insert key value ordered).filter fun entry => chosen entry.1
  have kept := ordered.filter fun entry => chosen entry.1
  split
  · next taken =>
    refine inserted.ext (ordered_insert key value kept) fun id => ?_
    rw [get?_filter, get?_insert, get?_insert, get?_filter]
    by_cases here : id = key <;> simp [here, taken]
  · next left =>
    refine inserted.ext kept fun id => ?_
    rw [get?_filter, get?_insert, get?_filter]
    by_cases here : id = key <;> simp [here, left]

end Storyboard.Keyed
