import Mathlib.Data.List.AList

/-!
# Stores of records under keys

A store is an association list with each key once. A pass over it deletes the records it
picks (`deleteWhere`), and a record is replaced where it stands.

* `lookup_deleteWhere`: a pass leaves exactly the records it does not pick;
* `lookup_replace`: only the record of the key changes;
* `size_insert`, `size_erase`, `size_replace`: how many records that leaves.
-/

namespace KeyedStore

variable {κ β : Type*} [DecidableEq κ]

/-- Values of one type under keys. -/
abbrev Store (κ β : Type*) := AList (fun _ : κ => β)

/-- A pass over the records that deletes those it picks. -/
def deleteWhere (picks : β → Bool) (store : Store κ β) : Store κ β :=
  store.entries.foldl (fun store e => if picks e.2 then store.erase e.1 else store) store

theorem lookup_foldl_erase (picks : β → Bool) (entries : List ((_ : κ) × β)) (store : Store κ β)
    (key : κ) :
    (entries.foldl (fun store e => if picks e.2 then store.erase e.1 else store) store).lookup key
      = if ∃ e ∈ entries, e.1 = key ∧ picks e.2 then none else store.lookup key := by
  induction entries generalizing store with
  | nil => simp
  | cons e entries ih =>
    rw [List.foldl_cons, ih]
    by_cases hrest : ∃ e ∈ entries, e.1 = key ∧ picks e.2
    · obtain ⟨e', hmem, hpick⟩ := hrest
      rw [if_pos ⟨e', hmem, hpick⟩, if_pos ⟨e', List.mem_cons_of_mem _ hmem, hpick⟩]
    · rw [if_neg hrest]
      by_cases hpick : picks e.2 = true
      · rw [if_pos hpick]
        by_cases hkey : e.1 = key
        · rw [if_pos ⟨e, List.mem_cons_self, hkey, hpick⟩, ← hkey, AList.lookup_erase]
        · rw [AList.lookup_erase_ne (Ne.symm hkey), if_neg]
          rintro ⟨e', hmem, hkey', hpick'⟩
          rcases List.mem_cons.mp hmem with rfl | hmem
          · exact hkey hkey'
          · exact hrest ⟨e', hmem, hkey', hpick'⟩
      · rw [if_neg hpick, if_neg]
        rintro ⟨e', hmem, hkey', hpick'⟩
        rcases List.mem_cons.mp hmem with rfl | hmem
        · exact hpick hpick'
        · exact hrest ⟨e', hmem, hkey', hpick'⟩

/-- A pass leaves the records it does not pick. -/
theorem lookup_deleteWhere (picks : β → Bool) (store : Store κ β) (key : κ) :
    (deleteWhere picks store).lookup key = (store.lookup key).filter (fun v => !picks v) := by
  rw [deleteWhere, lookup_foldl_erase]
  cases hlookup : store.lookup key with
  | none =>
    rw [Option.filter_none, ite_self]
  | some value =>
    have hentry : ∀ e ∈ store.entries, e.1 = key → e.2 = value := by
      rintro ⟨k, v⟩ hmem rfl
      exact Option.some.inj ((AList.mem_lookup_iff.mpr hmem).symm.trans hlookup)
    rw [Option.filter_some]
    cases hpick : picks value with
    | true =>
      exact if_pos ⟨⟨key, value⟩, AList.mem_lookup_iff.mp hlookup, rfl, hpick⟩
    | false =>
      refine if_neg ?_
      rintro ⟨e, hmem, hkey, hpicked⟩
      rw [hentry e hmem hkey, hpick] at hpicked
      cases hpicked

/-! ## Keys in the order they were set -/

/-- How many records there are. -/
def size (store : Store κ β) : ℕ := store.keys.length

/-- The key that was set first: new keys are set in front. -/
def oldest (store : Store κ β) : Option κ := store.keys.getLast?

omit [DecidableEq κ] in
theorem mem_of_oldest {store : Store κ β} {key : κ} (h : oldest store = some key) :
    key ∈ store :=
  AList.mem_keys.mpr (List.mem_of_getLast? h)

theorem size_insert {store : Store κ β} {key : κ} (h : store.lookup key = none) (value : β) :
    size (store.insert key value) = size store + 1 := by
  rw [size, AList.keys_insert, List.erase_of_not_mem]
  · rfl
  · exact fun hmem => AList.lookup_eq_none.mp h (AList.mem_keys.mpr hmem)

theorem size_erase {store : Store κ β} {key : κ} (h : key ∈ store) :
    size (store.erase key) = size store - 1 := by
  rw [size, AList.keys_erase, List.length_erase_of_mem (AList.mem_keys.mp h)]
  rfl

theorem size_replace (store : Store κ β) (key : κ) (value : β) :
    size (store.replace key value) = size store := by
  rw [size, AList.keys_replace]
  rfl

theorem size_deleteWhere_le (picks : β → Bool) (store : Store κ β) :
    size (deleteWhere picks store) ≤ size store := by
  have hfrom : ∀ (entries : List ((_ : κ) × β)) (store : Store κ β),
      size (entries.foldl (fun store e => if picks e.2 then store.erase e.1 else store) store)
        ≤ size store := by
    intro entries
    induction entries with
    | nil => exact fun store => le_rfl
    | cons e entries ih =>
      intro store
      rw [List.foldl_cons]
      refine le_trans (ih _) ?_
      split
      · rw [size, AList.keys_erase]
        exact List.erase_sublist.length_le
      · exact le_rfl
  exact hfrom store.entries store

theorem kreplace_cons_eq (entries : List ((_ : κ) × β)) (key : κ) (value v : β) :
    List.kreplace key value ((⟨key, v⟩ : (_ : κ) × β) :: entries) = ⟨key, value⟩ :: entries :=
  List.lookmap_cons_some _ entries (if_pos rfl)

theorem kreplace_cons_ne (entries : List ((_ : κ) × β)) {key k : κ} (value v : β) (h : key ≠ k) :
    List.kreplace key value ((⟨k, v⟩ : (_ : κ) × β) :: entries)
      = ⟨k, v⟩ :: List.kreplace key value entries :=
  List.lookmap_cons_none _ entries (if_neg h)

theorem dlookup_kreplace (entries : List ((_ : κ) × β)) (key : κ) (value : β) (key' : κ) :
    (entries.kreplace key value).dlookup key'
      = if key' = key then (entries.dlookup key).map fun _ => value
        else entries.dlookup key' := by
  induction entries with
  | nil => simp [List.kreplace]
  | cons e entries ih =>
    obtain ⟨k, v⟩ := e
    by_cases hkey : key = k
    · subst hkey
      rw [kreplace_cons_eq]
      by_cases hkey' : key' = key
      · subst hkey'
        rw [if_pos rfl, List.dlookup_cons_eq, List.dlookup_cons_eq, Option.map_some]
      · rw [if_neg hkey', List.dlookup_cons_ne _ (⟨key, value⟩ : (_ : κ) × β) hkey',
          List.dlookup_cons_ne _ (⟨key, v⟩ : (_ : κ) × β) hkey']
    · rw [kreplace_cons_ne _ _ _ hkey]
      by_cases hkey' : key' = k
      · subst hkey'
        rw [if_neg (Ne.symm hkey), List.dlookup_cons_eq, List.dlookup_cons_eq]
      · rw [List.dlookup_cons_ne _ (⟨k, v⟩ : (_ : κ) × β) hkey', ih,
          List.dlookup_cons_ne _ (⟨k, v⟩ : (_ : κ) × β) hkey',
          List.dlookup_cons_ne _ (⟨k, v⟩ : (_ : κ) × β) hkey]

/-- Only the record under the key changes. -/
theorem lookup_replace (store : Store κ β) (key : κ) (value : β) (key' : κ) :
    (store.replace key value).lookup key'
      = if key' = key then (store.lookup key).map fun _ => value else store.lookup key' :=
  dlookup_kreplace store.entries key value key'

end KeyedStore
