import Mathlib.Data.List.Basic
import Mathlib.Data.List.Nodup
import Mathlib.Data.List.Perm.Basic

/-!
# Lists with keys

Items sorted into groups of one key, in the order their keys first appear (`group`), and
maps kept as the sequence of their settings, where the last one counts (`mapGet`).

* `group_perm`, `group_uniform`: the groups hold each item once, under one key;
* `mapGet_eq_some`: where no key is set twice, a map holds what it was set to;
* `mapGet_of_forall₂`, `forall₂_mapGet`: and answers each of a list of items with its own.
-/

namespace Keyed

variable {α β κ : Type*} [DecidableEq κ]

/-! ## Groups -/

/-- Put an item in the group of its key, or in a new one behind the others. -/
def addToGroups (key : α → κ) (item : α) : List (List α) → List (List α)
  | [] => [[item]]
  | group :: groups =>
    if group.head?.map key = some (key item) then (group ++ [item]) :: groups
    else group :: addToGroups key item groups

def group (key : α → κ) (items : List α) : List (List α) :=
  items.foldl (fun groups item => addToGroups key item groups) []

/-- A group has a first item, and the others have its key. -/
def Uniform (key : α → κ) (group : List α) : Prop :=
  ∃ first rest, group = first :: rest ∧ ∀ item ∈ group, key item = key first

section Group

variable (key : α → κ)

theorem addToGroups_perm (item : α) (groups : List (List α)) :
    (addToGroups key item groups).flatten.Perm (groups.flatten ++ [item]) := by
  induction groups with
  | nil => exact .refl _
  | cons group groups ih =>
    rw [addToGroups]
    split
    · simp only [List.flatten_cons, List.append_assoc]
      exact List.perm_append_comm.append_left group
    · simp only [List.flatten_cons, List.append_assoc]
      exact ih.append_left group

theorem addToGroups_uniform {item : α} {groups : List (List α)}
    (h : ∀ group ∈ groups, Uniform key group) :
    ∀ group ∈ addToGroups key item groups, Uniform key group := by
  induction groups with
  | nil =>
    refine List.forall_mem_singleton.mpr ⟨item, [], rfl, ?_⟩
    exact List.forall_mem_singleton.mpr rfl
  | cons group groups ih =>
    obtain ⟨hfirst, hrest⟩ := List.forall_mem_cons.mp h
    rw [addToGroups]
    split
    · rename_i hkey
      refine List.forall_mem_cons.mpr ⟨?_, hrest⟩
      obtain ⟨first, rest, rfl, hsame⟩ := hfirst
      refine ⟨first, rest ++ [item], rfl, ?_⟩
      rw [List.forall_mem_append, List.forall_mem_singleton]
      exact ⟨hsame, (Option.some.inj hkey).symm⟩
    · exact List.forall_mem_cons.mpr ⟨hfirst, ih hrest⟩

theorem group_perm (items : List α) : (group key items).flatten.Perm items := by
  have hfrom : ∀ (items : List α) (groups : List (List α)),
      (items.foldl (fun groups item => addToGroups key item groups) groups).flatten.Perm
        (groups.flatten ++ items) := by
    intro items
    induction items with
    | nil => exact fun groups => by rw [List.append_nil]; exact .refl _
    | cons item items ih =>
      intro groups
      refine (ih _).trans (((addToGroups_perm key item groups).append_right items).trans ?_)
      rw [List.append_assoc]
      exact .refl _
  exact hfrom items []

theorem group_uniform (items : List α) : ∀ g ∈ group key items, Uniform key g := by
  have hfrom : ∀ (items : List α) (groups : List (List α)), (∀ g ∈ groups, Uniform key g) →
      ∀ g ∈ items.foldl (fun groups item => addToGroups key item groups) groups,
        Uniform key g := by
    intro items
    induction items with
    | nil => exact fun groups h => h
    | cons item items ih => exact fun groups h => ih _ (addToGroups_uniform key h)
  exact hfrom items [] fun g hg => (nomatch hg)

end Group

/-- The first items of groups come in the order of the groups. -/
theorem heads_sublist (groups : List (List α)) :
    (groups.filterMap (·.head?)).Sublist groups.flatten := by
  induction groups with
  | nil => exact .slnil
  | cons group groups ih =>
    cases group with
    | nil => exact ih
    | cons first rest => exact (ih.trans (List.sublist_append_right rest _)).cons_cons first

/-! ## Maps -/

/-- What a sequence of settings leaves under a key: the last one. -/
def mapGet (entries : List (κ × β)) (key : κ) : Option β := entries.reverse.lookup key

theorem lookup_eq_some {entries : List (κ × β)} (hnodup : (entries.map (·.1)).Nodup) {key : κ}
    {value : β} : entries.lookup key = some value ↔ (key, value) ∈ entries := by
  induction entries with
  | nil => simp
  | cons entry entries ih =>
    obtain ⟨hfirst, hrest⟩ := List.nodup_cons.mp hnodup
    obtain ⟨k, v⟩ := entry
    by_cases hkey : key = k
    · subst hkey
      rw [List.lookup_cons_self, List.mem_cons]
      constructor
      · rintro h
        exact .inl (by rw [Option.some.inj h])
      · rintro (h | h)
        · cases h
          rfl
        · exact absurd (List.mem_map.mpr ⟨_, h, rfl⟩) hfirst
    · have hne : (key == k) = false := beq_false_of_ne hkey
      rw [List.lookup_cons, hne, List.mem_cons, ← ih hrest]
      constructor
      · exact fun h => .inr h
      · rintro (h | h)
        · cases h
          exact absurd rfl hkey
        · exact h

/-- Where no key is set twice, a map holds what it was set to. -/
theorem mapGet_eq_some {entries : List (κ × β)} (hnodup : (entries.map (·.1)).Nodup) {key : κ}
    {value : β} : mapGet entries key = some value ↔ (key, value) ∈ entries := by
  have hreverse : (entries.reverse.map (·.1)).Nodup := by
    rw [List.map_reverse]
    exact List.nodup_reverse.mpr hnodup
  rw [mapGet, lookup_eq_some hreverse, List.mem_reverse]

/-- A map set for each of a list of items, none under another's key, answers each with its
own entry. -/
theorem mapGet_of_forall₂ {key : α → κ} {holds : α → β → Prop} {items : List α}
    {entries : List (κ × β)}
    (h : List.Forall₂ (fun item entry => entry.1 = key item ∧ holds item entry.2) items entries)
    (hnodup : (items.map key).Nodup) :
    ∀ item ∈ items, ∃ value, mapGet entries (key item) = some value ∧ holds item value := by
  have hkeys : entries.map (·.1) = items.map key := by
    clear hnodup
    induction h with
    | nil => rfl
    | cons hfirst _ ih => rw [List.map_cons, List.map_cons, ih, hfirst.1]
  intro item hmem
  have hentry : ∃ entry ∈ entries, entry.1 = key item ∧ holds item entry.2 := by
    clear hnodup hkeys
    induction h with
    | nil => cases hmem
    | cons hfirst _ ih =>
      rcases List.mem_cons.mp hmem with rfl | hmem
      · exact ⟨_, List.mem_cons_self, hfirst⟩
      · obtain ⟨entry, hentry, hholds⟩ := ih hmem
        exact ⟨entry, List.mem_cons_of_mem _ hentry, hholds⟩
  obtain ⟨⟨k, value⟩, hentry, rfl, hholds⟩ := hentry
  exact ⟨value, (mapGet_eq_some (hkeys ▸ hnodup)).mpr hentry, hholds⟩

/-- A map set to a value for each of a list of items, none under another's key, gives the
values back. -/
theorem forall₂_mapGet {key : α → κ} {items : List α} {values : List β}
    (hlength : items.length = values.length) (hnodup : (items.map key).Nodup) :
    List.Forall₂ (fun item value =>
        mapGet (List.zipWith (fun item value => (key item, value)) items values) (key item)
          = some value)
      items values := by
  have hkeys : (List.zipWith (fun item value => (key item, value)) items values).map (·.1)
      = items.map key := by
    rw [List.map_zipWith]
    clear hnodup
    induction items generalizing values with
    | nil => rfl
    | cons item items ih =>
      cases values with
      | nil => cases hlength
      | cons value values =>
        rw [List.zipWith_cons_cons, List.map_cons, ih (Nat.succ.inj hlength)]
  simp only [mapGet_eq_some (hkeys ▸ hnodup)]
  clear hnodup hkeys
  induction items generalizing values with
  | nil =>
    cases values with
    | nil => exact .nil
    | cons value values => cases hlength
  | cons item items ih =>
    cases values with
    | nil => cases hlength
    | cons value values =>
      refine .cons List.mem_cons_self ((ih (Nat.succ.inj hlength)).imp fun item value hmem => ?_)
      exact List.mem_cons_of_mem _ hmem

end Keyed
