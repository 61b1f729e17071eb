import Mathlib.Data.List.AList
import Mathlib.Data.List.Find

/-!
# Hash maps by their entries

An `EntryMap` lists its entries in the order in which an iteration visits them. `reorder`
visits them in another order, `amend` changes values in place, and `first` is what a search
through the entries finds.
-/

namespace Direlera.Library

universe u v

/-- A map whose entries are listed in the order of iteration. -/
abbrev EntryMap (Key : Type u) (Value : Type v) := AList fun _ : Key => Value

namespace EntryMap

variable {Key : Type u} {Value : Type v}

/-- Change the values in place. -/
def amend (map : EntryMap Key Value) (change : Key → Value → Value) : EntryMap Key Value where
  entries := map.entries.map fun entry => ⟨entry.1, change entry.1 entry.2⟩
  nodupKeys := by
    have keys : (map.entries.map fun entry : Σ _ : Key, Value =>
        (⟨entry.1, change entry.1 entry.2⟩ : Σ _ : Key, Value)).keys = map.entries.keys := by
      simp [List.keys]
    rw [List.NodupKeys, keys]
    exact map.nodupKeys

/-- A choice of the order of iteration. -/
structure Order (Key : Type u) (Value : Type v) where
  arrange : List (Σ _ : Key, Value) → List (Σ _ : Key, Value)
  perm : ∀ entries, (arrange entries).Perm entries

/-- The order as it is. -/
def Order.same : Order Key Value := ⟨id, fun _ => .refl _⟩

/-- The opposite order. -/
def Order.opposite : Order Key Value := ⟨List.reverse, List.reverse_perm⟩

/-- Visit the entries in another order. -/
def reorder (map : EntryMap Key Value) (order : Order Key Value) : EntryMap Key Value where
  entries := order.arrange map.entries
  nodupKeys := (List.perm_nodupKeys (order.perm map.entries)).mpr map.nodupKeys

/-- The first entry which is wanted. -/
def first (map : EntryMap Key Value) (wanted : Key → Value → Bool) : Option (Key × Value) :=
  (map.entries.find? fun entry => wanted entry.1 entry.2).map fun entry => (entry.1, entry.2)

section Iteration

variable {map : EntryMap Key Value}

@[simp] theorem length_reorder (order : Order Key Value) :
    (map.reorder order).entries.length = map.entries.length :=
  (order.perm map.entries).length_eq

/-- A search which does not see the change finds the same entry. -/
theorem first_amend {change : Key → Value → Value} {wanted : Key → Value → Bool}
    (unseen : ∀ key value, wanted key (change key value) = wanted key value) :
    (map.amend change).first wanted =
      (map.first wanted).map fun entry => (entry.1, change entry.1 entry.2) := by
  have same : ((fun entry : Σ _ : Key, Value => wanted entry.1 entry.2) ∘
      fun entry : Σ _ : Key, Value => (⟨entry.1, change entry.1 entry.2⟩ : Σ _ : Key, Value)) =
        fun entry => wanted entry.1 entry.2 := by
    funext entry
    exact unseen entry.1 entry.2
  rw [first, amend, List.find?_map, same, first, Option.map_map, Option.map_map]
  rfl

end Iteration

section Lookup

variable [DecidableEq Key] {map : EntryMap Key Value} {key : Key} {value : Value}

@[simp] theorem lookup_amend (change : Key → Value → Value) :
    (map.amend change).lookup key = (map.lookup key).map (change key) :=
  List.dlookup_map₂ key

@[simp] theorem lookup_reorder (order : Order Key Value) :
    (map.reorder order).lookup key = map.lookup key :=
  List.perm_dlookup key (map.reorder order).nodupKeys (order.perm map.entries)

/-- An iteration may visit the keys in any order. -/
theorem exists_reorder {keys : List Key} (perm : keys.Perm map.keys) :
    ∃ order, (map.reorder order).keys = keys := by
  classical
  let entry (key : Key) : Option (Σ _ : Key, Value) := (map.lookup key).map fun value => ⟨key, value⟩
  have whole : map.keys.filterMap entry = map.entries := by
    have each : ∀ other ∈ map.entries, (entry ∘ Sigma.fst) other = some other := by
      intro other member
      have here : map.lookup other.1 = some other.2 := List.mem_dlookup map.nodupKeys member
      simp [entry, here]
    rw [AList.keys, List.keys, List.filterMap_map, List.filterMap_congr each, List.filterMap_some]
  have arranged : (keys.filterMap entry).Perm map.entries := whole ▸ perm.filterMap entry
  refine ⟨⟨fun entries => if entries = map.entries then keys.filterMap entry else entries,
    fun entries => ?_⟩, ?_⟩
  · split
    next same => exact same ▸ arranged
    next => exact .refl entries
  · have known : ∀ key ∈ keys, (entry key).map Sigma.fst = some key := by
      intro key member
      obtain ⟨value, here⟩ := Option.isSome_iff_exists.mp
        (AList.lookup_isSome.mpr (AList.mem_keys.mpr (perm.mem_iff.mp member)))
      simp [entry, here]
    change ((if map.entries = map.entries then keys.filterMap entry else map.entries).map Sigma.fst) =
      keys
    rw [if_pos rfl, List.map_filterMap, List.filterMap_congr known, List.filterMap_some]

/-- An entry is found under its key. -/
theorem lookup_of_first {wanted : Key → Value → Bool}
    (found : map.first wanted = some (key, value)) :
    map.lookup key = some value ∧ wanted key value = true := by
  obtain ⟨entry, here, same⟩ := Option.map_eq_some_iff.mp found
  obtain ⟨rfl, rfl⟩ := Prod.mk.inj same
  have want := List.find?_some here
  exact ⟨List.mem_dlookup map.nodupKeys (List.mem_of_find?_eq_some here), want⟩

/-- A search goes through the keys. -/
theorem map_fst_first (wanted : Key → Value → Bool) :
    (map.first wanted).map Prod.fst =
      map.keys.find? fun key => (map.lookup key).any (wanted key) := by
  have known : ∀ entry ∈ map.entries, wanted entry.1 entry.2 =
      ((fun key => (map.lookup key).any (wanted key)) ∘ Sigma.fst) entry := by
    intro entry member
    have here : map.lookup entry.1 = some entry.2 := List.mem_dlookup map.nodupKeys member
    simp [here]
  rw [AList.keys, List.keys, List.find?_map, ← List.find?_congr known, first, Option.map_map]
  rfl

/-- A search fails if no entry is wanted. -/
theorem first_eq_none_iff {wanted : Key → Value → Bool} :
    map.first wanted = none ↔
      ∀ key value, map.lookup key = some value → wanted key value = false := by
  rw [first, Option.map_eq_none_iff, List.find?_eq_none]
  constructor
  · intro unwanted key value here
    simpa using unwanted ⟨key, value⟩ (List.of_mem_dlookup here)
  · intro unwanted entry member
    simpa using unwanted entry.1 entry.2 (List.mem_dlookup map.nodupKeys member)

/-- What is found after a key was erased was there before. -/
theorem lookup_of_erase {gone : Key} (here : (map.erase gone).lookup key = some value) :
    map.lookup key = some value := by
  by_cases same : key = gone
  · subst same
    rw [AList.lookup_erase] at here
    cases here
  · rwa [AList.lookup_erase_ne same] at here

/-- To erase a key updates what is found. -/
theorem lookup_erase_eq_update (gone : Key) :
    (fun other => (map.erase gone).lookup other) = Function.update map.lookup gone none := by
  funext other
  by_cases same : other = gone
  · subst same
    rw [Function.update_self, AList.lookup_erase]
  · rw [Function.update_of_ne same, AList.lookup_erase_ne same]

/-- To insert a key updates what is found. -/
theorem lookup_insert_eq_update (new : Key) (value : Value) :
    (fun other => (map.insert new value).lookup other) =
      Function.update map.lookup new (some value) := by
  funext other
  by_cases same : other = new
  · subst same
    rw [Function.update_self, AList.lookup_insert]
  · rw [Function.update_of_ne same, AList.lookup_insert_ne same]

/-- A new key adds an entry. -/
theorem length_insert (fresh : map.lookup key = none) (value : Value) :
    (map.insert key value).entries.length = map.entries.length + 1 := by
  have missing : key ∉ map := AList.lookup_eq_none.mp fresh
  rw [AList.entries_insert_of_notMem missing, List.length_cons]

/-- A key which is erased takes its entry with it. -/
theorem length_erase (here : map.lookup key = some value) :
    (map.erase key).entries.length + 1 = map.entries.length := by
  have known : key ∈ map.keys := AList.mem_keys.mp (AList.lookup_isSome.mp (by simp [here]))
  have lengths : ∀ other : EntryMap Key Value, other.keys.length = other.entries.length :=
    fun other => List.length_map _
  have positive := List.length_pos_of_mem known
  rw [← lengths, ← lengths, AList.keys_erase, List.length_erase_of_mem known]
  omega

end Lookup

end EntryMap

end Direlera.Library
