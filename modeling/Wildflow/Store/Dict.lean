import Wildflow.Store.Table

/-!
# Finite maps

A finite map is a table of pairs under their first component.
-/

namespace Wildflow.Store

abbrev Dict (κ α : Type) := Table (Prod.fst : κ × α → κ)

namespace Dict
variable {κ α : Type} [DecidableEq κ]

def empty : Dict κ α := Table.empty

def get (dict : Dict κ α) (k : κ) : Option α := (dict.find k).map Prod.snd

def set (dict : Dict κ α) (k : κ) (value : α) : Dict κ α := dict.put (k, value)

def erase (dict : Dict κ α) (k : κ) : Dict κ α := dict.keep fun entry => entry.1 ≠ k

def keys (dict : Dict κ α) : List κ := dict.rows.map Prod.fst

@[simp] theorem get_empty (k : κ) : (empty : Dict κ α).get k = none := rfl
@[grind =] theorem get_set (dict : Dict κ α) (k k' : κ) (v : α) :
    (dict.set k v).get k' = if k = k' then some v else dict.get k' := by
  unfold get set
  rw [Table.find_put]
  split <;> rfl

@[simp] theorem get_set_self (dict : Dict κ α) (k : κ) (value : α) : (dict.set k value).get k = some value := by
  simp [get_set]

variable {k : κ}

theorem get_erase_of_ne (dict : Dict κ α) {k' : κ} (ne : k ≠ k') : (dict.erase k).get k' = dict.get k' := by
  unfold get erase
  rw [Table.find_keep]
  cases found : dict.find k' with
  | none => rfl
  | some e =>
    have other : e.1 ≠ k := fun same => ne (same.symm.trans (Table.key_of_find found))
    simp [Option.filter_some, other]

theorem get_set_of_ne (dict : Dict κ α) {k' : κ} (ne : k ≠ k') (v : α) : (dict.set k v).get k' = dict.get k' := by
  simp [get_set, ne]

variable {dict : Dict κ α}

theorem set_of_get {v : α} (found : dict.get k = some v) : dict.set k v = dict := by
  obtain ⟨⟨k', value'⟩, here, rfl⟩ := Option.map_eq_some_iff.mp found
  obtain rfl : k' = k := Table.key_of_find here
  exact Table.put_of_find here

theorem mem_rows_of_get {v : α} (found : dict.get k = some v) : (k, v) ∈ dict.rows := by
  obtain ⟨⟨k', value'⟩, here, rfl⟩ := Option.map_eq_some_iff.mp found
  obtain rfl : k' = k := Table.key_of_find here
  exact Table.mem_of_find here

theorem get_of_mem_rows {value : α} (mem : (k, value) ∈ dict.rows) : dict.get k = some value := by
  unfold get
  rw [Table.find_of_mem mem]
  rfl

theorem mem_keys : k ∈ dict.keys ↔ dict.get k ≠ none := by
  rw [keys, get, ne_eq, Option.map_eq_none_iff]
  exact (not_iff_comm.mp (Table.find?_eq_none_keys dict.rows k).symm).symm

end Dict

end Wildflow.Store
