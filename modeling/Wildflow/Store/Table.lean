import Mathlib.Data.List.Nodup
import Mathlib.Data.Option.Basic

/-!
# Tables with a unique index

A list of rows no two of which share a key. `find` is a lookup by the indexed column, `put` the upsert of one row and
`keep` what a bulk delete leaves.
-/

namespace Wildflow.Store

structure Table {κ ρ : Type} (key : ρ → κ) where
  rows : List ρ
  unique : (rows.map key).Nodup

namespace Table
open List
variable {κ ρ : Type} {key : ρ → κ} [DecidableEq κ]
variable {table : Table key} {row : ρ} {k : κ}

def empty : Table key := ⟨[], by simp⟩

instance : Inhabited (Table key) := ⟨empty⟩

def find (table : Table key) (k : κ) : Option ρ :=
  table.rows.find? fun row => key row = k

def replaceRow (key : ρ → κ) (row : ρ) (rows : List ρ) : List ρ :=
  rows.map fun old => if key old = key row then row else old

theorem replaceRow_keys (row : ρ) (rows : List ρ) : (replaceRow key row rows).map key = rows.map key := by
  simp only [replaceRow, map_map]
  apply map_congr_left
  intro old _
  by_cases same : key old = key row <;> simp [same]

theorem find?_eq_none_keys (rows : List ρ) (k : κ) :
    (rows.find? fun row => key row = k) = none ↔ k ∉ rows.map key := by
  simp only [find?_eq_none, decide_eq_true_eq, mem_map, not_exists, not_and]

def put (table : Table key) (row : ρ) : Table key :=
  match h : table.find (key row) with
  | some _ => ⟨replaceRow key row table.rows, by rw [replaceRow_keys]; exact table.unique⟩
  | none => ⟨table.rows ++ [row], by
      rw [map_append, nodup_append]
      refine ⟨table.unique, by simp, ?_⟩
      intro k member k' single
      have fresh := (find?_eq_none_keys table.rows (key row)).mp h
      simp only [map_cons, map_nil, mem_singleton] at single
      rintro rfl
      exact fresh (single ▸ member)⟩

def keep (table : Table key) (p : ρ → Bool) : Table key :=
  ⟨table.rows.filter p, (filter_sublist.map key).nodup table.unique⟩

/-- `UPDATE` of every row by a change that keeps the key. -/
def map (table : Table key) (change : ρ → ρ) (keyed : ∀ row, key (change row) = key row) : Table key :=
  ⟨table.rows.map change, by
    have same : (table.rows.map change).map key = table.rows.map key := by
      rw [map_map]
      exact map_congr_left fun row _ => keyed row
    rw [same]
    exact table.unique⟩

@[simp] theorem find_empty (k : κ) : (empty : Table key).find k = none := rfl
@[grind →] theorem key_of_find (found : table.find k = some row) : key row = k := by
  simpa using find?_some found

@[grind →] theorem mem_of_find (found : table.find k = some row) : row ∈ table.rows :=
  mem_of_find?_eq_some found

private theorem find?_of_mem {rows : List ρ} (unique : (rows.map key).Nodup)
    (mem : row ∈ rows) : (rows.find? fun old => key old = key row) = some row := by
  induction rows with
  | nil => cases mem
  | cons head rest ih =>
    rw [map_cons, nodup_cons] at unique
    rcases mem_cons.mp mem with rfl | later
    · simp
    · have ne : key head ≠ key row := fun same =>
        unique.1 (same ▸ mem_map_of_mem later)
      simp [ne, ih unique.2 later]

@[grind →] theorem find_of_mem {table : Table key} {row : ρ} (mem : row ∈ table.rows) :
    table.find (key row) = some row :=
  find?_of_mem table.unique mem

theorem mem_rows : row ∈ table.rows ↔ table.find (key row) = some row :=
  ⟨find_of_mem, mem_of_find⟩

private theorem find?_replaceRow (row : ρ) (rows : List ρ) (k : κ) (present : key row ∈ rows.map key) :
    ((replaceRow key row rows).find? fun old => key old = k) =
      if key row = k then some row else rows.find? fun old => key old = k := by
  induction rows with
  | nil => simp at present
  | cons head rest ih =>
    by_cases headSame : key head = key row
    · by_cases want : key row = k
      · simp [replaceRow, headSame, want]
      have headOther : key head ≠ k := headSame ▸ want
      by_cases later : key row ∈ rest.map key
      · simpa [replaceRow, headSame, want, headOther] using ih later
      have unchanged : rest.map (fun old => if key old = key row then row else old) = rest := by
        conv_rhs => rw [← map_id rest]
        apply map_congr_left
        intro old mem
        have other : key old ≠ key row := fun same =>
          later (same ▸ mem_map_of_mem mem)
        simp [other]
      simp [replaceRow, headSame, want, unchanged]
    · have later : key row ∈ rest.map key := by
        simpa [Ne.symm headSame] using present
      have tail := ih later
      simp only [replaceRow] at tail
      by_cases headWanted : key head = k
      · have notRow : key row ≠ k := fun same => headSame (headWanted.trans same.symm)
        simp [replaceRow, headWanted, notRow, Ne.symm notRow]
      · simp [replaceRow, headSame, headWanted, tail]

section
variable (table : Table key)

theorem filter_key (k : κ) : (table.rows.filter fun row => key row = k) = (table.find k).toList := by
  have each : ∀ rows : List ρ, (rows.map key).Nodup →
      (rows.filter fun row => key row = k) = (rows.find? fun row => key row = k).toList := by
    intro rows
    induction rows with
    | nil => intro _; rfl
    | cons row rest ih =>
      intro nodup
      rw [map_cons, nodup_cons] at nodup
      by_cases own : key row = k
      · have others : (rest.filter fun row => key row = k) = [] := by
          rw [filter_eq_nil_iff]
          intro other mem same
          refine nodup.1 ?_
          rw [own, ← of_decide_eq_true same]
          exact mem_map_of_mem mem
        simp [own, others]
      · simp [own, ih nodup.2]
  exact each table.rows table.unique

@[grind =] theorem find_put (row : ρ) (k : κ) :
    (table.put row).find k = if key row = k then some row else table.find k := by
  unfold put
  split
  · rename_i old found
    apply find?_replaceRow
    by_contra missing
    rw [← find?_eq_none_keys] at missing
    exact absurd (found.symm.trans missing) (by simp)
  · rename_i missing
    simp only [find, find?_append] at missing ⊢
    by_cases want : key row = k
    · subst want
      simp [missing]
    · simp [want]

@[simp] theorem find_put_self (row : ρ) : (table.put row).find (key row) = some row := by
  simp [find_put]

theorem find_put_of_ne (row : ρ) (ne : key row ≠ k) : (table.put row).find k = table.find k := by
  simp [find_put, ne]

@[grind =] theorem find_keep (p : ρ → Bool) (k : κ) : (table.keep p).find k = (table.find k).filter p := by
  cases found : table.find k with
  | none =>
    rw [find, find?_eq_none_keys] at found
    rw [Option.filter_none, find, find?_eq_none_keys]
    intro mem
    exact found ((filter_sublist.map key).subset mem)
  | some row =>
    have keyed := key_of_find found
    subst keyed
    by_cases kept : p row = true
    · rw [Option.filter_some_pos kept]
      exact @find_of_mem _ _ _ _ (table.keep p) _ (mem_filter.mpr ⟨mem_of_find found, kept⟩)
    rw [Option.filter_some_neg (by simpa using kept)]
    cases still : (table.keep p).find (key row) with
    | none => rfl
    | some other =>
      obtain ⟨mem, passes⟩ := mem_filter.mp (mem_of_find still)
      have same := find_of_mem mem
      rw [key_of_find still, found] at same
      rw [Option.some.inj same] at kept
      exact absurd passes kept

@[grind =] theorem find_map (change : ρ → ρ) (keyed : ∀ row, key (change row) = key row) (k : κ) :
    (table.map change keyed).find k = (table.find k).map change := by
  unfold find map
  rw [find?_map]
  congr 2
  funext row
  simp [keyed row]

end

theorem find_of_put {other : Table key} (put : other = table.put row) (k : κ) :
    other.find k = if key row = k then some row else table.find k := by
  rw [put, find_put]

theorem find_put_changed {changed : ρ} (found : table.find k = some row)
    (same : key changed = key row) : (table.put changed).find k = some changed := by
  rw [find_put, if_pos (same.trans (key_of_find found))]

@[grind =] theorem mem_put {other : ρ} :
    other ∈ (table.put row).rows ↔ other = row ∨ (other ∈ table.rows ∧ key other ≠ key row) := by
  rw [mem_rows, find_put]
  by_cases same : key row = key other
  · simp only [same, if_true, Option.some.injEq, ne_eq, not_true_eq_false, and_false, or_false]
    exact eq_comm
  · have nodup : other ≠ row := fun equal => same (equal ▸ rfl)
    simp [same, nodup, Ne.symm same, mem_rows]

theorem rows_put_of_fresh (fresh : table.find (key row) = none) : (table.put row).rows = table.rows ++ [row] := by
  unfold put
  split
  · grind
  · rfl

theorem rows_put_of_found {old : ρ} (found : table.find (key row) = some old) :
    (table.put row).rows = table.rows.map fun old => if key old = key row then row else old := by
  unfold put
  split
  · rfl
  · grind

theorem rows_foldl_put {rows : List ρ} (nodup : (rows.map key).Nodup)
    (fresh : ∀ row ∈ rows, table.find (key row) = none) : (rows.foldl put table).rows = table.rows ++ rows := by
  induction rows generalizing table with
  | nil => simp
  | cons row rest ih =>
    rw [map_cons, nodup_cons] at nodup
    have freshRest : ∀ other ∈ rest, (table.put row).find (key other) = none := by
      intro other mem
      have apart : key row ≠ key other := fun same => nodup.1 (same ▸ mem_map_of_mem mem)
      rw [find_put_of_ne table row apart]
      exact fresh other (mem_cons_of_mem _ mem)
    rw [foldl_cons, ih nodup.2 freshRest, rows_put_of_fresh (fresh row mem_cons_self), append_assoc]
    rfl

theorem find_congr {other : Table key} (same : ∀ row, row ∈ table.rows ↔ row ∈ other.rows) (k : κ) :
    table.find k = other.find k := by
  cases found : table.find k with
  | some row =>
    have mem := (same row).mp (mem_of_find found)
    rw [← key_of_find found, find_of_mem mem]
  | none =>
    cases found' : other.find k with
    | none => rfl
    | some row =>
      have mem := find_of_mem ((same row).mpr (mem_of_find found'))
      rw [key_of_find found', found] at mem
      cases mem

theorem filter_put {p : ρ → Bool} (unselected : p row = false) :
    (table.put row).rows.filter p = (table.rows.filter p).filter fun old => key old ≠ key row := by
  cases found : table.find (key row) with
  | none =>
    have absent := (find?_eq_none_keys table.rows (key row)).mp found
    have others : (table.rows.filter p).filter (fun old => key old ≠ key row) = table.rows.filter p := by
      rw [filter_eq_self]
      intro old mem
      exact decide_eq_true fun same => absent (same ▸ mem_map_of_mem (mem_of_mem_filter mem))
    rw [others, rows_put_of_fresh found, filter_append]
    simp [unselected]
  | some _ =>
    rw [rows_put_of_found found]
    induction table.rows with
    | nil => rfl
    | cons head rest ih =>
      by_cases same : key head = key row
      · cases chosen : p head <;> simpa [same, unselected, chosen] using ih
      · cases chosen : p head <;> simpa [same, chosen] using ih

theorem put_of_find (found : table.find (key row) = some row) : table.put row = table := by
  unfold put
  split
  · have same : replaceRow key row table.rows = table.rows := by
      conv_rhs => rw [← map_id table.rows]
      apply map_congr_left
      intro old mem
      by_cases equal : key old = key row
      · have stored := find_of_mem mem
        rw [equal, found] at stored
        simp [equal, Option.some.inj stored]
      · simp [equal]
    simp only [same]
  · grind

/-- `UPDATE … WHERE key = k AND condition`: the table afterwards and the number of rows changed. -/
def updateWhere (table : Table key) (k : κ) (condition : ρ → Bool) (change : ρ → ρ) : Table key × Nat :=
  match table.find k with
  | some row => if condition row then (table.put (change row), 1) else (table, 0)
  | none => (table, 0)

variable {change : ρ → ρ}

theorem updateWhere_hit {cond : ρ → Bool} (found : table.find k = some row) (holds : cond row = true) :
    table.updateWhere k cond change = (table.put (change row), 1) := by
  simp [updateWhere, found, holds]

theorem updateWhere_miss {cond : ρ → Bool} (missed : ∀ row, table.find k = some row → cond row = false) :
    table.updateWhere k cond change = (table, 0) := by
  unfold updateWhere
  split
  · rename_i row found
    simp [missed row found]
  · rfl

theorem updateWhere_cases (table : Table key) (k : κ) (cond : ρ → Bool) (change : ρ → ρ) :
    (∃ row, table.find k = some row ∧ cond row = true ∧
      table.updateWhere k cond change = (table.put (change row), 1)) ∨
    ((∀ row, table.find k = some row → cond row = false) ∧ table.updateWhere k cond change = (table, 0)) := by
  cases found : table.find k with
  | none => exact .inr ⟨by simp, updateWhere_miss (by simp [found])⟩
  | some row =>
    cases holds : cond row with
    | true => exact .inl ⟨row, rfl, holds, updateWhere_hit found holds⟩
    | false =>
      refine .inr ⟨?_, updateWhere_miss ?_⟩
      · rintro other ⟨⟩
        exact holds
      · grind

theorem find_updateWhere (table : Table key) (k : κ) (cond : ρ → Bool)
    (keyed : ∀ row, key (change row) = key row) (v : κ) :
    (table.updateWhere k cond change).1.find v =
      (table.find v).map fun row => if v = k ∧ cond row = true then change row else row := by
  rcases updateWhere_cases table k cond change with ⟨row, found, holds, new⟩ | ⟨missed, new⟩
  · have rowKey : key (change row) = k := (keyed row).trans (key_of_find found)
    rw [new, find_put, rowKey]
    by_cases same : v = k
    · subst same
      simp [found, holds]
    · simp [same, Ne.symm same]
  · rw [new]
    cases found : table.find v with
    | none => rfl
    | some row => grind

theorem find_past_keys {key : ρ → Int} (table : Table key) :
    table.find ((table.rows.map key).foldr max 0 + 1) = none := by
  have above : ∀ (keys : List Int) (k : Int), k ∈ keys → k < keys.foldr max 0 + 1 := by
    intro keys
    induction keys with
    | nil => simp
    | cons first rest ih =>
      intro k mem
      rw [foldr_cons]
      rcases mem_cons.mp mem with rfl | later
      · omega
      · have := ih k later
        omega
  cases found : table.find _ with
  | none => rfl
  | some row =>
    have mem := mem_map_of_mem (f := key) (mem_of_find found)
    rw [key_of_find found] at mem
    exact absurd (above _ _ mem) (Int.lt_irrefl _)

end Table
end Wildflow.Store
