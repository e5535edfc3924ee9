import Mathlib.Data.List.Sort
import Wildflow.Store.Table

/-!
# Queues

The selected rows of a table, ordered by a column: a row that is no longer selected leaves the queue, and the others keep
their places.
-/

namespace Wildflow.Store
open List
variable {κ ρ : Type} {key : ρ → κ} {r : ρ → ρ → Prop} {p : ρ → Bool} {l : List ρ}

theorem filter_append_of_pairwise (down : ∀ a b, r a b → p b = true → p a = true) (sorted : l.Pairwise r) :
    l = l.filter p ++ l.filter (! p ·) := by
  induction l with
  | nil => rfl
  | cons a l ih =>
    obtain ⟨least, sorted⟩ := pairwise_cons.mp sorted
    cases picked : p a with
    | true => simpa [picked] using ih sorted
    | false =>
      have none : ∀ b ∈ l, p b = false := fun b later => by
        cases chosen : p b with
        | false => rfl
        | true => exact absurd (down a b (least b later) chosen) (by simp [picked])
      have empty : l.filter p = [] := filter_eq_nil_iff.mpr fun b later => by simp [none b later]
      have whole : l.filter (! p ·) = l := filter_eq_self.mpr fun b later => by simp [none b later]
      simp [picked, empty, whole]

variable [DecidableRel r]

theorem filter_orderedInsert [IsTrans ρ r] (p : ρ → Bool) (a : ρ) (sorted : l.Pairwise r) :
    (l.orderedInsert r a).filter p = if p a then (l.filter p).orderedInsert r a else l.filter p := by
  induction l with
  | nil => cases picked : p a <;> simp [picked]
  | cons b l ih =>
    obtain ⟨least, sorted⟩ := pairwise_cons.mp sorted
    by_cases first : r a b
    · rw [orderedInsert_cons_of_le _ _ first, filter_cons]
      cases picked : p a with
      | false => simp
      | true =>
        -- what is left of the list still starts at or after `a`
        cases left : (b :: l).filter p with
        | nil => simp
        | cons c rest =>
          have among : c ∈ b :: l := mem_of_mem_filter (left ▸ mem_cons_self)
          have before : r a c := by
            rcases mem_cons.mp among with rfl | later
            · exact first
            · exact trans_of r first (least c later)
          simp [before]
    · rw [orderedInsert_cons, if_neg first, filter_cons, ih sorted, filter_cons]
      cases picked : p a <;> cases kept : p b <;> simp [first]

theorem filter_insertionSort [Std.Total r] [IsTrans ρ r] (p : ρ → Bool) (l : List ρ) :
    (l.insertionSort r).filter p = (l.filter p).insertionSort r := by
  induction l with
  | nil => rfl
  | cons a l ih =>
    rw [insertionSort_cons, filter_orderedInsert p a (pairwise_insertionSort r l), ih, filter_cons]
    split <;> rfl

namespace Table
variable {table : Table key}

def queue (table : Table key) (p : ρ → Bool) (r : ρ → ρ → Prop) [DecidableRel r] : List ρ :=
  (table.rows.filter p).insertionSort r

theorem queue_keys_nodup : ((table.queue p r).map key).Nodup :=
  (((perm_insertionSort r _).map key).nodup_iff).mpr ((filter_sublist.map key).nodup table.unique)

variable [DecidableEq κ]

theorem queue_put [Std.Total r] [IsTrans ρ r] {row : ρ} (unselected : p row = false) :
    (table.put row).queue p r = (table.queue p r).filter fun old => key old ≠ key row := by
  rw [queue, filter_put unselected, queue, filter_insertionSort]

theorem mem_queue {row : ρ} : row ∈ table.queue p r ↔ table.find (key row) = some row ∧ p row = true := by
  rw [queue, mem_insertionSort, mem_filter, mem_rows]

end Table
end Wildflow.Store
