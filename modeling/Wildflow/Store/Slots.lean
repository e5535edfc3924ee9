import Mathlib.Data.List.Basic

/-!
# Lists whose entries are changed in place
-/

namespace Wildflow.Store
variable {α β : Type} {entries : List α}

theorem getElem?_snoc {last found : α} {n : Nat} :
    (entries ++ [last])[n]? = some found ↔ entries[n]? = some found ∨ n = entries.length ∧ last = found := by
  grind

theorem modify_snoc (entries : List α) (last : α) (change : α → α) :
    (entries ++ [last]).modify entries.length change = entries ++ [change last] := by
  induction entries with
  | nil => simp
  | cons first rest ih => simp [ih]

theorem modify_of_fixed {i : Nat} {e : α} {change : α → α}
    (found : entries[i]? = some e) (fixed : change e = e) : entries.modify i change = entries := by
  apply List.ext_getElem?
  intro other
  rw [List.getElem?_modify]
  by_cases same : i = other
  · subst same
    simp [found, fixed]
  · simp [same]

theorem modify_map {view : α → β} {i : Nat} {e : α} {change : β → β} {changeOwn : α → α}
    (found : entries[i]? = some e) (agree : change (view e) = view (changeOwn e)) :
    (entries.map view).modify i change = (entries.modify i changeOwn).map view := by
  apply List.ext_getElem?
  intro other
  rw [List.getElem?_modify, List.getElem?_map, List.getElem?_map, List.getElem?_modify]
  by_cases same : i = other
  · subst same
    simp [found, agree]
  · simp [same]

theorem map_eq_set {view newView : α → β} {index : Nat} {entry : α}
    (found : entries[index]? = some entry) (only : ∀ other, entries[other]? = some entry → other = index)
    (same : ∀ other, other ≠ entry → newView other = view other) :
    entries.map newView = (entries.map view).set index (newView entry) := by
  apply List.ext_getElem?
  intro other
  rw [List.getElem?_set, List.getElem?_map, List.getElem?_map, List.length_map]
  have inside := (List.getElem?_eq_some_iff.mp found).1
  by_cases here : index = other
  · subst here
    rw [found]
    simp [inside]
  · cases there : entries[other]? with
    | none => simp [here]
    | some cur =>
      have apart : cur ≠ entry := by
        rintro rfl
        exact here (only other there).symm
      simp [here, same cur apart]

end Wildflow.Store
