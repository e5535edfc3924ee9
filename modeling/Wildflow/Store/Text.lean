import Mathlib.Algebra.Order.BigOperators.Group.List
import Mathlib.Algebra.Order.Ring.Nat
import Mathlib.Data.List.DropRight
import Mathlib.Data.List.Infix

/-!
# Texts as lists

Trimming and replacement on lists over any alphabet. `replaceAll` goes from left to right and does not look at what it
has put in.
-/

namespace Wildflow.Store
open List Nat

variable {α : Type}

def trim (blank : α → Bool) (text : List α) : List α :=
  ((text.dropWhile blank).reverse.dropWhile blank).reverse

variable (blank : α → Bool)

theorem dropWhile_append_cons {c : α} (shown : blank c = false) (front back : List α) :
    (front ++ c :: back).dropWhile blank = front.dropWhile blank ++ c :: back := by
  rw [dropWhile_append]
  split
  · rename_i gone
    simp [isEmpty_iff.mp gone, shown]
  · rfl

theorem trim_isInfix (text : List α) : trim blank text <:+: text := by
  have ending := @dropWhile_suffix _ (text.dropWhile blank).reverse blank
  have front : trim blank text <+: text.dropWhile blank := by
    simpa [trim] using reverse_prefix.mpr ending
  exact front.isInfix.trans (dropWhile_suffix blank).isInfix

theorem trim_idempotent (text : List α) : trim blank (trim blank text) = trim blank text := by
  unfold trim
  cases rest : text.dropWhile blank with
  | nil => rfl
  | cons c back =>
    have shown : blank c = false := by
      have head := List.head?_dropWhile_not blank text
      simpa [rest] using head
    have kept : ((c :: back).reverse.dropWhile blank).reverse = c :: (back.reverse.dropWhile blank).reverse := by
      rw [reverse_cons, dropWhile_append_cons blank shown]
      simp
    rw [kept, dropWhile_cons_of_neg (by simp [shown]), ← kept, reverse_reverse, dropWhile_idempotent]

theorem trim_eq_nil_iff (text : List α) : trim blank text = [] ↔ ∀ c ∈ text, blank c = true := by
  rw [trim, reverse_eq_nil_iff, dropWhile_eq_nil_iff]
  constructor
  · intro all
    rw [← dropWhile_eq_nil_iff]
    cases rest : text.dropWhile blank with
    | nil => rfl
    | cons c back =>
      have head := List.head?_dropWhile_not blank text
      have blankHead := all c (by simp [rest])
      simp [rest, blankHead] at head
  · intro all c mem
    exact all c ((dropWhile_suffix blank).subset (mem_reverse.mp mem))

theorem infix_intercalate_of_mem {sep : α} {p : List α} {pieces : List (List α)} (mem : p ∈ pieces) :
    p <:+: [sep].intercalate pieces := by
  induction pieces with
  | nil => cases mem
  | cons first rest ih =>
    cases rest with
    | nil =>
      obtain rfl : p = first := by simpa using mem
      simp
    | cons next rest =>
      rw [intercalate_cons_cons]
      rcases mem_cons.mp mem with rfl | mem
      · exact ⟨[], [sep] ++ [sep].intercalate (next :: rest), by simp⟩
      · exact (ih mem).trans (suffix_append _ _).isInfix

theorem infix_of_mem_splitOn [DecidableEq α] {sep : α} {text p : List α}
    (mem : p ∈ text.splitOn sep) : p <:+: text := by
  have inside := @infix_intercalate_of_mem _ sep _ _ mem
  rwa [intercalate_splitOn] at inside

variable [DecidableEq α] (pattern replacement : List α)

def replaceFrom : Nat → List α → List α
  | _, [] => []
  | skipped + 1, _ :: rest => replaceFrom skipped rest
  | 0, c :: rest =>
    if pattern.isPrefixOf (c :: rest) then replacement ++ replaceFrom (pattern.length - 1) rest
    else c :: replaceFrom 0 rest

def replaceAll (text : List α) : List α := replaceFrom pattern replacement 0 text

def occurrencesFrom : Nat → List α → Nat
  | _, [] => 0
  | skipped + 1, _ :: rest => occurrencesFrom skipped rest
  | 0, c :: rest =>
    if pattern.isPrefixOf (c :: rest) then occurrencesFrom (pattern.length - 1) rest + 1
    else occurrencesFrom 0 rest

variable {pattern replacement}

theorem replaceFrom_of_no_occurrence (text : List α) (none : occurrencesFrom pattern 0 text = 0) :
    replaceFrom pattern replacement 0 text = text := by
  induction text with
  | nil => rfl
  | cons c rest ih =>
    rw [occurrencesFrom] at none
    rw [replaceFrom]
    split at none
    · omega
    · rename_i apart
      rw [if_neg apart, ih none]

section
variable (nonempty : pattern ≠ [])
include nonempty

theorem length_replaceFrom (skipped : Nat) (text : List α) (within : skipped ≤ text.length) :
    (replaceFrom pattern replacement skipped text).length + skipped +
        pattern.length * occurrencesFrom pattern skipped text =
      text.length + replacement.length * occurrencesFrom pattern skipped text := by
  induction text generalizing skipped with
  | nil => simp_all [replaceFrom, occurrencesFrom]
  | cons c rest ih =>
    cases skipped with
    | succ skipped =>
      have shorter := ih skipped (by simpa using within)
      simp only [replaceFrom, occurrencesFrom, length_cons]
      omega
    | zero =>
      simp only [replaceFrom, occurrencesFrom]
      split
      · rename_i found
        have front := isPrefixOf_iff_prefix.mp found
        have fits : pattern.length ≤ rest.length + 1 := front.length_le
        have pos : 0 < pattern.length := length_pos_of_ne_nil nonempty
        have shorter := ih (pattern.length - 1) (by omega)
        simp only [length_append, length_cons, mul_add, mul_one]
        omega
      · have shorter := ih 0 (by omega)
        simp only [length_cons]
        omega

theorem occurrencesFrom_eq_zero_iff (text : List α) : occurrencesFrom pattern 0 text = 0 ↔ ¬ pattern <:+: text := by
  induction text with
  | nil => simpa [occurrencesFrom] using nonempty
  | cons c rest ih =>
    rw [occurrencesFrom, infix_cons_iff, ← isPrefixOf_iff_prefix]
    split
    · simp_all
    · simp_all

theorem replaceAll_of_not_infix {text : List α} (absent : ¬ pattern <:+: text) :
    replaceAll pattern replacement text = text :=
  replaceFrom_of_no_occurrence text ((occurrencesFrom_eq_zero_iff nonempty text).mpr absent)

theorem length_replaceAll (text : List α) :
    (replaceAll pattern replacement text).length + pattern.length * occurrencesFrom pattern 0 text =
      text.length + replacement.length * occurrencesFrom pattern 0 text :=
  length_replaceFrom nonempty 0 text (zero_le _)

theorem replaceFrom_self (skipped : Nat) (text : List α) :
    replaceFrom pattern pattern skipped text = text.drop skipped := by
  induction text generalizing skipped with
  | nil => simp [replaceFrom]
  | cons c rest ih =>
    cases skipped with
    | succ skipped => simpa [replaceFrom] using ih skipped
    | zero =>
      rw [replaceFrom]
      split
      · rename_i found
        obtain ⟨after, split⟩ := isPrefixOf_iff_prefix.mp found
        cases pattern with
        | nil => exact absurd rfl nonempty
        | cons p more =>
          simp only [cons_append, List.cons.injEq] at split
          rw [ih, ← split.2, ← split.1]
          simp
      · rw [ih]; rfl

theorem replaceAll_self (text : List α) : replaceAll pattern pattern text = text :=
  replaceFrom_self nonempty 0 text

end

theorem replacement_eq_of_replaceAll_eq (sameLength : replacement.length = pattern.length) (text : List α)
    (found : occurrencesFrom pattern 0 text ≠ 0) (same : replaceAll pattern replacement text = text) :
    replacement = pattern := by
  induction text with
  | nil => exact absurd rfl found
  | cons c rest ih =>
    rw [replaceAll, replaceFrom] at same
    rw [occurrencesFrom] at found
    split at same
    · rename_i front
      obtain ⟨after, split⟩ := isPrefixOf_iff_prefix.mp front
      rw [← split] at same
      exact (append_inj same sameLength).1
    · rename_i apart
      rw [if_neg apart] at found
      exact ih found (List.cons.inj same).2

omit [DecidableEq α] in
theorem prefix_of_prefix_append_cons {sep : α} (apart : sep ∉ pattern) {left right : List α}
    (front : pattern <+: left ++ sep :: right) : pattern <+: left := by
  rcases prefix_or_prefix_of_prefix front (prefix_append left _) with inside | ⟨more, rfl⟩
  · exact inside
  rw [prefix_append_right_inj] at front
  cases more with
  | nil => simp
  | cons c more =>
    obtain ⟨rfl, _⟩ := cons_prefix_cons.mp front
    exact absurd (by simp) apart

theorem replaceFrom_append_cons {sep : α} (nonempty : pattern ≠ []) (apart : sep ∉ pattern)
    (skipped : Nat) (left right : List α) (within : skipped ≤ left.length) :
    replaceFrom pattern replacement skipped (left ++ sep :: right) =
      replaceFrom pattern replacement skipped left ++ sep :: replaceAll pattern replacement right := by
  induction left generalizing skipped with
  | nil =>
    obtain rfl : skipped = 0 := by simpa using within
    have notHere : ¬ pattern.isPrefixOf (sep :: right) := by
      intro found
      have front := isPrefixOf_iff_prefix.mp found
      exact nonempty (prefix_nil.mp (@prefix_of_prefix_append_cons _ pattern _ apart [] right front))
    simp [replaceFrom, replaceAll, notHere]
  | cons c left ih =>
    cases skipped with
    | succ skipped => exact ih skipped (by simpa using within)
    | zero =>
      have sameFront : pattern.isPrefixOf (c :: (left ++ sep :: right)) = pattern.isPrefixOf (c :: left) := by
        grind [prefix_of_prefix_append_cons]
      rw [cons_append, replaceFrom, replaceFrom, sameFront]
      split
      · rename_i found
        have front := isPrefixOf_iff_prefix.mp found
        have fits : pattern.length ≤ left.length + 1 := front.length_le
        rw [ih _ (by omega), append_assoc]
      · rw [ih 0 (zero_le _), cons_append]

theorem replaceAll_intercalate {sep : α} (nonempty : pattern ≠ []) (apart : sep ∉ pattern) (pieces : List (List α)) :
    replaceAll pattern replacement ([sep].intercalate pieces) =
      [sep].intercalate (pieces.map (replaceAll pattern replacement)) := by
  induction pieces with
  | nil => rfl
  | cons p rest ih =>
    cases rest with
    | nil => simp
    | cons next rest =>
      simp only [intercalate_cons_cons, map_cons, append_assoc, cons_append, nil_append] at ih ⊢
      rw [← ih]
      exact replaceFrom_append_cons nonempty apart 0 _ _ (zero_le _)

omit [DecidableEq α] in
theorem intercalate_map_inj {β : Type} (sep : α) (f g : β → List α) (pieces : List β)
    (lengths : ∀ piece ∈ pieces, (f piece).length = (g piece).length)
    (same : [sep].intercalate (pieces.map f) = [sep].intercalate (pieces.map g)) :
    ∀ piece ∈ pieces, f piece = g piece := by
  induction pieces with
  | nil => simp
  | cons piece rest ih =>
    cases rest with
    | nil => simpa using same
    | cons next rest =>
      simp only [map_cons, intercalate_cons_cons, append_assoc] at same ih
      obtain ⟨here, later⟩ := append_inj same (lengths piece (by simp))
      intro other mem
      rcases mem_cons.mp mem with rfl | mem
      · exact here
      · exact ih (fun other mem => lengths other (mem_cons_of_mem _ mem)) (append_cancel_left later) other mem

variable {β : Type} (kept : β → Bool) (text : β → List α)

def replaceUnlessKept (pattern replacement : List α) (piece : β) : List α :=
  if kept piece then text piece else replaceAll pattern replacement (text piece)

theorem length_intercalate_replaceUnlessKept (sep : α) (nonempty : pattern ≠ []) (pieces : List β) :
    let found := (pieces.map fun p => if kept p then occurrencesFrom pattern 0 (text p) else 0).sum
    ([sep].intercalate (pieces.map fun p => replaceAll pattern replacement (text p))).length +
        pattern.length * found =
      ([sep].intercalate (pieces.map (replaceUnlessKept kept text pattern replacement))).length +
        replacement.length * found := by
  have each : ∀ p, (replaceAll pattern replacement (text p)).length +
        pattern.length * (if kept p then occurrencesFrom pattern 0 (text p) else 0) =
      (replaceUnlessKept kept text pattern replacement p).length +
        replacement.length * (if kept p then occurrencesFrom pattern 0 (text p) else 0) := by
    intro p
    unfold replaceUnlessKept
    split
    · exact length_replaceAll nonempty (text p)
    · rfl
  induction pieces with
  | nil => simp
  | cons p rest ih =>
    have here := each p
    cases rest with
    | nil => simpa using here
    | cons next rest =>
      simp only [map_cons, intercalate_cons_cons, length_append, sum_cons, mul_add] at ih ⊢
      omega

theorem intercalate_replaceAll_eq_iff (sep : α) (nonempty : pattern ≠ []) (pieces : List β) :
    [sep].intercalate (pieces.map fun piece => replaceAll pattern replacement (text piece)) =
        [sep].intercalate (pieces.map (replaceUnlessKept kept text pattern replacement)) ↔
      replacement = pattern ∨ ∀ piece ∈ pieces, kept piece → ¬ pattern <:+: text piece := by
  constructor
  · intro same
    by_cases equal : replacement = pattern
    · exact .inl equal
    refine .inr fun piece mem keep => ?_
    rw [← occurrencesFrom_eq_zero_iff nonempty]
    by_contra found
    have lengths := @length_intercalate_replaceUnlessKept _ _ pattern replacement _ kept text sep nonempty pieces
    simp only [same, add_left_cancel_iff] at lengths
    have pos : 0 < (pieces.map fun piece =>
        if kept piece then occurrencesFrom pattern 0 (text piece) else 0).sum := by
      refine lt_of_lt_of_le (pos_of_ne_zero found) (le_sum_of_mem ?_)
      exact mem_map.mpr ⟨piece, mem, if_pos keep⟩
    have sameLength : replacement.length = pattern.length := (eq_of_mul_eq_mul_right pos lengths).symm
    have unchanged := intercalate_map_inj sep _ _ pieces ?_ same piece mem
    · rw [replaceUnlessKept, if_pos keep] at unchanged
      exact equal (replacement_eq_of_replaceAll_eq sameLength _ found unchanged)
    intro other _
    have lengthAll := @length_replaceAll _ _ pattern replacement nonempty (text other)
    rw [sameLength] at lengthAll
    unfold replaceUnlessKept
    split
    · omega
    · rfl
  · intro unaffected
    congr 1
    apply map_congr_left
    intro piece mem
    unfold replaceUnlessKept
    split
    · rename_i keep
      rcases unaffected with rfl | absent
      · exact replaceAll_self nonempty _
      · exact replaceAll_of_not_infix nonempty (absent piece mem keep)
    · rfl

end Wildflow.Store
