import Wildflow.Store.Table
import Wildflow.Store.Transaction

/-!
# Admission

Entries are taken one by one by a step that may refuse. In `foldlM` the first refusal ends everything, in `admitAll` a refused
entry is left out.
-/

namespace Wildflow.Store
open List Table

variable {σ α ε : Type}
variable {s : σ} {entries : List α} {row a : α}

/-- The step takes an entry that is fit in itself and fits all that it has taken. -/
structure Admits (step : σ → α → Except ε σ) (Seen : σ → List α → Prop) (own : α → Prop) (fits : α → α → Prop) : Prop where
  accepts : ∀ {s taken}, Seen s taken → ∀ a, (∃ s', step s a = .ok s') ↔ own a ∧ ∀ b ∈ taken, fits b a
  seen : ∀ {s taken a s'}, Seen s taken → step s a = .ok s' → Seen s' (taken ++ [a])

section
variable {step : σ → α → Except ε σ} {Seen : σ → List α → Prop} {own : α → Prop} {fits : α → α → Prop}

theorem Admits.foldlM_seen (admits : Admits step Seen own fits) {s' : σ} {taken more : List α} (seen : Seen s taken)
    (ran : more.foldlM step s = .ok s') : Seen s' (taken ++ more) := by
  induction more generalizing s taken with
  | nil =>
    cases ran
    simpa using seen
  | cons a rest ih =>
    rw [foldlM_cons] at ran
    obtain ⟨next, ranFirst, ranRest⟩ := except_bind_ok.mp ran
    have after := ih (admits.seen seen ranFirst) ranRest
    rwa [append_assoc] at after

theorem Admits.foldlM_iff (admits : Admits step Seen own fits) {taken : List α} (seen : Seen s taken) (more : List α) :
    (∃ s', more.foldlM step s = .ok s') ↔
      (∀ a ∈ more, own a) ∧ (∀ b ∈ taken, ∀ a ∈ more, fits b a) ∧ more.Pairwise fits := by
  induction more generalizing s taken with
  | nil => simp [pure, Except.pure]
  | cons a rest ih =>
    constructor
    · rintro ⟨s', ran⟩
      rw [foldlM_cons] at ran
      obtain ⟨next, ranFirst, ranRest⟩ := except_bind_ok.mp ran
      obtain ⟨ownFirst, fitsFirst⟩ := (admits.accepts seen a).mp ⟨next, ranFirst⟩
      obtain ⟨ownRest, fitsRest, pairwise⟩ := (ih (admits.seen seen ranFirst)).mp ⟨s', ranRest⟩
      refine ⟨forall_mem_cons.mpr ⟨ownFirst, ownRest⟩, fun b mem => ?_, pairwise_cons.mpr ⟨?_, pairwise⟩⟩
      · exact forall_mem_cons.mpr ⟨fitsFirst b mem, fitsRest b (mem_append_left _ mem)⟩
      · exact fitsRest a (mem_append_right _ mem_cons_self)
    · rintro ⟨ownAll, fitsAll, pairwise⟩
      obtain ⟨ownFirst, ownRest⟩ := forall_mem_cons.mp ownAll
      obtain ⟨fitsOwn, pairwiseRest⟩ := pairwise_cons.mp pairwise
      obtain ⟨next, ranFirst⟩ := (admits.accepts seen a).mpr ⟨ownFirst, fun b mem => fitsAll b mem a mem_cons_self⟩
      have fitsRest : ∀ b ∈ taken ++ [a], ∀ c ∈ rest, fits b c := by grind
      obtain ⟨s', ranRest⟩ := (ih (admits.seen seen ranFirst)).mpr ⟨ownRest, fitsRest, pairwiseRest⟩
      refine ⟨s', ?_⟩
      rw [foldlM_cons, ranFirst]
      exact ranRest

end

def admitAll (step : σ → α → Except ε σ) : σ → List α → σ × List (α × ε)
  | s, [] => (s, [])
  | s, a :: rest =>
    match step s a with
    | .ok next => admitAll step next rest
    | .error why => ((admitAll step s rest).1, (a, why) :: (admitAll step s rest).2)

variable {step : σ → α → Except ε σ}

theorem admitAll_invariant {Inv : σ → Prop} {entries : List α}
    (keeps : ∀ a ∈ entries, ∀ s s', Inv s → step s a = .ok s' → Inv s') {s : σ} (start : Inv s) :
    Inv (admitAll step s entries).1 := by
  induction entries generalizing s with
  | nil => exact start
  | cons a rest ih =>
    have keepsRest := fun b mem => keeps b (mem_cons_of_mem a mem)
    unfold admitAll
    split
    · next ran => exact ih keepsRest (keeps a mem_cons_self s _ start ran)
    · exact ih keepsRest start

theorem admitAll_append (s : σ) (entries more : List α) :
    admitAll step s (entries ++ more) = ((admitAll step (admitAll step s entries).1 more).1,
      (admitAll step s entries).2 ++ (admitAll step (admitAll step s entries).1 more).2) := by
  induction entries generalizing s with
  | nil => rfl
  | cons a rest ih =>
    simp only [cons_append, admitAll]
    cases step s a with
    | ok next => exact ih next
    | error why => simp [ih]

theorem refused_at {refused : α × ε} (mem : refused ∈ (admitAll step s entries).2) :
    ∃ before after, entries = before ++ refused.1 :: after ∧
      step (admitAll step s before).1 refused.1 = .error refused.2 := by
  induction entries generalizing s with
  | nil => cases mem
  | cons a rest ih =>
    unfold admitAll at mem
    split at mem
    · next next ran =>
      obtain ⟨before, after, rfl, failed⟩ := ih mem
      refine ⟨a :: before, after, rfl, ?_⟩
      simp only [admitAll, ran]
      exact failed
    · next why ran =>
      rcases mem_cons.mp mem with rfl | later
      · exact ⟨[], rest, rfl, ran⟩
      · obtain ⟨before, after, rfl, failed⟩ := ih later
        refine ⟨a :: before, after, rfl, ?_⟩
        simp only [admitAll, ran]
        exact failed

theorem refused_sublist (s : σ) (entries : List α) : ((admitAll step s entries).2.map Prod.fst).Sublist entries := by
  induction entries generalizing s with
  | nil => exact .slnil
  | cons a rest ih =>
    unfold admitAll
    split
    · exact (ih _).cons a
    · exact (ih s).cons_cons a

theorem taken_at {before after : List α} (kept : ∀ why, (a, why) ∉ (admitAll step s (before ++ a :: after)).2) :
    ∃ next, step (admitAll step s before).1 a = .ok next ∧
      admitAll step s (before ++ a :: after) = ((admitAll step next after).1,
        (admitAll step s before).2 ++ (admitAll step next after).2) := by
  rw [admitAll_append] at kept ⊢
  cases ran : step (admitAll step s before).1 a with
  | ok next => exact ⟨next, rfl, by simp only [admitAll, ran]⟩
  | error why =>
    refine absurd ?_ (kept why)
    simp [admitAll, ran]

variable {κ : Type} [DecidableEq κ] {key : α → κ} {view : σ → Table key}

section
variable (puts : ∀ s a s', step s a = .ok s' → view s' = (view s).put a)
include puts

theorem admitAll_find_of_apart {k : κ}
    (apart : ∀ a ∈ entries, key a ≠ k) (s : σ) : (view (admitAll step s entries).1).find k = (view s).find k := by
  refine @admitAll_invariant _ _ _ step (fun t => (view t).find k = (view s).find k) entries (fun a mem t t' same ran => ?_) s rfl
  rw [puts t a t' ran, find_put_of_ne _ _ (apart a mem), same]

theorem admitAll_rows_subset (fresh : ∀ a ∈ entries, (view s).find (key a) = none) (mem : row ∈ (view s).rows) :
    row ∈ (view (admitAll step s entries).1).rows := by
  have found := find_of_mem mem
  rw [mem_rows, admitAll_find_of_apart puts (fun a memberA same => ?_) s]
  · exact found
  · rw [← same, fresh a memberA] at found
    cases found

theorem taken_or_refused {entries : List α} {s : σ} (nodup : (entries.map key).Nodup) {a : α} (mem : a ∈ entries) :
    (∃ why, (a, why) ∈ (admitAll step s entries).2) ∨ (view (admitAll step s entries).1).find (key a) = some a := by
  by_cases refused : ∃ why, (a, why) ∈ (admitAll step s entries).2
  · exact .inl refused
  right
  obtain ⟨before, after, rfl⟩ := append_of_mem mem
  obtain ⟨next, ran, whole⟩ := taken_at (fun why inside => refused ⟨why, inside⟩)
  rw [map_append, map_cons] at nodup
  have apart : ∀ b ∈ after, key b ≠ key a := by
    intro b later same
    have tail := (nodup_append.mp nodup).2.1
    exact (nodup_cons.mp tail).1 (same ▸ mem_map_of_mem later)
  rw [whole]
  dsimp only
  rw [admitAll_find_of_apart puts apart next, puts _ a next ran, find_put, if_pos rfl]

theorem refused_beside {Inv : σ → Prop}
    (keeps : ∀ a ∈ entries, ∀ s s', Inv s → step s a = .ok s' → Inv s') (start : Inv s)
    (nodup : (entries.map key).Nodup) (fresh : ∀ a ∈ entries, (view s).find (key a) = none) {why : ε}
    (mem : (a, why) ∈ (admitAll step s entries).2) :
    ∃ t, Inv t ∧ step t a = .error why ∧ (view t).find (key a) = none ∧
      (∀ row ∈ (view t).rows, row ∈ (view (admitAll step s entries).1).rows) ∧
      (view (admitAll step s entries).1).find (key a) = none := by
  obtain ⟨before, after, rfl, failed⟩ := refused_at mem
  rw [map_append] at nodup
  have apart : ∀ b ∈ a :: after, ∀ c ∈ before, key c ≠ key b := by
    intro b later c old same
    exact (nodup_append.mp nodup).2.2 _ (mem_map_of_mem old) _ (mem_map_of_mem later) same
  have freshAfter : ∀ b ∈ a :: after, (view (admitAll step s before).1).find (key b) = none := by
    intro b later
    rw [admitAll_find_of_apart puts (apart b later) s]
    exact fresh b (mem_append_right _ later)
  refine ⟨(admitAll step s before).1, ?_, failed, freshAfter a mem_cons_self, fun row inside => ?_, ?_⟩
  · exact admitAll_invariant (fun b old => keeps b (mem_append_left _ old)) start
  · rw [admitAll_append]
    exact admitAll_rows_subset puts freshAfter inside
  · have tail := nodup_cons.mp (nodup_append.mp nodup).2.1
    have apartAfter : ∀ b ∈ after, key b ≠ key a := fun b later same => tail.1 (same ▸ mem_map_of_mem later)
    rw [admitAll_append]
    simp only [admitAll, failed]
    rw [admitAll_find_of_apart puts apartAfter]
    exact freshAfter a mem_cons_self

end

theorem admitAll_all {Inv : σ → Prop} {entries : List α} (takes : ∀ a ∈ entries, ∀ s, Inv s → ∃ s', step s a = .ok s' ∧ Inv s')
    {s : σ} (start : Inv s) : (admitAll step s entries).2 = [] := by
  induction entries generalizing s with
  | nil => rfl
  | cons a rest ih =>
    obtain ⟨next, ran, kept⟩ := takes a mem_cons_self s start
    simp only [admitAll, ran]
    exact ih (fun b mem => takes b (mem_cons_of_mem a mem)) kept

theorem admitAll_origin (puts : ∀ s a s', step s a = .ok s' → view s' = (view s).put a) {Inv : σ → Prop}
    (keeps : ∀ a ∈ entries, ∀ s s', Inv s → step s a = .ok s' → Inv s') (start : Inv s)
    (mem : row ∈ (view (admitAll step s entries).1).rows) :
    row ∈ (view s).rows ∨ row ∈ entries ∧ ∃ t t', Inv t ∧ step t row = .ok t' := by
  induction entries generalizing s with
  | nil => exact .inl mem
  | cons a rest ih =>
    have keepsRest := fun b later => keeps b (mem_cons_of_mem a later)
    unfold admitAll at mem
    split at mem
    · next next ran =>
      rcases ih keepsRest (keeps a mem_cons_self s next start ran) mem with there | ⟨later, taken⟩
      · grind
      · exact .inr ⟨mem_cons_of_mem a later, taken⟩
    · rcases ih keepsRest start mem with there | ⟨later, taken⟩
      · exact .inl there
      · exact .inr ⟨mem_cons_of_mem a later, taken⟩

def substitutes (substitute : α → Option α) (refused : List (α × ε)) : List α :=
  refused.filterMap fun entry => substitute entry.1

/-- A first pass over the entries, and a second one over the substitutes of those it refused. -/
def admitOrSubstitute (step : σ → α → Except ε σ) (substitute : α → Option α) (s : σ) (entries : List α) : σ :=
  (admitAll step (admitAll step s entries).1 (substitutes substitute (admitAll step s entries).2)).1

/-- Into an empty table, with one entry for a key and substitutes of the same key. -/
structure Substitutes (step : σ → α → Except ε σ) (view : σ → Table key) (substitute : α → Option α) (s : σ)
    (entries : List α) : Prop where
  puts : ∀ s a s', step s a = .ok s' → view s' = (view s).put a
  same : ∀ a b, substitute a = some b → key b = key a
  distinct : (entries.map key).Nodup
  empty : ∀ k, (view s).find k = none

namespace Substitutes
variable {substitute : α → Option α} {s : σ} {entries : List α} (two : Substitutes step view substitute s entries)
include two

theorem substitutes_distinct : ((substitutes substitute (admitAll step s entries).2).map key).Nodup := by
  have sub := (@refused_sublist _ _ _ step s entries).map key
  refine List.Nodup.sublist ?_ (two.distinct.sublist sub)
  generalize (admitAll step s entries).2 = refused
  unfold substitutes
  induction refused with
  | nil => exact .slnil
  | cons e rest ih =>
    rw [filterMap_cons]
    cases found : substitute e.1 with
    | none => exact ih.cons _
    | some b =>
      simp only [map_cons]
      rw [two.same _ _ found]
      exact ih.cons_cons _

theorem refused_beside_entries {Inv : σ → Prop} (keeps : ∀ a ∈ entries, ∀ s s', Inv s → step s a = .ok s' → Inv s')
    (start : Inv s) {why : ε} (refused : (a, why) ∈ (admitAll step s entries).2) :
    ∃ t, Inv t ∧ step t a = .error why ∧ (view t).find (key a) = none ∧
      (∀ row ∈ (view t).rows, row ∈ (view (admitAll step s entries).1).rows) ∧
      (view (admitAll step s entries).1).find (key a) = none :=
  refused_beside two.puts keeps start two.distinct (fun a _ => two.empty (key a)) refused

theorem substitute_fresh {b : α} (mem : b ∈ substitutes substitute (admitAll step s entries).2) :
    (view (admitAll step s entries).1).find (key b) = none := by
  obtain ⟨⟨a, why⟩, refused, found⟩ := mem_filterMap.mp mem
  obtain ⟨_, _, _, _, _, absent⟩ := two.refused_beside_entries (fun _ _ _ _ _ _ => trivial) trivial refused
  rw [two.same a b found]
  exact absent

theorem stays (mem : row ∈ (view (admitAll step s entries).1).rows) :
    row ∈ (view (admitOrSubstitute step substitute s entries)).rows :=
  admitAll_rows_subset two.puts (fun _ memberB => two.substitute_fresh memberB) mem

theorem taken_entry (mem : a ∈ entries) (kept : ∀ why, (a, why) ∉ (admitAll step s entries).2) :
    a ∈ (view (admitAll step s entries).1).rows := by
  rcases taken_or_refused two.puts two.distinct mem with ⟨why, refused⟩ | found
  · exact absurd refused (kept why)
  · exact mem_of_find found

theorem substitute_taken_or_refused {Inv : σ → Prop} (keeps : ∀ a s s', Inv s → step s a = .ok s' → Inv s') (start : Inv s)
    {b : α} {why : ε} (refused : (a, why) ∈ (admitAll step s entries).2) (found : substitute a = some b) :
    b ∈ (view (admitOrSubstitute step substitute s entries)).rows ∨
      ∃ t whyNot, Inv t ∧ step t b = .error whyNot ∧ (view t).find (key b) = none ∧
        ∀ row ∈ (view t).rows, row ∈ (view (admitOrSubstitute step substitute s entries)).rows := by
  have mem : b ∈ substitutes substitute (admitAll step s entries).2 := mem_filterMap.mpr ⟨(a, why), refused, found⟩
  rcases @taken_or_refused _ _ _ step _ _ _ view two.puts _ (admitAll step s entries).1 two.substitutes_distinct b mem with
    ⟨whyNot, refusedToo⟩ | taken
  · have startSecond : Inv (admitAll step s entries).1 := admitAll_invariant (fun a _ => keeps a) start
    obtain ⟨t, kept, failed, absent, rows, _⟩ := refused_beside two.puts (fun a _ => keeps a) startSecond
      two.substitutes_distinct (fun _ memberB => two.substitute_fresh memberB) refusedToo
    exact .inr ⟨t, whyNot, kept, failed, absent, rows⟩
  · exact .inl (mem_of_find taken)

theorem entry_origin (mem : row ∈ (view (admitAll step s entries).1).rows) :
    row ∈ entries ∧ ∃ t t', step t row = .ok t' := by
  rcases admitAll_origin two.puts (fun _ _ _ _ _ _ => trivial) trivial mem with there | ⟨inside, t, t', _, taken⟩
  · rw [mem_rows, two.empty] at there
    cases there
  · exact ⟨inside, t, t', taken⟩

theorem substitute_origin (mem : row ∈ (view (admitOrSubstitute step substitute s entries)).rows)
    (later : row ∉ (view (admitAll step s entries).1).rows) :
    ∃ a why t t', (a, why) ∈ (admitAll step s entries).2 ∧ substitute a = some row ∧ step t row = .ok t' ∧
      ∀ other ∈ (view (admitAll step s entries).1).rows, other ∈ (view t).rows := by
  have keeps : ∀ b ∈ substitutes substitute (admitAll step s entries).2, ∀ t t',
      (∀ other ∈ (view (admitAll step s entries).1).rows, other ∈ (view t).rows) → step t b = .ok t' →
      ∀ other ∈ (view (admitAll step s entries).1).rows, other ∈ (view t').rows := by
    intro b memberB t t' sub ran other memOther
    rw [two.puts t b t' ran]
    refine mem_put.mpr (.inr ⟨sub other memOther, fun same => ?_⟩)
    have absent := two.substitute_fresh memberB
    rw [← same, find_of_mem memOther] at absent
    cases absent
  rcases admitAll_origin two.puts keeps (fun _ inside => inside) mem with there | ⟨inside, t, t', sub, taken⟩
  · exact absurd there later
  · obtain ⟨⟨a, why⟩, refused, found⟩ := mem_filterMap.mp inside
    exact ⟨a, why, t, t', refused, found, taken, sub⟩

end Substitutes

end Wildflow.Store
