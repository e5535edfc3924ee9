import Wildflow.Store.Transaction

/-!
# Emitting machines and their readers

An emission changes a state and hands out events, which a reader folds into a state of its own and may refuse. `Follows`:
from related states, what is handed out is read, and the states reached are related.
-/

namespace Wildflow.Store

abbrev Emission (σ ε : Type) := σ → σ × List ε

variable {σ ε μ α χ : Type}
variable {inputs : List α} {guard : σ → α → Prop} {emission : α → Emission σ ε}

namespace Emission

def nothing : Emission σ ε := fun s => (s, [])

def emit (event : ε) : Emission σ ε := fun s => (s, [event])

def andThen (first second : Emission σ ε) : Emission σ ε := fun s =>
  ((second (first s).1).1, (first s).2 ++ (second (first s).1).2)

def each (emission : α → Emission σ ε) : List α → Emission σ ε
  | [] => nothing
  | a :: rest => (emission a).andThen (each emission rest)

def Guarded (emission : α → Emission σ ε) (guard : σ → α → Prop) : σ → List α → Prop
  | _, [] => True
  | s, a :: rest => guard s a ∧ Guarded emission guard (emission a s).1 rest

instance decidableGuarded (emission : α → Emission σ ε) (guard : σ → α → Prop) [∀ s a, Decidable (guard s a)] :
    (s : σ) → (inputs : List α) → Decidable (Guarded emission guard s inputs)
  | _, [] => .isTrue trivial
  | s, a :: rest => @instDecidableAnd _ _ _ (decidableGuarded emission guard (emission a s).1 rest)

theorem guarded_of_imp {p : Prop} {s : σ}
    (guarded : p → Guarded emission guard s inputs) : Guarded emission (fun s a => p → guard s a) s inputs := by
  induction inputs generalizing s with
  | nil => trivial
  | cons a rest ih => exact ⟨fun want => (guarded want).1, ih fun want => (guarded want).2⟩

theorem Guarded.and_mem {p : α → Prop} {s : σ} (guarded : Guarded emission guard s inputs) (all : ∀ a ∈ inputs, p a) :
    Guarded emission (fun s a => guard s a ∧ p a) s inputs := by
  induction inputs generalizing s with
  | nil => trivial
  | cons a rest ih =>
    exact ⟨⟨guarded.1, all a List.mem_cons_self⟩, ih guarded.2 fun b mem => all b (List.mem_cons_of_mem a mem)⟩

def beside {τ : Type} (emission : α → Emission σ ε) (note : τ → α → τ) (a : α) : Emission (σ × τ) ε := fun state =>
  (((emission a state.1).1, note state.2 a), (emission a state.1).2)

theorem each_beside {τ : Type} (emission : α → Emission σ ε) (note : τ → α → τ) (inputs : List α) (s : σ) (t : τ) :
    each (beside emission note) inputs (s, t) =
      (((each emission inputs s).1, inputs.foldl note t), (each emission inputs s).2) := by
  induction inputs generalizing s t with
  | nil => rfl
  | cons a rest ih =>
    change ((each (beside emission note) rest ((emission a s).1, note t a)).1,
      (emission a s).2 ++ (each (beside emission note) rest ((emission a s).1, note t a)).2) = _
    rw [ih]
    rfl

theorem each_establishes {emission : α → Emission σ ε} {holds : α → σ → Prop} (sets : ∀ a s, holds a (emission a s).1)
    (keeps : ∀ a b s, holds b s → holds b (emission a s).1) {inputs : List α} {b : α} (s : σ)
    (covered : b ∈ inputs ∨ holds b s) : holds b (each emission inputs s).1 := by
  induction inputs generalizing s with
  | nil =>
    rcases covered with mem | already
    · cases mem
    · exact already
  | cons a rest ih =>
    apply ih
    grind

end Emission

def runEmissions (step : α → σ → Except χ (σ × List ε)) : List α → σ → Except χ (σ × List ε)
  | [], s => .ok (s, [])
  | a :: rest, s => do
      let first ← step a s
      let later ← runEmissions step rest first.1
      pure (later.1, first.2 ++ later.2)

theorem runEmissions_append (step : α → σ → Except χ (σ × List ε)) (inputs more : List α) (s : σ) :
    runEmissions step (inputs ++ more) s = (do
      let first ← runEmissions step inputs s
      let later ← runEmissions step more first.1
      pure (later.1, first.2 ++ later.2)) := by
  induction inputs generalizing s with
  | nil =>
    simp only [List.nil_append, runEmissions, bind, Except.bind, pure, Except.pure]
    cases runEmissions step more s <;> rfl
  | cons a rest ih =>
    simp only [List.cons_append, runEmissions, bind, Except.bind, pure, Except.pure] at ih ⊢
    cases step a s with
    | error err => rfl
    | ok first =>
      simp only [ih]
      cases runEmissions step rest first.1 with
      | error err => rfl
      | ok later => grind [runEmissions]

def GuardedRun (step : α → σ → Except χ (σ × List ε)) (guard : σ → α → Prop) : σ → List α → Prop
  | _, [] => True
  | s, a :: rest =>
    guard s a ∧ match step a s with
      | .ok (next, _) => GuardedRun step guard next rest
      | .error _ => True

instance decidableGuardedRun (step : α → σ → Except χ (σ × List ε)) (guard : σ → α → Prop)
    [∀ s a, Decidable (guard s a)] : (s : σ) → (inputs : List α) → Decidable (GuardedRun step guard s inputs)
  | _, [] => .isTrue trivial
  | s, a :: rest =>
    @instDecidableAnd _ _ _ (match step a s with
      | .ok (next, _) => decidableGuardedRun step guard next rest
      | .error _ => .isTrue trivial)

theorem guardedRun_of_imp {step : α → σ → Except χ (σ × List ε)} {p : Prop} {s : σ}
    (guarded : p → GuardedRun step guard s inputs) : GuardedRun step (fun s a => p → guard s a) s inputs := by
  induction inputs generalizing s with
  | nil => trivial
  | cons a rest ih =>
    refine ⟨fun want => (guarded want).1, ?_⟩
    cases res : step a s with
    | error err => trivial
    | ok next =>
      refine ih fun want => ?_
      have onwards := (guarded want).2
      rw [res] at onwards
      exact onwards

section
variable (read : μ → ε → Option μ)

def reads (m : μ) (events : List ε) : Option μ := events.foldlM read m

@[simp] theorem reads_nil (m : μ) : reads read m [] = some m := rfl
theorem reads_cons (m : μ) (ev : ε) (events : List ε) :
    reads read m (ev :: events) = (read m ev).bind fun next => reads read next events := by
  simp [reads, bind]

theorem reads_one (m : μ) (event : ε) : reads read m [event] = read m event := by
  simp [reads]

theorem reads_append (m : μ) (events more : List ε) :
    reads read m (events ++ more) = (reads read m events).bind fun next => reads read next more := by
  simp [reads, bind]

theorem reads_append_of {m middle last : μ} {events more : List ε} (first : reads read m events = some middle)
    (second : reads read middle more = some last) : reads read m (events ++ more) = some last := by
  rw [reads_append, first]
  exact second

end

variable {read : μ → ε → Option μ} {pre mid post : σ → μ → Prop}

theorem runEmissions_follows {step : α → σ → Except χ (σ × List ε)}
    (each : ∀ a s m s' events, guard s a → pre s m → step a s = .ok (s', events) →
      ∃ m', reads read m events = some m' ∧ pre s' m') {s s' : σ} {m : μ} {events : List ε}
    (guarded : GuardedRun step guard s inputs) (rel : pre s m)
    (ran : runEmissions step inputs s = .ok (s', events)) : ∃ m', reads read m events = some m' ∧ pre s' m' := by
  induction inputs generalizing s m events with
  | nil =>
    cases ran
    exact ⟨m, rfl, rel⟩
  | cons a rest ih =>
    obtain ⟨first, ranFirst, others⟩ := except_bind_ok.mp ran
    obtain ⟨later, ranLater, same⟩ := except_bind_ok.mp others
    cases same
    obtain ⟨here, onwards⟩ := guarded
    rw [ranFirst] at onwards
    obtain ⟨middle, readFirst, relatedMiddle⟩ := each a s m first.1 first.2 here rel ranFirst
    obtain ⟨last, readLater, relatedLast⟩ := ih onwards relatedMiddle ranLater
    exact ⟨last, reads_append_of read readFirst readLater, relatedLast⟩

section
variable (read : μ → ε → Option μ) (pre post : σ → μ → Prop)

def Follows (emission : Emission σ ε) : Prop :=
  ∀ s m, pre s m → ∃ m', reads read m (emission s).2 = some m' ∧ post (emission s).1 m'

def Accepts (step : σ → Except χ (σ × List ε)) : Prop :=
  ∀ s m, pre s m → ∃ s' events m', step s = .ok (s', events) ∧ reads read m events = some m' ∧ post s' m'

end

theorem Follows.of_imp {emission : Emission σ ε} (follows : Follows read mid post emission)
    (weaker : ∀ s m, pre s m → mid s m) : Follows read pre post emission :=
  fun s m rel => follows s m (weaker s m rel)

theorem follows_nothing : Follows read pre pre (Emission.nothing : Emission σ ε) :=
  fun _ m rel => ⟨m, rfl, rel⟩

theorem follows_andThen {first second : Emission σ ε} (left : Follows read pre mid first)
    (right : Follows read mid post second) : Follows read pre post (first.andThen second) := by
  intro s m rel
  obtain ⟨middle, readFirst, relatedMiddle⟩ := left s m rel
  obtain ⟨last, readSecond, relatedLast⟩ := right _ middle relatedMiddle
  exact ⟨last, reads_append_of read readFirst readSecond, relatedLast⟩

theorem follows_each
    (step : ∀ a ∈ inputs, Follows read pre pre (emission a)) : Follows read pre pre (Emission.each emission inputs) := by
  induction inputs with
  | nil => exact follows_nothing
  | cons a rest ih =>
    exact follows_andThen (step a List.mem_cons_self) (ih fun b mem => step b (List.mem_cons_of_mem a mem))

theorem follows_guarded
    (step : ∀ a, Follows read (fun s m => guard s a ∧ pre s m) pre (emission a)) (inputs : List α) :
    Follows read (fun s m => Emission.Guarded emission guard s inputs ∧ pre s m) pre (Emission.each emission inputs) := by
  induction inputs with
  | nil => exact fun s m rel => ⟨m, rfl, rel.2⟩
  | cons a rest ih =>
    rintro s m ⟨⟨here, onwards⟩, rel⟩
    obtain ⟨middle, readFirst, relatedMiddle⟩ := step a s m ⟨here, rel⟩
    obtain ⟨last, readLater, relatedLast⟩ := ih _ middle ⟨onwards, relatedMiddle⟩
    exact ⟨last, reads_append_of read readFirst readLater, relatedLast⟩

theorem Follows.accepts {emission : Emission σ ε} (follows : Follows read pre post emission) :
    Accepts read pre post fun s => (.ok (emission s) : Except χ (σ × List ε)) := by
  intro s m rel
  obtain ⟨m', readAll, relatedAfter⟩ := follows s m rel
  exact ⟨_, _, m', rfl, readAll, relatedAfter⟩

theorem accepts_then {first second : σ → Except χ (σ × List ε)} (left : Accepts read pre mid first)
    (right : Accepts read mid post second) :
    Accepts read pre post (fun s => do
      let old ← first s
      let later ← second old.1
      pure (later.1, old.2 ++ later.2)) := by
  intro s m rel
  obtain ⟨s₁, events₁, m₁, ran₁, read₁, related₁⟩ := left s m rel
  obtain ⟨s₂, events₂, m₂, ran₂, read₂, related₂⟩ := right s₁ m₁ related₁
  exact ⟨s₂, events₁ ++ events₂, m₂, by simp [ran₁, ran₂, bind, Except.bind, pure, Except.pure],
    reads_append_of read read₁ read₂, related₂⟩

variable {step : α → σ → Except χ (σ × List ε)}

theorem accepts_runEmissions_nil : Accepts read pre pre (runEmissions step []) :=
  fun s m rel => ⟨s, [], m, rfl, rfl, rel⟩

theorem accepts_runEmissions_cons {a : α} {rest : List α} (head : Accepts read pre mid (step a))
    (tail : Accepts read mid post (runEmissions step rest)) : Accepts read pre post (runEmissions step (a :: rest)) :=
  accepts_then head tail

theorem accepts_runEmissions_single {a : α} (only : Accepts read pre post (step a)) :
    Accepts read pre post (runEmissions step [a]) :=
  accepts_runEmissions_cons only accepts_runEmissions_nil

theorem accepts_runEmissions_append {more : List α} (left : Accepts read pre mid (runEmissions step inputs))
    (right : Accepts read mid post (runEmissions step more)) :
    Accepts read pre post (runEmissions step (inputs ++ more)) := by
  have joined := accepts_then left right
  intro s m rel
  rw [runEmissions_append]
  exact joined s m rel

theorem accepts_runEmissions (each : ∀ a ∈ inputs, Accepts read pre pre (step a)) :
    Accepts read pre pre (runEmissions step inputs) := by
  induction inputs with
  | nil => exact accepts_runEmissions_nil
  | cons a rest ih =>
    exact accepts_runEmissions_cons (each a List.mem_cons_self) (ih fun b mem => each b (List.mem_cons_of_mem a mem))

end Wildflow.Store
