import Mathlib.Data.List.Induction
import Mathlib.Algebra.BigOperators.Group.List.Basic
import Mathlib.Algebra.Order.Ring.Int

/-!
# Runs

A run applies a total step function to a list of inputs. `transitions` keeps each step with the
states around it.
-/

namespace Wildflow.Store
open List

structure Transition (σ α : Type) where
  before : σ
  input : α
  after : σ

section
variable {σ α : Type} (step : σ → α → σ)

def runSteps (s : σ) (inputs : List α) : σ := inputs.foldl step s

def transitions : σ → List α → List (Transition σ α)
  | _, [] => []
  | s, a :: rest => ⟨s, a, step s a⟩ :: transitions (step s a) rest

@[simp] theorem runSteps_nil (s : σ) : runSteps step s [] = s := rfl

theorem runSteps_append (s : σ) (inputs more : List α) :
    runSteps step s (inputs ++ more) = runSteps step (runSteps step s inputs) more :=
  foldl_append

@[simp] theorem runSteps_snoc (s : σ) (inputs : List α) (a : α) :
    runSteps step s (inputs ++ [a]) = step (runSteps step s inputs) a := by
  simp [runSteps]

@[simp] theorem transitions_nil (s : σ) : transitions step s [] = [] := rfl
@[simp] theorem transitions_snoc (s : σ) (inputs : List α) (a : α) :
    transitions step s (inputs ++ [a]) = transitions step s inputs ++
        [⟨runSteps step s inputs, a, step (runSteps step s inputs) a⟩] := by
  induction inputs generalizing s with
  | nil => rfl
  | cons first rest ih => simp [transitions, ih, runSteps]

def taken (measure : σ → Int) (select : α → Bool) (s : σ) (inputs : List α) : Int :=
  (((transitions step s inputs).filter fun t => select t.input).map fun t =>
    measure t.before - measure t.after).sum

variable {step}

@[simp] theorem taken_nil (measure : σ → Int) (select : α → Bool) (s : σ) :
    taken step measure select s [] = 0 := rfl
theorem taken_snoc (measure : σ → Int) (select : α → Bool) (s : σ) (inputs : List α) (a : α) :
    taken step measure select s (inputs ++ [a]) = taken step measure select s inputs + if select a then
          measure (runSteps step s inputs) - measure (step (runSteps step s inputs) a) else 0 := by
  unfold taken
  rw [transitions_snoc, filter_append]
  cases picked : select a with
  | true => simp [picked]
  | false => simp [picked]

/-- Every input meets its guard in the state it is applied to. -/
def Guarded (step : σ → α → σ) (guard : σ → α → Prop) : σ → List α → Prop
  | _, [] => True
  | s, a :: rest => guard s a ∧ Guarded step guard (step s a) rest

instance decidableGuarded (step : σ → α → σ) (guard : σ → α → Prop) [∀ s a, Decidable (guard s a)] :
    (s : σ) → (inputs : List α) → Decidable (Guarded step guard s inputs)
  | _, [] => .isTrue trivial
  | s, a :: rest => @instDecidableAnd _ _ _ (decidableGuarded step guard (step s a) rest)

theorem guarded_append {guard : σ → α → Prop} {s : σ} {inputs more : List α} :
    Guarded step guard s (inputs ++ more) ↔
      Guarded step guard s inputs ∧ Guarded step guard (runSteps step s inputs) more := by
  induction inputs generalizing s with
  | nil => simp [Guarded]
  | cons a rest ih => simp [Guarded, ih, runSteps, and_assoc]

theorem guarded_of_all {guard : σ → α → Prop} (s : σ) (inputs : List α) (all : ∀ a ∈ inputs, ∀ s, guard s a) :
    Guarded step guard s inputs := by
  induction inputs generalizing s with
  | nil => trivial
  | cons a rest ih =>
    exact ⟨all a mem_cons_self s, ih (step s a) fun b mem => all b (mem_cons_of_mem a mem)⟩

theorem Guarded.imp {guard effect : σ → α → Prop} {Inv : σ → Prop} (preserved : ∀ s a, Inv s → guard s a → Inv (step s a))
    (each : ∀ s a, Inv s → guard s a → effect s a) {s : σ} {inputs : List α} (start : Inv s)
    (guarded : Guarded step guard s inputs) : Guarded step effect s inputs := by
  induction inputs generalizing s with
  | nil => trivial
  | cons a rest ih => exact ⟨each s a start guarded.1, ih (preserved s a start guarded.1) guarded.2⟩

theorem transitions_after {s : σ} {inputs : List α} {t : Transition σ α} (mem : t ∈ transitions step s inputs) :
    t.after = step t.before t.input := by
  induction inputs generalizing s with
  | nil => cases mem
  | cons a rest ih =>
    rcases mem_cons.mp mem with rfl | later
    · rfl
    · exact ih later

theorem runSteps_invariant {guard : σ → α → Prop} {Inv : σ → Prop}
    (preserved : ∀ s a, Inv s → guard s a → Inv (step s a)) :
    ∀ (inputs : List α) (s : σ), Inv s → Guarded step guard s inputs → Inv (runSteps step s inputs) := by
  intro inputs
  induction inputs with
  | nil => intro s holds _; exact holds
  | cons a rest ih =>
    intro s holds guarded
    exact ih (step s a) (preserved s a holds guarded.1) guarded.2

theorem transitions_invariant {guard : σ → α → Prop} {Inv : σ → Prop} {eff : σ → σ → Prop}
    (preserved : ∀ s a, Inv s → guard s a → Inv (step s a)) (each : ∀ s a, Inv s → guard s a → eff s (step s a)) :
    ∀ (inputs : List α) (s : σ), Inv s → Guarded step guard s inputs →
      ∀ t ∈ transitions step s inputs, eff t.before t.after := by
  intro inputs
  induction inputs with
  | nil => intro s _ _ t mem; cases mem
  | cons a rest ih =>
    intro s holds guarded t mem
    rcases mem_cons.mp mem with rfl | later
    · exact each s a holds guarded.1
    · exact ih (step s a) (preserved s a holds guarded.1) guarded.2 t later

def entries (step : σ → α → σ) (p : σ → Bool) (s : σ) (inputs : List α) : Nat :=
  (transitions step s inputs).countP fun t => !p t.before && p t.after

theorem entries_add {guard : σ → α → Prop} {Inv : σ → Prop} {p : σ → Bool}
    (preserved : ∀ s a, Inv s → guard s a → Inv (step s a))
    (stays : ∀ s a, Inv s → guard s a → p s = true → p (step s a) = true) :
    ∀ (inputs : List α) (s : σ), Inv s → Guarded step guard s inputs →
      entries step p s inputs + (p s).toNat = (p (runSteps step s inputs)).toNat := by
  intro inputs
  induction inputs with
  | nil => intro s _ _; simp [entries]
  | cons a rest ih =>
    intro s holds guarded
    have later := ih (step s a) (preserved s a holds guarded.1) guarded.2
    have kept := stays s a holds guarded.1
    unfold entries at later ⊢
    rw [transitions, countP_cons]
    change _ = (p (runSteps step (step s a) rest)).toNat
    cases before : p s with
    | true =>
      rw [kept before] at later
      simpa using later
    | false => grind

end

variable {β ρ : Type} {body : β → ρ ⊕ β} {Inv : β → Prop}

def loopRounds (body : β → ρ ⊕ β) : Nat → β → Option ρ
  | 0, _ => none
  | fuel + 1, b =>
    match body b with
    | .inl result => some result
    | .inr next => loopRounds body fuel next

theorem loopRounds_returns (measure : β → Nat)
    (keeps : ∀ b next, Inv b → body b = .inr next → Inv next ∧ measure next < measure b) {fuel : Nat} {b : β} (start : Inv b)
    (enough : measure b < fuel) : ∃ result, loopRounds body fuel b = some result := by
  induction fuel generalizing b with
  | zero => omega
  | succ fuel ih =>
    unfold loopRounds
    cases ran : body b with
    | inl result => exact ⟨result, rfl⟩
    | inr next =>
      obtain ⟨kept, less⟩ := keeps b next start ran
      exact ih kept (by omega)

theorem loopRounds_last (keeps : ∀ b next, Inv b → body b = .inr next → Inv next) {fuel : Nat} {b : β} {result : ρ}
    (start : Inv b) (ran : loopRounds body fuel b = some result) : ∃ last, Inv last ∧ body last = .inl result := by
  induction fuel generalizing b with
  | zero => cases ran
  | succ fuel ih =>
    unfold loopRounds at ran
    split at ran
    · grind
    · next next went => exact ih (keeps b next start went) ran

end Wildflow.Store
