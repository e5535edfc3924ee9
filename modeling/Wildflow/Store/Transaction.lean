import Mathlib.Tactic.Basic

/-!
# Transactions

A transaction reads and writes a state and may fail. `commit` rolls a failed one back.
-/

namespace Wildflow.Store

variable {α β ε : Type}

theorem except_bind_ok {x : Except ε α} {f : α → Except ε β} {b : β} :
    (x >>= f) = .ok b ↔ ∃ a, x = .ok a ∧ f a = .ok b := by
  cases x <;> simp [bind, Except.bind]

theorem except_then_ok {x : Except ε Unit} {y : Except ε β} {b : β} :
    (x >>= fun _ => y) = .ok b ↔ x = .ok () ∧ y = .ok b := by
  cases x <;> simp [bind, Except.bind]

/-- Whatever the computation returns, if it returns, has the property. -/
inductive Yields {ε α : Type} (property : α → Prop) : Except ε α → Prop where
  | ok {a : α} (holds : property a) : Yields property (.ok a)
  | error {failure : ε} : Yields property (.error failure)

theorem Yields.bind {P : α → Prop} {Q : β → Prop} {x : Except ε α} {f : α → Except ε β}
    (first : Yields P x) (rest : ∀ a, P a → Yields Q (f a)) : Yields Q (x >>= f) := by
  cases first with
  | error => exact .error
  | ok holds => exact rest _ holds

theorem Yields.map {P : α → Prop} {Q : β → Prop} {x : Except ε α} {f : α → β} (first : Yields P x)
    (each : ∀ a, P a → Q (f a)) : Yields Q (x.map f) := by
  cases first with
  | error => exact .error
  | ok holds => exact .ok (each _ holds)

theorem yields_any (x : Except ε α) : Yields (fun _ => True) x := by
  cases x with
  | error failure => exact .error
  | ok a => exact .ok trivial

def Tx (σ ε α : Type) := σ → Except ε (α × σ)

namespace Tx
variable {σ ε α β : Type}
variable {failure : ε} {s s' : σ} {x tx : Tx σ ε α} {f : α → Tx σ ε β} {condition : Prop}

def run (tx : Tx σ ε α) (s : σ) : Except ε (α × σ) := tx s

instance : Monad (Tx σ ε) where
  pure a := fun s => .ok (a, s)
  bind x f := fun s => (x s).bind fun result => f result.1 result.2

def read : Tx σ ε σ := fun s => .ok (s, s)

def write (s : σ) : Tx σ ε Unit := fun _ => .ok ((), s)

def fail (failure : ε) : Tx σ ε α := fun _ => .error failure

def ensure (condition : Prop) [Decidable condition] (failure : ε) : Tx σ ε Unit :=
  if condition then pure () else fail failure

def orFail (failure : ε) : Option α → Tx σ ε α
  | some a => pure a
  | none => fail failure

def commit (tx : Tx σ ε α) (s : σ) : Except ε α × σ :=
  match tx.run s with
  | .ok (a, s') => (.ok a, s')
  | .error failure => (.error failure, s)

theorem bind_assoc {γ : Type} (x : Tx σ ε α) (f : α → Tx σ ε β) (g : β → Tx σ ε γ) :
    x >>= f >>= g = x >>= fun a => f a >>= g := by
  funext s
  change ((x s).bind fun res => f res.1 res.2).bind (fun res => g res.1 res.2) =
    (x s).bind fun res => (f res.1 res.2).bind fun res => g res.1 res.2
  cases x s <;> rfl

theorem bind_unit (x : Tx σ ε Unit) : (x >>= fun _ => pure ()) = x := by
  funext s
  change (x s).bind (fun res => .ok ((), res.2)) = x s
  cases x s <;> rfl

variable {a : α}

@[simp] theorem run_pure_ok {b : α} : (pure a : Tx σ ε α).run s = .ok (b, s') ↔ a = b ∧ s = s' := by
  change Except.ok (a, s) = Except.ok (b, s') ↔ _
  simp

@[simp] theorem run_fail_ok {b : α} : (fail failure : Tx σ ε α).run s = .ok (b, s') ↔ False := by
  change Except.error failure = Except.ok (b, s') ↔ _
  simp

@[simp] theorem run_read_ok {b : σ} : (read : Tx σ ε σ).run s = .ok (b, s') ↔ s = b ∧ s = s' := by
  change Except.ok (s, s) = Except.ok (b, s') ↔ _
  simp

@[simp] theorem run_write_ok {t : σ} {u : Unit} : (write t : Tx σ ε Unit).run s = .ok (u, s') ↔ t = s' := by
  change Except.ok ((), t) = Except.ok (u, s') ↔ _
  simp

@[simp] theorem run_bind_ok {b : β} {s'' : σ} :
    (x >>= f).run s = .ok (b, s'') ↔ ∃ a s', x.run s = .ok (a, s') ∧ (f a).run s' = .ok (b, s'') := by
  change (x.run s).bind (fun res => (f res.1).run res.2) = _ ↔ _
  cases x.run s with
  | error failure => simp [Except.bind]
  | ok res =>
    obtain ⟨a, s'⟩ := res
    constructor
    · intro rest
      exact ⟨a, s', rfl, rest⟩
    · rintro ⟨_, _, same, rest⟩
      cases same
      exact rest

@[simp] theorem run_ensure_ok [Decidable condition] {u : Unit} :
    (ensure condition failure : Tx σ ε Unit).run s = .ok (u, s') ↔ condition ∧ s = s' := by
  unfold ensure
  split <;> rename_i decided <;> simp [decided]

@[simp] theorem run_orFail_ok {found : Option α} :
    (orFail failure found : Tx σ ε α).run s = .ok (a, s') ↔ found = some a ∧ s = s' := by
  cases found with
  | none => simp [orFail]
  | some b => simp [orFail]

def FailsWith (P : ε → Prop) (tx : Tx σ ε α) : Prop :=
  ∀ s failure, tx.run s = .error failure → P failure

namespace FailsWith
variable {P : ε → Prop}

theorem pure (a : α) : FailsWith P (Pure.pure a : Tx σ ε α) := by
  intro s failure failed
  cases failed

theorem read : FailsWith P (Tx.read : Tx σ ε σ) := by
  intro s failure failed
  cases failed

theorem write (t : σ) : FailsWith P (Tx.write t : Tx σ ε Unit) := by
  intro s failure failed
  cases failed

theorem fail (holds : P failure) : FailsWith P (Tx.fail failure : Tx σ ε α) := by
  intro s other failed
  cases failed
  exact holds

theorem ensure [Decidable condition] (holds : P failure) :
    FailsWith P (Tx.ensure condition failure : Tx σ ε Unit) := by
  unfold Tx.ensure
  split
  · exact pure ()
  · exact fail holds

theorem orFail (found : Option α) (holds : P failure) : FailsWith P (Tx.orFail failure found : Tx σ ε α) := by
  cases found with
  | none => exact fail holds
  | some a => exact pure a

theorem bind (first : FailsWith P x) (rest : ∀ a, FailsWith P (f a)) : FailsWith P (x >>= f) := by
  intro s failure failed
  change (x.run s).bind (fun res => (f res.1).run res.2) = _ at failed
  cases ran : x.run s with
  | error other =>
    rw [ran] at failed
    cases failed
    exact first s _ ran
  | ok res =>
    rw [ran] at failed
    exact rest res.1 res.2 failure failed

end FailsWith

theorem run_read (s : σ) : (read : Tx σ ε σ).run s = .ok (s, s) := rfl

theorem run_ensure_of [Decidable condition] (s : σ) (holds : condition) :
    (ensure condition failure : Tx σ ε Unit).run s = .ok ((), s) := by
  rw [ensure, if_pos holds]
  rfl

theorem run_ensure_of_not [Decidable condition] (s : σ) (fails : ¬condition) :
    (ensure condition failure : Tx σ ε Unit).run s = .error failure := by
  rw [ensure, if_neg fails]
  rfl

theorem run_orFail_some (a : α) (s : σ) : (orFail failure (some a) : Tx σ ε α).run s = .ok (a, s) := rfl

theorem run_orFail_none (s : σ) : (orFail failure none : Tx σ ε α).run s = .error failure := rfl

theorem run_bind_of_ok (first : x.run s = .ok (a, s')) : (x >>= f).run s = (f a).run s' := by
  change (x.run s).bind (fun res => (f res.1).run res.2) = _
  simp [first, Except.bind]

theorem run_bind_of_error (first : x.run s = .error failure) : (x >>= f).run s = .error failure := by
  change (x.run s).bind (fun res => (f res.1).run res.2) = _
  simp [first, Except.bind]

theorem commit_cases (tx : Tx σ ε α) (s : σ) :
    (∃ a s', tx.run s = .ok (a, s') ∧ commit tx s = (.ok a, s')) ∨
    (∃ failure, tx.run s = .error failure ∧ commit tx s = (.error failure, s)) := by
  cases out : tx.run s with
  | ok res => exact .inl ⟨res.1, res.2, rfl, by simp [commit, out]⟩
  | error failure => exact .inr ⟨failure, rfl, by simp [commit, out]⟩

/-- What holds of a failed transaction and of every run of the transaction holds of its outcome. -/
@[elab_as_elim]
theorem commit_elim {motive : Except ε α × σ → Prop} (outcome : Except ε α × σ) (committed : commit tx s = outcome)
    (failed : ∀ failure, motive (.error failure, s))
    (ran : ∀ a s', tx.run s = .ok (a, s') → motive (.ok a, s')) : motive outcome := by
  subst committed
  rcases commit_cases tx s with ⟨a, s', ok, outcome⟩ | ⟨failure, _, outcome⟩
  · rw [outcome]
    exact ran a s' ok
  · rw [outcome]
    exact failed failure

theorem commit_eq_ok : commit tx s = (.ok a, s') ↔ tx.run s = .ok (a, s') := by
  unfold commit
  split <;> rename_i out <;> simp [out]

theorem commit_error_state (out : commit tx s = (.error failure, s')) : s' = s := by
  rcases commit_cases tx s with ⟨_, _, _, committed⟩ | ⟨_, _, committed⟩ <;>
  · grind

theorem commit_of_error (out : tx.run s = .error failure) : commit tx s = (.error failure, s) := by
  simp [commit, out]

theorem commit_discard (x : Tx σ ε α) (s : σ) : (commit (do let _ ← x) s).2 = (commit x s).2 := by
  unfold commit
  cases ran : x.run s with
  | error failure => rw [run_bind_of_error ran]
  | ok res => rw [run_bind_of_ok (show x.run s = .ok (res.1, res.2) from ran)]; rfl

def AllOrNothing (s : σ) (outcome : Except ε α × σ) : Prop :=
  ∀ failure, outcome.1 = .error failure → outcome.2 = s

theorem AllOrNothing.same (s : σ) (res : Except ε α) : AllOrNothing s (res, s) := fun _ _ => rfl

theorem AllOrNothing.commit (tx : Tx σ ε α) (s : σ) : AllOrNothing s (tx.commit s) :=
  commit_elim (tx.commit s) rfl (fun failure => same s (.error failure)) fun _ _ _ _ failed => by cases failed

theorem AllOrNothing.ite {p : Prop} [Decidable p] {yes no : Except ε α × σ} (first : AllOrNothing s yes)
    (second : AllOrNothing s no) : AllOrNothing s (if p then yes else no) := by
  split
  · exact first
  · exact second

end Tx
end Wildflow.Store
