import Wildflow.Store.Run

/-!
# Interleaved operations

Operations run in atomic steps on a shared state, in any order and with any pauses. One that is never moved again has
crashed. `Interleaved` is the rule for what holds of the shared state and at each point of an operation.
-/

namespace Wildflow.Store

/-- `advance` is one atomic step of the operation with this number, which goes on or returns. -/
structure Program (σ κ π ρ : Type) where
  enter : κ → π
  advance : σ → Nat → π → σ × (π ⊕ ρ)
  wait : σ → Nat → σ

structure Process (κ π ρ : Type) where
  call : κ
  state : π ⊕ ρ

/-- The operations are known by the order in which they were started. -/
structure Config (σ κ π ρ : Type) where
  shared : σ
  procs : List (Process κ π ρ)

inductive Move (κ : Type) where
  | start (call : κ)
  | step (pid : Nat)
  | wait (duration : Nat)

variable {σ κ π ρ : Type} (P : Program σ κ π ρ)

def Program.move (c : Config σ κ π ρ) : Move κ → Config σ κ π ρ
  | .start call => { c with procs := c.procs ++ [⟨call, .inl (P.enter call)⟩] }
  | .wait duration => { c with shared := P.wait c.shared duration }
  | .step pid =>
    match c.procs[pid]? with
    | some ⟨call, .inl point⟩ =>
      { shared := (P.advance c.shared pid point).1, procs := c.procs.set pid ⟨call, (P.advance c.shared pid point).2⟩ }
    | _ => c

def Holds (Shared : σ → Prop) (Local : σ → Nat → Process κ π ρ → Prop) (c : Config σ κ π ρ) : Prop :=
  Shared c.shared ∧ ∀ pid proc, c.procs[pid]? = some proc → Local c.shared pid proc

/-- Every step keeps what holds of the shared state, of the operation that makes it and of all others. -/
structure Interleaved (guard : Config σ κ π ρ → Move κ → Prop) (Shared : σ → Prop)
    (Local : σ → Nat → Process κ π ρ → Prop) : Prop where
  start : ∀ c call, Holds Shared Local c → guard c (.start call) → Local c.shared c.procs.length ⟨call, .inl (P.enter call)⟩
  waits : ∀ c duration, Holds Shared Local c → guard c (.wait duration) → Shared (P.wait c.shared duration) ∧
      ∀ pid proc, c.procs[pid]? = some proc → Local (P.wait c.shared duration) pid proc
  steps : ∀ c pid call point, Holds Shared Local c → guard c (.step pid) → c.procs[pid]? = some ⟨call, .inl point⟩ →
    Shared (P.advance c.shared pid point).1 ∧
      Local (P.advance c.shared pid point).1 pid ⟨call, (P.advance c.shared pid point).2⟩
  others : ∀ c pid call point, Holds Shared Local c → guard c (.step pid) → c.procs[pid]? = some ⟨call, .inl point⟩ →
    ∀ other proc, other ≠ pid → c.procs[other]? = some proc → Local (P.advance c.shared pid point).1 other proc

variable {P} {guard : Config σ κ π ρ → Move κ → Prop} {Shared : σ → Prop} {Local : σ → Nat → Process κ π ρ → Prop}

theorem Holds.idle {s : σ} (shared : Shared s) : Holds Shared Local (⟨s, []⟩ : Config σ κ π ρ) :=
  ⟨shared, fun _ _ found => by cases found⟩

theorem Interleaved.move (rule : Interleaved P guard Shared Local) {c : Config σ κ π ρ} {m : Move κ}
    (holds : Holds Shared Local c) (allowed : guard c m) : Holds Shared Local (P.move c m) := by
  cases m with
  | start call =>
    refine ⟨holds.1, fun pid proc found => ?_⟩
    rcases Nat.lt_or_ge pid c.procs.length with before | after
    · exact holds.2 pid proc ((List.getElem?_append_left before).symm.trans found)
    have here : (c.procs ++ [(⟨call, .inl (P.enter call)⟩ : Process κ π ρ)])[pid]? = some proc := found
    rw [List.getElem?_append_right after] at here
    obtain ⟨last, rfl⟩ : pid - c.procs.length = 0 ∧ _ = proc := by simpa [List.getElem?_singleton] using here
    obtain rfl : pid = c.procs.length := by omega
    exact rule.start c call holds allowed
  | wait duration => exact rule.waits c duration holds allowed
  | step pid =>
    unfold Program.move
    dsimp only
    split
    · next call point busy =>
      refine ⟨(rule.steps c pid call point holds allowed busy).1, fun other proc found => ?_⟩
      by_cases same : pid = other
      · subst same
        obtain ⟨inside, _⟩ := List.getElem?_eq_some_iff.mp busy
        rw [List.getElem?_set_self inside] at found
        cases found
        exact (rule.steps c pid call point holds allowed busy).2
      · rw [List.getElem?_set_ne same] at found
        exact rule.others c pid call point holds allowed busy other proc (Ne.symm same) found
    · exact holds

theorem Interleaved.run (rule : Interleaved P guard Shared Local) {moves : List (Move κ)} {c : Config σ κ π ρ}
    (holds : Holds Shared Local c) (allowed : Guarded P.move guard c moves) :
    Holds Shared Local (runSteps P.move c moves) :=
  runSteps_invariant (fun _ _ held may => rule.move held may) moves c holds allowed

variable {Q : Process κ π ρ → Prop} {pid : Nat}

variable (own : ∀ s call point, Q ⟨call, .inl point⟩ → Q ⟨call, (P.advance s pid point).2⟩)
include own

theorem Program.follow_move
    {c : Config σ κ π ρ} {proc : Process κ π ρ} (found : c.procs[pid]? = some proc) (holds : Q proc) (m : Move κ) :
    ∃ proc', (P.move c m).procs[pid]? = some proc' ∧ Q proc' := by
  obtain ⟨inside, _⟩ := List.getElem?_eq_some_iff.mp found
  cases m with
  | start call => exact ⟨proc, (List.getElem?_append_left inside).trans found, holds⟩
  | wait duration => exact ⟨proc, found, holds⟩
  | step moved =>
    unfold Program.move
    dsimp only
    split
    · next call point busy =>
      by_cases same : moved = pid
      · subst same
        rw [found] at busy
        cases busy
        exact ⟨_, List.getElem?_set_self inside, own _ _ _ holds⟩
      · exact ⟨proc, (List.getElem?_set_ne same).trans found, holds⟩
    · exact ⟨proc, found, holds⟩

theorem Program.follow
    (moves : List (Move κ)) {c : Config σ κ π ρ} {proc : Process κ π ρ} (found : c.procs[pid]? = some proc) (holds : Q proc) :
    ∃ proc', (runSteps P.move c moves).procs[pid]? = some proc' ∧ Q proc' := by
  induction moves generalizing c proc with
  | nil => exact ⟨proc, found, holds⟩
  | cons m rest ih =>
    obtain ⟨next, foundNext, holdsNext⟩ := Program.follow_move own found holds m
    exact ih foundNext holdsNext

end Wildflow.Store
