import Wildflow.Store.Run

/-!
# Metered use

A counter of what several owners use of one budget, against the charges it stands for. The counter knows only their
sum: what one owner gives back comes off the sum, down to zero.
-/

namespace Wildflow.Store

inductive MeterEvent (ι : Type) where
  | reset
  | charge (owner : ι) (amount : Nat)
  | giveBack (owner : ι) (amount : Nat)

variable {ι : Type}

def MeterEvent.count (used : Int) : MeterEvent ι → Int
  | .reset => 0
  | .charge _ amount => used + amount
  | .giveBack _ amount => max (used - amount) 0

def total (charges : List (ι × Nat)) : Nat := (charges.map Prod.snd).sum

@[simp] theorem total_nil : total ([] : List (ι × Nat)) = 0 := rfl
@[simp] theorem total_cons (charge : ι × Nat) (charges : List (ι × Nat)) :
    total (charge :: charges) = charge.2 + total charges := by
  simp [total]

variable [DecidableEq ι]

def own (owner : ι) (charges : List (ι × Nat)) : Nat := total (charges.filter fun charge => charge.1 = owner)

def others (owner : ι) (charges : List (ι × Nat)) : Nat := total (charges.filter fun charge => charge.1 ≠ owner)

def takeOff (owner : ι) : Nat → List (ι × Nat) → List (ι × Nat)
  | _, [] => []
  | amount, charge :: rest =>
    if charge.1 = owner then (owner, charge.2 - amount) :: takeOff owner (amount - charge.2) rest
    else charge :: takeOff owner amount rest

def MeterEvent.post (charges : List (ι × Nat)) : MeterEvent ι → List (ι × Nat)
  | .reset => []
  | .charge owner amount => (owner, amount) :: charges
  | .giveBack owner amount => takeOff owner amount charges

/-- What is given back is the owner's own, or there is nobody else to take it from. -/
def MeterEvent.Covered (charges : List (ι × Nat)) : MeterEvent ι → Prop
  | .giveBack owner amount => amount ≤ own owner charges ∨ others owner charges = 0
  | _ => True

abbrev AllCovered (charges : List (ι × Nat)) (events : List (MeterEvent ι)) : Prop :=
  Guarded MeterEvent.post (fun charges event => event.Covered charges) charges events

theorem own_cons (owner : ι) (charge : ι × Nat) (charges : List (ι × Nat)) :
    own owner (charge :: charges) = (if charge.1 = owner then charge.2 else 0) + own owner charges := by
  by_cases mine : charge.1 = owner <;> simp [own, mine]

theorem others_cons (owner : ι) (charge : ι × Nat) (charges : List (ι × Nat)) :
    others owner (charge :: charges) = (if charge.1 = owner then 0 else charge.2) + others owner charges := by
  by_cases mine : charge.1 = owner <;> simp [others, mine]

theorem total_eq_own_add_others (owner : ι) (charges : List (ι × Nat)) :
    total charges = own owner charges + others owner charges := by
  induction charges with
  | nil => rfl
  | cons charge rest ih =>
    rw [total_cons, own_cons, others_cons, ih]
    split <;> omega

theorem own_takeOff (owner : ι) (amount : Nat) (charges : List (ι × Nat)) :
    own owner (takeOff owner amount charges) = own owner charges - amount := by
  induction charges generalizing amount with
  | nil => simp [takeOff, own]
  | cons charge rest ih =>
    unfold takeOff
    split
    · rename_i mine
      rw [own_cons, own_cons, ih, if_pos rfl, if_pos mine]
      omega
    · rename_i other
      rw [own_cons, own_cons, ih, if_neg other]
      omega

theorem others_takeOff (owner : ι) (amt : Nat) (charges : List (ι × Nat)) :
    others owner (takeOff owner amt charges) = others owner charges := by
  induction charges generalizing amt with
  | nil => rfl
  | cons charge rest ih =>
    unfold takeOff
    split
    · rename_i mine
      rw [others_cons, others_cons, ih, if_pos rfl, if_pos mine]
    · rw [others_cons, others_cons, ih]

theorem count_eq_total_iff {used : Int} {charges : List (ι × Nat)} (balanced : used = total charges)
    (event : MeterEvent ι) : event.count used = total (event.post charges) ↔ event.Covered charges := by
  subst balanced
  cases event with
  | reset => simp [MeterEvent.count, MeterEvent.post, MeterEvent.Covered]
  | charge owner amount =>
    simp only [MeterEvent.count, MeterEvent.post, MeterEvent.Covered, total_cons, iff_true]
    omega
  | giveBack owner amount =>
    simp only [MeterEvent.count, MeterEvent.post, MeterEvent.Covered]
    rw [total_eq_own_add_others owner charges, total_eq_own_add_others owner (takeOff owner amount charges),
      own_takeOff, others_takeOff]
    omega

theorem count_eq_total {used : Int} {charges : List (ι × Nat)} {events : List (MeterEvent ι)}
    (balanced : used = total charges) (covered : AllCovered charges events) :
    runSteps MeterEvent.count used events = total (runSteps MeterEvent.post charges events) := by
  induction events generalizing used charges with
  | nil => exact balanced
  | cons ev rest ih => exact ih ((count_eq_total_iff balanced ev).mpr covered.1) covered.2

end Wildflow.Store
