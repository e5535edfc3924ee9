import Wildflow.Billing.Account
import Wildflow.Billing.BatchUpdate
import Wildflow.Store.Run

/-!
# What a batch loses

A flush forgets an amount whose write fails.
-/

namespace Wildflow.Billing
open Wildflow.Store List

namespace Batch
variable {s : Batch} {step : BatchStep} {type : BatchUpdateType} {id value : Int} {written : BatchWrite → Bool}

def Conserved (s : Batch) : Prop := ∀ type id, s.applied type id + s.value type id = s.added type id

def InRange (s : Batch) : BatchStep → Prop
  | .addNewRecord type id value => -2 ^ 63 ≤ s.value type id + value ∧ s.value type id + value < 2 ^ 63
  | .batchUpdate _ => True

instance : Decidable (s.InRange step) := by
  cases step <;> unfold InRange <;> infer_instance

def Lossless (s : Batch) : BatchStep → Prop
  | .addNewRecord _ _ _ => True
  | .batchUpdate written => ∀ type id, s.value type id ≠ 0 → written (type.write id)

theorem addNewRecord_value (inRange : s.InRange (.addNewRecord type id value)) (t : BatchUpdateType) :
    (s.addNewRecord type id value).value t =
      if t = type then Billing.addNewRecord (s.value t) id value else s.value t := by
  funext i
  by_cases same : t = type
  · subst same
    simp only [Batch.value, InRange, addNewRecord, Billing.addNewRecord, Function.update_self, Dict.get_set,
      if_true] at inRange ⊢
    by_cases own : id = i
    · subst own
      cases old : (s.stores t).get id with
      | none => simp
      | some old =>
        simp only [old, Option.getD_some] at inRange
        simp
        omega
    · simp [own, Ne.symm own]
  · simp [Batch.value, addNewRecord, same]

@[simp] theorem writeEach_value (types : List BatchUpdateType) (ids : List Int) :
    (s.writeEach written types ids).value = s.value := by
  induction ids generalizing s with
  | nil => rfl
  | cons first rest ih => exact ih

@[simp] theorem writeEach_added (types : List BatchUpdateType) (ids : List Int) :
    (s.writeEach written types ids).added = s.added := by
  induction ids generalizing s with
  | nil => rfl
  | cons first rest ih => exact ih

theorem writeEach_applied (types : List BatchUpdateType) {ids : List Int} (nodup : ids.Nodup) (type : BatchUpdateType)
    (i : Int) : (s.writeEach written types ids).applied type i = s.applied type i +
      if i ∈ ids ∧ type ∈ types ∧ written (type.write i) then s.value type i else 0 := by
  induction ids generalizing s with
  | nil => simp [writeEach]
  | cons first rest ih =>
    obtain ⟨fresh, nodup⟩ := nodup_cons.mp nodup
    refine (ih nodup).trans ?_
    simp only [Batch.value, mem_cons]
    by_cases own : i = first
    · subst own
      simp [fresh]
      split <;> simp_all
    · simp [own]

theorem batchUpdate_applied (type : BatchUpdateType) (id : Int) :
    (s.batchUpdate written).applied type id = s.applied type id + if written (type.write id) then s.value type id else 0 := by
  have unstored : id ∉ (s.stores type).keys → s.value type id = 0 := by
    rw [Dict.mem_keys, not_not]
    intro missing
    rw [Batch.value, missing]
    rfl
  have keyed : ∀ type, (s.stores type).keys.Nodup := fun type => (s.stores type).unique
  simp only [batchUpdate, writeEach_applied _ (nodup_dedup _), writeEach_applied _ (keyed _), writeEach_value,
    mem_dedup, mem_append, add_assoc, add_right_inj]
  cases type <;> grind

theorem step_conserved_iff (conserved : s.Conserved) (inRange : s.InRange step) :
    (applyBatchStep s step).Conserved ↔ s.Lossless step := by
  cases step with
  | addNewRecord type id value =>
    refine iff_of_true (fun t i => ?_) trivial
    change s.applied t i + (s.addNewRecord type id value).value t i =
      if t = type ∧ i = id then s.added t i + value else s.added t i
    rw [addNewRecord_value inRange, ← conserved t i]
    by_cases same : t = type
    · simp only [same, if_true, true_and, Billing.addNewRecord]
      split <;> omega
    · simp [same]
  | batchUpdate written =>
    have after : ∀ type id, (s.batchUpdate written).applied type id + (s.batchUpdate written).value type id =
        (s.batchUpdate written).added type id ↔ (s.value type id ≠ 0 → written (type.write id)) := by
      intro type id
      have empty : (s.batchUpdate written).value type id = 0 := rfl
      have same : (s.batchUpdate written).added = s.added := by simp [batchUpdate]
      rw [empty, same, batchUpdate_applied, ← conserved type id]
      split <;> simp_all
    exact forall₂_congr after

theorem batched_conserved_iff (steps : List BatchStep) (inRange : Guarded applyBatchStep InRange {} steps) :
    (∀ t ∈ transitions applyBatchStep {} steps, t.after.Conserved) ↔ Guarded applyBatchStep Lossless {} steps := by
  have start : Conserved {} := fun _ _ => rfl
  revert start inRange
  generalize ({} : Batch) = s
  intro inRange start
  induction steps generalizing s with
  | nil => simp [Guarded]
  | cons step rest ih =>
    rw [transitions, forall_mem_cons, Guarded, ← step_conserved_iff start inRange.1]
    exact and_congr_right fun next => ih _ inRange.2 next

def twoFlushes : List BatchStep :=
  [.addNewRecord .userQuota 1 (-5), .addNewRecord .usedQuota 1 5, .addNewRecord .requestCount 1 1,
    .batchUpdate fun _ => true, .addNewRecord .userQuota 1 (-2), .addNewRecord .usedQuota 1 2,
    .batchUpdate fun _ => true]

theorem batched_conserved_iff_twoFlushes :
    (∀ t ∈ transitions applyBatchStep {} twoFlushes, t.after.Conserved) ∧
      (runSteps applyBatchStep {} twoFlushes).applied .userQuota 1 = -7 ∧
      (runSteps applyBatchStep {} twoFlushes).applied .usedQuota 1 = 7 ∧
      (runSteps applyBatchStep {} twoFlushes).applied .requestCount 1 = 1 := by
  refine ⟨(batched_conserved_iff twoFlushes (by decide)).mpr ?_, by decide, by decide, by decide⟩
  exact ⟨trivial, trivial, trivial, fun _ _ _ => rfl, trivial, trivial, fun _ _ _ => rfl, trivial⟩

theorem failed_token_write_lost :
    ¬(runSteps applyBatchStep {} [.addNewRecord .tokenQuota 1 5, .batchUpdate fun _ => false]).Conserved :=
  fun conserved => absurd (conserved .tokenQuota 1) (by decide)

end Batch
end Wildflow.Billing
