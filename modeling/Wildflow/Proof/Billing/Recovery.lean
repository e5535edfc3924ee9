import Wildflow.Store.Queue
import Wildflow.Proof.Billing.TaskOperation

/-!
# The recovery of stale reservations

A pass ends at the first reservation that it cannot release. So the queue only ever loses a front part, and nothing
behind such a reservation is released by any later pass.
-/

namespace Wildflow.Billing
open Wildflow.Store Table List
variable {db s s' : DB} {cutoff older limit : Int} {record : BillingReservationRecord} {todo : List BillingReservationRecord}
  {fails : String → Prop}

def queueBefore (db : DB) (cutoff : Int) : List BillingReservationRecord :=
  db.reservations.queue (fun record => record.state = .reserved ∧ record.updatedAt < cutoff) fun a b =>
    a.updatedAt ≤ b.updatedAt

inductive Recovering (db : DB) : DB → Prop
  | start : Recovering db db
  | tick {s : DB} (now : Int) (before : Recovering db s) : Recovering db { s with now }
  | release {s : DB} (requestId : String) (before : Recovering db s) :
      Recovering db (releaseUnsentBillingReservation s requestId).2

section
variable (db : DB) (olderThanSeconds : Int)

def staleCutoff : Int :=
  db.now - max olderThanSeconds billingReservationStaleFloorSeconds

def staleQueue : List BillingReservationRecord :=
  queueBefore db (staleCutoff db olderThanSeconds)

/-- Of the stale reservations exactly those in `fails` cannot be released, at any time. -/
def ReleaseFails (fails : String → Prop) : Prop :=
  ∀ s, Recovering db s → ∀ record ∈ staleQueue db olderThanSeconds, s.reservations.find record.requestId = some record →
    ((releaseUnsentBillingReservation s record.requestId).1.isOk = false ↔ fails record.requestId)

end

def recoveryPasses (clock : Nat → Int) (olderThanSeconds limit : Int) (db : DB) : Nat → DB
  | 0 => db
  | n + 1 =>
    (releaseStaleBillingReservations { recoveryPasses clock olderThanSeconds limit db n with now := clock n }
      olderThanSeconds limit).2

def DB.Released (db : DB) (requestId : String) : Prop :=
  ∃ record, db.reservations.find requestId = some record ∧ record.state = .released

instance : Std.Total fun a b : BillingReservationRecord => a.updatedAt ≤ b.updatedAt := ⟨fun _ _ => Int.le_total _ _⟩
instance : IsTrans BillingReservationRecord fun a b => a.updatedAt ≤ b.updatedAt := ⟨fun _ _ _ => Int.le_trans⟩

theorem mem_queueBefore : record ∈ queueBefore db cutoff ↔
    db.reservations.find record.requestId = some record ∧ record.state = .reserved ∧ record.updatedAt < cutoff := by
  rw [queueBefore, mem_queue, decide_eq_true_iff]

theorem Recovering.unmoved_or_released (recovering : Recovering db s)
    (found : db.reservations.find record.requestId = some record) :
    s.reservations.find record.requestId = some record ∨ s.Released record.requestId := by
  induction recovering with
  | start => exact .inl found
  | tick _ _ ih => exact ih
  | @release s reqId _ ih =>
    rcases releaseReservation_moves s reqId true with same | ⟨row, rowFound, opened, _, put⟩
    · rw [releaseUnsentBillingReservation, same]
      exact ih
    unfold releaseUnsentBillingReservation DB.Released
    rw [put, find_put]
    split
    · exact .inr ⟨_, rfl, rfl⟩
    · exact ih

theorem filter_notMem_take {α κ : Type} [DecidableEq κ] {key : α → κ} {l more : List α} (n : Nat)
    (nodup : ((l ++ more).map key).Nodup) :
    l.filter (fun x => key x ∉ ((l ++ more).take n).map key) = l.drop n := by
  induction l generalizing n with
  | nil => simp
  | cons x l ih =>
    cases n with
    | zero => simp
    | succ n =>
      obtain ⟨fresh, nodup⟩ := nodup_cons.mp nodup
      rw [drop_succ_cons, ← ih n nodup, filter_cons, if_neg (by simp)]
      refine filter_congr fun y mem => ?_
      have ne : key y ≠ key x := fun same => fresh (same ▸ mem_map_of_mem (mem_append_left more mem))
      simp [ne]

structure Front (db : DB) (older : Int) (fails : String → Prop) (s : DB) (k : Nat) : Prop where
  recovering : Recovering db s
  queue : queueBefore s (staleCutoff db older) = (staleQueue db older).drop k
  succeeded : ∀ x ∈ (staleQueue db older).take k, ¬fails x.requestId

def abandoned : BillingReservationRecord :=
  { requestId := "abandoned", userId := 1, tokenId := 1, unlimitedToken := false, source := .wallet, userSubscriptionId := 0,
    amount := 4, topUpAmount := 0, state := .reserved, updatedAt := 1 }

def orphaned : BillingReservationRecord :=
  { abandoned with requestId := "orphaned", source := .subscription, userSubscriptionId := 7, updatedAt := 0 }

def abandonedOnly : DB := { DB.single 10 with reservations := Table.empty.put abandoned }

def behindOrphaned : DB :=
  { abandonedOnly with
    reservations := abandonedOnly.reservations.put orphaned
    preConsumeRecords := Table.empty.put
      { requestId := "orphaned", userId := 1, userSubscriptionId := 7, preConsumed := 4, status := .consumed, updatedAt := 0 } }

/-- Here "orphaned" is the younger one, and it has lost its pre-consume record. -/
def beforeOrphaned : DB :=
  { abandonedOnly with reservations := abandonedOnly.reservations.put { orphaned with updatedAt := 2 } }

section
variable (found : s.reservations.find record.requestId = some record)
include found

theorem releaseUnsent_reserved (reserved : record.state = .reserved) :
    (∃ err, releaseUnsentBillingReservation s record.requestId = (.error err, s)) ∨
    ∃ s', releaseUnsentBillingReservation s record.requestId = (.ok true, s') ∧
      s'.reservations = s.reservations.put (record.moved .released s.now) := by
  unfold releaseUnsentBillingReservation releaseReservation
  split
  · exact .inl ⟨_, rfl⟩
  · refine Tx.commit_elim (Tx.commit _ s) rfl (fun err => .inl ⟨err, rfl⟩) fun done s' ran => ?_
    have freed : ¬record.Kept true := fun kept => kept.1 reserved
    obtain ⟨rfl, funded, src, rfl⟩ := (releaseBillingReservationTx_open found freed).mp ran
    exact .inr ⟨_, rfl, (releaseSource_moves src).2⟩

theorem releaseUnsent_wallet (reserved : record.state = .reserved)
    (wallet : record.source = .wallet) (named : record.requestId ≠ "") :
    (releaseUnsentBillingReservation s record.requestId).1 = .ok true := by
  have ran : (releaseBillingReservationTx record.requestId true).run s = .ok (true, _) :=
    (releaseBillingReservationTx_wallet_ok found wallet fun kept => kept.1 reserved).mpr ⟨rfl, rfl⟩
  rw [releaseUnsentBillingReservation, releaseReservation, if_neg named, Tx.commit_eq_ok.mpr ran]

theorem releaseUnsent_recorded (freed : ¬record.Kept true) (subscribed : record.source = .subscription)
    (out : releaseUnsentBillingReservation s record.requestId = (.ok true, s')) :
    s.preConsumeRecords.find record.requestId ≠ none := by
  unfold releaseUnsentBillingReservation releaseReservation at out
  split at out
  · cases out
  obtain ⟨_, _, source, _⟩ := (releaseBillingReservationTx_open found freed).mp (Tx.commit_eq_ok.mp out)
  simp only [releaseSource, subscribed, Tx.run_bind_ok] at source
  obtain ⟨_, _, returned, _⟩ := source
  obtain ⟨row, held, _⟩ := refundSubscriptionPreConsumeTx_ok returned
  rw [show s.preConsumeRecords.find record.requestId = some row from held]
  exact Option.some_ne_none row

end

theorem releaseEach_front (recovering : Recovering db s) (verdict : ReleaseFails db older fails) (count : Int)
    (nodup : (todo.map (·.requestId)).Nodup)
    (present : ∀ x ∈ todo, s.reservations.find x.requestId = some x ∧ x.state = .reserved) :
    ∃ n, Recovering db (releaseEach s todo count).2 ∧ queueBefore (releaseEach s todo count).2 cutoff =
        (queueBefore s cutoff).filter (fun x => x.requestId ∉ (todo.take n).map (·.requestId)) ∧
      (∀ x ∈ todo.take n, x ∈ staleQueue db older → ¬fails x.requestId) ∧
      ∀ x, todo[n]? = some x → x ∈ staleQueue db older → fails x.requestId := by
  induction todo generalizing s count with
  | nil => exact ⟨0, recovering, by simp [releaseEach], by simp, by simp⟩
  | cons x rest ih =>
    obtain ⟨found, reserved⟩ := present x List.mem_cons_self
    obtain ⟨fresh, nodup⟩ := nodup_cons.mp nodup
    have judged := fun among => verdict s recovering x among found
    rcases releaseUnsent_reserved found reserved with ⟨err, out⟩ | ⟨s', out, put⟩
    · rw [out] at judged
      refine ⟨0, by rw [releaseEach, out]; exact recovering, by simp [releaseEach, out], by simp, ?_⟩
      rintro _ ⟨rfl⟩ among
      exact (judged among).mp rfl
    · rw [out] at judged
      have next : Recovering db s' := by
        have released := Recovering.release x.requestId recovering
        rwa [out] at released
      have others : ∀ y ∈ rest, s'.reservations.find y.requestId = some y ∧ y.state = .reserved := by
        intro y later
        have ne : x.requestId ≠ y.requestId := fun same => fresh (mem_map.mpr ⟨y, later, same.symm⟩)
        rw [put, find_put_of_ne _ (x.moved .released s.now) ne]
        exact present y (List.mem_cons_of_mem x later)
      obtain ⟨n, reached, queue, succeed, fail⟩ := ih next (if true then count + 1 else count) nodup others
      have left : queueBefore s' cutoff = (queueBefore s cutoff).filter fun y => y.requestId ≠ x.requestId := by
        rw [queueBefore, put, queue_put (by simp [BillingReservationRecord.moved])]
        rfl
      refine ⟨n + 1, by rw [releaseEach, out]; exact reached, ?_, ?_, fun y => fail y⟩
      · rw [releaseEach, out]
        simp only at queue ⊢
        rw [queue, left, filter_filter]
        exact filter_congr fun y _ => by
          rw [← Bool.decide_and, decide_eq_decide, take_succ_cons, map_cons, mem_cons, not_or, and_comm]
      · intro y mem among
        rcases mem_cons.mp mem with rfl | later
        · exact fun failing => by simpa [Except.isOk, Except.toBool] using (judged among).mpr failing
        · exact succeed y later among

theorem Front.pass {k : Nat} (front : Front db older fails s k) (verdict : ReleaseFails db older fails) {now : Int}
    (later : db.now ≤ now) (limit : Int) :
    ∃ n, Front db older fails (releaseStaleBillingReservations { s with now } older limit).2 (k + n) ∧
      ∀ x, ((staleQueue db older).drop k).head? = some x → ¬fails x.requestId → 0 < n := by
  let cutoff := staleCutoff db older
  let old := (staleQueue db older).drop k
  -- the reservations that have become stale since then wait behind the old ones
  let all := staleQueue { s with now } older
  let younger := all.filter fun x => !decide (x.updatedAt < cutoff)
  have parts : all = old ++ younger := by
    have front : all.filter (fun x => x.updatedAt < cutoff) = old := by
      show (List.insertionSort _ _).filter _ = (staleQueue db older).drop k
      rw [← front.queue, filter_insertionSort, filter_filter]
      unfold queueBefore Table.queue
      congr 1
      exact filter_congr fun x _ => by grind [staleCutoff]
    rw [← front]
    exact filter_append_of_pairwise (fun a b before chosen => by simp at chosen ⊢; omega) (pairwise_insertionSort _ _)
  have distinct : (all.map (·.requestId)).Nodup := queue_keys_nodup
  let size := (if limit ≤ 0 then 100 else limit).toNat
  have pos : 0 < size := by
    show 0 < (if limit ≤ 0 then (100 : Int) else limit).toNat
    split <;> omega
  have present : ∀ x ∈ all.take size, s.reservations.find x.requestId = some x ∧ x.state = .reserved := fun x mem =>
    (mem_queueBefore.mp (mem_of_mem_take mem)).imp_right (·.1)
  obtain ⟨n, reached, queue, succeed, fail⟩ := @releaseEach_front db { s with now } cutoff older (all.take size) fails
    (front.recovering.tick now) verdict 0 ((take_sublist size all |>.map _).nodup distinct) present
  have left : queueBefore (releaseEach { s with now } (all.take size) 0).2 cutoff = old.drop (min n size) := by
    rw [queue, take_take, parts]
    have same : queueBefore { s with now } cutoff = old := front.queue
    rw [same]
    exact filter_notMem_take (min n size) (parts ▸ distinct)
  refine ⟨min n size, ⟨reached, left.trans drop_drop, ?_⟩, ?_⟩
  · intro x mem
    rw [take_add] at mem
    rcases mem_append.mp mem with earlier | now
    · exact front.succeeded x earlier
    · refine succeed x ?_ (mem_of_mem_drop (mem_of_mem_take now))
      rw [take_take, parts, take_append]
      exact mem_append_left _ now
  · intro x first good
    rcases Nat.eq_zero_or_pos n with rfl | some
    · have mem := mem_of_head? first
      refine absurd (fail x ?_ (mem_of_mem_drop mem)) good
      rw [getElem?_take_of_lt pos, parts, getElem?_append_left (length_pos_of_mem mem),
        ← head?_eq_getElem?]
      exact first
    · omega

theorem passes_front {clock : Nat → Int} (onward : ∀ n, db.now ≤ clock n) (verdict : ReleaseFails db older fails) (limit : Int)
    (n : Nat) : ∃ k, Front db older fails (recoveryPasses clock older limit db n) k ∧
      ((staleQueue db older).Pairwise (fun first second => fails first.requestId → fails second.requestId) →
        n ≤ k ∨ ∀ x ∈ (staleQueue db older).drop k, fails x.requestId) := by
  induction n with
  | zero => exact ⟨0, ⟨.start, rfl, by simp⟩, fun _ => .inl (Nat.zero_le 0)⟩
  | succ n ih =>
    obtain ⟨k, front, reach⟩ := ih
    obtain ⟨more, next, progress⟩ := front.pass verdict (onward n) limit
    refine ⟨k + more, next, fun ordered => ?_⟩
    have behind : (staleQueue db older).drop (k + more) ⊆ (staleQueue db older).drop k := by
      rw [← drop_drop]
      exact drop_subset more _
    cases waiting : (staleQueue db older).drop k with
    | nil => exact .inr fun x mem => absurd (waiting ▸ behind mem) not_mem_nil
    | cons first rest =>
      by_cases failing : fails first.requestId
      · have suffix := pairwise_cons.mp (waiting ▸ ordered.sublist (drop_sublist k _))
        refine .inr fun x mem => ?_
        rcases mem_cons.mp (waiting ▸ behind mem) with rfl | later
        · exact failing
        · exact suffix.1 x later failing
      · have moved := progress first (by rw [waiting]; rfl) failing
        rcases reach ordered with far | all
        · exact .inl (by omega)
        · exact absurd (all first (waiting ▸ List.mem_cons_self)) failing

theorem recovery_reaches_iff {clock : Nat → Int} (onward : ∀ n, db.now ≤ clock n) (verdict : ReleaseFails db older fails)
    (limit : Int) :
    (∃ n, ∀ record ∈ staleQueue db older, ¬fails record.requestId →
        (recoveryPasses clock older limit db n).Released record.requestId) ↔
      (staleQueue db older).Pairwise fun first second => fails first.requestId → fails second.requestId := by
  constructor
  · rintro ⟨n, released⟩
    obtain ⟨k, front, _⟩ := passes_front onward verdict limit n
    rw [pairwise_iff_getElem]
    intro i j inside within before failing
    by_contra good
    have kept : j < k := by
      by_contra beyond
      have waits : (staleQueue db older)[j] ∈ (staleQueue db older).drop k :=
        mem_drop_iff_getElem.mpr ⟨j - k, by omega, by congr 1; omega⟩
      obtain ⟨found, reserved, _⟩ := mem_queueBefore.mp (front.queue ▸ waits)
      obtain ⟨row, same, state⟩ := released _ (getElem_mem within) good
      obtain rfl := Option.mem_unique found same
      rw [reserved] at state
      cases state
    exact front.succeeded _ (mem_take_iff_getElem.mpr ⟨i, by omega, rfl⟩) failing
  · intro ordered
    obtain ⟨k, front, reach⟩ := passes_front onward verdict limit (staleQueue db older).length
    refine ⟨(staleQueue db older).length, fun record member good => ?_⟩
    obtain ⟨found, reserved, old⟩ := mem_queueBefore.mp member
    rcases front.recovering.unmoved_or_released found with same | released
    · have waits : record ∈ (staleQueue db older).drop k := front.queue ▸ mem_queueBefore.mpr ⟨same, reserved, old⟩
      rcases reach ordered with far | all
      · rw [drop_eq_nil_of_le far] at waits
        cases waits
      · exact absurd (all record waits) good
    · exact released

theorem Recovering.without_records (recovering : Recovering db s) (cleaned : db.preConsumeRecords = empty) :
    s.preConsumeRecords = empty := by
  induction recovering with
  | start => exact cleaned
  | tick _ _ ih => exact ih
  | @release s reqId _ ih =>
    rcases releaseReservation_cases s reqId true with same | ⟨record, s', found, freed, ran, out⟩
    · rw [releaseUnsentBillingReservation, same]
      exact ih
    obtain rfl : record.requestId = reqId := key_of_find found
    cases kind : record.source with
    | wallet =>
      obtain ⟨_, rfl⟩ := (releaseBillingReservationTx_wallet_ok found kind freed).mp ran
      rw [releaseUnsentBillingReservation, out]
      exact ih
    | subscription => exact absurd (by rw [ih]; rfl) (releaseUnsent_recorded found freed kind out)

theorem recovery_reaches_abandoned : staleQueue beforeOrphaned 600 = [abandoned, { orphaned with updatedAt := 2 }] ∧
    ∃ n, ∀ record ∈ staleQueue beforeOrphaned 600, record.requestId ≠ "orphaned" →
      (recoveryPasses (fun _ => 1000) 600 100 beforeOrphaned n).Released record.requestId := by
  have queue : staleQueue beforeOrphaned 600 = [abandoned, { orphaned with updatedAt := 2 }] := rfl
  refine ⟨queue, (@recovery_reaches_iff beforeOrphaned 600 (· = "orphaned") _ (fun _ => Int.le_refl _) ?_ 100).mpr ?_⟩
  · intro s recovering record member found
    rw [queue, mem_pair] at member
    rcases member with rfl | rfl
    · rw [releaseUnsent_wallet found rfl rfl (by decide)]
      decide
    · rcases releaseUnsent_reserved found rfl with ⟨_, out⟩ | ⟨_, out, _⟩
      · rw [out]
        exact iff_of_true rfl rfl
      · refine absurd ?_ (releaseUnsent_recorded found (fun kept => kept.1 rfl) rfl out)
        rw [recovering.without_records rfl]
        rfl
  · rw [queue]
    decide

theorem orphaned_blocks_abandoned :
    staleQueue behindOrphaned 600 = [orphaned, abandoned] ∧
      (releaseUnsentBillingReservation behindOrphaned "orphaned").1.isOk = false ∧
      (releaseUnsentBillingReservation behindOrphaned "abandoned").1.isOk = true ∧
      ∀ n, ¬(recoveryPasses (fun _ => 1000) 600 100 behindOrphaned n).Released "abandoned" := by
  have same : ∀ n, recoveryPasses (fun _ => 1000) 600 100 behindOrphaned n = behindOrphaned := by
    intro n
    induction n with
    | zero => rfl
    | succ n ih =>
      rw [recoveryPasses, ih]
      rfl
  refine ⟨rfl, rfl, rfl, fun n => ?_⟩
  rw [same]
  rintro ⟨_, ⟨rfl⟩, state⟩
  cases state

end Wildflow.Billing
