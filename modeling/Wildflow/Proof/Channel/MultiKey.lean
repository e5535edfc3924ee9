import Wildflow.Channel.MultiKey

/-!
# Disabled keys

A request writes back what it loaded before it had the polling lock: a disabled key stays disabled as long as no request
does so with keys that have changed since.
-/

namespace Wildflow.Channels
open Wildflow.Store ChannelInfo List
variable {channel : Channel} {call : KeyCall} {s : KeyStore} {k pid : Nat} {reason : String}

def ChannelInfo.Disabled (info : ChannelInfo) (k : Nat) (reason : String) : Prop :=
  info.enabled k = false ∧ info.multiKeyDisabledReason.get k = some reason

abbrev KeyConfig := Config KeyStore KeyCall KeyPoint KeyResult

def ChannelInfo.sameKeys (info stored : ChannelInfo) : Bool :=
  info.multiKeyStatusList.rows = stored.multiKeyStatusList.rows ∧
    info.multiKeyDisabledReason.rows = stored.multiKeyDisabledReason.rows

def keyGuard (c : KeyConfig) : Move KeyCall → Prop
  | .start _ | .wait _ => True
  | .step pid => (c.procs[pid]?.all fun proc =>
    match proc.state with
    | .inl (.saveChannelInfo channel _) => channel.channelInfo.sameKeys c.shared.row.channelInfo
    | _ => true) = true

instance (c : KeyConfig) (m : Move KeyCall) : Decidable (keyGuard c m) :=
  match m with
  | .start _ | .wait _ => .isTrue trivial
  | .step _ => instDecidableEqBool _ _

theorem ChannelInfo.Disabled.sameKeys {info stored : ChannelInfo}
    (disabled : stored.Disabled k reason) (same : info.sameKeys stored = true) : info.Disabled k reason := by
  obtain ⟨statuses, reasons⟩ := of_decide_eq_true same
  have statusesAgree : info.multiKeyStatusList.get k = stored.multiKeyStatusList.get k := by
    simp only [Dict.get, Table.find, statuses]
  have reasonsAgree : info.multiKeyDisabledReason.get k = stored.multiKeyDisabledReason.get k := by
    simp only [Dict.get, Table.find, reasons]
  refine ⟨?_, reasonsAgree.trans disabled.2⟩
  have before := disabled.1
  simp only [enabled, getStatus, statusesAgree] at before ⊢
  exact before

theorem setKeyStatus_disabled {info : ChannelInfo} (disabled : info.Disabled k reason) (keyIndex : Nat)
    (status : Int) (msg : String) (now : Nat) :
    (setKeyStatus info keyIndex status msg now).Disabled k reason ∨
      keyIndex = k ∧ (status = channelStatusEnabled ∨ (setKeyStatus info keyIndex status msg now).Disabled k msg) := by
  by_cases own : keyIndex = k
  · subst own
    refine .inr ⟨rfl, ?_⟩
    by_cases enables : status = channelStatusEnabled
    · exact .inl enables
    · refine .inr ⟨?_, ?_⟩
      · simp [setKeyStatus, enables, enabled, getStatus]
      · simp [setKeyStatus, enables]
  · left
    obtain ⟨off, why⟩ := disabled
    unfold setKeyStatus
    split
    · refine ⟨?_, why⟩
      simp only [enabled, getStatus, Dict.get_erase_of_ne _ own] at off ⊢
      exact off
    · refine ⟨?_, (Dict.get_set_of_ne _ own _).trans why⟩
      simp only [enabled, getStatus, Dict.get_set_of_ne _ own] at off ⊢
      exact off

theorem updatedChannel_info (multi : channel.channelInfo.isMultiKey = true) (usingKey : String) (status : Int)
    (reason : String) (now : Nat) :
    (updatedChannel channel usingKey status reason now).channelInfo = channel.channelInfo ∨
      ∃ keyIndex, channel.keys.idxOf? usingKey = some keyIndex ∧
        (updatedChannel channel usingKey status reason now).channelInfo =
          setKeyStatus channel.channelInfo keyIndex status reason now := by
  unfold updatedChannel handlerMultiKeyUpdate
  rw [if_pos multi]
  split
  · exact .inl rfl
  split
  · split <;> exact .inl rfl
  next keyIndex found =>
  refine .inr ⟨keyIndex, found, ?_⟩
  dsimp only
  split
  · rfl
  · split <;> rfl

theorem setKeyStatus_isMultiKey (info : ChannelInfo) (keyIndex : Nat) (status : Int) (reason : String) (now : Nat) :
    (setKeyStatus info keyIndex status reason now).isMultiKey = info.isMultiKey := by
  unfold setKeyStatus
  split <;> rfl

def PointHolds (s : KeyStore) (pid : Nat) (call : KeyCall) : KeyPoint → Prop
  | .pollLock channel _ => channel.channelInfo.isMultiKey = true
  | .pollRead channel _ | .saveChannelInfo channel _ => s.lock = some pid ∧ channel.channelInfo.isMultiKey = true
  | .statusLock usingKey status reason => call = .updateChannelStatus usingKey status reason
  | .statusRead usingKey status reason => s.lock = some pid ∧ call = .updateChannelStatus usingKey status reason
  | .saveStatusState channel => s.lock = some pid ∧ ∃ usingKey status reason now,
      call = .updateChannelStatus usingKey status reason ∧ channel = updatedChannel s.row usingKey status reason now
  | .unlock _ => s.lock = some pid
  | .load _ => True

def ProcHolds (s : KeyStore) (pid : Nat) (proc : Process KeyCall KeyPoint KeyResult) : Prop :=
  proc.state.elim (PointHolds s pid proc.call) fun _ => True

def MultiKey (keys : List String) (s : KeyStore) : Prop := s.row.channelInfo.isMultiKey = true ∧ s.row.keys = keys

theorem chooseKey_holds (draw : Nat) (locked : s.lock = some pid)
    (multi : channel.channelInfo.isMultiKey = true) : PointHolds s pid call (channel.chooseKey draw) := by
  unfold Channel.chooseKey
  split
  · exact locked
  · split
    · exact locked
    · exact ⟨locked, multi⟩
    · exact locked

theorem updatedChannel_isMultiKey (multi : channel.channelInfo.isMultiKey = true) (usingKey : String)
    (status : Int) (reason : String) (now : Nat) :
    (updatedChannel channel usingKey status reason now).channelInfo.isMultiKey = true := by
  rcases updatedChannel_info multi usingKey status reason now with same | ⟨keyIndex, _, changed⟩
  · rw [same]
    exact multi
  · rw [changed, setKeyStatus_isMultiKey]
    exact multi

theorem advanceKeys_holds {keys : List String} {point : KeyPoint}
    (multi : MultiKey keys s) (holds : PointHolds s pid call point) :
    MultiKey keys (advanceKeys s pid point).1 ∧
      ProcHolds (advanceKeys s pid point).1 pid ⟨call, (advanceKeys s pid point).2⟩ := by
  cases point with
  | load draw =>
    refine ⟨multi, ?_⟩
    simp only [advanceKeys, Channel.getNextEnabledKey, multi.1]
    rw [if_neg (by simp)]
    split
    · trivial
    · exact multi.1
  | pollLock channel draw =>
    simp only [advanceKeys]
    split
    · exact ⟨multi, chooseKey_holds draw rfl holds⟩
    · exact ⟨multi, holds⟩
  | pollRead channel first =>
    refine ⟨multi, ?_⟩
    simp only [advanceKeys, poll]
    split
    · exact holds
    · exact holds
  | saveChannelInfo channel res => exact ⟨⟨holds.2, multi.2⟩, holds.1⟩
  | statusLock usingKey status reason =>
    simp only [advanceKeys]
    split
    · exact ⟨multi, rfl, holds⟩
    · exact ⟨multi, holds⟩
  | statusRead usingKey status reason =>
    simp only [advanceKeys]
    split
    · exact ⟨multi, holds.1⟩
    · exact ⟨multi, holds.1, usingKey, status, reason, s.now, holds.2, rfl⟩
  | saveStatusState channel =>
    obtain ⟨locked, usingKey, status, reason, now, _, rfl⟩ := holds
    have still := updatedChannel_isMultiKey multi.1 usingKey status reason now
    refine ⟨⟨?_, multi.2⟩, locked⟩
    simp only [advanceKeys, Channel.saveStatusState, still, if_true]
  | unlock res => exact ⟨multi, trivial⟩

theorem advanceKeys_others {other : Nat} {callOther : KeyCall} {point pointOther : KeyPoint}
    (ne : other ≠ pid) (holds : PointHolds s pid call point) (before : PointHolds s other callOther pointOther) :
    PointHolds (advanceKeys s pid point).1 other callOther pointOther := by
  have apart : ¬ (s.lock = some pid ∧ s.lock = some other) := fun both => ne (Option.mem_unique both.2 both.1)
  have kept : s.lock = some other → (advanceKeys s pid point).1.lock = some other ∧ (advanceKeys s pid point).1.row = s.row := by
    intro held
    cases point with
    | load | pollRead => exact ⟨held, rfl⟩
    | pollLock | statusLock =>
      simp only [advanceKeys, held]
      exact ⟨held, rfl⟩
    | statusRead =>
      simp only [advanceKeys]
      split <;> exact ⟨held, rfl⟩
    | saveChannelInfo | saveStatusState => exact absurd ⟨holds.1, held⟩ apart
    | unlock => exact absurd ⟨holds, held⟩ apart
  cases pointOther with
  | load | pollLock | statusLock => exact before
  | pollRead | saveChannelInfo | statusRead => exact ⟨(kept before.1).1, before.2⟩
  | saveStatusState channel =>
    obtain ⟨held, usingKey, status, reason, now, own, same⟩ := before
    refine ⟨(kept held).1, usingKey, status, reason, now, own, ?_⟩
    rw [(kept held).2]
    exact same
  | unlock => exact (kept before).1

theorem channelKeys_interleaved (keys : List String) : Interleaved channelKeys keyGuard (MultiKey keys) ProcHolds where
  start c call _ _ := by
    cases call with
    | request draw => trivial
    | updateChannelStatus usingKey status reason => rfl
  waits c duration holds _ := by
    refine ⟨holds.1, fun pid proc found => ?_⟩
    have before := holds.2 pid proc found
    obtain ⟨call, point | result⟩ := proc
    · cases point <;> exact before
    · trivial
  steps c pid call point holds _ found := advanceKeys_holds holds.1 (holds.2 pid _ found)
  others c pid call point holds _ found other proc different foundOther := by
    have before := holds.2 other proc foundOther
    obtain ⟨callOther, pointOther | result⟩ := proc
    · exact advanceKeys_others different (holds.2 pid _ found) before
    · trivial

def Updating (c : KeyConfig) (keys : List String) (k pid : Nat) (status : Int) (reason : String) : Prop :=
  ∃ usingKey channel, c.procs[pid]? = some ⟨.updateChannelStatus usingKey status reason, .inl (.saveStatusState channel)⟩ ∧
    keys.idxOf? usingKey = some k

theorem move_disabled {keys : List String} {c : KeyConfig} {m : Move KeyCall}
    (holds : Holds (MultiKey keys) ProcHolds c) (allowed : keyGuard c m) (disabled : c.shared.row.channelInfo.Disabled k reason) :
    (channelKeys.move c m).shared.row.channelInfo.Disabled k reason ∨
      ∃ pid status msg, m = .step pid ∧ Updating c keys k pid status msg ∧
        (status = channelStatusEnabled ∨ (channelKeys.move c m).shared.row.channelInfo.Disabled k msg) := by
  cases m with
  | start call => exact .inl disabled
  | wait duration => exact .inl disabled
  | step pid =>
    simp only [keyGuard] at allowed
    unfold Program.move
    dsimp only
    split
    · next call point found =>
      rw [found] at allowed
      cases point with
      | load | pollRead | unlock => exact .inl disabled
      | pollLock | statusLock | statusRead =>
        simp only [channelKeys, advanceKeys]
        split <;> exact .inl disabled
      | saveChannelInfo channel res => exact .inl (disabled.sameKeys allowed)
      | saveStatusState channel =>
        obtain ⟨_, usingKey, status, msg, now, rfl, rfl⟩ := holds.2 pid _ found
        have multi := holds.1.1
        have still := updatedChannel_isMultiKey multi usingKey status msg now
        simp only [channelKeys, advanceKeys, Channel.saveStatusState, still, if_true]
        rcases updatedChannel_info multi usingKey status msg now with same | ⟨keyIndex, named, changed⟩
        · rw [same]
          exact .inl disabled
        rw [holds.1.2] at named
        rw [changed]
        refine (setKeyStatus_disabled disabled keyIndex status msg now).imp id ?_
        rintro ⟨rfl, out⟩
        exact ⟨pid, status, msg, rfl, ⟨usingKey, _, found, named⟩, out⟩
    · exact .inl disabled

def notGiven (k : Nat) : KeyResult → Prop
  | .key idx _ => idx ≠ k
  | _ => True

def PassesOver (k : Nat) (proc : Process KeyCall KeyPoint KeyResult) : Prop :=
  match proc.state with
  | .inl (.pollLock channel _) => channel.channelInfo.enabled k = false
  | .inl (.pollRead channel first) => channel.channelInfo.enabled k = false ∧ first ≠ k
  | .inl (.saveChannelInfo _ result) | .inl (.unlock result) | .inr result => notGiven k result
  | _ => False

theorem enabledIdx_passesOver {idx : Nat} (off : channel.channelInfo.enabled k = false)
    (mem : idx ∈ channel.enabledIdx) : idx ≠ k := by
  rintro rfl
  have on := (mem_filter.mp mem).2
  rw [off] at on
  cases on

theorem PassesOver.next (s : KeyStore) (call : KeyCall) (point : KeyPoint) (past : PassesOver k ⟨call, .inl point⟩) :
    PassesOver k ⟨call, (channelKeys.advance s pid point).2⟩ := by
  cases point with
  | load | statusLock | statusRead | saveStatusState => exact past.elim
  | pollLock channel draw =>
    simp only [channelKeys, advanceKeys]
    split
    · simp only [Channel.chooseKey]
      split
      · exact trivial
      · next first rest listed =>
        have given : ∀ idx ∈ first :: rest, idx ≠ k := fun idx mem => enabledIdx_passesOver past (listed ▸ mem)
        split
        · refine given _ ?_
          rw [getD_eq_getElem?_getD]
          cases drawn : (first :: rest)[draw % (rest.length + 1)]? with
          | none => exact List.mem_cons_self
          | some idx => exact mem_of_getElem? drawn
        · exact ⟨past, given first List.mem_cons_self⟩
        · exact given first List.mem_cons_self
    · exact past
  | pollRead channel first =>
    simp only [channelKeys, advanceKeys, poll]
    split
    · next idx found =>
      have on := find?_some found
      change idx ≠ k
      rintro rfl
      rw [past.1] at on
      cases on
    · exact past.2
  | saveChannelInfo channel res => exact past
  | unlock res => exact past

theorem disabled_key_stays_disabled (row : Channel) (multi : row.channelInfo.isMultiKey = true) (moves : List (Move KeyCall))
    (allowed : Guarded channelKeys.move keyGuard (storedChannel row) moves) (k : Nat) (reason : String)
    (disabled : (runSteps channelKeys.move (storedChannel row) moves).shared.row.channelInfo.Disabled k reason) :
    let c := runSteps channelKeys.move (storedChannel row) moves
    (∀ m, keyGuard c m → (channelKeys.move c m).shared.row.channelInfo.Disabled k reason ∨
      ∃ pid status message, m = .step pid ∧ Updating c row.keys k pid status message ∧
        (status = channelStatusEnabled ∨ (channelKeys.move c m).shared.row.channelInfo.Disabled k message)) ∧
    ∀ pid call draw, c.procs[pid]? = some ⟨call, .inl (.load draw)⟩ → ∀ later key,
      (runSteps channelKeys.move (channelKeys.move c (.step pid)) later).procs[pid]? ≠ some ⟨call, .inr (.key k key)⟩ := by
  intro c
  have holds : Holds (MultiKey row.keys) ProcHolds c :=
    (channelKeys_interleaved row.keys).run (Holds.idle ⟨multi, rfl⟩) allowed
  refine ⟨fun m may => move_disabled holds may disabled, fun pid call draw found later key given => ?_⟩
  have loaded : (channelKeys.move c (.step pid)).procs[pid]? = some ⟨call, c.shared.row.getNextEnabledKey draw⟩ := by
    obtain ⟨inside, _⟩ := List.getElem?_eq_some_iff.mp found
    simp only [Program.move, found]
    exact List.getElem?_set_self inside
  have past : PassesOver k ⟨call, c.shared.row.getNextEnabledKey draw⟩ := by
    simp only [Channel.getNextEnabledKey, holds.1.1]
    rw [if_neg (by simp)]
    split
    · exact trivial
    · exact disabled.1
  obtain ⟨proc, foundLater, overLater⟩ := Program.follow PassesOver.next later loaded past
  rw [given] at foundLater
  cases foundLater
  exact overLater rfl

def twoKeys : Channel :=
  { key := "a\nb", keys := ["a", "b"], status := 1, statusReason := "", statusTime := 0
    channelInfo := ⟨true, Dict.empty, Dict.empty, Dict.empty, 1, .polling⟩ }

def disableFirst : List (Move KeyCall) :=
  [.start (.request 0), .start (.updateChannelStatus "a" 3 "quota"), .step 1, .step 1, .step 1, .step 1]

theorem disabled_key_stays_disabled_first :
    (runSteps channelKeys.move (storedChannel twoKeys) disableFirst).shared.row.channelInfo.Disabled 0 "quota" ∧
      ∀ later key, (runSteps channelKeys.move
        (channelKeys.move (runSteps channelKeys.move (storedChannel twoKeys) disableFirst) (.step 0)) later).procs[0]? ≠
          some ⟨.request 0, .inr (.key 0 key)⟩ := by
  have disabled : (runSteps channelKeys.move (storedChannel twoKeys) disableFirst).shared.row.channelInfo.Disabled 0 "quota" :=
    ⟨by decide +kernel, by decide +kernel⟩
  exact ⟨disabled,
    (disabled_key_stays_disabled twoKeys rfl disableFirst (by decide +kernel) 0 "quota" disabled).2 0 (.request 0) 0 rfl⟩

def pollOverDisable : List (Move KeyCall) :=
  .start (.request 0) :: .step 0 :: (disableFirst.drop 1 ++ [.step 0, .step 0, .step 0, .step 0] ++
    [.start (.request 0), .step 2, .step 2, .step 2, .step 2, .step 2])

theorem poll_enables_disabled_key :
    (runSteps channelKeys.move (storedChannel twoKeys) (pollOverDisable.take 7)).shared.row.channelInfo.Disabled 0 "quota" ∧
      ((runSteps channelKeys.move (storedChannel twoKeys) (pollOverDisable.take 7)).procs.map Process.state)[1]? =
        some (.inr (.updated true)) ∧
      (runSteps channelKeys.move (storedChannel twoKeys) pollOverDisable).shared.row.channelInfo.enabled 0 = true ∧
      (runSteps channelKeys.move (storedChannel twoKeys) pollOverDisable).procs[2]?.map Process.state =
        some (.inr (.key 0 "a")) :=
  ⟨⟨by decide +kernel, by decide +kernel⟩, rfl, by decide +kernel, rfl⟩

end Wildflow.Channels
