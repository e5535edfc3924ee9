import Wildflow.Store.Interleaving
import Wildflow.Store.Dict

/-!
# Keys of a multi-key channel

`GetNextEnabledKey` and `UpdateChannelStatus` of `model/channel.go` on one channel, with the memory cache off. `keys` is
what `GetKeys` returns; nothing here changes it.
-/

namespace Wildflow.Channels
open Wildflow.Store

def channelStatusEnabled : Int := 1

def channelStatusAutoDisabled : Int := 3

inductive MultiKeyMode where
  | random
  | polling
  | other

structure ChannelInfo where
  isMultiKey : Bool
  multiKeyStatusList : Dict Nat Int
  multiKeyDisabledReason : Dict Nat String
  multiKeyDisabledTime : Dict Nat Nat
  multiKeyPollingIndex : Int
  multiKeyMode : MultiKeyMode

structure Channel where
  key : String
  keys : List String
  status : Int
  statusReason : String
  statusTime : Nat
  channelInfo : ChannelInfo

structure KeyStore where
  now : Nat
  row : Channel
  lock : Option Nat

def ChannelInfo.getStatus (info : ChannelInfo) (idx : Nat) : Int :=
  (info.multiKeyStatusList.get idx).getD channelStatusEnabled

def ChannelInfo.enabled (info : ChannelInfo) (idx : Nat) : Bool := info.getStatus idx = channelStatusEnabled

def Channel.enabledIdx (channel : Channel) : List Nat :=
  (List.range channel.keys.length).filter channel.channelInfo.enabled

inductive KeyCall where
  | request (draw : Nat)
  | updateChannelStatus (usingKey : String) (status : Int) (reason : String)

inductive KeyResult where
  | key (idx : Nat) (key : String)
  | noKey (message : String)
  | updated (ok : Bool)

inductive KeyPoint where
  | load (draw : Nat)
  | pollLock (channel : Channel) (draw : Nat)
  | pollRead (channel : Channel) (first : Nat)
  | saveChannelInfo (channel : Channel) (result : KeyResult)
  | statusLock (usingKey : String) (status : Int) (reason : String)
  | statusRead (usingKey : String) (status : Int) (reason : String)
  | saveStatusState (channel : Channel)
  | unlock (result : KeyResult)

section
variable (channel : Channel)

def Channel.given (idx : Nat) : KeyResult := .key idx (channel.keys.getD idx "")

def Channel.getNextEnabledKey (draw : Nat) : KeyPoint ⊕ KeyResult :=
  if channel.channelInfo.isMultiKey = false then .inr (.key 0 channel.key)
  else if channel.keys = [] then .inr (.noKey "no keys available")
  else .inl (.pollLock channel draw)

def Channel.chooseKey (draw : Nat) : KeyPoint :=
  match channel.enabledIdx with
  | [] => .unlock (.noKey "no enabled keys")
  | first :: rest =>
    match channel.channelInfo.multiKeyMode with
    | .random => .unlock (channel.given ((first :: rest).getD (draw % (rest.length + 1)) first))
    | .polling => .pollRead channel first
    | .other => .unlock (channel.given first)

def pollingStart (stored : ChannelInfo) : Nat :=
  if stored.multiKeyPollingIndex < 0 ∨ channel.keys.length ≤ stored.multiKeyPollingIndex then 0
  else stored.multiKeyPollingIndex.toNat

def nextEnabled (start : Nat) : Option Nat :=
  ((List.range channel.keys.length).map fun i => (start + i) % channel.keys.length).find? channel.channelInfo.enabled

def Channel.movePollingIndex (idx : Nat) : Channel :=
  { channel with channelInfo :=
      { channel.channelInfo with multiKeyPollingIndex := ((idx + 1) % channel.keys.length : Nat) } }

/-- The polling index is the stored one, everything else comes from the channel as the request loaded it. -/
def poll (first : Nat) (stored : ChannelInfo) : KeyPoint :=
  match nextEnabled channel (pollingStart channel stored) with
  | some idx => .saveChannelInfo (channel.movePollingIndex idx) (channel.given idx)
  | none => .saveChannelInfo channel (channel.given first)

def hasEnabledMultiKey (keys : List String) (info : ChannelInfo) : Bool := (List.range keys.length).any info.enabled

def setKeyStatus (info : ChannelInfo) (keyIndex : Nat) (status : Int) (reason : String) (now : Nat) : ChannelInfo :=
  if status = channelStatusEnabled then { info with multiKeyStatusList := info.multiKeyStatusList.erase keyIndex }
  else
    { info with
      multiKeyStatusList := info.multiKeyStatusList.set keyIndex status
      multiKeyDisabledReason := info.multiKeyDisabledReason.set keyIndex reason
      multiKeyDisabledTime := info.multiKeyDisabledTime.set keyIndex now }

def Channel.withStatus (status : Int) (reason : String) (now : Nat) : Channel :=
  { channel with status, statusReason := reason, statusTime := now }

def handlerMultiKeyUpdate (usingKey : String) (status : Int) (reason : String) (now : Nat) : Channel :=
  if channel.keys = [] then { channel with status }
  else
    match channel.keys.idxOf? usingKey with
    | none => if usingKey = "" then channel.withStatus status reason now else channel
    | some keyIndex =>
      let changed := { channel with channelInfo := setKeyStatus channel.channelInfo keyIndex status reason now }
      if hasEnabledMultiKey channel.keys changed.channelInfo = false then
        changed.withStatus channelStatusAutoDisabled "All keys are disabled" now
      else if status = channelStatusEnabled then { changed with status }
      else changed

def updatedChannel (usingKey : String) (status : Int) (reason : String) (now : Nat) : Channel :=
  if channel.channelInfo.isMultiKey then handlerMultiKeyUpdate channel usingKey status reason now
  else channel.withStatus status reason now

end

def Channel.saveStatusState (row channel : Channel) : Channel :=
  { row with
    status := channel.status
    statusReason := channel.statusReason
    statusTime := channel.statusTime
    channelInfo := if channel.channelInfo.isMultiKey then channel.channelInfo else row.channelInfo }

def enterKeys : KeyCall → KeyPoint
  | .request draw => .load draw
  | .updateChannelStatus usingKey status reason => .statusLock usingKey status reason

def advanceKeys (s : KeyStore) (pid : Nat) : KeyPoint → KeyStore × (KeyPoint ⊕ KeyResult)
  | .load draw => (s, s.row.getNextEnabledKey draw)
  | .pollLock channel draw =>
    if s.lock = none then ({ s with lock := some pid }, .inl (channel.chooseKey draw)) else (s, .inl (.pollLock channel draw))
  | .pollRead channel first => (s, .inl (poll channel first s.row.channelInfo))
  | .saveChannelInfo channel result =>
    ({ s with row := { s.row with channelInfo := channel.channelInfo } }, .inl (.unlock result))
  | .statusLock usingKey status reason =>
    if s.lock = none then ({ s with lock := some pid }, .inl (.statusRead usingKey status reason))
    else (s, .inl (.statusLock usingKey status reason))
  | .statusRead usingKey status reason =>
    if s.row.status = status then (s, .inl (.unlock (.updated false)))
    else (s, .inl (.saveStatusState (updatedChannel s.row usingKey status reason s.now)))
  | .saveStatusState channel => ({ s with row := s.row.saveStatusState channel }, .inl (.unlock (.updated true)))
  | .unlock result => ({ s with lock := none }, .inr result)

def channelKeys : Program KeyStore KeyCall KeyPoint KeyResult where
  enter := enterKeys
  advance := advanceKeys
  wait := fun s duration => { s with now := s.now + duration }

def storedChannel (row : Channel) : Config KeyStore KeyCall KeyPoint KeyResult := ⟨⟨0, row, none⟩, []⟩

end Wildflow.Channels
