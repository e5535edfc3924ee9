import Mathlib.Data.List.Dedup
import Wildflow.Store.Dict

/-!
# Batched accounting

`addNewRecord` and `batchUpdate` of `model/utils.go`. A flush empties the stores and writes what was in them, the three
amounts of a user at once; a write of zeros, which the source leaves out, changes nothing.
-/

namespace Wildflow.Billing
open Wildflow.Store

inductive BatchUpdateType where
  | userQuota | tokenQuota | usedQuota | channelUsedQuota | requestCount
deriving DecidableEq

inductive BatchWrite where
  | user (id : Int) | token (id : Int) | channel (id : Int)

def BatchUpdateType.write : BatchUpdateType → Int → BatchWrite
  | .userQuota | .usedQuota | .requestCount => .user
  | .tokenQuota => .token
  | .channelUsedQuota => .channel

/-- `applied` is what the writes have put into the columns, `added` what the calls have asked for. -/
structure Batch where
  stores : BatchUpdateType → Dict Int Int := fun _ => .empty
  applied : BatchUpdateType → Int → Int := fun _ _ => 0
  added : BatchUpdateType → Int → Int := fun _ _ => 0

namespace Batch

def value (s : Batch) (type : BatchUpdateType) (id : Int) : Int := ((s.stores type).get id).getD 0

def addNewRecord (s : Batch) (type : BatchUpdateType) (id value : Int) : Batch :=
  let sum := match (s.stores type).get id with
    | none => value
    | some old => max (-9223372036854775808) (min 9223372036854775807 (old + value))
  { s with
    stores := Function.update s.stores type ((s.stores type).set id sum)
    added := fun t i => if t = type ∧ i = id then s.added t i + value else s.added t i }

/-- One `UPDATE` for each id; `written` says which of them change a row. -/
def writeEach (written : BatchWrite → Bool) (types : List BatchUpdateType) (ids : List Int) (s : Batch) : Batch :=
  ids.foldl (fun s id => { s with
    applied := fun type i =>
      if i = id ∧ type ∈ types ∧ written (type.write id) then s.applied type i + s.value type i else s.applied type i }) s

def batchUpdate (s : Batch) (written : BatchWrite → Bool) : Batch :=
  let keys := fun type => (s.stores type).keys
  let userIDs := (keys .userQuota ++ keys .usedQuota ++ keys .requestCount).dedup
  let flushed := s.writeEach written [.tokenQuota] (keys .tokenQuota)
    |>.writeEach written [.channelUsedQuota] (keys .channelUsedQuota)
    |>.writeEach written [.userQuota, .usedQuota, .requestCount] userIDs
  { flushed with stores := fun _ => .empty }

end Batch

inductive BatchStep where
  | addNewRecord (type : BatchUpdateType) (id value : Int)
  | batchUpdate (written : BatchWrite → Bool)

def applyBatchStep (s : Batch) : BatchStep → Batch
  | .addNewRecord type id value => s.addNewRecord type id value
  | .batchUpdate written => s.batchUpdate written

end Wildflow.Billing
