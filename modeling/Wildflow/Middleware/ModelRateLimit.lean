import Wildflow.Store.Dict
import Wildflow.Store.Run

/-!
# The limit on successful model requests

The success limit of `middleware/model-rate-limit.go` on both back ends, without a total limit. Times are in
milliseconds; the commands of one check, and those of one record, run at one instant.
-/

namespace Wildflow.Middleware
open Wildflow.Store

/-- `minutes` is the setting behind `duration`, which is in seconds. -/
structure LimitConfig where
  duration : Nat
  minutes : Nat
  successMaxCount : Nat

structure Limiter (σ : Type) where
  check : σ → Nat → Nat → σ × Bool
  record : σ → Nat → Nat → σ
  tidy : σ → Nat → σ

inductive LimitEvent where
  | request (user wait took : Nat) (ok : Bool)
  | tidy (wait : Nat)

structure Served (σ : Type) where
  store : σ
  now : Nat
  succeeded : List (Nat × Nat)

def Limiter.serve {σ : Type} (limiter : Limiter σ) (s : Served σ) : LimitEvent → Served σ
  | .request user wait took ok =>
    let now := s.now + wait
    match limiter.check s.store user now with
    | (store, false) => { s with store, now }
    | (store, true) =>
      if ok then ⟨limiter.record store user (now + took), now + took, (user, now + took) :: s.succeeded⟩
      else { s with store, now := now + took }
  | .tidy wait => { s with store := limiter.tidy s.store (s.now + wait), now := s.now + wait }

structure RedisList where
  entries : List Nat
  expireAt : Nat

def liveEntries (store : Dict Nat RedisList) (user now : Nat) : List Nat :=
  match store.get user with
  | some list => if now < list.expireAt then list.entries else []
  | none => []

inductive LimitKey where
  | success (user : Nat)
  | successCheck (user : Nat)
deriving DecidableEq

/-- `InMemoryRateLimiter.Request`, with the oldest entry first and `now` in seconds. -/
def memoryRequest (store : Dict LimitKey (List Nat)) (key : LimitKey) (maxRequestNum duration now : Nat) :
    Dict LimitKey (List Nat) × Bool :=
  match store.get key with
  | none => (store.set key [now], true)
  | some queue =>
    if queue.length < maxRequestNum then (store.set key (queue ++ [now]), true)
    else if duration ≤ now - queue.headD 0 then (store.set key (queue.tail ++ [now]), true)
    else (store, false)

section
variable (config : LimitConfig)

def checkRedisRateLimit (store : Dict Nat RedisList) (user now : Nat) : Dict Nat RedisList × Bool :=
  if config.successMaxCount = 0 then (store, true)
  else if (liveEntries store user now).length < config.successMaxCount then (store, true)
  else
    match (liveEntries store user now).getLast? with
    | none => (store, false)
    | some oldTime =>
      if (now - oldTime) / 1000 < config.duration then
        (store.set user ⟨liveEntries store user now, now + config.minutes * 60000⟩, false)
      else (store, true)

def recordRedisRequest (store : Dict Nat RedisList) (user now : Nat) : Dict Nat RedisList :=
  if config.successMaxCount = 0 then store
  else store.set user ⟨(now :: liveEntries store user now).take config.successMaxCount, now + config.minutes * 60000⟩

def redisLimiter : Limiter (Dict Nat RedisList) where
  check := checkRedisRateLimit config
  record := recordRedisRequest config
  tidy := fun store _ => store

def clearExpiredItems (store : Dict LimitKey (List Nat)) (now : Nat) : Dict LimitKey (List Nat) :=
  store.keep fun item => item.2.getLast?.any fun last => now - last ≤ config.minutes * 60

def memoryLimiter : Limiter (Dict LimitKey (List Nat)) where
  check := fun store user now =>
    memoryRequest store (.successCheck user) config.successMaxCount config.duration (now / 1000)
  record := fun store user now =>
    (memoryRequest store (.success user) config.successMaxCount config.duration (now / 1000)).1
  tidy := fun store now => clearExpiredItems config store (now / 1000)

end

end Wildflow.Middleware
