import Mathlib.Algebra.Order.Ring.Defs
import Mathlib.Algebra.Order.Field.Basic
import RetirementPlanner.Lib.KeyedStore
import RetirementPlanner.Lib.Numerals
import RetirementPlanner.Lib.Runs

/-!
# The in-memory rate limiter

`lib/rate-limit.ts`: the requests of a sliding window under each identifier, in a map whose
size is bounded. Once the map is full, new identifiers share an overflow record for each
namespace.

A history of the limiter (`LimiterRun`) takes requests and cleanup passes in any order in
which the clock never goes back, and remembers what was admitted and under which key.
-/

namespace RetirementPlanner.Web

open KeyedStore

variable {K : Type} [Field K] [LinearOrder K]

structure RateRequest (K : Type) where
  time : K
  cost : K
  deriving DecidableEq, Repr

/-- What is kept under a key. -/
structure RateLimitStore (K : Type) where
  /-- The oldest first. -/
  requests : List (RateRequest K)
  resetTime : K
  deriving DecidableEq, Repr

structure RateDecision (K : Type) where
  success : Bool
  remaining : K
  reset : K
  deriving DecidableEq, Repr

abbrev RateLimiter (K : Type) := Store String (RateLimitStore K)

namespace RateLimiter

def maxStoreEntries : ℕ := 10000

def overflowKey : String := "__overflow__"

/-- The part of an identifier before its first colon; `default` where there is none. -/
def namespaceOf (identifier : String) : String :=
  let head := identifier.toList.takeWhile (· ≠ ':')
  if ':' ∈ identifier.toList ∧ head ≠ [] then String.ofList head else "default"

/-- Where an identifier's requests are kept. -/
def storeKeyFor (store : RateLimiter K) (identifier : String) : String :=
  if store.lookup identifier = none ∧ maxStoreEntries ≤ size store then
    overflowKey ++ ":" ++ namespaceOf identifier
  else identifier

/-- The key that is dropped for a new record once the store is full. -/
def dropped (store : RateLimiter K) : Option String :=
  if maxStoreEntries ≤ size store then oldest store else none

/-- Room for a new record. An empty key is falsy, and is not dropped. -/
def makeRoom (store : RateLimiter K) : RateLimiter K :=
  match dropped store with
  | some oldestKey => if oldestKey ≠ "" then store.erase oldestKey else store
  | none => store

def check (store : RateLimiter K) (now : K) (identifier : String) (limit windowMs cost : K) :
    RateDecision K × RateLimiter K :=
  let windowStart := now - windowMs
  let storeKey := storeKeyFor store identifier
  match store.lookup storeKey with
  | none =>
    let record : RateLimitStore K := ⟨[⟨now, cost⟩], now + windowMs⟩
    (⟨true, max 0 (limit - cost), record.resetTime⟩, (makeRoom store).insert storeKey record)
  | some record =>
    -- Filter out requests outside the current window
    let requests := record.requests.filter fun request => windowStart < request.time
    let used := (requests.map (·.cost)).sum
    if limit < used + cost then
      let oldestRequest := (requests.head?.map (·.time)).getD now
      (⟨false, 0, oldestRequest + windowMs⟩, store.replace storeKey { record with requests })
    else
      (⟨true, max 0 (limit - used - cost), now + windowMs⟩,
        store.replace storeKey ⟨requests ++ [⟨now, cost⟩], now + windowMs⟩)

/-- The pass that runs every five minutes. -/
def cleanup (store : RateLimiter K) (now : K) : RateLimiter K :=
  deleteWhere (fun record => decide (record.resetTime < now)) store

end RateLimiter

/-! ## Histories -/

structure RateLimit (K : Type) where
  limit : K
  windowMs : K
  deriving DecidableEq, Repr

inductive LimiterEvent (K : Type)
  | check (now : K) (identifier : String) (cost : K)
  | cleanup (now : K)

/-- A request that was admitted, and the key its record is kept under. -/
structure Admission (K : Type) where
  identifier : String
  storeKey : String
  time : K
  cost : K
  deriving DecidableEq, Repr

/-- A limiter, the time of the last event, and what was admitted so far, the oldest first. -/
structure LimiterRun (K : Type) where
  clock : K
  store : RateLimiter K
  admitted : List (Admission K)

def LimiterRun.start (clock : K) : LimiterRun K := ⟨clock, ∅, []⟩

/-- Each identifier has one limit and one window. -/
def LimiterRun.step (limits : String → RateLimit K) (run : LimiterRun K) :
    LimiterEvent K → Option (LimiterRun K)
  | .check now identifier cost =>
    if run.clock ≤ now then
      let checked := run.store.check now identifier (limits identifier).limit
        (limits identifier).windowMs cost
      some ⟨now, checked.2, if checked.1.success then
          run.admitted ++ [⟨identifier, run.store.storeKeyFor identifier, now, cost⟩]
        else run.admitted⟩
    else none
  | .cleanup now =>
    if run.clock ≤ now then some ⟨now, run.store.cleanup now, run.admitted⟩ else none

end RetirementPlanner.Web
