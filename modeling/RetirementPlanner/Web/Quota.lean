import Mathlib.Algebra.Order.Ring.Defs
import Mathlib.Algebra.Order.Field.Basic
import RetirementPlanner.Lib.KeyedStore
import RetirementPlanner.Lib.Numerals
import RetirementPlanner.Lib.Runs

/-!
# Quota counters

`worker/quota-counter.ts`: a budget per key over a fixed window, kept in the storage of a
durable object. The object holds one pending alarm, which each `setAlarm` replaces and which
is gone once it fires.

The clock of the platform is the `now` a call reads. A counter's history (`QuotaRun`) takes
calls and alarms in any order in which the clock never goes back and no alarm is early.
-/

namespace RetirementPlanner.Web

open KeyedStore

variable {K : Type} [Field K] [LinearOrder K]

/-- A consumable budget over a fixed window. -/
structure Budget (K : Type) where
  limit : K
  windowMs : K
  deriving DecidableEq, Repr

structure QuotaDecision (K : Type) where
  success : Bool
  /-- Epoch milliseconds at which the window resets. -/
  reset : K
  remaining : K
  deriving DecidableEq, Repr

structure WindowState (K : Type) where
  used : K
  reset : K
  deriving DecidableEq, Repr

/-- The storage of the durable object and its pending alarm. -/
structure QuotaCounter (K : Type) where
  storage : Store String (WindowState K)
  pendingAlarm : Option K

def QuotaCounter.empty : QuotaCounter K := ⟨∅, none⟩

/-- The window a call falls in: the stored one while it lasts, or a fresh one. -/
def QuotaCounter.window (counter : QuotaCounter K) (now : K) (key : String) (budget : Budget K) :
    WindowState K :=
  match counter.storage.lookup key with
  | some stored => if now < stored.reset then stored else ⟨0, now + budget.windowMs⟩
  | none => ⟨0, now + budget.windowMs⟩

/-- Nothing is spent on a refusal, so an oversized request cannot starve the window for
smaller ones; it simply never succeeds. -/
def QuotaCounter.refused (counter : QuotaCounter K) (now : K) (key : String) (cost : K)
    (budget : Budget K) : Prop :=
  budget.limit < (counter.window now key budget).used + cost

instance (counter : QuotaCounter K) (now : K) (key : String) (cost : K) (budget : Budget K) :
    Decidable (counter.refused now key cost budget) :=
  inferInstanceAs (Decidable (_ < _))

def QuotaCounter.consume (counter : QuotaCounter K) (now : K) (key : String) (cost : K)
    (budget : Budget K) : QuotaDecision K × QuotaCounter K :=
  let window := counter.window now key budget
  if counter.refused now key cost budget then
    (⟨false, window.reset, budget.limit - window.used⟩, counter)
  else
    let next : WindowState K := ⟨window.used + cost, window.reset⟩
    -- Windows are disposable; expire them rather than keep a row per key.
    (⟨true, next.reset, budget.limit - next.used⟩,
      ⟨counter.storage.insert key next, some next.reset⟩)

/-- The alarm handler, which the platform runs with no alarm pending. -/
def QuotaCounter.alarm (counter : QuotaCounter K) (now : K) : QuotaCounter K :=
  ⟨deleteWhere (fun window => decide (window.reset ≤ now)) counter.storage, none⟩

/-! ## Histories -/

inductive QuotaEvent (K : Type)
  | consume (now : K) (key : String) (cost : K) (budget : Budget K)
  | alarm (now : K)

/-- A call that was answered. -/
structure QuotaCall (K : Type) where
  now : K
  key : String
  cost : K
  decision : QuotaDecision K
  deriving DecidableEq, Repr

/-- A counter, the time of the last event, and the calls answered so far, the latest first. -/
structure QuotaRun (K : Type) where
  clock : K
  counter : QuotaCounter K
  calls : List (QuotaCall K)

def QuotaRun.start (clock : K) : QuotaRun K := ⟨clock, .empty, []⟩

def QuotaRun.step (run : QuotaRun K) : QuotaEvent K → Option (QuotaRun K)
  | .consume now key cost budget =>
    if run.clock ≤ now then
      let answered := run.counter.consume now key cost budget
      some ⟨now, answered.2, ⟨now, key, cost, answered.1⟩ :: run.calls⟩
    else none
  | .alarm now =>
    match run.counter.pendingAlarm with
    | some scheduled =>
      if run.clock ≤ now ∧ scheduled ≤ now then some ⟨now, run.counter.alarm now, run.calls⟩
      else none
    | none => none

/-- Each key has one budget. -/
def QuotaEvent.Within (budget : String → Budget K) : QuotaEvent K → Prop
  | .consume _ key _ given => given = budget key
  | .alarm _ => True

end RetirementPlanner.Web
