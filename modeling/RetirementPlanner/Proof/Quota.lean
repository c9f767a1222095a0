import Mathlib.Tactic
import RetirementPlanner.Lib.FixedWindow
import RetirementPlanner.Web.Quota

/-!
# What a quota counter grants

However calls on other keys and alarms come in between, a key's own calls are answered as
one fixed window counter for that key alone would answer them (`Tracks`, kept by every step:
`step_tracks`). So no window grants more than the limit: `quotaCounter_grants`.

The one alarm that all keys share removes every record as long as each call that is granted
moves it no earlier than the end of another key's window (`Orderly`): `cleansUp_iff_orderly`.
-/

namespace RetirementPlanner.Web

open FixedWindow KeyedStore

variable {K : Type} [Field K] [LinearOrder K]

/-! ## One key's calls -/

def callsTo (key : String) (calls : List (QuotaCall K)) : List (K × K) :=
  (calls.filter fun call => call.key = key).map fun call => (call.now, call.cost)

def answersTo (key : String) (calls : List (QuotaCall K)) : List (QuotaDecision K) :=
  (calls.filter fun call => call.key = key).map (·.decision)

/-- The times and the costs of the calls that were granted. -/
def grantsTo (key : String) (calls : List (QuotaCall K)) : List (K × K) :=
  (calls.filter fun call => call.key = key ∧ call.decision.success = true).map
    fun call => (call.now, call.cost)

section

omit [Field K] [LinearOrder K]

theorem callsTo_cons (key : String) (call : QuotaCall K) (calls : List (QuotaCall K)) :
    callsTo key (call :: calls)
      = if call.key = key then (call.now, call.cost) :: callsTo key calls
        else callsTo key calls := by
  simp only [callsTo, List.filter_cons, decide_eq_true_eq]
  split <;> rfl

theorem answersTo_cons (key : String) (call : QuotaCall K) (calls : List (QuotaCall K)) :
    answersTo key (call :: calls)
      = if call.key = key then call.decision :: answersTo key calls else answersTo key calls := by
  simp only [answersTo, List.filter_cons, decide_eq_true_eq]
  split <;> rfl

theorem grantsTo_cons (key : String) (call : QuotaCall K) (calls : List (QuotaCall K)) :
    grantsTo key (call :: calls)
      = if call.key = key ∧ call.decision.success = true then
          (call.now, call.cost) :: grantsTo key calls
        else grantsTo key calls := by
  simp only [grantsTo, List.filter_cons, decide_eq_true_eq]
  split <;> rfl

end

/-- What a counter for one key decides on a call. -/
def decisionFor (budget : Budget K) (now cost : K) (windows : List (Window K)) :
    QuotaDecision K :=
  let window := current budget.windowMs now windows
  if admits budget.windowMs budget.limit now cost windows then
    ⟨true, window.opened + budget.windowMs, budget.limit - (window.spent.sum + cost)⟩
  else ⟨false, window.opened + budget.windowMs, budget.limit - window.spent.sum⟩

theorem decisionFor_success {budget : Budget K} {now cost : K} {windows : List (Window K)} :
    (decisionFor budget now cost windows).success = true
      ↔ admits budget.windowMs budget.limit now cost windows := by
  rw [decisionFor]
  split
  · rename_i hfits
    exact ⟨fun _ => hfits, fun _ => rfl⟩
  · rename_i hfits
    exact ⟨fun h => (Bool.noConfusion h), fun h => absurd h hfits⟩

def decisions (budget : Budget K) : List (K × K) → List (QuotaDecision K)
  | [] => []
  | (now, cost) :: requests =>
    decisionFor budget now cost
        (windows budget.windowMs (serve budget.windowMs budget.limit requests))
      :: decisions budget requests

/-! ## Following one key -/

/-- The stored record is the latest window, unless that window is over and its record gone. -/
def Recorded (length clock : K) (stored : Option (WindowState K)) : List (Window K) → Prop
  | [] => stored = none
  | window :: _ =>
    stored = some ⟨window.spent.sum, window.opened + length⟩ ∨
      stored = none ∧ window.opened + length ≤ clock

/-- A key's calls have been answered as a counter of its own would. -/
structure Tracks (budget : Budget K) (key : String) (run : QuotaRun K) : Prop where
  answered : answersTo key run.calls = decisions budget (callsTo key run.calls)
  granted : grantsTo key run.calls
    = serve budget.windowMs budget.limit (callsTo key run.calls)
  recorded : Recorded budget.windowMs run.clock (run.counter.storage.lookup key)
    (windows budget.windowMs (grantsTo key run.calls))

theorem window_eq {counter : QuotaCounter K} {clock now : K} {key : String} {budget : Budget K}
    {windows : List (Window K)}
    (h : Recorded budget.windowMs clock (counter.storage.lookup key) windows)
    (hclock : clock ≤ now) :
    counter.window now key budget = ⟨(current budget.windowMs now windows).spent.sum,
      (current budget.windowMs now windows).opened + budget.windowMs⟩ := by
  cases windows with
  | nil =>
    rw [QuotaCounter.window, show counter.storage.lookup key = none from h]
    rfl
  | cons window windows =>
    rw [QuotaCounter.window, current]
    rcases h with hstored | ⟨hstored, hover⟩
    · rw [hstored]
      dsimp only
      split
      · rfl
      · rfl
    · rw [hstored, if_neg (not_lt.mpr (hover.trans hclock))]
      rfl

theorem refused_iff {counter : QuotaCounter K} {clock now cost : K} {key : String}
    {budget : Budget K} {windows : List (Window K)}
    (h : Recorded budget.windowMs clock (counter.storage.lookup key) windows)
    (hclock : clock ≤ now) :
    counter.refused now key cost budget
      ↔ ¬ admits budget.windowMs budget.limit now cost windows := by
  rw [QuotaCounter.refused, window_eq h hclock, admits, not_le]

theorem consume_decision {counter : QuotaCounter K} {clock now cost : K} {key : String}
    {budget : Budget K} {windows : List (Window K)}
    (h : Recorded budget.windowMs clock (counter.storage.lookup key) windows)
    (hclock : clock ≤ now) :
    (counter.consume now key cost budget).1 = decisionFor budget now cost windows := by
  simp only [QuotaCounter.consume, refused_iff h hclock, window_eq h hclock, decisionFor, ite_not]
  split
  · rfl
  · rfl

theorem Recorded.later {length clock now : K} {stored : Option (WindowState K)}
    {windows : List (Window K)} (h : Recorded length clock stored windows) (hclock : clock ≤ now) :
    Recorded length now stored windows := by
  cases windows with
  | nil => exact h
  | cons window windows => exact h.imp_right fun hover => ⟨hover.1, hover.2.trans hclock⟩

/-- An alarm deletes a record only when its window is over. -/
theorem Recorded.afterAlarm {length now : K} {stored : Option (WindowState K)}
    {windows : List (Window K)} (h : Recorded length now stored windows) :
    Recorded length now (stored.filter fun window => !decide (window.reset ≤ now)) windows := by
  cases windows with
  | nil =>
    rw [show stored = none from h]
    rfl
  | cons window windows =>
    rcases h with hstored | ⟨hstored, hover⟩
    · rw [hstored, Option.filter_some]
      by_cases hover : window.opened + length ≤ now
      · refine .inr ⟨?_, hover⟩
        rw [decide_eq_true hover]
        rfl
      · refine .inl ?_
        rw [decide_eq_false hover]
        rfl
    · exact .inr ⟨by rw [hstored]; rfl, hover⟩

theorem QuotaRun.step_consume {run run' : QuotaRun K} {now cost : K} {key : String}
    {budget : Budget K} :
    run.step (.consume now key cost budget) = some run' ↔ run.clock ≤ now ∧
      run' = ⟨now, (run.counter.consume now key cost budget).2,
        ⟨now, key, cost, (run.counter.consume now key cost budget).1⟩ :: run.calls⟩ := by
  rw [QuotaRun.step, ite_eq_iff]
  simp only [Option.some.injEq, reduceCtorEq, and_false, or_false, eq_comm]

theorem QuotaRun.step_alarm {run run' : QuotaRun K} {now : K} :
    run.step (.alarm now) = some run' ↔ ∃ scheduled, run.counter.pendingAlarm = some scheduled ∧
      (run.clock ≤ now ∧ scheduled ≤ now) ∧ run' = ⟨now, run.counter.alarm now, run.calls⟩ := by
  rw [QuotaRun.step]
  cases run.counter.pendingAlarm with
  | none => simp
  | some scheduled =>
    dsimp only
    rw [ite_eq_iff]
    simp [eq_comm]

/-- A call on another key writes another key's record. -/
theorem lookup_consume_ne (counter : QuotaCounter K) (now : K) {key key' : String} (cost : K)
    (budget : Budget K) (h : key' ≠ key) :
    (counter.consume now key cost budget).2.storage.lookup key' = counter.storage.lookup key' := by
  rw [QuotaCounter.consume]
  split
  · rfl
  · exact AList.lookup_insert_ne h

theorem lookup_consume_granted {counter : QuotaCounter K} {now cost : K} {key : String}
    {budget : Budget K} (h : ¬ counter.refused now key cost budget) :
    (counter.consume now key cost budget).2.storage.lookup key
      = some ⟨(counter.window now key budget).used + cost,
          (counter.window now key budget).reset⟩ := by
  rw [QuotaCounter.consume, if_neg h]
  exact AList.lookup_insert _

/-- Nothing is written on a refusal. -/
theorem consume_refused {counter : QuotaCounter K} {now cost : K} {key : String}
    {budget : Budget K} (h : counter.refused now key cost budget) :
    (counter.consume now key cost budget).2 = counter := by
  rw [QuotaCounter.consume, if_pos h]

theorem tracks_consume {budget : Budget K} {key : String} {run : QuotaRun K} {now : K}
    (h : Tracks budget key run) (hclock : run.clock ≤ now) (cost : K) :
    Tracks budget key ⟨now, (run.counter.consume now key cost budget).2,
      ⟨now, key, cost, (run.counter.consume now key cost budget).1⟩ :: run.calls⟩ := by
  have hrefused : run.counter.refused now key cost budget ↔ _ := refused_iff h.recorded hclock
  have hanswered : answersTo key (⟨now, key, cost, (run.counter.consume now key cost budget).1⟩
        :: run.calls)
      = decisions budget (callsTo key (⟨now, key, cost,
          (run.counter.consume now key cost budget).1⟩ :: run.calls)) := by
    rw [answersTo_cons, if_pos rfl, callsTo_cons, if_pos rfl, decisions, h.answered, ← h.granted,
      consume_decision h.recorded hclock]
  have hsuccess : (run.counter.consume now key cost budget).1.success = true
      ↔ admits budget.windowMs budget.limit now cost
          (windows budget.windowMs (grantsTo key run.calls)) := by
    rw [consume_decision h.recorded hclock, decisionFor_success]
  refine ⟨hanswered, ?_, ?_⟩
  · rw [callsTo_cons, if_pos rfl, serve, ← h.granted, grantsTo_cons]
    simp only [true_and, hsuccess]
  · rw [grantsTo_cons]
    simp only [true_and, hsuccess]
    split
    · rename_i hfits
      refine .inl ?_
      rw [lookup_consume_granted fun hr => hrefused.mp hr hfits, window_eq h.recorded hclock,
        List.sum_cons, add_comm]
    · rename_i hfits
      rw [consume_refused (hrefused.mpr hfits)]
      exact h.recorded.later hclock

theorem tracks_consume_ne {budget : Budget K} {key key' : String} {run : QuotaRun K} {now : K}
    (h : Tracks budget key run) (hclock : run.clock ≤ now) (hkey : key' ≠ key) (cost : K)
    (given : Budget K) :
    Tracks budget key ⟨now, (run.counter.consume now key' cost given).2,
      ⟨now, key', cost, (run.counter.consume now key' cost given).1⟩ :: run.calls⟩ := by
  have hgrants := grantsTo_cons key
    ⟨now, key', cost, (run.counter.consume now key' cost given).1⟩ run.calls
  rw [if_neg fun hcall => hkey hcall.1] at hgrants
  refine ⟨?_, ?_, ?_⟩
  · rw [answersTo_cons, if_neg hkey, callsTo_cons, if_neg hkey]
    exact h.answered
  · rw [hgrants, callsTo_cons, if_neg hkey]
    exact h.granted
  · rw [hgrants, lookup_consume_ne _ _ _ _ hkey.symm]
    exact h.recorded.later hclock

/-- Every step keeps to what the key's own counter would answer. -/
theorem step_tracks {budget : String → Budget K} {key : String} {run run' : QuotaRun K}
    (hnext : Runs.Next QuotaRun.step (fun _ event => event.Within budget) run run')
    (h : Tracks (budget key) key run) : Tracks (budget key) key run' := by
  obtain ⟨event, hwithin, hstep⟩ := hnext
  cases event with
  | consume now key' cost given =>
    obtain ⟨hclock, rfl⟩ := QuotaRun.step_consume.mp hstep
    by_cases hkey : key' = key
    · subst hkey
      cases hwithin
      exact tracks_consume h hclock cost
    · exact tracks_consume_ne h hclock hkey cost given
  | alarm now =>
    obtain ⟨-, -, ⟨hclock, -⟩, rfl⟩ := QuotaRun.step_alarm.mp hstep
    refine ⟨h.answered, h.granted, ?_⟩
    rw [QuotaCounter.alarm, lookup_deleteWhere]
    exact (h.recorded.later hclock).afterAlarm

theorem tracks_of_run {budget : String → Budget K} {clock : K} {run : QuotaRun K}
    (hrun : Runs.Reaches (Runs.Next QuotaRun.step fun _ event => event.Within budget)
      (.start clock) run) (key : String) : Tracks (budget key) key run := by
  have hstart : Tracks (budget key) key (.start clock) := ⟨rfl, rfl, AList.lookup_empty key⟩
  exact Runs.invariant (fun run => Tracks (budget key) key run) step_tracks hstart hrun

/-- After any run of calls and alarms, what a key was granted never comes to more than the limit
in any of its windows; its next call is granted exactly when its cost still fits in the window
that is open then; a refused call leaves the storage and the alarm as they were; and any other
run that makes the same calls on the key has them answered the same, whatever it does with
other keys. -/
theorem quotaCounter_grants {budget : String → Budget K} {clock : K} {run : QuotaRun K}
    (hrun : Runs.Reaches (Runs.Next QuotaRun.step fun _ event => event.Within budget)
      (.start clock) run) (key : String) :
    (∀ window ∈ windows (budget key).windowMs (grantsTo key run.calls),
      window.spent.sum ≤ (budget key).limit) ∧
    (∀ now cost, run.clock ≤ now →
      ((run.counter.consume now key cost (budget key)).1.success = true ↔
        (current (budget key).windowMs now
          (windows (budget key).windowMs (grantsTo key run.calls))).spent.sum + cost
            ≤ (budget key).limit)) ∧
    (∀ now cost, (run.counter.consume now key cost (budget key)).1.success = false →
      (run.counter.consume now key cost (budget key)).2 = run.counter) ∧
    ∀ (budget' : String → Budget K) (clock' : K) (run' : QuotaRun K),
      Runs.Reaches (Runs.Next QuotaRun.step fun _ event => event.Within budget')
        (.start clock') run' →
      budget' key = budget key → callsTo key run'.calls = callsTo key run.calls →
        answersTo key run'.calls = answersTo key run.calls := by
  have htracks := tracks_of_run hrun key
  refine ⟨?_, ?_, ?_, ?_⟩
  · rw [htracks.granted]
    exact serve_within _ _ _
  · intro now cost hclock
    rw [consume_decision htracks.recorded hclock, decisionFor_success]
    rfl
  · intro now cost hfailed
    by_cases hrefused : run.counter.refused now key cost (budget key)
    · exact consume_refused hrefused
    · rw [QuotaCounter.consume, if_neg hrefused] at hfailed
      cases hfailed
  · intro budget' clock' run' hrun' hbudget hcalls
    have htracks' := tracks_of_run hrun' key
    rw [htracks'.answered, htracks.answered, hbudget, hcalls]

/-- A budget of ten: six are granted, and five more refused, with another key in between. -/
theorem quotaCounter_grants_two_keys : ∃ run : QuotaRun ℚ,
    answersTo "a" run.calls = [⟨false, 1000, 4⟩, ⟨true, 1000, 4⟩] ∧
      ∀ window ∈ windows 1000 (grantsTo "a" run.calls), window.spent.sum ≤ 10 := by
  have hrun : Runs.Reaches (Runs.Next QuotaRun.step
      fun _ (event : QuotaEvent ℚ) => event.Within fun _ => ⟨10, 1000⟩) (.start 0) _ :=
    ((Relation.ReflTransGen.refl.tail
      ⟨.consume 0 "a" 6 ⟨10, 1000⟩, rfl, QuotaRun.step_consume.mpr ⟨le_rfl, rfl⟩⟩).tail
      ⟨.consume 1 "b" 10 ⟨10, 1000⟩, rfl, QuotaRun.step_consume.mpr ⟨zero_le_one, rfl⟩⟩).tail
      ⟨.consume 2 "a" 5 ⟨10, 1000⟩, rfl, QuotaRun.step_consume.mpr ⟨one_le_two, rfl⟩⟩
  exact ⟨_, by decide +kernel, (quotaCounter_grants hrun "a").1⟩

/-! ## Cleaning up -/

/-- The alarm goes off: nothing else happens any more. -/
def QuotaEvent.IsAlarm : QuotaEvent K → Prop
  | .consume .. => False
  | .alarm _ => True

/-- While there is a record an alarm is pending; and if calls stop here, then no record is left
once no alarm is. -/
def CleansUp (run : QuotaRun K) : Prop :=
  (run.counter.pendingAlarm = none → ∀ key, run.counter.storage.lookup key = none) ∧
  ∀ later, Runs.Reaches (Runs.Next QuotaRun.step fun _ event => event.IsAlarm) run later →
    later.counter.pendingAlarm = none → ∀ key, later.counter.storage.lookup key = none

/-- Every record is over by the time the pending alarm can go off. -/
def Covered (run : QuotaRun K) : Prop :=
  ∀ key window, run.counter.storage.lookup key = some window →
    ∃ scheduled, run.counter.pendingAlarm = some scheduled ∧
      window.reset ≤ max run.clock scheduled

/-- A call is refused, or it and its window end no earlier than any other key's record. -/
def Orderly (run : QuotaRun K) : QuotaEvent K → Prop
  | .consume now key cost budget => run.counter.refused now key cost budget ∨
    ∀ other ≠ key, ∀ window, run.counter.storage.lookup other = some window →
      window.reset ≤ max now (run.counter.window now key budget).reset
  | .alarm _ => True

omit [Field K] in
theorem lookup_alarm (counter : QuotaCounter K) (now : K) (key : String) :
    (counter.alarm now).storage.lookup key
      = (counter.storage.lookup key).filter fun window => !decide (window.reset ≤ now) :=
  lookup_deleteWhere _ _ _

omit [Field K] in
/-- Where every record is covered, the alarm removes them all. -/
theorem Covered.lookup_alarm {run : QuotaRun K} (h : Covered run) {scheduled now : K}
    (hpending : run.counter.pendingAlarm = some scheduled) (hclock : run.clock ≤ now)
    (hdue : scheduled ≤ now) (key : String) :
    (run.counter.alarm now).storage.lookup key = none := by
  rw [Web.lookup_alarm]
  cases hstored : run.counter.storage.lookup key with
  | none => rfl
  | some window =>
    obtain ⟨scheduled', hpending', hreset⟩ := h key window hstored
    rw [hpending] at hpending'
    cases hpending'
    rw [Option.filter_some, decide_eq_true (hreset.trans (max_le hclock hdue))]
    rfl

theorem cleansUp_iff_covered {run : QuotaRun K} : CleansUp run ↔ Covered run := by
  constructor
  · rintro ⟨hpending, halarms⟩ key window hstored
    cases hscheduled : run.counter.pendingAlarm with
    | none =>
      rw [hpending hscheduled key] at hstored
      cases hstored
    | some scheduled =>
      refine ⟨scheduled, rfl, ?_⟩
      -- The alarm goes off as soon as it can.
      have hfired : run.step (.alarm (max run.clock scheduled)) = some _ :=
        QuotaRun.step_alarm.mpr
          ⟨scheduled, hscheduled, ⟨le_max_left _ _, le_max_right _ _⟩, rfl⟩
      have hgone := halarms _ (.single ⟨.alarm _, trivial, hfired⟩) rfl key
      rw [lookup_alarm, hstored, Option.filter_some] at hgone
      by_contra hreset
      rw [decide_eq_false hreset] at hgone
      cases hgone
  · intro hcovered
    have hpending : run.counter.pendingAlarm = none →
        ∀ key, run.counter.storage.lookup key = none := by
      intro hnone key
      cases hstored : run.counter.storage.lookup key with
      | none => rfl
      | some window =>
        obtain ⟨scheduled, hscheduled, -⟩ := hcovered key window hstored
        rw [hnone] at hscheduled
        cases hscheduled
    refine ⟨hpending, fun later hlater hdone key => ?_⟩
    -- Once the alarm has gone off there is none to follow it.
    rcases hlater.cases_head with rfl | ⟨fired, ⟨event, hevent, hstep⟩, hrest⟩
    · exact hpending hdone key
    · cases event with
      | consume => exact hevent.elim
      | alarm now =>
        obtain ⟨scheduled, hscheduled, ⟨hclock, hdue⟩, rfl⟩ := QuotaRun.step_alarm.mp hstep
        rcases hrest.cases_head with rfl | ⟨next, ⟨event', hevent', hstep'⟩, -⟩
        · exact hcovered.lookup_alarm hscheduled hclock hdue key
        · cases event' with
          | consume => exact hevent'.elim
          | alarm now' =>
            obtain ⟨scheduled', hscheduled', -⟩ := QuotaRun.step_alarm.mp hstep'
            cases hscheduled'

/-- A granted call schedules the alarm for the end of its own window. -/
theorem covered_consume_iff {run : QuotaRun K} (h : Covered run) {now : K}
    (hclock : run.clock ≤ now) (key : String) (cost : K) (budget : Budget K)
    (calls : List (QuotaCall K)) :
    Covered ⟨now, (run.counter.consume now key cost budget).2, calls⟩
      ↔ Orderly run (.consume now key cost budget) := by
  by_cases hrefused : run.counter.refused now key cost budget
  · rw [consume_refused hrefused]
    refine ⟨fun _ => .inl hrefused, fun _ key window hstored => ?_⟩
    obtain ⟨scheduled, hscheduled, hreset⟩ := h key window hstored
    exact ⟨scheduled, hscheduled, hreset.trans (max_le_max_right _ hclock)⟩
  · have hpending : (run.counter.consume now key cost budget).2.pendingAlarm
        = some (run.counter.window now key budget).reset := by
      rw [QuotaCounter.consume, if_neg hrefused]
    constructor
    · intro hcovered
      refine .inr fun other hother window hstored => ?_
      rw [← lookup_consume_ne run.counter now cost budget hother] at hstored
      obtain ⟨scheduled, hscheduled, hreset⟩ := hcovered other window hstored
      rw [hpending] at hscheduled
      cases hscheduled
      exact hreset
    · intro horderly other window hstored
      refine ⟨_, hpending, ?_⟩
      by_cases hother : other = key
      · subst hother
        rw [lookup_consume_granted hrefused] at hstored
        cases hstored
        exact le_max_right _ _
      · rw [lookup_consume_ne _ _ _ _ hother] at hstored
        exact (horderly.resolve_left hrefused) other hother window hstored

/-- A step keeps every record covered just where it is orderly. -/
theorem covered_step_iff {run run' : QuotaRun K} {event : QuotaEvent K} (h : Covered run)
    (hstep : run.step event = some run') : Covered run' ↔ Orderly run event := by
  cases event with
  | consume now key cost budget =>
    obtain ⟨hclock, rfl⟩ := QuotaRun.step_consume.mp hstep
    exact covered_consume_iff h hclock key cost budget _
  | alarm now =>
    obtain ⟨scheduled, hscheduled, ⟨hclock, hdue⟩, rfl⟩ := QuotaRun.step_alarm.mp hstep
    refine ⟨fun _ => trivial, fun _ key window hstored => ?_⟩
    rw [h.lookup_alarm hscheduled hclock hdue key] at hstored
    cases hstored

/-- In a run whose calls are all orderly every state cleans up, and a step out of such a run
leads to a state that cleans up if and only if it is orderly too. -/
theorem cleansUp_iff_orderly {clock : K} {run : QuotaRun K}
    (hrun : Runs.Reaches (Runs.Next QuotaRun.step Orderly) (.start clock) run) :
    CleansUp run ∧ ∀ event run', run.step event = some run' →
      (CleansUp run' ↔ Orderly run event) := by
  have hstart : Covered (.start clock : QuotaRun K) := by
    intro key window hstored
    cases hstored
  have hcovered : Covered run := by
    refine Runs.invariant Covered (fun hnext h => ?_) hstart hrun
    obtain ⟨event, horderly, hstep⟩ := hnext
    exact (covered_step_iff h hstep).mpr horderly
  refine ⟨cleansUp_iff_covered.mpr hcovered, fun event run' hstep => ?_⟩
  rw [cleansUp_iff_covered, covered_step_iff hcovered hstep]

/-- Two keys, the second of them spent from last. -/
theorem cleansUp_iff_orderly_two_keys : ∃ run : QuotaRun ℚ,
    run.counter.storage.keys = ["b", "a"] ∧ CleansUp run := by
  have horderly : ∀ calls, Orderly ⟨0, ((QuotaCounter.empty : QuotaCounter ℚ).consume 0 "a" 1
      ⟨300, 60000⟩).2, calls⟩ (.consume 10 "b" 1 ⟨300, 60000⟩) := by
    refine fun calls => .inr fun other _ window hstored => ?_
    by_cases hother : other = "a"
    · subst hother
      rw [lookup_consume_granted (by decide +kernel)] at hstored
      cases hstored
      dsimp only
      decide +kernel
    · rw [lookup_consume_ne _ _ _ _ hother] at hstored
      cases hstored
  have hrun : Runs.Reaches (Runs.Next QuotaRun.step (Orderly (K := ℚ))) (.start 0) _ :=
    (Relation.ReflTransGen.refl.tail
      ⟨.consume 0 "a" 1 ⟨300, 60000⟩, .inr fun _ _ _ h => (nomatch h),
        QuotaRun.step_consume.mpr ⟨le_rfl, rfl⟩⟩).tail
      ⟨.consume 10 "b" 1 ⟨300, 60000⟩, horderly _,
        QuotaRun.step_consume.mpr ⟨by decide +kernel, rfl⟩⟩
  exact ⟨_, by decide +kernel, (cleansUp_iff_orderly hrun).1⟩

/-- Two keys with windows of a minute. The first is spent from again after the second's window
has opened, which moves the alarm back before its end. -/
theorem not_cleansUp_two_keys : ¬ ∀ run : QuotaRun ℚ,
    Runs.Reaches (Runs.Next QuotaRun.step fun _ event => event.Within fun _ => ⟨300, 60000⟩)
      (.start 0) run → CleansUp run := by
  intro hcleans
  have hrun : Runs.Reaches (Runs.Next QuotaRun.step
      fun _ (event : QuotaEvent ℚ) => event.Within fun _ => ⟨300, 60000⟩) (.start 0) _ :=
    (((Relation.ReflTransGen.refl.tail
      ⟨.consume 0 "a" 1 ⟨300, 60000⟩, rfl, QuotaRun.step_consume.mpr ⟨le_rfl, rfl⟩⟩).tail
      ⟨.consume 10 "b" 1 ⟨300, 60000⟩, rfl,
        QuotaRun.step_consume.mpr ⟨by decide +kernel, rfl⟩⟩).tail
      ⟨.consume 20 "a" 1 ⟨300, 60000⟩, rfl,
        QuotaRun.step_consume.mpr ⟨by decide +kernel, rfl⟩⟩).tail
      ⟨.alarm 60000, trivial, QuotaRun.step_alarm.mpr
        ⟨60000, by decide +kernel, ⟨by decide +kernel, le_rfl⟩, rfl⟩⟩
  have hgone := (hcleans _ hrun).1 rfl "b"
  revert hgone
  decide +kernel

end RetirementPlanner.Web
