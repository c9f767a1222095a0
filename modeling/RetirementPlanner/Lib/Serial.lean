import RetirementPlanner.Lib.Transactions

/-!
# Serializability, client by client

Each client makes one call, which one at a time does all of its work at one point
(`Serial.step`). A system is serializable where every client's own commands proceed towards its
call (`Proceeds`): each does nothing or all of it (`Effect`), a failure loses no more than the
answer, and what a command does to the tables is what the other clients rely on.

* `Proceeds.serializable`: the runs of the system are runs of one call at a time.
-/

namespace Transactions

variable {ι T S L A E N α D R : Type*} [DecidableEq ι]

/-! ## One call at a time -/

/-- The database and the calls answered so far. -/
structure Serial (ι D R : Type*) where
  database : D
  answers : ι → Option R

namespace Serial

variable (call : ι → N → D → D × R) (failed : R)

/-- A call that was not made yet is made, or fails before or after it was. -/
def step (serial : Serial ι D R) (event : Event ι N) : Option (Serial ι D R) :=
  let answer (database : D) (response : R) : Serial ι D R :=
    ⟨database, Function.update serial.answers event.client (some response)⟩
  if (serial.answers event.client).isSome then none
  else match event with
    | .execute client now =>
      let handled := call client now serial.database
      some (answer handled.1 handled.2)
    | .refuse _ | .disconnect _ => some (answer serial.database failed)
    | .lose client now => some (answer (call client now serial.database).1 failed)

abbrev Next (faults : Prop) : Serial ι D R → Serial ι D R → Prop :=
  Runs.Next (step call failed) fun _ => Event.May faults

end Serial

/-! ## One client -/

/-- What a command did to the tables and to its client's answer: nothing yet, or all that the
call does. -/
def Effect (call : N → D → D × R) (view : T → D) (tables tables' : T)
    (given given' : Option R) : Prop :=
  (tables' = tables ∧ given' = given) ∨
    (given = none ∧ ∃ now, view tables' = (call now (view tables)).1 ∧
      given' = some (call now (view tables)).2)

/-- Where clients stand between their commands, with the answers their calls have. -/
abbrev Standing (ι T S L A E N α R : Type*) : Type _ :=
  ι → (L → Option ι) → T → Program S L A E α → Connection T N → Option R → Prop

/-- Every command takes a client from where it stands to where it stands next. -/
structure Proceeds (engine : Engine T S A E N) (faults : Prop) (view : T → D)
    (call : ι → N → D → D × R) (failed : R) (Stands : Standing ι T S L A E N α R)
    (Guarantee : ι → (L → Option ι) → T → T → Prop) : Prop where
  unchanged (client : ι) (locks : L → Option ι) (tables : T) :
    Guarantee client locks tables tables
  /-- What other clients do leaves a client where it stands. -/
  frame {client other : ι} {locks locks' : L → Option ι} {tables tables' : T}
    {program : Program S L A E α} {connection : Connection T N} {given : Option R}
    (h : Stands client locks tables program connection given) (hother : other ≠ client)
    (hlocks : ∀ key, locks key = some client → locks' key = some client)
    (hguarantee : Guarantee other locks tables tables') :
    Stands client locks' tables' program connection given
  execute {client : ι} {locks : L → Option ι} {tables : T} {command : Command S L}
    {next : Except E (List A) → Program S L A E α} {connection : Connection T N}
    {given : Option R} (h : Stands client locks tables (.query command next) connection given)
    (now : N) (locks' : L → Option ι)
    (hlocks : ∀ key, locks key = some client ∨ command = .lock key →
      (connection.perform engine now tables command).2.1.isActive = true →
      locks' key = some client) :
    ∃ given', Stands client locks' (connection.perform engine now tables command).2.2
        (next (connection.perform engine now tables command).1)
        (connection.perform engine now tables command).2.1 given' ∧
      Effect (call client) view tables (connection.perform engine now tables command).2.2
        given given' ∧
      Guarantee client locks tables (connection.perform engine now tables command).2.2
  /-- A command that fails ends a call that has no answer yet. -/
  fail {client : ι} {locks : L → Option ι} {tables : T} {command : Command S L}
    {next : Except E (List A) → Program S L A E α} {connection : Connection T N}
    {given : Option R} (h : Stands client locks tables (.query command next) connection given)
    (hfaults : faults) (locks' : L → Option ι) (tables' : T) (connection' : Connection T N) :
    Stands client locks' tables' (next (.error engine.failure)) connection'
      (some (given.getD failed))

/-! ## The system -/

variable {engine : Engine T S A E N} {faults : Prop} {view : T → D} {call : ι → N → D → D × R}
  {failed : R} {Stands : Standing ι T S L A E N α R}
  {Guarantee : ι → (L → Option ι) → T → T → Prop}

section Effect

variable {serial : Serial ι D R} {client : ι} {tables tables' : T} {given' : Option R}

/-- A command that ran is no step of the serial system, or the call. -/
theorem Effect.reaches
    (h : Effect (call client) view tables tables' (serial.answers client) given')
    (htables : view tables = serial.database) :
    Runs.Reaches (Serial.Next call failed faults) serial
      ⟨view tables', Function.update serial.answers client given'⟩ := by
  obtain ⟨rfl, rfl⟩ | ⟨hnone, now, hdatabase, rfl⟩ := h
  · rw [Function.update_eq_self, htables]
  · refine .single ⟨.execute client now, .inr rfl, ?_⟩
    simp [Serial.step, Event.client, hnone, hdatabase, htables]

/-- A command without its answer: a call without one fails, before it was made or after. -/
theorem Effect.reaches_failed
    (h : Effect (call client) view tables tables' (serial.answers client) given')
    (htables : view tables = serial.database) (hfaults : faults) :
    Runs.Reaches (Serial.Next call failed faults) serial
      ⟨view tables',
        Function.update serial.answers client (some ((serial.answers client).getD failed))⟩ := by
  obtain ⟨rfl, -⟩ | ⟨hnone, now, hdatabase, -⟩ := h
  · cases hanswer : serial.answers client with
    | none =>
      refine .single ⟨.refuse client, .inl hfaults, ?_⟩
      simp [Serial.step, Event.client, hanswer, htables]
    | some answer => rw [Option.getD_some, ← hanswer, Function.update_eq_self, htables]
  · refine .single ⟨.lose client now, .inl hfaults, ?_⟩
    simp [Serial.step, Event.client, hnone, hdatabase, htables]

end Effect

/-- The serial state has made the calls that have taken effect. -/
def Simulates (view : T → D) (Stands : Standing ι T S L A E N α R)
    (state : State ι T S L A E N α) (serial : Serial ι D R) : Prop :=
  view state.committed = serial.database ∧ ∀ client,
    Stands client state.locks state.committed (state.clients client) (state.connections client)
      (serial.answers client)

variable [DecidableEq L] {state : State ι T S L A E N α} {serial : Serial ι D R}

namespace Proceeds

omit [DecidableEq L] in
/-- One client has gone on to `given`, and the others stand where they stood. -/
theorem put (hproceeds : Proceeds engine faults view call failed Stands Guarantee)
    (h : Simulates view Stands state serial) {client : ι} {locks : L → Option ι} {tables : T}
    {connection : Connection T N} {program : Program S L A E α} {given : Option R}
    (hlocks : ∀ key holder, state.locks key = some holder → locks key = some holder)
    (hstands : Stands client (state.put client locks tables connection program).locks tables
      program connection given)
    (hguarantee : Guarantee client state.locks state.committed tables) :
    Simulates view Stands (state.put client locks tables connection program)
      ⟨view tables, Function.update serial.answers client given⟩ := by
  refine ⟨rfl, fun other => ?_⟩
  by_cases hother : other = client
  · subst hother
    simpa using hstands
  · have hframe := hproceeds.frame (h.2 other) (Ne.symm hother) (fun key hkey =>
      State.put_locks_other state _ tables connection program hother (hlocks key other hkey))
      hguarantee
    simpa [State.put_clients_other _ _ _ _ _ hother, State.put_connections_other _ _ _ _ _ hother,
      Function.update_of_ne hother] using hframe

theorem simulates_step (hproceeds : Proceeds engine faults view call failed Stands Guarantee)
    {next : State ι T S L A E N α} (hstep : State.Next engine faults state next)
    (h : Simulates view Stands state serial) :
    ∃ serial', Runs.Reaches (Serial.Next call failed faults) serial serial' ∧
      Simulates view Stands next serial' := by
  obtain ⟨event, hmay, hstep⟩ := hstep
  obtain ⟨command, rest, locks, hclient, hlocks, -, hcases⟩ := State.step_cases hstep
  have hstands := h.2 event.client
  rw [hclient] at hstands
  obtain ⟨now, -, hgrant, rfl⟩ | ⟨hfaulty, committed, connection, -, rfl, htables⟩ := hcases
  · obtain ⟨given, hstands', heffect, hguarantee⟩ := hproceeds.execute hstands now
      ((state.put event.client locks
        ((state.connections event.client).perform engine now state.committed command).2.2
        ((state.connections event.client).perform engine now state.committed command).2.1
        (rest ((state.connections event.client).perform engine now
          state.committed command).1)).locks) (by
        rintro key hkey hactive
        rw [State.put_locks_active _ _ _ _ _ hactive]
        obtain hkey | rfl := hkey
        · exact hlocks key _ hkey
        · exact State.grant_lock hgrant)
    exact ⟨_, heffect.reaches h.1, hproceeds.put h hlocks hstands' hguarantee⟩
  · have hfaults : faults := hmay.resolve_right (by simp [hfaulty])
    obtain ⟨given, heffect, hguarantee⟩ : ∃ given,
        Effect (call event.client) view state.committed committed
          (serial.answers event.client) given ∧
        Guarantee event.client state.locks state.committed committed := by
      obtain rfl | ⟨now, -, rfl⟩ := htables
      · exact ⟨_, .inl ⟨rfl, rfl⟩, hproceeds.unchanged _ _ _⟩
      · obtain ⟨given, -, heffect, hguarantee⟩ := hproceeds.execute hstands now
          (fun _ => some event.client) fun _ _ _ => rfl
        exact ⟨given, heffect, hguarantee⟩
    exact ⟨_, heffect.reaches_failed h.1 hfaults,
      hproceeds.put h hlocks (hproceeds.fail hstands hfaults _ _ _) hguarantee⟩

/-- The runs of the system are runs of one call at a time. -/
theorem serializable (hproceeds : Proceeds engine faults view call failed Stands Guarantee)
    {later : State ι T S L A E N α} (h : Simulates view Stands state serial)
    (hrun : Runs.Reaches (State.Next engine faults) state later) :
    ∃ serial', Runs.Reaches (Serial.Next call failed faults) serial serial' ∧
      Simulates view Stands later serial' :=
  Runs.simulates (Simulates view Stands) (fun hnext h => hproceeds.simulates_step hnext h) h hrun

end Proceeds

end Transactions
