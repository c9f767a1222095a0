import Mathlib.Algebra.BigOperators.Group.Finset.Piecewise
import RetirementPlanner.Lib.Runs

/-!
# Transactions at read committed

Clients of one database, each over a connection of its own. A client is a computation that
sends a command and goes on with what comes back (`Program`). A statement of an open
transaction sees the committed tables under the changes of its own transaction, and those
changes reach the tables at its commit (`Connection.perform`). A lock is held from the
command that takes it until its transaction ends, so a lock has one holder at most.

A step (`State.step`) is one command of one client, which runs, fails, or goes down with its
connection before or after it ran. Clients take steps in any order.

* `step_cases`: what a step does.
* `Orderly.progress`: where clients take one lock at a time and end their transactions, a
  client that waits for a lock waits for one that can go on.
* `run_length`: clients that send so many commands at most take so many steps.
-/

namespace Transactions

/-- What a client sends. -/
inductive Command (S L : Type*)
  | begin
  | commit
  | rollback
  /-- A lock until the end of the transaction. -/
  | lock (key : L)
  | statement (s : S)

/-- Where a client stands with its transaction. -/
inductive Phase
  | outside
  | inside
  /-- Inside, with its lock. -/
  | holding
  deriving DecidableEq

namespace Command

variable {S L A E : Type*}

/-- Transactions do not nest, and take one lock each. -/
def Allowed (phase : Phase) : Command S L → Prop
  | .begin => phase = .outside
  | .lock _ => phase = .inside
  | _ => True

def after (phase : Phase) : Command S L → Except E (List A) → Phase
  | .begin, .ok _ => .inside
  | .lock _, .ok _ => .holding
  | .commit, _ | .rollback, _ => .outside
  | _, _ => phase

end Command

/-! ## Clients -/

/-- A client's computation: what it sends next, and how it goes on with the rows or the
error it gets. -/
inductive Program (S L A E α : Type*)
  | done (result : Except E α)
  | query (command : Command S L) (next : Except E (List A) → Program S L A E α)

namespace Program

section

variable {S L A E α β : Type*}

/-- An error skips the rest. -/
def bind (program : Program S L A E α) (rest : α → Program S L A E β) : Program S L A E β :=
  match program with
  | .done (.ok a) => rest a
  | .done (.error e) => .done (.error e)
  | .query command next => .query command fun answer => (next answer).bind rest

/-- `try` and `catch`. -/
def handle (program : Program S L A E α) (handler : E → Program S L A E α) :
    Program S L A E α :=
  match program with
  | .done (.ok a) => .done (.ok a)
  | .done (.error e) => handler e
  | .query command next => .query command fun answer => (next answer).handle handler

def ask (command : Command S L) : Program S L A E (List A) := .query command .done

/-- It takes a lock in a transaction only, one at a time, and ends every transaction. -/
def Disciplined : Phase → Program S L A E α → Prop
  | phase, .done _ => phase = .outside
  | phase, .query command next =>
    command.Allowed phase ∧ ∀ answer, (next answer).Disciplined (command.after phase answer)

/-- It is done after `n` commands at most, whatever they come to. -/
def Within : ℕ → Program S L A E α → Prop
  | _, .done _ => True
  | 0, .query _ _ => False
  | n + 1, .query _ next => ∀ answer, (next answer).Within n

/-- Both: it ends its transactions, after so many commands. -/
def Ends (phase : Phase) (n : ℕ) (program : Program S L A E α) : Prop :=
  program.Disciplined phase ∧ program.Within n

theorem Within.mono {program : Program S L A E α} {m n : ℕ} (h : program.Within m)
    (hle : m ≤ n) : program.Within n := by
  induction program generalizing m n with
  | done => cases n <;> trivial
  | query command next ih =>
    cases m with
    | zero => cases h
    | succ m =>
      cases n with
      | zero => cases hle
      | succ n => exact fun answer => ih answer (h answer) (Nat.le_of_succ_le_succ hle)

theorem ends_done (result : Except E α) (n : ℕ) :
    (.done result : Program S L A E α).Ends .outside n :=
  ⟨rfl, by cases n <;> trivial⟩

theorem ends_query {phase : Phase} {command : Command S L} {n : ℕ}
    {next : Except E (List A) → Program S L A E α} (hallowed : command.Allowed phase)
    (hnext : ∀ answer, (next answer).Ends (command.after phase answer) n) :
    (query command next).Ends phase (n + 1) :=
  ⟨⟨hallowed, fun answer => (hnext answer).1⟩, fun answer => (hnext answer).2⟩

/-- What it has come to, once it is done. -/
def result : Program S L A E α → Option (Except E α)
  | .done result => some result
  | .query _ _ => none

@[simp] theorem result_done (outcome : Except E α) :
    (done outcome : Program S L A E α).result = some outcome := rfl

@[simp] theorem result_query (command : Command S L)
    (next : Except E (List A) → Program S L A E α) : (query command next).result = none := rfl

end

variable {S L A E : Type*}

instance : Monad (Program S L A E) where
  pure a := .done (.ok a)
  bind := bind

instance : MonadExcept E (Program S L A E) where
  throw e := .done (.error e)
  tryCatch := handle

end Program

/-! ## Connections -/

/-- The tables' side: what a statement returns and changes, given what its transaction began
with, what the server supplies now and the tables it sees; `none` where it fails. -/
structure Engine (T S A E N : Type*) where
  execute : N → N → S → T → Option (List A × (T → T))
  failure : E

inductive Connection (T N : Type*)
  | idle
  | active (began : N) (pending : T → T)
  /-- After a failed statement; nothing but its end is accepted. -/
  | failed
  | closed

namespace Connection

variable {T S L A E N : Type*}

def isActive : Connection T N → Bool
  | .active _ _ => true
  | _ => false

variable (engine : Engine T S A E N) (now : N) (committed : T)

/-- A command that runs, the lock it may ask for granted: what comes back, the connection
after it, and the tables. -/
def perform : Connection T N → Command S L → Except E (List A) × Connection T N × T
  | .closed, _ => (.error engine.failure, .closed, committed)
  | .idle, .begin => (.ok [], .active now id, committed)
  | .idle, .statement s =>
    match engine.execute now now s committed with
    | some (rows, change) => (.ok rows, .idle, change committed)
    | none => (.error engine.failure, .idle, committed)
  | .idle, _ => (.ok [], .idle, committed)
  | .active _ pending, .commit => (.ok [], .idle, pending committed)
  | .active _ _, .rollback => (.ok [], .idle, committed)
  | .active began pending, .statement s =>
    match engine.execute began now s (pending committed) with
    | some (rows, change) =>
      (.ok rows, .active began fun tables => change (pending tables), committed)
    | none => (.error engine.failure, .failed, committed)
  | .active began pending, _ => (.ok [], .active began pending, committed)
  -- A failed transaction is rolled back whichever way it is ended.
  | .failed, .commit => (.ok [], .idle, committed)
  | .failed, .rollback => (.ok [], .idle, committed)
  | .failed, _ => (.error engine.failure, .failed, committed)

/-- The connection after a command that fails, such as one cancelled by a timeout. -/
def refused : Connection T N → Command S L → Connection T N
  | .active _ _, .commit => .idle
  | .active _ _, _ => .failed
  | connection, _ => connection

variable {engine now committed}

/-- A transaction is open after a command that opened it or ran in it. -/
theorem perform_isActive {connection : Connection T N} {command : Command S L}
    (h : (connection.perform engine now committed command).2.1.isActive = true) :
    (connection = .idle ∧ command = .begin ∨
        connection.isActive = true ∧ command ≠ .commit ∧ command ≠ .rollback) ∧
      ∃ rows, (connection.perform engine now committed command).1 = .ok rows := by
  cases connection with
  | idle =>
    cases command with
    | begin => exact ⟨.inl ⟨rfl, rfl⟩, _, rfl⟩
    | statement asked =>
      simp only [perform] at h
      split at h <;> cases h
    | _ => cases h
  | active began pending =>
    cases command with
    | statement asked =>
      simp only [perform] at h ⊢
      split at h
      · exact ⟨.inr ⟨rfl, nofun, nofun⟩, _, rfl⟩
      · cases h
    | begin | lock => exact ⟨.inr ⟨rfl, nofun, nofun⟩, _, rfl⟩
    | _ => cases h
  | failed => cases command <;> cases h
  | closed => cases h

theorem refused_isActive (connection : Connection T N) (command : Command S L) :
    (connection.refused command).isActive = false := by
  cases connection <;> cases command <;> rfl

end Connection

/-! ## The system -/

structure State (ι T S L A E N α : Type*) where
  committed : T
  /-- The holder of each lock. -/
  locks : L → Option ι
  connections : ι → Connection T N
  clients : ι → Program S L A E α

/-- What happens to the command a client has sent. -/
inductive Event (ι N : Type*)
  | execute (client : ι) (now : N)
  | refuse (client : ι)
  /-- The connection breaks before the command runs. -/
  | disconnect (client : ι)
  /-- The command runs, and the connection breaks before the answer arrives. -/
  | lose (client : ι) (now : N)

namespace Event

variable {ι N : Type*}

def client : Event ι N → ι
  | .execute client _ | .refuse client | .disconnect client | .lose client _ => client

/-- The events of a network and a server that never fail. -/
def faultless : Event ι N → Bool
  | .execute _ _ => true
  | _ => false

/-- The events there may be: all of them, or the faultless ones only. -/
def May (faults : Prop) (event : Event ι N) : Prop := faults ∨ event.faultless = true

end Event

namespace State

variable {ι T S L A E N α : Type*} [DecidableEq ι] [DecidableEq L]

/-- Every client before its first command, over the given tables. -/
def start (committed : T) (clients : ι → Program S L A E α) : State ι T S L A E N α :=
  ⟨committed, fun _ => none, fun _ => .idle, clients⟩

section Step

variable (engine : Engine T S A E N) (s : State ι T S L A E N α) (client : ι)

/-- The locks once a command has those it asks for; `none` while another client holds it. -/
def grant : Command S L → Option (L → Option ι)
  | .lock key =>
    if s.locks key = none ∨ s.locks key = some client then
      some (Function.update s.locks key (some client))
    else none
  | _ => some s.locks

/-- The state after a client's command. The end of a transaction releases its locks. -/
def put (locks : L → Option ι) (committed : T) (connection : Connection T N)
    (program : Program S L A E α) : State ι T S L A E N α where
  committed
  locks key := if locks key = some client ∧ !connection.isActive then none else locks key
  connections := Function.update s.connections client connection
  clients := Function.update s.clients client program

/-- What a command comes to, and how its client goes on. -/
def answer (command : Command S L) (next : Except E (List A) → Program S L A E α) :
    Event ι N → Option (State ι T S L A E N α)
  | .execute _ now => (s.grant client command).map fun locks =>
    let outcome := (s.connections client).perform engine now s.committed command
    s.put client locks outcome.2.2 outcome.2.1 (next outcome.1)
  | .refuse _ => some (s.put client s.locks s.committed
    ((s.connections client).refused command) (next (.error engine.failure)))
  | .disconnect _ => some (s.put client s.locks s.committed .closed
    (next (.error engine.failure)))
  | .lose _ now => (s.grant client command).map fun locks =>
    s.put client locks ((s.connections client).perform engine now s.committed command).2.2
      .closed (next (.error engine.failure))

def step (event : Event ι N) : Option (State ι T S L A E N α) :=
  match s.clients event.client with
  | .done _ => none
  | .query command next => s.answer engine event.client command next event

/-- The steps of all clients, in any order. -/
abbrev Next (faults : Prop) :
    State ι T S L A E N α → State ι T S L A E N α → Prop :=
  Runs.Next (State.step engine) fun _ => Event.May faults

end Step

section Facts

variable {engine : Engine T S A E N} {s t : State ι T S L A E N α} {event : Event ι N}
  {client other : ι}

/-- A lock that is held stays with its holder. -/
theorem grant_keeps {command : Command S L} {locks : L → Option ι} {key : L}
    (h : s.grant client command = some locks) (hkey : s.locks key = some other) :
    locks key = some other := by
  cases command with
  | lock asked =>
    simp only [grant] at h
    split at h
    · rename_i hfree
      obtain rfl := Option.some.inj h
      by_cases hne : key = asked
      · subst hne
        rw [hkey] at hfree
        rw [Function.update_self, hfree.resolve_left (by simp)]
      · rw [Function.update_of_ne hne, hkey]
    · cases h
  | _ =>
    obtain rfl := Option.some.inj h
    exact hkey

theorem grant_cases {command : Command S L} {locks : L → Option ι} {key : L}
    (h : s.grant client command = some locks) (hkey : locks key = some other) :
    s.locks key = some other ∨ other = client ∧ command = .lock key := by
  cases command with
  | lock asked =>
    simp only [grant] at h
    split at h
    · obtain rfl := Option.some.inj h
      by_cases hne : key = asked
      · subst hne
        rw [Function.update_self] at hkey
        exact .inr ⟨(Option.some.inj hkey).symm, rfl⟩
      · rw [Function.update_of_ne hne] at hkey
        exact .inl hkey
    · cases h
  | _ =>
    obtain rfl := Option.some.inj h
    exact .inl hkey

theorem grant_lock {key : L} {locks : L → Option ι}
    (h : s.grant client (.lock (S := S) key) = some locks) : locks key = some client := by
  simp only [grant] at h
  split at h
  · obtain rfl := Option.some.inj h
    exact Function.update_self ..
  · cases h

section Put

variable (s) (locks : L → Option ι) (committed : T) (connection : Connection T N)
  (program : Program S L A E α)

omit [DecidableEq L]

@[simp] theorem put_committed :
    (s.put client locks committed connection program).committed = committed := rfl

@[simp] theorem put_connections_self :
    (s.put client locks committed connection program).connections client = connection :=
  Function.update_self ..

@[simp] theorem put_clients_self :
    (s.put client locks committed connection program).clients client = program :=
  Function.update_self ..

theorem put_connections_other (h : other ≠ client) :
    (s.put client locks committed connection program).connections other = s.connections other :=
  Function.update_of_ne h ..

theorem put_clients_other (h : other ≠ client) :
    (s.put client locks committed connection program).clients other = s.clients other :=
  Function.update_of_ne h ..

theorem put_locks_active {key : L} (h : connection.isActive = true) :
    (s.put client locks committed connection program).locks key = locks key := by
  simp [put, h]

theorem put_locks_other {key : L} (h : other ≠ client) (hkey : locks key = some other) :
    (s.put client locks committed connection program).locks key = some other := by
  simp [put, hkey, h]

theorem of_put_locks {key : L}
    (hkey : (s.put client locks committed connection program).locks key = some other) :
    locks key = some other ∧ (other = client → connection.isActive = true) := by
  simp only [put] at hkey
  split at hkey
  · cases hkey
  · rename_i hkept
    refine ⟨hkey, fun heq => ?_⟩
    subst heq
    simpa [hkey] using hkept

end Put

/-- What a step does: the client's command runs, or its client gets the error of a failure,
which may come after the command ran. -/
theorem step_cases (h : s.step engine event = some t) :
    ∃ command next locks, s.clients event.client = .query command next ∧
      (∀ key holder, s.locks key = some holder → locks key = some holder) ∧
      (∀ key holder, locks key = some holder →
        s.locks key = some holder ∨ holder = event.client ∧ command = .lock key) ∧
      ((∃ now, event = .execute event.client now ∧
          s.grant event.client command = some locks ∧
          t = s.put event.client locks
            ((s.connections event.client).perform engine now s.committed command).2.2
            ((s.connections event.client).perform engine now s.committed command).2.1
            (next ((s.connections event.client).perform engine now s.committed command).1)) ∨
        (event.faultless = false ∧ ∃ committed connection, connection.isActive = false ∧
          t = s.put event.client locks committed connection (next (.error engine.failure)) ∧
          (committed = s.committed ∨ ∃ now, event = .lose event.client now ∧
            committed =
              ((s.connections event.client).perform engine now s.committed command).2.2))) := by
  obtain ⟨command, next, hclient, hanswer⟩ : ∃ command next,
      s.clients event.client = .query command next ∧
        s.answer engine event.client command next event = some t := by
    unfold step at h
    split at h
    · cases h
    · rename_i command next hclient
      exact ⟨command, next, hclient, h⟩
  cases event with
  | execute client now =>
    obtain ⟨locks, hgrant, rfl⟩ := Option.map_eq_some_iff.mp hanswer
    exact ⟨command, next, locks, hclient, fun _ _ => grant_keeps hgrant,
      fun _ _ => grant_cases hgrant, .inl ⟨now, rfl, hgrant, rfl⟩⟩
  | refuse client =>
    obtain rfl := Option.some.inj hanswer
    exact ⟨command, next, s.locks, hclient, fun _ _ h => h, fun _ _ => .inl,
      .inr ⟨rfl, _, _, Connection.refused_isActive _ _, rfl, .inl rfl⟩⟩
  | disconnect client =>
    obtain rfl := Option.some.inj hanswer
    exact ⟨command, next, s.locks, hclient, fun _ _ h => h, fun _ _ => .inl,
      .inr ⟨rfl, _, _, rfl, rfl, .inl rfl⟩⟩
  | lose client now =>
    obtain ⟨locks, hgrant, rfl⟩ := Option.map_eq_some_iff.mp hanswer
    exact ⟨command, next, locks, hclient, fun _ _ => grant_keeps hgrant,
      fun _ _ => grant_cases hgrant, .inr ⟨rfl, _, _, rfl, rfl, .inr ⟨now, rfl, rfl⟩⟩⟩

theorem reaches_of_faultless {faults : Prop} {events : List (Event ι N)}
    (h : Runs.run (State.step engine) (fun _ event => event.faultless) s events = some t) :
    Runs.Reaches (State.Next engine faults) s t := by
  refine Relation.ReflTransGen.mono ?_ _ _ (Runs.reaches_of_run h)
  rintro s t ⟨event, hmay, hstep⟩
  exact ⟨event, .inr hmay, hstep⟩

/-! ## No deadlock -/

/-- Clients are disciplined, and hold locks in transactions only. -/
def Orderly (s : State ι T S L A E N α) : Prop :=
  ∀ client, ∃ phase, (s.clients client).Disciplined phase ∧
    ((s.connections client).isActive = true → phase ≠ .outside) ∧
    ∀ key, s.locks key = some client →
      phase = .holding ∧ (s.connections client).isActive = true

omit [DecidableEq ι] [DecidableEq L] in
theorem orderly_start {committed : T} {clients : ι → Program S L A E α}
    (h : ∀ client, (clients client).Disciplined .outside) :
    Orderly (start committed clients : State ι T S L A E N α) :=
  fun client => ⟨.outside, h client, nofun, nofun⟩

theorem Orderly.step (h : Orderly s) (hstep : s.step engine event = some t) : Orderly t := by
  obtain ⟨command, next, locks, hclient, -, hlocks, hcases⟩ := step_cases hstep
  intro other
  obtain ⟨phase, hdisciplined, hactive, hheld⟩ := h other
  by_cases hother : other = event.client
  · subst hother
    rw [hclient] at hdisciplined
    obtain ⟨hallowed, hnext⟩ := hdisciplined
    obtain ⟨now, -, -, rfl⟩ | ⟨-, committed, connection, hclosed, rfl, -⟩ := hcases
    · refine ⟨_, by rw [put_clients_self]; exact hnext _, ?_, fun key hkey => ?_⟩
      · rw [put_connections_self]
        intro hopen
        obtain ⟨⟨-, rfl⟩ | ⟨hwas, hcommit, hrollback⟩, rows, hrows⟩ :=
          Connection.perform_isActive hopen
        · rw [hrows]
          exact nofun
        · rw [hrows]
          cases command with
          | commit => exact absurd rfl hcommit
          | rollback => exact absurd rfl hrollback
          | statement => exact hactive hwas
          | begin | lock => exact nofun
      · obtain ⟨hkept, hopen⟩ := of_put_locks _ _ _ _ _ hkey
        refine ⟨?_, by rw [put_connections_self]; exact hopen rfl⟩
        obtain ⟨⟨hidle, rfl⟩ | ⟨hwas, hcommit, hrollback⟩, rows, hrows⟩ :=
          Connection.perform_isActive (hopen rfl)
        · obtain hmine | ⟨-, hlock⟩ := hlocks key _ hkept
          · rw [hidle] at hheld
            cases (hheld key hmine).2
          · cases hlock
        · rw [hrows]
          obtain hmine | ⟨-, rfl⟩ := hlocks key _ hkept
          · cases command with
            | commit => exact absurd rfl hcommit
            | rollback => exact absurd rfl hrollback
            | begin => exact absurd hallowed (hactive hwas)
            | lock => rfl
            | statement => exact (hheld key hmine).1
          · rfl
    · refine ⟨_, by rw [put_clients_self]; exact hnext _, ?_, fun key hkey => ?_⟩
      · rw [put_connections_self, hclosed]
        exact nofun
      · rw [(of_put_locks _ _ _ _ _ hkey).2 rfl] at hclosed
        cases hclosed
  · obtain ⟨locks', committed, connection, program, rfl, hkeys⟩ : ∃ locks' committed connection
        program, t = s.put event.client locks' committed connection program ∧
          ∀ key, locks' key = some other → s.locks key = some other := by
      have hkeys : ∀ key, locks key = some other → s.locks key = some other := fun key hkey =>
        (hlocks key _ hkey).resolve_right fun hasked => hother hasked.1
      obtain ⟨now, -, -, rfl⟩ | ⟨-, committed, connection, -, rfl, -⟩ := hcases
      · exact ⟨_, _, _, _, rfl, hkeys⟩
      · exact ⟨_, _, _, _, rfl, hkeys⟩
    refine ⟨phase, ?_, ?_, fun key hkey => ?_⟩
    · rw [put_clients_other _ _ _ _ _ hother]
      exact hdisciplined
    · rw [put_connections_other _ _ _ _ _ hother]
      exact hactive
    · rw [put_connections_other _ _ _ _ _ hother]
      exact hheld key (hkeys key (of_put_locks _ _ _ _ _ hkey).1)

theorem isSome_step {command : Command S L} {next : Except E (List A) → Program S L A E α}
    (hclient : s.clients client = .query command next)
    (hgrant : (s.grant client command).isSome = true) (now : N) :
    (s.step engine (.execute client now)).isSome = true := by
  simp only [State.step, Event.client, hclient, State.answer, Option.isSome_map, hgrant]

/-- A client that is not done can go on, or waits for a lock whose holder can. -/
theorem Orderly.progress (h : Orderly s) (hclient : (s.clients client).result = none) (now : N) :
    (s.step engine (.execute client now)).isSome = true ∨
      ∃ key next holder, s.clients client = .query (.lock key) next ∧
        s.locks key = some holder ∧ (s.step engine (.execute holder now)).isSome = true := by
  cases hasks : s.clients client with
  | done => simp [hasks] at hclient
  | query command next =>
    by_cases hgrant : (s.grant client command).isSome = true
    · exact .inl (isSome_step hasks hgrant now)
    · right
      cases command with
      | lock key =>
        simp only [grant] at hgrant
        split at hgrant
        · exact absurd rfl hgrant
        · rename_i hheld
          cases hlock : s.locks key with
          | none => exact absurd (.inl hlock) hheld
          | some holder =>
            refine ⟨key, next, holder, rfl, hlock, ?_⟩
            obtain ⟨phase, hdisciplined, -, hholds⟩ := h holder
            obtain ⟨rfl, -⟩ := hholds key hlock
            cases hholder : s.clients holder with
            | done =>
              rw [hholder] at hdisciplined
              cases hdisciplined
            | query asked goesOn =>
              rw [hholder] at hdisciplined
              refine isSome_step hholder ?_ now
              cases asked with
              | lock => cases hdisciplined.1
              | _ => rfl
      | _ => exact absurd rfl hgrant

theorem step_within {bound : ι → ℕ} (h : ∀ client, (s.clients client).Within (bound client))
    (hstep : s.step engine event = some t) :
    0 < bound event.client ∧ ∀ client, (t.clients client).Within
      (Function.update bound event.client (bound event.client - 1) client) := by
  obtain ⟨command, next, locks, hclient, -, -, hcases⟩ := step_cases hstep
  obtain ⟨answer, locks', committed, connection, rfl⟩ : ∃ answer locks' committed connection,
      t = s.put event.client locks' committed connection (next answer) := by
    obtain ⟨now, -, -, rfl⟩ | ⟨-, committed, connection, -, rfl, -⟩ := hcases
    · exact ⟨_, _, _, _, rfl⟩
    · exact ⟨_, _, _, _, rfl⟩
  have hbound := h event.client
  rw [hclient] at hbound
  obtain ⟨n, hn⟩ : ∃ n, bound event.client = n + 1 :=
    Nat.exists_eq_succ_of_ne_zero fun hzero => by rw [hzero] at hbound; exact hbound
  rw [hn] at hbound
  refine ⟨by omega, fun client => ?_⟩
  by_cases heq : client = event.client
  · subst heq
    rw [put_clients_self, Function.update_self, hn]
    exact hbound answer
  · rw [put_clients_other _ _ _ _ _ heq, Function.update_of_ne heq]
    exact h client

theorem run_length [Fintype ι] (bound : ι → ℕ) {events : List (Event ι N)}
    (h : ∀ client, (s.clients client).Within (bound client))
    (hrun : Runs.run (State.step engine) (fun _ _ => true) s events = some t) :
    events.length ≤ ∑ client, bound client := by
  induction events generalizing s bound with
  | nil => exact Nat.zero_le _
  | cons event events ih =>
    rw [Runs.run, if_pos rfl] at hrun
    obtain ⟨next, hstep, hrest⟩ := Option.bind_eq_some_iff.mp hrun
    obtain ⟨hpos, hwithin⟩ := step_within h hstep
    have hsum := Finset.sum_update_of_mem (Finset.mem_univ event.client) bound
      (bound event.client - 1)
    have hsplit := Finset.sum_sdiff (f := bound)
      (Finset.subset_univ ({event.client} : Finset ι))
    rw [Finset.sum_singleton] at hsplit
    have := ih _ hwithin hrest
    rw [List.length_cons]
    omega

end Facts

end State

end Transactions
