import RetirementPlanner.Lib.Serial

/-!
# Transactions under one lock

Clients that run one transaction each and take the same lock before anything in it reads or
writes a table (`Exclusive`). However they interleave, each of them comes to what it comes to
alone (`Program.alone`), at the command that ends its work.

* `exclusive_serializable`: the runs of such clients are runs of one client at a time.
* `Program.alone_committed`: what a transaction comes to alone is what its body comes to.
-/

namespace Transactions

variable {ι T S L A E α : Type*} (engine : Engine T S A E Unit)

/-- What a client comes to where nothing else runs, and the tables after it. -/
def Program.alone : Connection T Unit → T → Program S L A E α → Except E α × T
  | _, tables, .done result => (result, tables)
  | connection, tables, .query command next =>
    let outcome := connection.perform engine () tables command
    (next outcome.1).alone outcome.2.1 outcome.2.2

/-! ## Clients that take the lock first -/

/-- A client that rolls back and ends with an error. -/
inductive Leaves : E → Program S L A E α → Prop
  | rollback {error : E} {next : Except E (List A) → Program S L A E α}
      (hok : ∀ rows, next (.ok rows) = .done (.error error))
      (herror : ∀ e, ∃ e', next (.error e) = .done (.error e')) :
      Leaves error (.query .rollback next)

/-- A client with one transaction, which takes the lock before it reads or writes. -/
inductive Exclusive (key : L) : Phase → Program S L A E α → Prop
  | begin {next : Except E (List A) → Program S L A E α}
      (hok : ∀ rows, Exclusive key .inside (next (.ok rows)))
      (herror : ∀ e, ∃ e', next (.error e) = .done (.error e')) :
      Exclusive key .outside (.query .begin next)
  /-- A statement about the transaction itself. -/
  | setting {statement : S} {rows : List A} {next : Except E (List A) → Program S L A E α}
      (hsetting : ∀ tables, engine.execute () () statement tables = some (rows, id))
      (hok : ∀ rows, Exclusive key .inside (next (.ok rows)))
      (herror : ∀ e, ∃ e', Leaves e' (next (.error e))) :
      Exclusive key .inside (.query (.statement statement) next)
  | lock {next : Except E (List A) → Program S L A E α}
      (hok : ∀ rows, Exclusive key .holding (next (.ok rows)))
      (herror : ∀ e, ∃ e', Leaves e' (next (.error e))) :
      Exclusive key .inside (.query (.lock key) next)
  | statement {statement : S} {next : Except E (List A) → Program S L A E α}
      (hok : ∀ rows, Exclusive key .holding (next (.ok rows)))
      (herror : ∀ e, ∃ e', Leaves e' (next (.error e))) :
      Exclusive key .holding (.query (.statement statement) next)
  | commit {next : Except E (List A) → Program S L A E α}
      (hok : ∀ rows, ∃ result, next (.ok rows) = .done result)
      (herror : ∀ e, ∃ e', Leaves e' (next (.error e))) :
      Exclusive key .holding (.query .commit next)
  | leave {error : E} {program : Program S L A E α} (h : Leaves error program) :
      Exclusive key .holding program

/-! ## Where a client stands -/

section Turn

variable (faults : Prop) (key : L) (client : ι) (locks : L → Option ι) (tables : T)
  (original : Program S L A E α)

/-- A client between two of its commands: what it does next, its connection, and what it
comes to if that is settled. -/
inductive Turn : Program S L A E α → Connection T Unit → Option (Except E α) → Prop
  | waiting (h : Exclusive engine key .outside original) : Turn original .idle none
  | entering {program : Program S L A E α} (h : Exclusive engine key .inside program)
      (halone : ∀ tables, program.alone engine (.active () id) tables =
        original.alone engine .idle tables) :
      Turn program (.active () id) none
  | working {program : Program S L A E α} {pending : T → T}
      (h : Exclusive engine key .holding program) (hlock : locks key = some client)
      (halone : program.alone engine (.active () pending) tables =
        original.alone engine .idle tables) :
      Turn program (.active () pending) none
  | leaving {program : Program S L A E α} {connection : Connection T Unit} {error : E}
      {given : Except E α} (h : Leaves error program)
      (hgiven : faults ∨ given = .error error ∧ connection ≠ .closed) :
      Turn program connection (some given)
  | left {connection : Connection T Unit} {result given : Except E α}
      (h : result = given ∨ faults ∧ ∃ error, result = .error error) :
      Turn (.done result) connection (some given)

variable {engine faults key client locks tables original}

/-- What other clients do leaves a client where it stands. -/
theorem Turn.frame {locks' : L → Option ι} {tables' : T} {program : Program S L A E α}
    {connection : Connection T Unit} {given : Option (Except E α)}
    (h : Turn engine faults key client locks tables original program connection given)
    (hlocks : locks key = some client → locks' key = some client ∧ tables' = tables) :
    Turn engine faults key client locks' tables' original program connection given := by
  cases h with
  | waiting h => exact .waiting h
  | entering h halone => exact .entering h halone
  | working h hlock halone =>
    obtain ⟨hlock', rfl⟩ := hlocks hlock
    exact .working h hlock' halone
  | leaving h hgiven => exact .leaving h hgiven
  | left h => exact .left h

/-- What a client does alone. -/
def Program.call (engine : Engine T S A E Unit) (original : Program S L A E α) (_now : Unit)
    (tables : T) : T × Except E α :=
  ((original.alone engine .idle tables).2, (original.alone engine .idle tables).1)

theorem effect_of_alone {result : Except E α} {tables' : T}
    (h : (result, tables') = original.alone engine .idle tables) :
    Effect (original.call engine) id tables tables' none (some result) :=
  .inr ⟨rfl, (), by simp [Program.call, ← h], by simp [Program.call, ← h]⟩

theorem Leaves.alone {error : E} {program : Program S L A E α} (h : Leaves error program)
    {connection : Connection T Unit} (hopen : connection ≠ .closed) (tables : T) :
    program.alone engine connection tables = (.error error, tables) := by
  obtain ⟨hok, -⟩ := h
  cases connection with
  | closed => exact absurd rfl hopen
  | _ => simp only [Program.alone, Connection.perform, hok]

/-- The rollback of a client that leaves. -/
theorem Leaves.execute (engine : Engine T S A E Unit) {error : E}
    {program : Program S L A E α} (h : Leaves error program)
    {command : Command S L} {next : Except E (List A) → Program S L A E α}
    (hprogram : program = .query command next) (connection : Connection T Unit) (tables : T) :
    (connection.perform engine () tables command).2.2 = tables ∧
      ∃ e, next (connection.perform engine () tables command).1 = .done (.error e) ∧
        (connection ≠ .closed → e = error) := by
  obtain ⟨hok, herror⟩ := h
  obtain ⟨rfl, rfl⟩ := Program.query.inj hprogram
  cases connection with
  | closed =>
    obtain ⟨e, he⟩ := herror engine.failure
    exact ⟨rfl, e, he, fun hopen => absurd rfl hopen⟩
  | _ => exact ⟨rfl, error, hok _, fun _ => rfl⟩

/-- A command that runs. -/
theorem Turn.execute {program : Program S L A E α} {connection : Connection T Unit}
    {given : Option (Except E α)} {command : Command S L}
    {next : Except E (List A) → Program S L A E α}
    (h : Turn engine faults key client locks tables original program connection given)
    (hprogram : program = .query command next) {locks' : L → Option ι}
    (hlocks : locks key = some client ∨ command = .lock key →
      (connection.perform engine () tables command).2.1.isActive = true →
      locks' key = some client) :
    ∃ given', Turn engine faults key client locks'
        (connection.perform engine () tables command).2.2 original
        (next (connection.perform engine () tables command).1)
        (connection.perform engine () tables command).2.1 given' ∧
      Effect (original.call engine) id tables (connection.perform engine () tables command).2.2
        given given' ∧
      (locks key ≠ some client →
        (connection.perform engine () tables command).2.2 = tables) := by
  subst hprogram
  cases h with
  | waiting h =>
    cases h with
    | begin hok herror =>
      exact ⟨none, .entering (hok []) fun _ => rfl, .inl ⟨rfl, rfl⟩, fun _ => rfl⟩
  | entering h halone =>
    cases h with
    | setting hsetting hok herror =>
      have hrun := hsetting tables
      simp only [Program.alone, Connection.perform, id_eq, hsetting] at halone ⊢
      exact ⟨none, .entering (hok _) halone, .inl ⟨rfl, rfl⟩, fun _ => trivial⟩
    | lock hok herror =>
      exact ⟨none, .working (hok []) (hlocks (.inr rfl) rfl) (halone tables), .inl ⟨rfl, rfl⟩,
        fun _ => rfl⟩
  | working h hlock halone =>
    cases h with
    | statement hok herror =>
      rename_i pending statement
      cases hrun : engine.execute () () statement (pending tables) with
      | none =>
        simp only [Program.alone, Connection.perform, hrun] at halone ⊢
        obtain ⟨e, hleaves⟩ := herror engine.failure
        rw [hleaves.alone (by simp)] at halone
        exact ⟨_, .leaving hleaves (.inr ⟨rfl, by simp⟩), effect_of_alone halone, fun _ => trivial⟩
      | some outcome =>
        simp only [Program.alone, Connection.perform, hrun] at halone hlocks ⊢
        exact ⟨none, .working (hok _) (hlocks (.inl hlock) rfl) halone, .inl ⟨rfl, rfl⟩,
          fun _ => trivial⟩
    | commit hok herror =>
      obtain ⟨result, hresult⟩ := hok []
      simp only [Program.alone, Connection.perform, hresult] at halone ⊢
      exact ⟨_, .left (.inl rfl), effect_of_alone halone, fun hfree => absurd hlock hfree⟩
    | leave h =>
      rename_i pending error
      rw [h.alone (by simp)] at halone
      obtain ⟨htables, e, he, heq⟩ := h.execute engine rfl (.active () pending) tables
      obtain rfl := heq (by simp)
      rw [he, htables]
      exact ⟨_, .left (.inl rfl), effect_of_alone halone, fun _ => rfl⟩
  | leaving h hgiven =>
    obtain ⟨htables, e, he, heq⟩ := h.execute engine rfl connection tables
    rw [he, htables]
    refine ⟨_, .left ?_, .inl ⟨rfl, rfl⟩, fun _ => rfl⟩
    obtain hfaults | ⟨rfl, hopen⟩ := hgiven
    · exact .inr ⟨hfaults, e, rfl⟩
    · exact .inl (by rw [heq hopen])

/-- A command that fails: its client ends with an error, unless it is settled. -/
theorem Turn.fail {program : Program S L A E α} {connection : Connection T Unit}
    {given : Option (Except E α)} {command : Command S L}
    {next : Except E (List A) → Program S L A E α}
    (h : Turn engine faults key client locks tables original program connection given)
    (hprogram : program = .query command next) (hfaults : faults) (locks' : L → Option ι)
    (tables' : T) (connection' : Connection T Unit) :
    Turn engine faults key client locks' tables' original (next (.error engine.failure))
      connection' (some (given.getD (.error engine.failure))) := by
  have hleaving : ∀ {rest : Program S L A E α} {g : Except E α}, (∃ e, Leaves e rest) →
      Turn engine faults key client locks' tables' original rest connection' (some g) :=
    fun ⟨_, hleaves⟩ => .leaving hleaves (.inl hfaults)
  have hleft : ∀ {rest : Program S L A E α} {g : Except E α}, (∃ e, rest = .done (.error e)) →
      Turn engine faults key client locks' tables' original rest connection' (some g) := by
    rintro rest g ⟨e, rfl⟩
    exact .left (.inr ⟨hfaults, e, rfl⟩)
  subst hprogram
  cases h with
  | waiting h =>
    cases h with
    | begin hok herror => exact hleft (herror _)
  | entering h halone =>
    cases h with
    | setting hsetting hok herror => exact hleaving (herror _)
    | lock hok herror => exact hleaving (herror _)
  | working h hlock halone =>
    cases h with
    | statement hok herror => exact hleaving (herror _)
    | commit hok herror => exact hleaving (herror _)
    | leave h =>
      cases h with
      | rollback hok herror => exact hleft (herror _)
  | leaving h hgiven =>
    cases h with
    | rollback hok herror => exact hleft (herror _)

theorem Turn.given {program : Program S L A E α} {connection : Connection T Unit}
    {given : Option (Except E α)}
    (h : Turn engine faults key client locks tables original program connection given)
    {result : Except E α} (hresult : program.result = some result) :
    ∃ answer, given = some answer ∧
      (result = answer ∨ faults ∧ ∃ error, result = .error error) := by
  cases h with
  | waiting h => cases h; cases hresult
  | entering h => cases h <;> cases hresult
  | working h =>
    cases h with
    | leave h => cases h; cases hresult
    | _ => cases hresult
  | leaving h => cases h; cases hresult
  | left h =>
    obtain rfl := Option.some.inj hresult
    exact ⟨_, rfl, h⟩

end Turn

/-! ## The system -/

section System

variable [DecidableEq ι] [DecidableEq L] {programs : ι → Program S L A E α}

omit [DecidableEq ι] [DecidableEq L] in
theorem exclusive_proceed (faults : Prop) (key : L) (programs : ι → Program S L A E α) :
    Proceeds engine faults id (fun client => (programs client).call engine)
      (.error engine.failure)
      (fun client locks tables => Turn engine faults key client locks tables (programs client))
      fun client locks tables tables' => locks key ≠ some client → tables' = tables where
  unchanged _ _ _ _ := rfl
  frame h hother hlocks hguarantee := h.frame fun hkey => ⟨hlocks key hkey,
    hguarantee fun hheld => hother (Option.some.inj (hheld.symm.trans hkey))⟩
  execute h _ _ hlocks := h.execute rfl (hlocks key)
  fail h hfaults locks' tables' connection' := h.fail rfl hfaults locks' tables' connection'

/-- The tables are those of the clients that have done their work, one at a time, and each
client that is done has come to what it comes to alone, or has failed. -/
structure Settled (faults : Prop) (state : State ι T S L A E Unit α)
    (serial : Serial ι T (Except E α)) : Prop where
  tables : state.committed = serial.database
  given : ∀ client result, (state.clients client).result = some result →
    ∃ answer, serial.answers client = some answer ∧
      (result = answer ∨ faults ∧ ∃ error, result = .error error)

/-- At two points of a run the clients stand where they do at two points of a serial run. -/
theorem exclusive_serializable {key : L} (faults : Prop)
    (h : ∀ client, Exclusive engine key .outside (programs client)) {tables : T}
    {state later : State ι T S L A E Unit α}
    (hrun : Runs.Reaches (State.Next engine faults) (State.start tables programs) state)
    (hrest : Runs.Reaches (State.Next engine faults) state later) :
    ∃ serial serial', Runs.Reaches (Serial.Next (fun client => (programs client).call engine)
        (.error engine.failure) faults) ⟨tables, fun _ => none⟩ serial ∧
      Runs.Reaches (Serial.Next (fun client => (programs client).call engine)
        (.error engine.failure) faults) serial serial' ∧
      Settled faults state serial ∧ Settled faults later serial' := by
  have hproceed := exclusive_proceed engine faults key programs
  have hstart : Simulates id
      (fun client locks tables => Turn engine faults key client locks tables (programs client))
      (State.start tables programs) (⟨tables, fun _ => none⟩ : Serial ι T (Except E α)) :=
    ⟨rfl, fun client => .waiting (h client)⟩
  obtain ⟨serial, hserial, h⟩ := hproceed.serializable hstart hrun
  obtain ⟨serial', hserial', h'⟩ := hproceed.serializable h hrest
  exact ⟨serial, serial', hserial, hserial', ⟨h.1, fun client _ => (h.2 client).given⟩,
    ⟨h'.1, fun client _ => (h'.2 client).given⟩⟩

end System

/-! ## Bodies of transactions -/

namespace Program

/-- A body within its transaction, to the commit or the rollback. -/
def committed (body : Program S L A E α) : Program S L A E α :=
  (body.bind fun result => .query .commit fun
    | .ok _ => .done (.ok result)
    | .error error => .done (.error error)).handle fun error => .query .rollback fun
      | .ok _ => .done (.error error)
      | .error error => .done (.error error)

/-- What a body comes to on the tables it sees, and the tables it leaves. -/
def inside (engine : Engine T S A E Unit) : T → Program S L A E α → Except E (α × T)
  | tables, .done (.ok result) => .ok (result, tables)
  | _, .done (.error error) => .error error
  | tables, .query (.statement asked) next =>
    match engine.execute () () asked tables with
    | some (rows, change) => (next (.ok rows)).inside engine (change tables)
    | none => (next (.error engine.failure)).inside engine tables
  | tables, .query _ next => (next (.ok [])).inside engine tables

/-- A body that takes the lock first, sends statements only after it, and ends with the first
error it gets. -/
def Body (engine : Engine T S A E Unit) (key : L) : Phase → Program S L A E α → Prop
  | phase, .done _ => phase = .holding
  | phase, .query command next =>
    (∀ e, ∃ e', next (.error e) = .done (.error e')) ∧
      match phase, command with
      | .inside, .statement asked =>
        (∃ rows, ∀ tables, engine.execute () () asked tables = some (rows, id)) ∧
          ∀ rows, (next (.ok rows)).Body engine key .inside
      | .inside, .lock asked => asked = key ∧ ∀ rows, (next (.ok rows)).Body engine key .holding
      | .holding, .statement _ => ∀ rows, (next (.ok rows)).Body engine key .holding
      | _, _ => False

variable {engine : Engine T S A E Unit} {key : L} {β : Type*}

theorem body_ask (statement : S) :
    (ask (.statement statement) : Program S L A E (List A)).Body engine key .holding :=
  ⟨fun e => ⟨e, rfl⟩, fun _ => rfl⟩

theorem Body.bind {program : Program S L A E α} {rest : α → Program S L A E β}
    (h : program.Body engine key .holding) (hrest : ∀ a, (rest a).Body engine key .holding) :
    (program.bind rest).Body engine key .holding := by
  induction program with
  | done result =>
    cases result with
    | ok a => exact hrest a
    | error e => rfl
  | query command next ih =>
    unfold Body at h
    obtain ⟨herror, hnext⟩ := h
    cases command with
    | statement asked =>
      unfold Program.bind Body
      refine ⟨fun e => ?_, fun rows => ih _ (hnext rows)⟩
      obtain ⟨e', he⟩ := herror e
      exact ⟨e', by simp only [he, Program.bind]⟩
    | _ => cases hnext

theorem Body.exclusive {phase : Phase} {body : Program S L A E α} (h : body.Body engine key phase)
    (hphase : phase ≠ .outside) : Exclusive engine key phase body.committed := by
  induction body generalizing phase with
  | done result =>
    obtain rfl : phase = .holding := h
    cases result with
    | ok a => exact .commit (fun _ => ⟨_, rfl⟩) fun e =>
        ⟨e, .rollback (fun _ => rfl) fun e' => ⟨e', rfl⟩⟩
    | error e => exact .leave (.rollback (fun _ => rfl) fun e' => ⟨e', rfl⟩)
  | query command next ih =>
    unfold Body at h
    obtain ⟨herror, hnext⟩ := h
    have hleaves : ∀ e, ∃ e', Leaves e' (next (.error e)).committed := by
      intro e
      obtain ⟨e', he⟩ := herror e
      rw [he]
      exact ⟨e', .rollback (fun _ => rfl) fun e' => ⟨e', rfl⟩⟩
    cases phase with
    | outside => exact absurd rfl hphase
    | inside =>
      cases command with
      | statement asked =>
        obtain ⟨⟨rows, hsetting⟩, hnext⟩ := hnext
        exact .setting hsetting (fun rows => ih _ (hnext rows) hphase) hleaves
      | lock asked =>
        obtain ⟨rfl, hnext⟩ := hnext
        exact .lock (fun rows => ih _ (hnext rows) (by simp)) hleaves
      | _ => cases hnext
    | holding =>
      cases command with
      | statement asked => exact .statement (fun rows => ih _ (hnext rows) hphase) hleaves
      | _ => cases hnext

theorem alone_committed {phase : Phase} {body : Program S L A E α}
    (h : body.Body engine key phase) (hphase : phase ≠ .outside) (pending : T → T) (tables : T) :
    body.committed.alone engine (.active () pending) tables =
      match body.inside engine (pending tables) with
      | .ok (result, tables') => (.ok result, tables')
      | .error error => (.error error, tables) := by
  induction body generalizing phase pending with
  | done result => cases result <;> rfl
  | query command next ih =>
    unfold Body at h
    obtain ⟨herror, hnext⟩ := h
    cases phase with
    | outside => exact absurd rfl hphase
    | inside =>
      cases command with
      | statement asked =>
        obtain ⟨⟨rows, hsetting⟩, hnext⟩ := hnext
        have halone := ih _ (hnext rows) hphase pending
        simpa only [committed, bind, handle, alone, Connection.perform, inside, hsetting,
          id_eq] using halone
      | lock asked => exact ih _ (hnext.2 []) (by simp) pending
      | _ => cases hnext
    | holding =>
      cases command with
      | statement asked =>
        cases hrun : engine.execute () () asked (pending tables) with
        | none =>
          obtain ⟨e, he⟩ := herror engine.failure
          simp only [committed, bind, handle, alone, Connection.perform, inside, hrun, he]
        | some run =>
          have halone := ih _ (hnext run.1) hphase fun tables => run.2 (pending tables)
          simpa only [committed, bind, handle, alone, Connection.perform, inside, hrun] using
            halone
      | _ => cases hnext

theorem inside_ask (asked : S) (rest : List A → Program S L A E β) (tables : T) :
    ((ask (.statement asked)).bind rest).inside engine tables =
      match engine.execute () () asked tables with
      | some (rows, change) => (rest rows).inside engine (change tables)
      | none => .error engine.failure := by
  simp only [ask, bind, inside]

theorem inside_bind {program : Program S L A E α} {rest : α → Program S L A E β}
    (h : program.Body engine key .holding) (tables : T) :
    (program.bind rest).inside engine tables =
      match program.inside engine tables with
      | .ok (result, tables') => (rest result).inside engine tables'
      | .error error => .error error := by
  induction program generalizing tables with
  | done result => cases result <;> rfl
  | query command next ih =>
    unfold Body at h
    obtain ⟨herror, hnext⟩ := h
    cases command with
    | statement asked =>
      cases hrun : engine.execute () () asked tables with
      | none =>
        obtain ⟨e, he⟩ := herror engine.failure
        simp only [bind, inside, hrun, he]
      | some run =>
        have hinside := ih _ (hnext run.1) (run.2 tables)
        simpa only [bind, inside, hrun] using hinside
    | _ => cases hnext

end Program

end Transactions
