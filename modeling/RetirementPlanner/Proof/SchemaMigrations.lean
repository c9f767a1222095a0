import Mathlib.Data.List.MinMax
import RetirementPlanner.Lib.Exclusive
import RetirementPlanner.Web.SchemaMigrations

/-!
# Migrations apply once

Runs of `applyMigrations` interleave, fail and break off, and the schema is still migrated
at most once, in whole and in order: a run takes the migration lock before it reads or writes
anything (`applyMigrations_exclusive`), so it comes to what it comes to alone (`call_cases`).

* `migrations_apply_once`: the pending migrations are applied once or not at all.
* `schemaFloor_stays`: a schema that was new enough to serve stays new enough.
-/

namespace RetirementPlanner.Web

open Transactions

variable {Schema : Type} {ddl : String → Schema → Option Schema} {hashtext : String → ℤ}

/-! ## A run is one transaction -/

section

variable {S L A E α : Type}

theorem runInTransaction_eq (setStatementTimeout : ℕ → S) (run : Program S L A E α) :
    runInTransaction setStatementTimeout run = .query .begin fun
      | .ok _ => ((Program.ask (.statement (setStatementTimeout statementTimeoutMs))).bind
          fun _ => run).committed
      | .error error => .done (.error error) := by
  refine congrArg (Program.query .begin) (funext fun answer => ?_)
  cases answer with
  | error error => rfl
  | ok rows =>
    have hrollback : (fun error => (do
        let _ ← Program.ask .rollback
        throw error : Program S L A E α)) = fun error => .query .rollback fun
          | .ok _ => .done (.error error)
          | .error error => .done (.error error) := by
      refine funext fun error => congrArg (Program.query .rollback) (funext fun answer => ?_)
      cases answer <;> rfl
    have hcommit : (fun result => (do
        let _ ← Program.ask .commit
        pure result : Program S L A E α)) = fun result => .query .commit fun
          | .ok _ => .done (.ok result)
          | .error error => .done (.error error) := by
      refine funext fun result => congrArg (Program.query .commit) (funext fun answer => ?_)
      cases answer <;> rfl
    change Program.handle (Program.bind _ fun _ => Program.bind run fun result => (do
      let _ ← Program.ask .commit
      pure result : Program S L A E α)) (fun error => (do
        let _ ← Program.ask .rollback
        throw error : Program S L A E α)) = _
    rw [hrollback, hcommit, Program.committed]
    refine congrArg (Program.query _) (funext fun answer => ?_)
    cases answer <;> rfl

end

/-- What a run does under the lock. -/
def migrating (grantTo : Option String) : Migrate MigrationOutcome := do
  let _ ← Program.ask (.statement .createSchemaMigrations)
  let rows ← Program.ask (.statement .selectVersion)
  let outcome ← applyPending databaseMigrations ⟨(rows.head?.bind id).getD 0, []⟩
  grantRole grantTo
  pure outcome

def opening (hashtext : String → ℤ) (grantTo : Option String) : Migrate MigrationOutcome :=
  (Program.ask (.statement (.setStatementTimeout statementTimeoutMs))).bind fun _ =>
    (Program.ask (.lock (hashtext migrationLock))).bind fun _ => migrating grantTo

theorem applyMigrations_eq (hashtext : String → ℤ) (grantTo : Option String) :
    applyMigrations hashtext grantTo = .query .begin fun
      | .ok _ => (opening hashtext grantTo).committed
      | .error error => .done (.error error) := by
  change runInTransaction .setStatementTimeout
    ((Program.ask (.lock (hashtext migrationLock))).bind fun _ => migrating grantTo) = _
  rw [runInTransaction_eq]
  refine congrArg (Program.query .begin) (funext fun answer => ?_)
  cases answer with
  | error error => rfl
  | ok rows => exact congrArg Program.committed rfl

section Body

variable (ddl) (key : ℤ)

theorem executeAll_body (sqls : List String) :
    (executeAll sqls).Body (migrationEngine ddl) key .holding := by
  induction sqls with
  | nil => rfl
  | cons sql rest ih => exact (Program.body_ask _).bind fun _ => ih

theorem applyPending_body (migrations : List DatabaseMigration) (outcome : MigrationOutcome) :
    (applyPending migrations outcome).Body (migrationEngine ddl) key .holding := by
  induction migrations generalizing outcome with
  | nil => rfl
  | cons migration rest ih =>
    unfold applyPending
    split
    · exact ih outcome
    · exact (executeAll_body ddl key _).bind fun _ => (Program.body_ask _).bind fun _ => ih _

theorem grantRole_body (grantTo : Option String) :
    (grantRole grantTo).Body (migrationEngine ddl) key .holding := by
  unfold grantRole
  split
  · rfl
  · split
    · rfl
    · split
      · exact executeAll_body ddl key _
      · rfl

theorem migrating_body (grantTo : Option String) :
    (migrating grantTo).Body (migrationEngine ddl) key .holding :=
  (Program.body_ask _).bind fun _ => (Program.body_ask _).bind fun _ =>
    (applyPending_body ddl key _ _).bind fun _ => (grantRole_body ddl key _).bind fun _ => rfl

theorem opening_body (hashtext : String → ℤ) (grantTo : Option String) :
    (opening hashtext grantTo).Body (migrationEngine ddl) (hashtext migrationLock) .inside :=
  ⟨fun e => ⟨e, rfl⟩, ⟨[], fun _ => rfl⟩, fun _ => ⟨fun e => ⟨e, rfl⟩, rfl, fun _ =>
    migrating_body ddl _ grantTo⟩⟩

end Body

theorem applyMigrations_exclusive (grantTo : Option String) :
    Exclusive (migrationEngine ddl) (hashtext migrationLock) .outside
      (applyMigrations hashtext grantTo) := by
  rw [applyMigrations_eq]
  exact .begin (fun _ => (opening_body ddl hashtext grantTo).exclusive (by simp)) fun e => ⟨e, rfl⟩

theorem applyMigrations_call (grantTo : Option String) (tables : SchemaTables Schema) :
    (applyMigrations hashtext grantTo).call (migrationEngine ddl) () tables =
      match (migrating grantTo).inside (migrationEngine ddl) tables with
      | .ok (outcome, tables') => (tables', .ok outcome)
      | .error error => (tables, .error error) := by
  have halone := Program.alone_committed (opening_body ddl hashtext grantTo) (by simp) id tables
  have hinside : (opening hashtext grantTo).inside (migrationEngine ddl) tables =
      (migrating grantTo).inside (migrationEngine ddl) tables := rfl
  rw [id_eq, hinside] at halone
  rw [applyMigrations_eq, Program.call]
  change (((opening hashtext grantTo).committed.alone (migrationEngine ddl) (.active () id)
      tables).2, ((opening hashtext grantTo).committed.alone (migrationEngine ddl)
      (.active () id) tables).1) = _
  rw [halone]
  cases (migrating grantTo).inside (migrationEngine ddl) tables <;> rfl

/-! ## What a run does -/

/-- The statements on the rest of the database, one after another. -/
def runAll (ddl : String → Schema → Option Schema) (sqls : List String) (schema : Schema) :
    Option Schema :=
  sqls.foldlM (fun schema sql => ddl sql schema) schema

/-- The migrations that the loop does not skip. -/
def pending : List DatabaseMigration → ℕ → List DatabaseMigration
  | [], _ => []
  | migration :: rest, version =>
    if migration.version ≤ version then pending rest version
    else migration :: pending rest migration.version

/-- The version after the loop. -/
def latest (migrations : List DatabaseMigration) (version : ℕ) : ℕ :=
  (migrations.map (·.version)).foldl max version

def DatabaseMigration.row (migration : DatabaseMigration) : ℕ × String :=
  (migration.version, migration.name)

def deployedVersion (rows : List (ℕ × String)) : ℕ := ((rows.map (·.1)).max?).getD 0

theorem runAll_append (sqls sqls' : List String) (schema : Schema) :
    runAll ddl (sqls ++ sqls') schema = (runAll ddl sqls schema).bind (runAll ddl sqls') :=
  List.foldlM_append

theorem executes (statement : MigrationStatement) (tables : SchemaTables Schema) :
    (migrationEngine ddl).execute () () statement tables =
      executeMigration ddl tables statement := rfl

theorem executeAll_inside (sqls : List String) (tables : SchemaTables Schema) :
    (executeAll sqls).inside (migrationEngine ddl) tables =
      match runAll ddl sqls tables.schema with
      | some schema => .ok ((), { tables with schema })
      | none => .error .database := by
  induction sqls generalizing tables with
  | nil => rfl
  | cons sql rest ih =>
    change ((Program.ask (.statement (.execute sql))).bind fun _ =>
      executeAll rest).inside (migrationEngine ddl) tables = _
    rw [Program.inside_ask, executes]
    cases hrun : ddl sql tables.schema with
    | none => simp [executeMigration, runAll, hrun, migrationEngine]
    | some schema =>
      simp only [executeMigration, hrun, Option.map_some, ih, runAll, List.foldlM_cons,
        Option.bind_eq_bind, Option.bind_some]

theorem deployedVersion_append (rows : List (ℕ × String)) (version : ℕ) (name : String) :
    deployedVersion (rows ++ [(version, name)]) = max (deployedVersion rows) version := by
  cases rows with
  | nil => simp [deployedVersion]
  | cons row rows =>
    simp only [deployedVersion, List.map_append, List.map_cons, List.cons_append,
      List.max?_cons', List.foldl_append, Option.getD_some]
    rfl

theorem applyPending_inside {migrations : List DatabaseMigration}
    {outcome outcome' : MigrationOutcome} {tables tables' : SchemaTables Schema}
    {rows : List (ℕ × String)}
    (hrows : tables.schemaMigrations = some rows)
    (h : (applyPending migrations outcome).inside (migrationEngine ddl) tables =
      .ok (outcome', tables')) :
    outcome' = ⟨latest migrations outcome.version, outcome.applied ++
        (pending migrations outcome.version).map DatabaseMigration.label⟩ ∧
      tables'.schemaMigrations =
        some (rows ++ (pending migrations outcome.version).map DatabaseMigration.row) ∧
      runAll ddl ((pending migrations outcome.version).flatMap (·.up)) tables.schema =
        some tables'.schema := by
  induction migrations generalizing outcome tables rows with
  | nil =>
    obtain ⟨rfl, rfl⟩ := Prod.mk.inj (Except.ok.inj h)
    simp [latest, pending, hrows, runAll]
  | cons migration rest ih =>
    unfold applyPending at h
    by_cases hskip : migration.version ≤ outcome.version
    · rw [if_pos hskip] at h
      simp only [pending, if_pos hskip, latest, List.map_cons, List.foldl_cons,
        max_eq_left hskip]
      exact ih hrows h
    · rw [if_neg hskip] at h
      change ((executeAll migration.up).bind fun _ => _).inside _ _ = _ at h
      rw [Program.inside_bind (executeAll_body ddl 0 _), executeAll_inside] at h
      cases hrun : runAll ddl migration.up tables.schema with
      | none =>
        rw [hrun] at h
        cases h
      | some schema =>
        rw [hrun] at h
        change ((Program.ask (.statement
          (MigrationStatement.insertVersion migration.version migration.name))).bind
          fun _ => _).inside _ _ = _ at h
        rw [Program.inside_ask, executes] at h
        simp only [executeMigration, hrows] at h
        split at h
        · rename_i result hinsert
          split at hinsert
          · cases hinsert
          · cases hinsert
            obtain ⟨rfl, hrows', hschema⟩ := ih rfl h
            simp only [pending, if_neg hskip, latest, List.map_cons, List.foldl_cons,
              List.flatMap_cons, max_eq_right (not_le.mp hskip).le]
            refine ⟨by simp, by rw [hrows', List.append_assoc]; rfl, ?_⟩
            rw [runAll_append, hrun]
            exact hschema
        · cases h

/-- The roles that a run grants access to. -/
def grantedRoles : Option String → List String
  | none => []
  | some role => if role = "" then [] else [role]

theorem grantRole_inside {grantTo : Option String} {tables tables' : SchemaTables Schema}
    (h : (grantRole grantTo).inside (migrationEngine ddl) tables = .ok ((), tables')) :
    tables'.schemaMigrations = tables.schemaMigrations ∧
      runAll ddl ((grantedRoles grantTo).flatMap grantStatements) tables.schema =
        some tables'.schema := by
  cases grantTo with
  | none =>
    obtain ⟨-, rfl⟩ := Prod.mk.inj (Except.ok.inj h)
    exact ⟨rfl, rfl⟩
  | some role =>
    simp only [grantRole] at h
    split at h
    · rename_i hempty
      obtain ⟨-, rfl⟩ := Prod.mk.inj (Except.ok.inj h)
      simp [grantedRoles, hempty, runAll]
    · rename_i hnonempty
      split at h
      · rw [executeAll_inside] at h
        simp only [grantedRoles, if_neg hnonempty, List.flatMap_singleton]
        split at h
        · rename_i hrun
          obtain ⟨-, rfl⟩ := Prod.mk.inj (Except.ok.inj h)
          exact ⟨rfl, hrun⟩
        · cases h
      · cases h

def SchemaTables.rows (tables : SchemaTables Schema) : List (ℕ × String) :=
  tables.schemaMigrations.getD []

def SchemaTables.pending (tables : SchemaTables Schema) : List DatabaseMigration :=
  Web.pending databaseMigrations (deployedVersion tables.rows)

/-- The tables after the pending migrations, each once and in order, and then grants only. -/
def Upgraded (ddl : String → Schema → Option Schema) (tables : SchemaTables Schema)
    (roles : List String) (tables' : SchemaTables Schema) : Prop :=
  tables'.schemaMigrations = some (tables.rows ++ tables.pending.map DatabaseMigration.row) ∧
    runAll ddl (tables.pending.flatMap (·.up) ++ roles.flatMap grantStatements) tables.schema =
      some tables'.schema

/-- What a run reports over the tables it begins with. -/
def SchemaTables.outcome (tables : SchemaTables Schema) : MigrationOutcome :=
  ⟨latest databaseMigrations (deployedVersion tables.rows),
    tables.pending.map DatabaseMigration.label⟩

theorem migrating_inside {grantTo : Option String} {tables tables' : SchemaTables Schema}
    {outcome : MigrationOutcome}
    (h : (migrating grantTo).inside (migrationEngine ddl) tables = .ok (outcome, tables')) :
    outcome = tables.outcome ∧ Upgraded ddl tables (grantedRoles grantTo) tables' := by
  change ((Program.ask (.statement MigrationStatement.createSchemaMigrations)).bind fun _ =>
    (Program.ask (.statement MigrationStatement.selectVersion)).bind fun rows =>
      (applyPending databaseMigrations ⟨(rows.head?.bind id).getD 0, []⟩).bind fun outcome =>
        (grantRole grantTo).bind fun _ => .done (.ok outcome)).inside _ _ = _ at h
  simp only [Program.inside_ask, executes, executeMigration, Option.map_some] at h
  rw [Program.inside_bind (applyPending_body ddl 0 _ _)] at h
  split at h
  · rename_i outcome' tables₁ happly
    obtain ⟨houtcome, hrows, hschema⟩ := applyPending_inside rfl happly
    rw [Program.inside_bind (grantRole_body ddl 0 _)] at h
    split at h
    · rename_i tables₂ hgrant
      obtain ⟨hkept, hgrants⟩ := grantRole_inside hgrant
      obtain ⟨rfl, rfl⟩ := Prod.mk.inj (Except.ok.inj h)
      refine ⟨houtcome, ?_, ?_⟩
      · rw [hkept, hrows]
        rfl
      · rw [runAll_append]
        change runAll ddl (tables.pending.flatMap (·.up)) tables.schema = _ at hschema
        rw [hschema]
        exact hgrants
    · cases h
  · cases h

/-! ## A run after another -/

theorem deployedVersion_pending (migrations : List DatabaseMigration)
    (rows : List (ℕ × String)) :
    deployedVersion (rows ++ (pending migrations (deployedVersion rows)).map
        DatabaseMigration.row) = latest migrations (deployedVersion rows) := by
  induction migrations generalizing rows with
  | nil => simp [pending, latest]
  | cons migration rest ih =>
    by_cases hskip : migration.version ≤ deployedVersion rows
    · simp only [pending, if_pos hskip, latest, List.map_cons, List.foldl_cons,
        max_eq_left hskip]
      exact ih rows
    · have hversion := deployedVersion_append rows migration.version migration.name
      rw [max_eq_right (not_le.mp hskip).le] at hversion
      have hrest := ih (rows ++ [migration.row])
      rw [DatabaseMigration.row, hversion, List.append_assoc] at hrest
      simp only [pending, if_neg hskip, latest, List.map_cons, List.foldl_cons,
        max_eq_right (not_le.mp hskip).le]
      exact hrest

theorem le_latest (migrations : List DatabaseMigration) (version : ℕ) :
    version ≤ latest migrations version ∧
      ∀ migration ∈ migrations, migration.version ≤ latest migrations version := by
  induction migrations generalizing version with
  | nil => exact ⟨le_refl _, by simp⟩
  | cons migration rest ih =>
    obtain ⟨hle, hrest⟩ := ih (max version migration.version)
    refine ⟨(le_max_left ..).trans hle, fun other hother => ?_⟩
    obtain rfl | hother := List.mem_cons.mp hother
    · exact (le_max_right ..).trans hle
    · exact hrest other hother

theorem pending_eq_nil {migrations : List DatabaseMigration} {version : ℕ}
    (h : ∀ migration ∈ migrations, migration.version ≤ version) :
    pending migrations version = [] := by
  induction migrations with
  | nil => rfl
  | cons migration rest ih =>
    rw [pending, if_pos (h migration (List.mem_cons_self ..))]
    exact ih fun other hother => h other (List.mem_cons_of_mem _ hother)

theorem latest_eq {migrations : List DatabaseMigration} {version : ℕ}
    (h : ∀ migration ∈ migrations, migration.version ≤ version) :
    latest migrations version = version := by
  induction migrations with
  | nil => rfl
  | cons migration rest ih =>
    rw [latest, List.map_cons, List.foldl_cons, max_eq_left (h migration (List.mem_cons_self ..))]
    exact ih fun other hother => h other (List.mem_cons_of_mem _ hother)

section Upgraded

variable {tables tables' tables'' : SchemaTables Schema} {roles roles' : List String}

theorem Upgraded.deployedVersion_eq (h : Upgraded ddl tables roles tables') :
    deployedVersion tables'.rows = tables.outcome.version := by
  rw [SchemaTables.rows, h.1]
  exact deployedVersion_pending ..

/-- A run over upgraded tables finds nothing to apply. -/
theorem Upgraded.settled (h : Upgraded ddl tables roles tables') :
    tables'.pending = [] ∧ tables'.outcome = ⟨tables.outcome.version, []⟩ := by
  have hall : ∀ migration ∈ databaseMigrations,
      migration.version ≤ deployedVersion tables'.rows := by
    rw [h.deployedVersion_eq]
    exact (le_latest _ _).2
  have hpending : tables'.pending = [] := pending_eq_nil hall
  refine ⟨hpending, ?_⟩
  rw [SchemaTables.outcome, hpending, latest_eq hall, h.deployedVersion_eq]
  rfl

theorem Upgraded.trans (h : Upgraded ddl tables roles tables')
    (h' : Upgraded ddl tables' roles' tables'') :
    Upgraded ddl tables (roles ++ roles') tables'' := by
  obtain ⟨hrows, hschema⟩ := h'
  rw [h.settled.1] at hrows hschema
  refine ⟨?_, ?_⟩
  · rw [hrows, SchemaTables.rows, h.1]
    simp
  · rw [List.flatMap_append, ← List.append_assoc, runAll_append, h.2]
    simpa using hschema

end Upgraded

/-- What a run comes to alone: an error that changes nothing, or an upgrade. -/
theorem call_cases (ddl : String → Schema → Option Schema) (hashtext : String → ℤ)
    (grantTo : Option String) (tables : SchemaTables Schema) :
    (∃ error, (applyMigrations hashtext grantTo).call (migrationEngine ddl) () tables =
        (tables, .error error)) ∨
      ∃ tables', (applyMigrations hashtext grantTo).call (migrationEngine ddl) () tables =
          (tables', .ok tables.outcome) ∧ Upgraded ddl tables (grantedRoles grantTo) tables' := by
  rw [applyMigrations_call]
  cases hinside : (migrating grantTo).inside (migrationEngine ddl) tables with
  | error error => exact .inl ⟨error, rfl⟩
  | ok result =>
    obtain ⟨outcome, tables'⟩ := result
    obtain ⟨rfl, hupgraded⟩ := migrating_inside hinside
    exact .inr ⟨tables', rfl, hupgraded⟩

/-! ## All runs -/

section Runs

variable {ι : Type}

abbrev MigrationRuns (ι Schema : Type) : Type :=
  State ι (SchemaTables Schema) MigrationStatement ℤ (Option ℕ) MigrationError Unit
    MigrationOutcome

/-- The runs, by the role each grants access to, before any of them has started. -/
def MigrationRuns.start (hashtext : String → ℤ) (grantTo : ι → Option String)
    (tables : SchemaTables Schema) : MigrationRuns ι Schema :=
  State.start tables fun client => applyMigrations hashtext (grantTo client)

/-- What runs report: that they found nothing to apply, and one of them all that there was. -/
def Reported (tables : SchemaTables Schema) (reports : ι → MigrationOutcome → Prop) : Prop :=
  (∀ client outcome, reports client outcome →
    outcome = tables.outcome ∨ outcome = ⟨tables.outcome.version, []⟩) ∧
  ∀ client other outcome outcome', reports client outcome → reports other outcome' →
    outcome.applied ≠ [] → outcome'.applied ≠ [] → client = other

/-- Nothing was done, or the tables are upgraded, with grants that runs were to make. -/
def Migrated (ddl : String → Schema → Option Schema) (grantTo : ι → Option String)
    (tables tables' : SchemaTables Schema) (reports : ι → MigrationOutcome → Prop) : Prop :=
  (tables' = tables ∧ ∀ client outcome, ¬ reports client outcome) ∨
    (∃ roles, (∀ role ∈ roles, ∃ client, role ∈ grantedRoles (grantTo client)) ∧
      Upgraded ddl tables roles tables') ∧ Reported tables reports

variable {grantTo : ι → Option String} {tables tables' : SchemaTables Schema}
  {reports reports' : ι → MigrationOutcome → Prop}

theorem Reported.mono (h : Reported tables reports)
    (hsub : ∀ client outcome, reports' client outcome → reports client outcome) :
    Reported tables reports' :=
  ⟨fun client outcome hreport => h.1 client outcome (hsub _ _ hreport),
    fun client other outcome outcome' hreport hreport' =>
      h.2 client other outcome outcome' (hsub _ _ hreport) (hsub _ _ hreport')⟩

theorem Migrated.mono (h : Migrated ddl grantTo tables tables' reports)
    (hsub : ∀ client outcome, reports' client outcome → reports client outcome) :
    Migrated ddl grantTo tables tables' reports' := by
  obtain ⟨htables, hnone⟩ | ⟨hupgraded, hreported⟩ := h
  · exact .inl ⟨htables, fun client outcome hreport => hnone client outcome (hsub _ _ hreport)⟩
  · exact .inr ⟨hupgraded, hreported.mono hsub⟩

/-- A run that upgrades the tables, and may report it. -/
theorem Migrated.upgrade (h : Migrated ddl grantTo tables tables' reports) {client : ι}
    {tables'' : SchemaTables Schema}
    (hupgraded : Upgraded ddl tables' (grantedRoles (grantTo client)) tables'')
    (hreports : ∀ other outcome, reports' other outcome →
      reports other outcome ∨ other = client ∧ outcome = tables'.outcome) :
    Migrated ddl grantTo tables tables'' reports' := by
  obtain ⟨rfl, hnone⟩ | ⟨⟨roles, hroles, hbefore⟩, hreported⟩ := h
  · have hmine : ∀ other outcome, reports' other outcome →
        other = client ∧ outcome = tables'.outcome := fun other outcome hreport =>
      (hreports other outcome hreport).resolve_left (hnone other outcome)
    refine .inr ⟨⟨_, fun role hrole => ⟨client, hrole⟩, hupgraded⟩,
      fun other outcome hreport => .inl (hmine other outcome hreport).2,
      fun one other outcome outcome' hreport hreport' _ _ => ?_⟩
    rw [(hmine one outcome hreport).1, (hmine other outcome' hreport').1]
  · have hsettled := hbefore.settled.2
    refine .inr ⟨⟨roles ++ grantedRoles (grantTo client), fun role hrole => ?_,
      hbefore.trans hupgraded⟩, fun other outcome hreport => ?_,
      fun one other outcome outcome' hreport hreport' happlied happlied' => ?_⟩
    · obtain hrole | hrole := List.mem_append.mp hrole
      · exact hroles role hrole
      · exact ⟨client, hrole⟩
    · obtain hreport | ⟨-, rfl⟩ := hreports other outcome hreport
      · exact hreported.1 other outcome hreport
      · exact .inr hsettled
    · have hbefore' : ∀ other outcome, reports' other outcome → outcome.applied ≠ [] →
          reports other outcome := fun other outcome hreport happlied =>
        (hreports other outcome hreport).resolve_right fun hmine =>
          happlied (by rw [hmine.2, hsettled])
      exact hreported.2 one other outcome outcome' (hbefore' _ _ hreport happlied)
        (hbefore' _ _ hreport' happlied') happlied happlied'

variable [DecidableEq ι]

abbrev MigrationRuns.Serially (ddl : String → Schema → Option Schema) (hashtext : String → ℤ)
    (grantTo : ι → Option String) (faults : Prop) :
    Serial ι (SchemaTables Schema) (Except MigrationError MigrationOutcome) →
      Serial ι (SchemaTables Schema) (Except MigrationError MigrationOutcome) → Prop :=
  Serial.Next
    (fun client => (applyMigrations hashtext (grantTo client)).call (migrationEngine ddl))
    (.error .database) faults

omit [DecidableEq ι] in
theorem answers_update [DecidableEq ι] {R : Type} {answers : ι → Option R} {client other : ι}
    {given answer : R} (h : Function.update answers client (some given) other = some answer) :
    answers other = some answer ∨ other = client ∧ given = answer := by
  by_cases hother : other = client
  · subst hother
    rw [Function.update_self] at h
    exact .inr ⟨rfl, Option.some.inj h⟩
  · rw [Function.update_of_ne hother] at h
    exact .inl h

theorem migrated_step {faults : Prop}
    {serial serial' : Serial ι (SchemaTables Schema) (Except MigrationError MigrationOutcome)}
    (hnext : MigrationRuns.Serially ddl hashtext grantTo faults serial serial')
    (h : Migrated ddl grantTo tables serial.database
      fun client outcome => serial.answers client = some (.ok outcome)) :
    Migrated ddl grantTo tables serial'.database
      fun client outcome => serial'.answers client = some (.ok outcome) := by
  obtain ⟨event, -, hstep⟩ := hnext
  have hfailed : ∀ error, ∀ client outcome,
      Function.update serial.answers event.client (some (.error error)) client =
        some (.ok outcome) → serial.answers client = some (.ok outcome) := by
    intro error client outcome hanswer
    obtain hbefore | ⟨-, hok⟩ := answers_update hanswer
    · exact hbefore
    · cases hok
  unfold Serial.step at hstep
  split at hstep
  · cases hstep
  · cases event with
    | execute client now =>
      obtain rfl := Option.some.inj hstep
      obtain ⟨error, hcall⟩ | ⟨upgraded, hcall, hupgraded⟩ :=
        call_cases ddl hashtext (grantTo client) serial.database
      · simp only [hcall]
        exact h.mono (hfailed error)
      · simp only [hcall]
        refine h.upgrade hupgraded fun other outcome hanswer => ?_
        obtain hbefore | ⟨hmine, hok⟩ := answers_update hanswer
        · exact .inl hbefore
        · exact .inr ⟨hmine, (Except.ok.inj hok).symm⟩
    | lose client now =>
      obtain rfl := Option.some.inj hstep
      obtain ⟨error, hcall⟩ | ⟨upgraded, hcall, hupgraded⟩ :=
        call_cases ddl hashtext (grantTo client) serial.database
      · simp only [hcall]
        exact h.mono (hfailed _)
      · simp only [hcall]
        exact h.upgrade hupgraded fun other outcome hanswer =>
          .inl (hfailed _ other outcome hanswer)
    | refuse client | disconnect client =>
      obtain rfl := Option.some.inj hstep
      exact h.mono (hfailed _)

/-- However runs interleave, fail and break off, the pending migrations are applied once, in
whole and in order, or not at all; and no two runs report to have applied them. -/
theorem migrations_apply_once (faults : Prop) (ddl : String → Schema → Option Schema)
    (hashtext : String → ℤ) (grantTo : ι → Option String) (tables : SchemaTables Schema)
    {state : MigrationRuns ι Schema}
    (hrun : Runs.Reaches (State.Next (migrationEngine ddl) faults)
      (MigrationRuns.start hashtext grantTo tables) state) :
    Migrated ddl grantTo tables state.committed fun client outcome =>
      (state.clients client).result = some (.ok outcome) := by
  obtain ⟨serial, -, hserial, -, hsettled, -⟩ :=
    exclusive_serializable _ faults (fun client => applyMigrations_exclusive (grantTo client)) hrun
      .refl
  rw [hsettled.tables]
  have hmigrated : Migrated ddl grantTo tables serial.database
      fun client outcome => serial.answers client = some (.ok outcome) :=
    Runs.invariant (fun serial => Migrated ddl grantTo tables serial.database
      fun client outcome => serial.answers client = some (.ok outcome))
      (fun hnext h => migrated_step hnext h) (.inl ⟨rfl, by simp⟩) hserial
  refine hmigrated.mono fun client outcome hresult => ?_
  obtain ⟨answer, hanswer, rfl | ⟨-, error, herror⟩⟩ := hsettled.given client _ hresult
  · exact hanswer
  · cases herror

/-- A database that records its statements. -/
def recorded (sql : String) (schema : List String) : Option (List String) :=
  some (schema ++ [sql])

def textLength (text : String) : ℤ := text.length

/-- Two jobs over an empty database; the second waits for the lock of the first. -/
def twoJobs : List (Event Bool Unit) :=
  ([true, false, true, false, true] ++ List.replicate 27 true).map fun client =>
    .execute client ()

def secondJob : List (Event Bool Unit) := List.replicate 4 (.execute false ())

theorem migrations_apply_once_twoJobs :
    ∃ state ∈ Runs.run (State.step (migrationEngine recorded)) (fun _ event => event.faultless)
        (MigrationRuns.start textLength (fun _ => none) ⟨none, []⟩) (twoJobs ++ secondJob),
      (∃ client, ((state.clients client).result.bind Except.toOption).isSome = true) ∧
        Migrated recorded (fun _ => none) ⟨none, []⟩ state.committed fun client outcome =>
          (state.clients client).result = some (.ok outcome) := by
  have hrun : ∃ state ∈ Runs.run (State.step (migrationEngine recorded))
        (fun _ event => event.faultless)
        (MigrationRuns.start textLength (fun _ => none) ⟨none, []⟩) (twoJobs ++ secondJob),
      ∃ client, ((state.clients client).result.bind Except.toOption).isSome = true := by
    decide +kernel
  obtain ⟨state, hstate, hreport⟩ := hrun
  exact ⟨state, hstate, hreport, migrations_apply_once False recorded textLength _ _
    (State.reaches_of_faultless hstate)⟩

/-! ## The schema floor -/

theorem requiredSchemaVersion_le (version : ℕ) :
    requiredSchemaVersion ≤ latest databaseMigrations version := by
  refine List.max_le_of_forall_le _ _ fun known hknown => ?_
  obtain ⟨migration, hmigration, rfl⟩ := List.mem_map.mp hknown
  exact (le_latest _ _).2 migration hmigration

omit [DecidableEq ι] in
theorem assertSchemaFloor_iff (tables : SchemaTables Schema) :
    assertSchemaFloor false tables = some (.ok true) ↔
      ∃ rows, tables.schemaMigrations = some rows ∧
        requiredSchemaVersion ≤ deployedVersion rows := by
  cases hrows : tables.schemaMigrations with
  | none => simp [assertSchemaFloor, hrows]
  | some rows =>
    simp only [assertSchemaFloor, hrows, Bool.false_eq_true, if_false, Option.map_some,
      Option.some.injEq, exists_eq_left']
    change (if deployedVersion rows < requiredSchemaVersion then _ else _) = _ ↔ _
    split
    · rename_i hbelow
      simpa using hbelow
    · rename_i hmet
      simpa using hmet

omit [DecidableEq ι] in
theorem Upgraded.floor {roles : List String} (h : Upgraded ddl tables roles tables') :
    assertSchemaFloor false tables' = some (.ok true) := by
  refine (assertSchemaFloor_iff tables').mpr ⟨_, h.1, ?_⟩
  have hversion := h.deployedVersion_eq
  rw [SchemaTables.rows, h.1, Option.getD_some] at hversion
  rw [hversion]
  exact requiredSchemaVersion_le _

theorem floor_step {faults : Prop}
    {serial serial' : Serial ι (SchemaTables Schema) (Except MigrationError MigrationOutcome)}
    (hnext : MigrationRuns.Serially ddl hashtext grantTo faults serial serial')
    (h : assertSchemaFloor false serial.database = some (.ok true)) :
    assertSchemaFloor false serial'.database = some (.ok true) := by
  obtain ⟨event, -, hstep⟩ := hnext
  unfold Serial.step at hstep
  split at hstep
  · cases hstep
  · cases event with
    | execute client now | lose client now =>
      obtain rfl := Option.some.inj hstep
      obtain ⟨error, hcall⟩ | ⟨upgraded, hcall, hupgraded⟩ :=
        call_cases ddl hashtext (grantTo client) serial.database
      · simp only [hcall]
        exact h
      · simp only [hcall]
        exact hupgraded.floor
    | refuse client | disconnect client =>
      obtain rfl := Option.some.inj hstep
      exact h

/-- Once a run has reported success, or a check of the floor has passed, every check passes:
what an isolate remembers stays true. -/
theorem schemaFloor_stays (faults : Prop) (ddl : String → Schema → Option Schema)
    (hashtext : String → ℤ) (grantTo : ι → Option String) (tables : SchemaTables Schema)
    {state later : MigrationRuns ι Schema}
    (hrun : Runs.Reaches (State.Next (migrationEngine ddl) faults)
      (MigrationRuns.start hashtext grantTo tables) state)
    (hrest : Runs.Reaches (State.Next (migrationEngine ddl) faults) state later)
    (h : assertSchemaFloor false state.committed = some (.ok true) ∨
      ∃ client outcome, (state.clients client).result = some (.ok outcome)) :
    assertSchemaFloor false later.committed = some (.ok true) := by
  have hfloor : assertSchemaFloor false state.committed = some (.ok true) := by
    obtain hfloor | ⟨client, outcome, hreport⟩ := h
    · exact hfloor
    · obtain ⟨-, hnone⟩ | ⟨⟨roles, -, hupgraded⟩, -⟩ :=
        migrations_apply_once faults ddl hashtext grantTo tables hrun
      · exact absurd hreport (hnone client outcome)
      · exact hupgraded.floor
  obtain ⟨serial, serial', -, hserial, hsettled, hsettled'⟩ :=
    exclusive_serializable _ faults (fun client => applyMigrations_exclusive (grantTo client)) hrun
      hrest
  rw [hsettled.tables] at hfloor
  rw [hsettled'.tables]
  exact Runs.invariant (fun serial => assertSchemaFloor false serial.database = some (.ok true))
    (fun hnext h => floor_step hnext h) hfloor hserial

theorem schemaFloor_stays_twoJobs :
    ∃ state ∈ Runs.run (State.step (migrationEngine recorded)) (fun _ event => event.faultless)
        (MigrationRuns.start textLength (fun _ => none) ⟨none, []⟩) twoJobs,
      ∃ later ∈ Runs.run (State.step (migrationEngine recorded)) (fun _ event => event.faultless)
          state secondJob,
        assertSchemaFloor false later.committed = some (.ok true) := by
  have hrun : ∃ state ∈ Runs.run (State.step (migrationEngine recorded))
        (fun _ event => event.faultless)
        (MigrationRuns.start textLength (fun _ => none) ⟨none, []⟩) twoJobs,
      assertSchemaFloor false state.committed = some (.ok true) ∧
        ∃ later ∈ Runs.run (State.step (migrationEngine recorded))
          (fun _ event => event.faultless) state secondJob, True := by
    decide +kernel
  obtain ⟨state, hstate, hfloor, later, hlater, -⟩ := hrun
  exact ⟨state, hstate, later, hlater, schemaFloor_stays False recorded textLength _ _
    (State.reaches_of_faultless hstate) (State.reaches_of_faultless hlater) (.inl hfloor)⟩

end Runs

end RetirementPlanner.Web
