import RetirementPlanner.Web.Transactions

/-!
# Schema migrations

`services/server/migrate.ts` over the migrations of `services/server/database.ts`, and the
check of `worker/request-database.ts` that the schema is new enough to serve. What a
statement does to a schema is a parameter (`ddl`).
-/

namespace RetirementPlanner.Web

open Transactions

/-! ## Migrations -/

structure DatabaseMigration where
  version : ℕ
  name : String
  up : List String
  deriving DecidableEq, Repr

/-- `DATABASE_MIGRATIONS` -/
def databaseMigrations : List DatabaseMigration := [
  { version := 10
    name := "Baseline schema: users, accounts, user_profiles"
    up := [
      "CREATE TABLE IF NOT EXISTS users (
        id TEXT PRIMARY KEY,
        name TEXT,
        email TEXT UNIQUE NOT NULL,
        created_at TIMESTAMPTZ NOT NULL DEFAULT NOW(),
        updated_at TIMESTAMPTZ NOT NULL DEFAULT NOW()
      )",
      "CREATE TABLE IF NOT EXISTS accounts (
        id UUID PRIMARY KEY DEFAULT gen_random_uuid(),
        user_id TEXT REFERENCES users(id) ON DELETE CASCADE,
        name TEXT NOT NULL,
        institution TEXT NOT NULL,
        account_type TEXT NOT NULL CHECK (account_type IN ('Taxable', 'Traditional', 'Roth', 'HSA')),
        balance REAL NOT NULL DEFAULT 0,
        stocks_pct REAL NOT NULL DEFAULT 0,
        bonds_pct REAL NOT NULL DEFAULT 0,
        balance_as_of DATE,
        created_at TIMESTAMPTZ NOT NULL DEFAULT NOW(),
        updated_at TIMESTAMPTZ NOT NULL DEFAULT NOW()
      )",
      "CREATE INDEX IF NOT EXISTS idx_accounts_user_id ON accounts(user_id)",
      "CREATE TABLE IF NOT EXISTS user_profiles (
        id UUID PRIMARY KEY DEFAULT gen_random_uuid(),
        user_id TEXT NOT NULL UNIQUE REFERENCES users(id) ON DELETE CASCADE,
        profile JSONB NOT NULL DEFAULT '\x7b\x7d',
        social_security JSONB NOT NULL DEFAULT '\x7b\x7d',
        assumptions JSONB NOT NULL DEFAULT '\x7b\x7d',
        created_at TIMESTAMPTZ NOT NULL DEFAULT NOW(),
        updated_at TIMESTAMPTZ NOT NULL DEFAULT NOW()
      )",
      "CREATE INDEX IF NOT EXISTS idx_user_profiles_user_id ON user_profiles(user_id)"] },
  { version := 11
    name := "Drop legacy tables from retired features"
    up := [
      "DROP TABLE IF EXISTS holdings_snapshots CASCADE",
      "DROP TABLE IF EXISTS account_transactions CASCADE",
      "DROP TABLE IF EXISTS ocr_feedback CASCADE",
      "DROP TABLE IF EXISTS historical_prices CASCADE",
      "DROP TABLE IF EXISTS current_prices CASCADE",
      "DROP TABLE IF EXISTS sessions CASCADE",
      "DROP TABLE IF EXISTS verification_tokens CASCADE"] },
  { version := 12
    name := "Use financial precision and enforce account invariants"
    up := [
      "ALTER TABLE accounts
         ALTER COLUMN balance TYPE NUMERIC(18, 2) USING ROUND(balance::numeric, 2),
         ALTER COLUMN balance SET DEFAULT 0,
         ALTER COLUMN stocks_pct TYPE NUMERIC(8, 7) USING stocks_pct::numeric,
         ALTER COLUMN bonds_pct TYPE NUMERIC(8, 7) USING bonds_pct::numeric",
      "ALTER TABLE accounts
         ADD CONSTRAINT accounts_balance_nonnegative CHECK (balance >= 0) NOT VALID",
      "ALTER TABLE accounts
         ADD CONSTRAINT accounts_allocations_valid CHECK (
           stocks_pct BETWEEN 0 AND 1
           AND bonds_pct BETWEEN 0 AND 1
           AND ABS(stocks_pct + bonds_pct - 1) <= 0.000001
         ) NOT VALID",
      "ALTER TABLE accounts
         ADD CONSTRAINT accounts_user_required CHECK (user_id IS NOT NULL) NOT VALID"] },
  { version := 13
    name := "Add optimistic revision to cloud profiles"
    up := [
      "ALTER TABLE user_profiles
         ADD COLUMN IF NOT EXISTS revision BIGINT NOT NULL DEFAULT 0"] },
  { version := 14
    name := "Version persisted cloud profiles"
    up := [
      "ALTER TABLE user_profiles
         ADD COLUMN IF NOT EXISTS schema_version INTEGER NOT NULL DEFAULT 0",
      s!"ALTER TABLE user_profiles
         ALTER COLUMN schema_version SET DEFAULT {planSchemaVersion}"] }]

/-- The schema the running code expects. -/
def requiredSchemaVersion : ℕ := (databaseMigrations.map (·.version)).foldr max 0

/-! ## Statements -/

/-- A database: the rows of `schema_migrations`, once that table is there, and the rest. -/
structure SchemaTables (Schema : Type) where
  schemaMigrations : Option (List (ℕ × String))
  schema : Schema

inductive MigrationStatement
  /-- `SET LOCAL statement_timeout` -/
  | setStatementTimeout (ms : ℕ)
  /-- `CREATE TABLE IF NOT EXISTS schema_migrations` -/
  | createSchemaMigrations
  /-- `SELECT MAX(version) AS version FROM schema_migrations` -/
  | selectVersion
  | insertVersion (version : ℕ) (name : String)
  /-- A statement about the rest of the database. -/
  | execute (sql : String)
  deriving DecidableEq, Repr

inductive MigrationError
  | database
  /-- `Invalid role name: …` -/
  | invalidRoleName (role : String)
  deriving DecidableEq, Repr

variable {Schema : Type} (ddl : String → Schema → Option Schema)

/-- What a statement returns and changes; `none` where it fails. A row is a version or null. -/
def executeMigration (tables : SchemaTables Schema) :
    MigrationStatement →
      Option (List (Option ℕ) × (SchemaTables Schema → SchemaTables Schema))
  | .setStatementTimeout _ => some ([], id)
  | .createSchemaMigrations =>
    some ([], fun tables =>
      { tables with schemaMigrations := some (tables.schemaMigrations.getD []) })
  | .selectVersion =>
    tables.schemaMigrations.map fun rows => ([(rows.map (·.1)).max?], id)
  | .insertVersion version name =>
    match tables.schemaMigrations with
    | none => none
    | some rows =>
      -- `version` is the primary key.
      if rows.any (·.1 = version) then none
      else some ([], fun tables =>
        { tables with schemaMigrations := some (rows ++ [(version, name)]) })
  | .execute sql =>
    (ddl sql tables.schema).map fun schema => ([], fun tables => { tables with schema })

def migrationEngine :
    Engine (SchemaTables Schema) MigrationStatement (Option ℕ) MigrationError Unit where
  execute _ _ statement tables := executeMigration ddl tables statement
  failure := .database

/-! ## `applyMigrations` -/

abbrev Migrate := Program MigrationStatement ℤ (Option ℕ) MigrationError

structure MigrationOutcome where
  version : ℕ
  applied : List String
  deriving DecidableEq, Repr

def migrationLock : String := "retirement-planner-schema-migrations"

def DatabaseMigration.label (migration : DatabaseMigration) : String :=
  s!"{migration.version}: {migration.name}"

def executeAll : List String → Migrate Unit
  | [] => pure ()
  | sql :: rest => do
    let _ ← Program.ask (.statement (.execute sql))
    executeAll rest

/-- The loop over the migrations, from the version and the labels it has so far. -/
def applyPending : List DatabaseMigration → MigrationOutcome → Migrate MigrationOutcome
  | [], outcome => pure outcome
  | migration :: rest, outcome =>
    if migration.version ≤ outcome.version then applyPending rest outcome
    else do
      executeAll migration.up
      let _ ← Program.ask (.statement (.insertVersion migration.version migration.name))
      applyPending rest ⟨migration.version, outcome.applied ++ [migration.label]⟩

/-- `/^[a-z_][a-z0-9_]*$/` -/
def isRoleName (role : String) : Bool :=
  let letter (c : Char) : Bool := c.isLower || c == '_'
  match role.toList with
  | [] => false
  | first :: rest => letter first && rest.all fun c => letter c || c.isDigit

def grantStatements (role : String) : List String :=
  [s!"GRANT SELECT, INSERT, UPDATE, DELETE ON accounts, users, user_profiles TO {role}",
    s!"GRANT SELECT ON schema_migrations TO {role}"]

/-- The role to grant access to, if there is one; an empty text is none. -/
def grantRole (grantTo : Option String) : Migrate Unit :=
  match grantTo with
  | none => pure ()
  | some role =>
    if role = "" then pure ()
    else if isRoleName role then executeAll (grantStatements role)
    else throw (.invalidRoleName role)

/-- `applyMigrations`, by `options.grantTo`. -/
def applyMigrations (hashtext : String → ℤ) (grantTo : Option String) :
    Migrate MigrationOutcome :=
  runInTransaction .setStatementTimeout do
    -- Transaction-scoped, so a cancelled CI job releases it, and concurrent
    -- runs serialize rather than race.
    let _ ← Program.ask (.lock (hashtext migrationLock))
    let _ ← Program.ask (.statement .createSchemaMigrations)
    let rows ← Program.ask (.statement .selectVersion)
    let version := (rows.head?.bind id).getD 0
    let outcome ← applyPending databaseMigrations ⟨version, []⟩
    grantRole grantTo
    pure outcome

/-! ## The schema floor -/

/-- `assertSchemaFloor`, by whether this isolate has already confirmed the floor: whether it
has now, or the deployed version of a `SchemaFloorError`. `none` is an error of the
database. -/
def assertSchemaFloor (schemaVerified : Bool) (tables : SchemaTables Schema) :
    Option (Except ℕ Bool) :=
  if schemaVerified then some (.ok true)
  else tables.schemaMigrations.map fun rows =>
    let deployed := ((rows.map (·.1)).max?).getD 0
    if deployed < requiredSchemaVersion then .error deployed else .ok true

end RetirementPlanner.Web
