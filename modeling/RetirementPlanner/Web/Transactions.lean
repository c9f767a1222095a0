import RetirementPlanner.Lib.Serial
import RetirementPlanner.Web.Server

/-!
# The server, statement by statement

`services/server/database.ts` over `services/server/database-connection.ts`, one SQL
statement at a time: `createAccount` runs in a transaction under a lock of its owner, and
every other call is one statement. The routes of `api/data-routes.ts` are clients of the
database, whose statements interleave.

An account is stamped with the start of the transaction that creates it (`NOW()`), and lists
are in the order of that stamp. What a request does where nothing else runs is
`Database.handle`.
-/

namespace RetirementPlanner.Web

open Transactions

variable {K : Type}

/-! ## Tables -/

structure Tables (K : Type) where
  userProfiles : String → Option (ProfileSettings K)
  /-- The accounts of each owner with their `created_at`, the latest committed first. -/
  accounts : String → List (ℕ × Account K)

/-- The tables without the stamps. -/
def Tables.database (tables : Tables K) : Database K where
  userProfiles := tables.userProfiles
  accounts userId := (tables.accounts userId).map (·.2)

def Tables.setAccounts (tables : Tables K) (userId : String) (accounts : List (ℕ × Account K)) :
    Tables K :=
  { tables with accounts := Function.update tables.accounts userId accounts }

/-- What the server supplies to a statement: its clock, and `gen_random_uuid()`. -/
structure Moment where
  now : ℕ
  newId : String
  deriving DecidableEq, Repr

/-! ## Statements -/

inductive SqlStatement (K : Type)
  /-- `SET LOCAL statement_timeout` -/
  | setStatementTimeout (ms : ℕ)
  | countAccounts (userId : String)
  | insertAccount (data : CreateAccountData K) (stocksPct bondsPct : K) (userId : String)
  | selectAccount (id userId : String)
  | selectAccounts (userId : String)
  | updateAccount (id userId : String) (updates : UpdateAccountData K)
  | deleteAccount (id userId : String)
  | selectProfile (userId : String)
  /-- The insert or the update of `saveUserProfile`, by the expected revision. -/
  | writeProfile (userId : String) (data : SaveProfileData K)

/-- A row that a statement returns. -/
inductive SqlRow (K : Type)
  | count (count : ℕ)
  | account (row : Account K)
  | profile (settings : ProfileSettings K)
  | revision (revision : ℤ)

namespace SqlRow

def toCount : SqlRow K → Option ℕ
  | .count n => some n
  | _ => none

def toAccount : SqlRow K → Option (Account K)
  | .account row => some row
  | _ => none

def toProfile : SqlRow K → Option (ProfileSettings K)
  | .profile stored => some stored
  | _ => none

def toRevision : SqlRow K → Option ℤ
  | .revision n => some n
  | _ => none

end SqlRow

inductive DatabaseError
  /-- `AccountLimitError` -/
  | accountLimit
  /-- `ProfileRevisionConflictError` -/
  | profileRevisionConflict
  | other
  deriving DecidableEq, Repr

/-- `ORDER BY created_at DESC` -/
def newestFirst (rows : List (ℕ × Account K)) : List (ℕ × Account K) :=
  rows.mergeSort fun a b => decide (b.1 ≤ a.1)

section Statements

variable [Field K] [LinearOrder K] [FloorRing K]

/-- The row of a new account. -/
def createdRow (data : CreateAccountData K) (stocksPct bondsPct : K) (newId : String) :
    Account K :=
  accountRow
    { id := newId, name := data.name, institution := data.institution,
      accountType := data.accountType, balance := data.balance.getD 0,
      assetWeights := { stocks := stocksPct, bonds := bondsPct } }

/-- What a statement returns and changes; `none` where a check of its table fails. -/
def executeStatement (began moment : Moment) (statement : SqlStatement K) (tables : Tables K) :
    Option (List (SqlRow K) × (Tables K → Tables K)) :=
  match statement with
  | .setStatementTimeout _ => some ([], id)
  | .countAccounts userId => some ([.count (tables.accounts userId).length], id)
  | .insertAccount data stocksPct bondsPct userId =>
    let row := createdRow data stocksPct bondsPct moment.newId
    if accountChecks row then
      some ([.account row], fun tables =>
        tables.setAccounts userId ((began.now, row) :: tables.accounts userId))
    else none
  | .selectAccount id userId =>
    some ((((tables.accounts userId).find? (·.2.id = id)).map fun a => .account a.2).toList,
      fun tables => tables)
  | .selectAccounts userId =>
    some ((newestFirst (tables.accounts userId)).map fun a => .account a.2, fun tables => tables)
  | .updateAccount id userId updates =>
    match (tables.accounts userId).find? (·.2.id = id) with
    | none => some ([], fun tables => tables)
    | some account =>
      let row := accountRow (account.2.update updates)
      if accountChecks row then
        some ([.account row], fun tables => tables.setAccounts userId
          ((tables.accounts userId).map fun a => if a.2.id = id then (a.1, row) else a))
      else none
  | .deleteAccount id userId =>
    some (((tables.accounts userId).filter (·.2.id = id)).map fun a => .account a.2,
      fun tables =>
        tables.setAccounts userId ((tables.accounts userId).filter (·.2.id ≠ id)))
  | .selectProfile userId =>
    some (((tables.userProfiles userId).map .profile).toList, fun tables => tables)
  | .writeProfile userId data =>
    match tables.database.saveUserProfile userId data with
    | none => some ([], fun tables => tables)
    | some (written, revision) =>
      some ([.revision revision], fun tables =>
        { tables with
          userProfiles :=
            Function.update tables.userProfiles userId (written.userProfiles userId) })

def postgres : Engine (Tables K) (SqlStatement K) (SqlRow K) DatabaseError Moment where
  execute := executeStatement
  failure := .other

end Statements

/-! ## The service -/

abbrev Query (K : Type) := Program (SqlStatement K) ℤ (SqlRow K) DatabaseError

def query (statement : SqlStatement K) : Query K (List (SqlRow K)) :=
  Program.ask (.statement statement)

def queryOne (statement : SqlStatement K) : Query K (Option (SqlRow K)) := do
  let rows ← query statement
  pure rows.head?

def statementTimeoutMs : ℕ := 15000

/-- Run `run` inside a transaction on a single connection. -/
def runInTransaction {S L A E α : Type} (setStatementTimeout : ℕ → S)
    (run : Program S L A E α) : Program S L A E α := do
  let _ ← Program.ask .begin
  tryCatch
    (do
      let _ ← Program.ask (.statement (setStatementTimeout statementTimeoutMs))
      let result ← run
      let _ ← Program.ask .commit
      pure result)
    fun error => do
      let _ ← Program.ask .rollback
      throw error

/-- The text an owner's creates are serialized under. -/
def accountsLock (userId : String) : String := "retirement-plan-accounts:" ++ userId

variable [Field K] (hashtext : String → ℤ)

/-- `createAccount` -/
def createAccountQuery (data : CreateAccountData K) (userId : String) :
    Query K (Account K) := do
  let stocksPct := data.stocksPct.getD 0.6
  let bondsPct := data.bondsPct.getD (1 - stocksPct)
  let row ← runInTransaction .setStatementTimeout do
    -- Serialize creates for one owner so concurrent requests cannot race
    -- past the product/resource limit.
    let _ ← Program.ask (.lock (hashtext (accountsLock userId)))
    let count ← queryOne (.countAccounts userId)
    if maxPlanAccounts ≤ (count.bind SqlRow.toCount).getD 0 then throw .accountLimit
    else queryOne (.insertAccount data stocksPct bondsPct userId)
  match row.bind SqlRow.toAccount with
  | none => throw .other
  | some account => pure account

omit [Field K] in
/-- `updateAccount`, which only reads the account back where there is nothing to set. -/
def updateAccountQuery (id userId : String) (updates : UpdateAccountData K) :
    Query K (Option (Account K)) := do
  let row ←
    if updates.isEmpty then queryOne (.selectAccount id userId)
    else queryOne (.updateAccount id userId updates)
  pure (row.bind SqlRow.toAccount)

omit [Field K] in
/-- `saveUserProfile` -/
def saveUserProfileQuery (userId : String) (data : SaveProfileData K) : Query K ℤ := do
  let row ← queryOne (.writeProfile userId data)
  match row.bind SqlRow.toRevision with
  | none => throw .profileRevisionConflict
  | some revision => pure revision

/-! ## Routes -/

/-- A handler's `catch`. -/
def answering (status : DatabaseError → ℕ) (handler : Query K (Response K)) :
    Query K (Response K) :=
  tryCatch handler fun error => pure (.failed (status error))

def createStatus : DatabaseError → ℕ
  | .accountLimit => 409
  | _ => 500

def saveStatus : DatabaseError → ℕ
  | .profileRevisionConflict => 409
  | _ => 500

variable [LinearOrder K] [FloorRing K]

def route (userId : String) : Call K → Query K (Response K)
  | .getProfile => answering (fun _ => 500) do
    let row ← queryOne (.selectProfile userId)
    pure (.profile (row.bind SqlRow.toProfile))
  | .saveProfile body => answering saveStatus do
    match saveProfileSchema (some body) with
    | .error _ => pure (.failed 400)
    | .ok data =>
      let revision ← saveUserProfileQuery userId data
      pure (.revision revision)
  | .getAccounts => answering (fun _ => 500) do
    let rows ← query (.selectAccounts userId)
    pure (.accounts ((rows.filterMap SqlRow.toAccount).map accountJson))
  | .getAccount id => answering (fun _ => 500) do
    if isAccountId id then
      let row ← queryOne (.selectAccount id userId)
      match row.bind SqlRow.toAccount with
      | some account => pure (.account (accountJson account))
      | none => pure (.failed 404)
    else pure (.failed 400)
  | .createAccount body => answering createStatus do
    match createAccountSchema (some body) with
    | .error _ => pure (.failed 400)
    | .ok data =>
      let account ← createAccountQuery hashtext data userId
      pure (.account (accountJson account))
  | .updateAccount id body => answering (fun _ => 500) do
    if isAccountId id then
      match updateAccountSchema (some body) with
      | .error _ => pure (.failed 400)
      | .ok updates =>
        match ← updateAccountQuery id userId updates with
        | some account => pure (.account (accountJson account))
        | none => pure (.failed 404)
    else pure (.failed 400)
  | .deleteAccount id => answering (fun _ => 500) do
    if isAccountId id then
      let row ← queryOne (.deleteAccount id userId)
      pure (if row.isSome then .noContent else .failed 404)
    else pure (.failed 400)

/-- A request of a signed-in user. -/
structure DataRequest (K : Type) where
  userId : String
  call : Call K

/-- What a request does at one point in time. -/
def DataRequest.handle (request : DataRequest K) (moment : Moment) (db : Database K) :
    Database K × Response K :=
  db.handle request.userId moment.newId request.call

end RetirementPlanner.Web
