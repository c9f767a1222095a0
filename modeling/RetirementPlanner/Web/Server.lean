import RetirementPlanner.Web.Codec

/-!
# The server

The data routes of `api/data-routes.ts` over `services/server/database.ts`. A call is
one SQL statement or transaction, so a route is a function on the database that runs at
one point in time. Profiles are saved by compare-and-set on their revision.
-/

namespace RetirementPlanner.Web

open Schema
open Engine (AccountType AssetWeights)

variable {K : Type}

/-! ## Tables -/

/-- A row of `user_profiles`, which is also what `GET /api/profile` returns. -/
structure ProfileSettings (K : Type) where
  profile : Json K
  socialSecurity : Json K
  assumptions : Json K
  revision : ℤ
  schemaVersion : ℤ

/-- The tables, by owner; accounts are in the order of `created_at DESC`. -/
structure Database (K : Type) where
  userProfiles : String → Option (ProfileSettings K)
  accounts : String → List (Account K)

/-! ## Account requests -/

structure CreateAccountData (K : Type) where
  name : String
  institution : String
  accountType : AccountType
  balance : Option K
  stocksPct : Option K
  bondsPct : Option K

structure UpdateAccountData (K : Type) where
  name : Option String
  institution : Option String
  accountType : Option AccountType
  balance : Option K
  assetWeights : Option (AssetWeights K)

def optionalField {α : Type} (key : String) (encode : α → Json K) (value : Option α) : Fields K :=
  (value.map fun a => (key, encode a)).toList

def createAccountBody (data : CreateAccountData K) : Json K :=
  .obj ([("name", .str data.name), ("institution", .str data.institution),
      ("type", .str (accountTypeText data.accountType))]
    ++ optionalField "balance" .num data.balance
    ++ optionalField "stocksPct" .num data.stocksPct
    ++ optionalField "bondsPct" .num data.bondsPct)

def updateAccountBody (updates : UpdateAccountData K) : Json K :=
  .obj (optionalField "name" .str updates.name
    ++ optionalField "institution" .str updates.institution
    ++ optionalField "type" (fun t => .str (accountTypeText t)) updates.accountType
    ++ optionalField "balance" .num updates.balance
    ++ optionalField "assetWeights" assetWeightsJson updates.assetWeights)

variable [Field K] [LinearOrder K]

/-- `CreateAccountSchema` -/
def createAccountSchema : Parser K (CreateAccountData K) := fun value => do
  let fields ←
    strict ["name", "institution", "type", "balance", "stocksPct", "bondsPct"] value
  let name ← field "name"
    (refined (refined string (fun s => 1 ≤ utf16Length s) (some "Account name is required"))
      (fun s => utf16Length s ≤ 100) (some "Account name too long")) fields
  let institution ← field "institution"
    (withDefault "" (refined string (fun s => utf16Length s ≤ 100)
      (some "Institution name too long"))) fields
  let accountType ← field "type" (oneOf accountTypes) fields
  let balance ← field "balance" (withDefault 0
    (between 0 1000000000000000 (some "Balance must be non-negative") none)) fields
  let stocksPct ← field "stocksPct" (withDefault 0.6
    (between 0 1 none (some "Stocks percentage must be between 0 and 1"))) fields
  let bondsPct ← field "bondsPct" (withDefault 0.4
    (between 0 1 none (some "Bonds percentage must be between 0 and 1"))) fields
  if |stocksPct + bondsPct - 1| ≤ 0.000001 then
    .ok { name, institution, accountType, balance := some balance, stocksPct := some stocksPct,
          bondsPct := some bondsPct }
  else .error ⟨["stocksPct"], some "Stock and bond percentages must sum to 1"⟩

def updateAssetWeightsSchema : Parser K (AssetWeights K) := fun value => do
  let fields ← strict ["stocks", "bonds"] value
  let stocks ← field "stocks" (between 0 1 none none) fields
  let bonds ← field "bonds" (between 0 1 none none) fields
  if |stocks + bonds - 1| ≤ 0.000001 then .ok { stocks, bonds }
  else .error ⟨["stocks"], some "Stock and bond percentages must sum to 1"⟩

/-- `UpdateAccountSchema` -/
def updateAccountSchema : Parser K (UpdateAccountData K) := fun value => do
  let fields ← strict ["name", "institution", "type", "balance", "assetWeights"] value
  let name ← field "name" (optional (refined (refined string (fun s => 1 ≤ utf16Length s) none)
    (fun s => utf16Length s ≤ 100) none)) fields
  let institution ←
    field "institution" (optional (refined string (fun s => utf16Length s ≤ 100) none)) fields
  let accountType ← field "type" (optional (oneOf accountTypes)) fields
  let balance ← field "balance" (optional (between 0 1000000000000000 none none)) fields
  let assetWeights ← field "assetWeights" (optional updateAssetWeightsSchema) fields
  .ok { name, institution, accountType, balance, assetWeights }

def isHexDigit (c : Char) : Bool :=
  c.isDigit || ('a' ≤ c && c ≤ 'f') || ('A' ≤ c && c ≤ 'F')

/-- Account identifiers are database-generated UUIDs. -/
def isAccountId (value : String) : Bool :=
  match value.toList.splitOn '-' with
  | [a, b, c, d, e] =>
    a.length == 8 && b.length == 4 && c.length == 4 && d.length == 4 && e.length == 12
      && (a ++ b ++ c ++ d ++ e).all isHexDigit
      && c.head?.any (fun x => '1' ≤ x && x ≤ '8')
      && d.head?.any (fun x => x ∈ ['8', '9', 'a', 'b', 'A', 'B'])
  | _ => false

/-! ## Accounts -/

variable [FloorRing K]

/-- `NUMERIC(_, scale)` of a number that is not negative. -/
def numeric (scale : ℕ) (x : K) : K := (⌊x * 10 ^ scale + 1 / 2⌋ : K) / 10 ^ scale

/-- The row an account is stored as: cents, and weights to seven places. -/
def accountRow (account : Account K) : Account K :=
  { account with
    balance := numeric 2 account.balance
    assetWeights := ⟨numeric 7 account.assetWeights.stocks, numeric 7 account.assetWeights.bonds⟩ }

omit [FloorRing K] in
/-- The checks of the `accounts` table. -/
def accountChecks (account : Account K) : Bool :=
  decide (0 ≤ account.balance
    ∧ 0 ≤ account.assetWeights.stocks ∧ account.assetWeights.stocks ≤ 1
    ∧ 0 ≤ account.assetWeights.bonds ∧ account.assetWeights.bonds ≤ 1
    ∧ |account.assetWeights.stocks + account.assetWeights.bonds - 1| ≤ 0.000001)

/-- A call's outcome, as its HTTP response. -/
inductive Response (K : Type)
  | profile (settings : Option (ProfileSettings K))
  | accounts (items : List (Json K))
  | revision (revision : ℤ)
  | account (value : Json K)
  | noContent
  /-- A response that is not ok, by its status. -/
  | failed (status : ℕ)

omit [Field K] [LinearOrder K] [FloorRing K] in
def Database.setAccounts (db : Database K) (userId : String) (accounts : List (Account K)) :
    Database K :=
  { db with accounts := Function.update db.accounts userId accounts }

/-- `createAccount`, with the identifier the database generates. Creates of one owner
are serialized, so that they cannot race past the limit. -/
def Database.createAccount (db : Database K) (data : CreateAccountData K) (userId newId : String) :
    Database K × Response K :=
  let stocks := data.stocksPct.getD 0.6
  let bonds := data.bondsPct.getD (1 - stocks)
  let row := accountRow
    { id := newId, name := data.name, institution := data.institution,
      accountType := data.accountType, balance := data.balance.getD 0,
      assetWeights := { stocks, bonds } }
  if maxPlanAccounts ≤ (db.accounts userId).length then (db, .failed 409)
  else if accountChecks row then
    (db.setAccounts userId (row :: db.accounts userId), .account (accountJson row))
  else (db, .failed 500)

omit [Field K] [LinearOrder K] [FloorRing K] in
/-- `{ ...account, ...updates }` -/
def Account.update (account : Account K) (updates : UpdateAccountData K) : Account K :=
  { account with
    name := updates.name.getD account.name
    institution := updates.institution.getD account.institution
    accountType := updates.accountType.getD account.accountType
    balance := updates.balance.getD account.balance
    assetWeights := updates.assetWeights.getD account.assetWeights }

omit [Field K] [LinearOrder K] [FloorRing K] in
def UpdateAccountData.isEmpty (updates : UpdateAccountData K) : Bool :=
  updates.name.isNone && updates.institution.isNone && updates.accountType.isNone
    && updates.balance.isNone && updates.assetWeights.isNone

omit [Field K] [LinearOrder K] [FloorRing K] in
def Database.getAccount (db : Database K) (id userId : String) : Response K :=
  match (db.accounts userId).find? (·.id = id) with
  | none => .failed 404
  | some account => .account (accountJson account)

def Database.updateAccount (db : Database K) (id userId : String)
    (updates : UpdateAccountData K) : Database K × Response K :=
  match (db.accounts userId).find? (·.id = id) with
  | none => (db, .failed 404)
  | some account =>
    -- Without a field to set the row is only read back.
    if updates.isEmpty then (db, .account (accountJson account))
    else
      let row := accountRow (account.update updates)
      if accountChecks row then
        (db.setAccounts userId ((db.accounts userId).map fun a => if a.id = id then row else a),
          .account (accountJson row))
      else (db, .failed 500)

omit [Field K] [LinearOrder K] [FloorRing K] in
def Database.deleteAccount (db : Database K) (id userId : String) : Database K × Response K :=
  if (db.accounts userId).any (·.id = id) then
    (db.setAccounts userId ((db.accounts userId).filter (·.id ≠ id)), .noContent)
  else (db, .failed 404)

/-! ## Profiles -/

/-- `saveUserProfile`: an insert that does nothing on conflict where the client knows of
no row, and otherwise an update of the row at the expected revision. `none` is
`ProfileRevisionConflictError`. -/
def Database.saveUserProfile (db : Database K) (userId : String) (data : SaveProfileData K) :
    Option (Database K × ℤ) :=
  let row (revision : ℤ) : ProfileSettings K :=
    { profile := .obj (profileFields data.profile)
      socialSecurity := .obj (socialSecurityFields data.socialSecurity)
      assumptions := .obj (assumptionFields data.assumptions)
      revision
      schemaVersion := planSchemaVersion }
  let write (revision : ℤ) : Database K × ℤ :=
    ({ db with userProfiles := Function.update db.userProfiles userId (some (row revision)) },
      revision)
  match data.revision, db.userProfiles userId with
  | none, none => some (write 0)
  | some expected, some stored =>
    if stored.revision = expected then some (write (stored.revision + 1)) else none
  | _, _ => none

/-! ## Routes -/

inductive Call (K : Type)
  | getProfile
  | saveProfile (body : Json K)
  | getAccounts
  | getAccount (id : String)
  | createAccount (body : Json K)
  | updateAccount (id : String) (body : Json K)
  | deleteAccount (id : String)

/-- What a call of a signed-in user does, and how it is answered. -/
def Database.handle (db : Database K) (userId newId : String) : Call K → Database K × Response K
  | .getProfile => (db, .profile (db.userProfiles userId))
  | .saveProfile body =>
    match saveProfileSchema (some body) with
    | .error _ => (db, .failed 400)
    | .ok data =>
      match db.saveUserProfile userId data with
      | none => (db, .failed 409)
      | some (db, revision) => (db, .revision revision)
  | .getAccounts => (db, .accounts ((db.accounts userId).map accountJson))
  | .getAccount id => (db, if isAccountId id then db.getAccount id userId else .failed 400)
  | .createAccount body =>
    match createAccountSchema (some body) with
    | .error _ => (db, .failed 400)
    | .ok data => db.createAccount data userId newId
  | .updateAccount id body =>
    if isAccountId id then
      match updateAccountSchema (some body) with
      | .error _ => (db, .failed 400)
      | .ok updates => db.updateAccount id userId updates
    else (db, .failed 400)
  | .deleteAccount id => if isAccountId id then db.deleteAccount id userId else (db, .failed 400)

end RetirementPlanner.Web
