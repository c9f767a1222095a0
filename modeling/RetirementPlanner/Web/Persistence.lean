import RetirementPlanner.Web.Codec
import RetirementPlanner.Web.Plan

/-!
# The browser's storage

`lib/persistence.ts`. In local data mode this is the only store for profile and
accounts; in cloud mode it is a write-through cache. Values are JSON under keys that
carry their owner. Storage may be unavailable altogether, and a write may not fit.
-/

namespace RetirementPlanner.Web

open Schema

variable {K : Type}

/-! ## Keys and items -/

/-- `retireplan:accounts` and `retireplan:profile` -/
inductive StorageBase
  | localAccounts
  | localProfile
  deriving DecidableEq, Repr

inductive StorageKey
  | userPreferences
  /-- The global key of an older architecture. -/
  | legacy (base : StorageBase)
  | owned (base : StorageBase) (owner : String)
  deriving DecidableEq, Repr

def anonymousOwner : String := "anonymous"

def ownerKey (base : StorageBase) (ownerId : Option String) : StorageKey :=
  .owned base (ownerId.getD anonymousOwner)

structure Storage (K : Type) where
  items : StorageKey → Option (Json K)
  /-- Whether `window.localStorage` can be reached. -/
  available : Bool
  /-- Whether a write under a key still fits. -/
  fits : StorageKey → Bool

/-- A write, unless it throws. -/
def Storage.setItem (storage : Storage K) (key : StorageKey) (value : Json K) :
    Option (Storage K) :=
  if storage.fits key then
    some { storage with items := Function.update storage.items key (some value) }
  else none

def Storage.removeItem (storage : Storage K) (key : StorageKey) : Storage K :=
  { storage with items := Function.update storage.items key none }

/-- A write that reports whether it happened. -/
def Storage.save (storage : Storage K) (key : StorageKey) (value : Json K) : Storage K × Bool :=
  if storage.available then
    match storage.setItem key value with
    | some written => (written, true)
    | none => (storage, false)
  else (storage, false)

/-- What a key holds, where storage can be reached. -/
def Storage.load (storage : Storage K) (key : StorageKey) : Option (Json K) :=
  if storage.available then storage.items key else none

/-! ## Preferences -/

structure UserPreferences where
  useServerSideCalculations : Bool
  cloudSyncEnabled : Bool
  deriving DecidableEq, Repr

def booleanOf : Option (Json K) → Option Bool
  | some (.bool b) => some b
  | _ => none

def loadUserPreferences (storage : Storage K) : Option UserPreferences :=
  match storage.load .userPreferences with
  | none | some .null => none
  | some saved =>
    let parsed := fieldsOf (some saved)
    some
      { useServerSideCalculations :=
          (booleanOf (parsed.get "useServerSideCalculations")).getD true
        cloudSyncEnabled := (booleanOf (parsed.get "cloudSyncEnabled")).getD
          -- The field before its renaming, of the inverted meaning.
          (((booleanOf (parsed.get "privateAccountsMode")).map not).getD true) }

def saveUserPreferences (storage : Storage K) (preferences : UserPreferences) : Storage K :=
  (storage.save .userPreferences (.obj
    [("useServerSideCalculations", .bool preferences.useServerSideCalculations),
      ("cloudSyncEnabled", .bool preferences.cloudSyncEnabled)])).1

/-! ## Profile -/

structure LocalProfileData (K : Type) where
  profile : Option (Json K)
  socialSecurity : Option (Json K)
  assumptions : Option (Json K)

variable [Field K] [LinearOrder K]

/-- Data written by a newer version of the application. -/
def savedByNewerVersion (fields : Fields K) : Bool :=
  match numberOf (fields.get "schemaVersion") with
  | some version => decide ((planSchemaVersion : K) < version)
  | none => false

def loadLocalProfile (storage : Storage K) (ownerId : Option String) :
    Except String (Option (LocalProfileData K)) :=
  match storage.load (ownerKey .localProfile ownerId) with
  | none => .ok none
  | some (.obj fields) =>
    if savedByNewerVersion fields then .error "Browser profile data could not be loaded"
    else .ok (some
      { profile := Fields.get fields "profile"
        socialSecurity := Fields.get fields "socialSecurity"
        assumptions := Fields.get fields "assumptions" })
  | some _ => .error "Browser profile data could not be loaded"

omit [LinearOrder K] in
def localProfileJson (plan : RetirementPlan K) : Json K :=
  .obj [("schemaVersion", .num planSchemaVersion), ("profile", .obj (profileFields plan.profile)),
    ("socialSecurity", .obj (socialSecurityFields plan.socialSecurity)),
    ("assumptions", .obj (assumptionFields plan.assumptions))]

omit [LinearOrder K] in
def saveLocalProfile (storage : Storage K) (plan : RetirementPlan K) (ownerId : Option String) :
    Storage K × Bool :=
  storage.save (ownerKey .localProfile ownerId) (localProfileJson plan)

/-! ## Accounts -/

inductive LocalPlanOrigin
  | starter
  | user
  deriving DecidableEq, Repr

structure LocalAccountState (K : Type) where
  accounts : List (Account K)
  origin : LocalPlanOrigin

def loadLocalAccountState (storage : Storage K) (ownerId : Option String) :
    Except String (Option (LocalAccountState K)) :=
  let parse (payload : List (Json K)) (origin : LocalPlanOrigin) :
      Except String (Option (LocalAccountState K)) :=
    match array accountSchema (some (.arr payload)) with
    | .ok accounts => .ok (some { accounts, origin })
    | .error _ => .error "Browser account data could not be loaded"
  match storage.load (ownerKey .localAccounts ownerId) with
  | none => .ok none
  | some (.arr payload) => parse payload .user
  | some (.obj fields) =>
    match Fields.get fields "accounts" with
    | some (.arr payload) =>
      if savedByNewerVersion fields then .error "Browser account data could not be loaded"
      else
        match Fields.get fields "origin" with
        | some (.str "starter") => parse payload .starter
        | _ => parse payload .user
    | _ => .error "Browser account data could not be loaded"
  | some _ => .error "Browser account data could not be loaded"

def originText : LocalPlanOrigin → String
  | .starter => "starter"
  | .user => "user"

omit [LinearOrder K] in
def saveLocalAccounts (storage : Storage K) (accounts : List (Account K))
    (ownerId : Option String) (origin : LocalPlanOrigin) : Storage K × Bool :=
  storage.save (ownerKey .localAccounts ownerId) (.obj
    [("schemaVersion", .num planSchemaVersion), ("accounts", .arr (accounts.map accountJson)),
      ("origin", .str (originText origin))])

omit [LinearOrder K] in
/-- `saveLocalPlan` of `state/usePlan.ts`: both writes are attempted. -/
def saveLocalPlan (storage : Storage K) (plan : RetirementPlan K) (ownerId : Option String)
    (origin : LocalPlanOrigin) : Storage K × Bool :=
  let (storage, profileSaved) := saveLocalProfile storage plan ownerId
  let (storage, accountsSaved) := saveLocalAccounts storage plan.accounts ownerId origin
  (storage, profileSaved && accountsSaved)

/-! ## Housekeeping -/

/-- Move a former global value into the anonymous namespace, unless a write throws. -/
def moveLegacy (base : StorageBase) (storage : Storage K) : Option (Storage K) :=
  match storage.items (.legacy base), storage.items (ownerKey base none) with
  | some value, none =>
    (storage.setItem (ownerKey base none) value).map (·.removeItem (.legacy base))
  | _, _ => some (storage.removeItem (.legacy base))

/-- Unowned browser data is never attached to an authenticated user. -/
def clearLegacyLocalData (storage : Storage K) : Storage K :=
  if storage.available then
    match moveLegacy .localProfile storage with
    | none => storage
    | some moved => (moveLegacy .localAccounts moved).getD moved
  else storage

end RetirementPlanner.Web
