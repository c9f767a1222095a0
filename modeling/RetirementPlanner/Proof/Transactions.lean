import Mathlib.Data.Fintype.Card
import Mathlib.Data.Rat.Floor
import RetirementPlanner.Web.Transactions

/-!
# Concurrent requests run one at a time

The statements of the data routes interleave, and still come to what the routes do one at a
time: a request takes effect where its transaction commits, or where its one statement runs.
`createAccount` counts before it inserts, and the lock it holds in between keeps the count of
its owner from growing.

* `route_eq`: a route is a refusal, one statement, or the transaction of a create.
* `requests_serializable`: the runs of the database are runs of `Database.handle`.
* `accounts_within_limit`: no owner ever has more accounts than a plan may contain.
* `requests_progress`: a request that waits for a lock waits for one that can go on.
-/

namespace RetirementPlanner.Web

open Transactions
open Schema (Json)

variable {K : Type} [Field K] [LinearOrder K] [FloorRing K]

/-! ## What a route asks of the database -/

inductive RoutePlan (K : Type)
  /-- Answered without the database. -/
  | refusal (status : ℕ)
  | statement (asked : SqlStatement K) (answer : List (SqlRow K) → Response K)
      (status : DatabaseError → ℕ)
  | create (data : CreateAccountData K)

def revisionResponse : Option ℤ → Response K
  | none => .failed 409
  | some revision => .revision revision

def accountResponse : Option (Account K) → Response K
  | none => .failed 404
  | some account => .account (accountJson account)

def Call.plan (userId : String) : Call K → RoutePlan K
  | .getProfile => .statement (.selectProfile userId)
      (fun rows => .profile (rows.head?.bind SqlRow.toProfile)) fun _ => 500
  | .saveProfile body =>
    match saveProfileSchema (some body) with
    | .error _ => .refusal 400
    | .ok data => .statement (.writeProfile userId data)
        (fun rows => revisionResponse (rows.head?.bind SqlRow.toRevision)) saveStatus
  | .getAccounts => .statement (.selectAccounts userId)
      (fun rows => .accounts ((rows.filterMap SqlRow.toAccount).map accountJson)) fun _ => 500
  | .getAccount id =>
    if isAccountId id then
      .statement (.selectAccount id userId)
        (fun rows => accountResponse (rows.head?.bind SqlRow.toAccount)) fun _ => 500
    else .refusal 400
  | .createAccount body =>
    match createAccountSchema (some body) with
    | .error _ => .refusal 400
    | .ok data => .create data
  | .updateAccount id body =>
    if isAccountId id then
      match updateAccountSchema (some body) with
      | .error _ => .refusal 400
      | .ok updates =>
        .statement (if updates.isEmpty then .selectAccount id userId
            else .updateAccount id userId updates)
          (fun rows => accountResponse (rows.head?.bind SqlRow.toAccount)) fun _ => 500
    else .refusal 400
  | .deleteAccount id =>
    if isAccountId id then
      .statement (.deleteAccount id userId)
        (fun rows => if rows.head?.isSome then .noContent else .failed 404) fun _ => 500
    else .refusal 400

section Programs

variable (hashtext : String → ℤ) (userId : String) (data : CreateAccountData K)

def rollingBack (error : DatabaseError) : Query K (Response K) :=
  .query .rollback fun
    | .ok _ => .done (.ok (.failed (createStatus error)))
    | .error error => .done (.ok (.failed (createStatus error)))

def committing (row : Option (SqlRow K)) : Query K (Response K) :=
  .query .commit fun
    | .ok _ =>
      match row.bind SqlRow.toAccount with
      | none => .done (.ok (.failed (createStatus .other)))
      | some account => .done (.ok (.account (accountJson account)))
    | .error error => rollingBack error

def CreateAccountData.stocks : K := data.stocksPct.getD 0.6

def CreateAccountData.bonds : K := data.bondsPct.getD (1 - data.stocks)

def inserting : Query K (Response K) :=
  .query (.statement (.insertAccount data data.stocks data.bonds userId)) fun
    | .ok rows => committing rows.head?
    | .error error => rollingBack error

def counting : Query K (Response K) :=
  .query (.statement (.countAccounts userId)) fun
    | .ok rows =>
      if maxPlanAccounts ≤ (rows.head?.bind SqlRow.toCount).getD 0 then rollingBack .accountLimit
      else inserting userId data
    | .error error => rollingBack error

def locking : Query K (Response K) :=
  .query (.lock (hashtext (accountsLock userId))) fun
    | .ok _ => counting userId data
    | .error error => rollingBack error

def settingTimeout : Query K (Response K) :=
  .query (.statement (.setStatementTimeout statementTimeoutMs)) fun
    | .ok _ => locking hashtext userId data
    | .error error => rollingBack error

def beginning : Query K (Response K) :=
  .query .begin fun
    | .ok _ => settingTimeout hashtext userId data
    | .error error => .done (.ok (.failed (createStatus error)))

end Programs

def RoutePlan.program (hashtext : String → ℤ) (userId : String) :
    RoutePlan K → Query K (Response K)
  | .refusal status => .done (.ok (.failed status))
  | .statement asked answer status => .query (.statement asked) fun
    | .ok rows => .done (.ok (answer rows))
    | .error error => .done (.ok (.failed (status error)))
  | .create data => beginning hashtext userId data

section Rest

omit [Field K] [LinearOrder K] [FloorRing K]

/-- How the calls go on with the row they get. -/
def writtenRevision : Option ℤ → Query K ℤ
  | none => throw .profileRevisionConflict
  | some revision => pure revision

def insertedAccount : Option (Account K) → Query K (Account K)
  | none => throw .other
  | some account => pure account

def updatedAccount : Option (Account K) → Query K (Response K)
  | some account => pure (.account (accountJson account))
  | none => pure (.failed 404)

/-- What a create still does, from a point of its transaction on. -/
def createRest (rest : Query K (Option (SqlRow K))) : Query K (Response K) :=
  answering createStatus do
    let account ← (do
      let row ← tryCatch rest fun error => do
        let _ ← Program.ask .rollback
        throw error
      insertedAccount (row.bind SqlRow.toAccount) : Query K (Account K))
    pure (.account (accountJson account))

theorem createRest_error (error : DatabaseError) :
    createRest (K := K) (.done (.error error)) = rollingBack error := by
  refine congrArg (Program.query .rollback) (funext fun answer => ?_)
  cases answer <;> rfl

theorem createRest_commit (row : Option (SqlRow K)) :
    createRest (do
      let _ ← Program.ask .commit
      pure row) = committing row := by
  refine congrArg (Program.query .commit) (funext fun answer => ?_)
  cases answer with
  | error error => exact createRest_error error
  | ok rows =>
    change Program.handle (Program.bind (insertedAccount (row.bind SqlRow.toAccount)) _) _ = _
    cases row.bind SqlRow.toAccount <;> rfl

end Rest

section Create

variable (hashtext : String → ℤ) (userId : String) (data : CreateAccountData K)

omit [LinearOrder K] [FloorRing K]

theorem createRest_insert :
    createRest (do
      let row ← queryOne (.insertAccount data data.stocks data.bonds userId)
      let _ ← Program.ask .commit
      pure row) = inserting userId data := by
  refine congrArg (Program.query _) (funext fun answer => ?_)
  cases answer with
  | error error => exact createRest_error error
  | ok rows => exact createRest_commit rows.head?

theorem createRest_count :
    createRest (do
      let row ← (do
        let count ← queryOne (.countAccounts userId)
        if maxPlanAccounts ≤ (count.bind SqlRow.toCount).getD 0 then throw .accountLimit
        else queryOne (.insertAccount data data.stocks data.bonds userId) :
          Query K (Option (SqlRow K)))
      let _ ← Program.ask .commit
      pure row) = counting userId data := by
  refine congrArg (Program.query _) (funext fun answer => ?_)
  cases answer with
  | error error => exact createRest_error error
  | ok rows =>
    change createRest (do
      let row ← (if maxPlanAccounts ≤ (rows.head?.bind SqlRow.toCount).getD 0 then
          throw .accountLimit
        else queryOne (.insertAccount data data.stocks data.bonds userId) :
          Query K (Option (SqlRow K)))
      let _ ← Program.ask .commit
      pure row) = ite _ _ _
    split
    · exact createRest_error .accountLimit
    · exact createRest_insert userId data

theorem createAccountQuery_eq :
    (answering createStatus do
      let account ← createAccountQuery hashtext data userId
      pure (.account (accountJson account))) = beginning hashtext userId data := by
  refine congrArg (Program.query .begin) (funext fun answer => ?_)
  cases answer with
  | error error => rfl
  | ok rows =>
    refine congrArg (Program.query _) (funext fun answer => ?_)
    cases answer with
    | error error => exact createRest_error error
    | ok rows =>
      refine congrArg (Program.query _) (funext fun answer => ?_)
      cases answer with
      | error error => exact createRest_error error
      | ok rows => exact createRest_count userId data

end Create

theorem route_eq (hashtext : String → ℤ) (userId : String) (call : Call K) :
    route hashtext userId call = (call.plan userId).program hashtext userId := by
  cases call with
  | getProfile =>
    refine congrArg (Program.query _) (funext fun answer => ?_)
    cases answer <;> rfl
  | saveProfile body =>
    simp only [route, Call.plan]
    cases saveProfileSchema (some body) with
    | error issue => rfl
    | ok data =>
      refine congrArg (Program.query _) (funext fun answer => ?_)
      cases answer with
      | error error => rfl
      | ok rows =>
        change Program.handle (Program.bind (writtenRevision (rows.head?.bind SqlRow.toRevision)) _)
          _ = .done (.ok (revisionResponse (rows.head?.bind SqlRow.toRevision)))
        cases rows.head?.bind SqlRow.toRevision <;> rfl
  | getAccounts =>
    refine congrArg (Program.query _) (funext fun answer => ?_)
    cases answer <;> rfl
  | getAccount id =>
    simp only [route, Call.plan]
    split
    · refine congrArg (Program.query _) (funext fun answer => ?_)
      cases answer with
      | error error => rfl
      | ok rows =>
        change Program.handle (updatedAccount (rows.head?.bind SqlRow.toAccount)) _ =
          .done (.ok (accountResponse (rows.head?.bind SqlRow.toAccount)))
        cases rows.head?.bind SqlRow.toAccount <;> rfl
    · rfl
  | createAccount body =>
    simp only [route, Call.plan]
    cases createAccountSchema (some body) with
    | error issue => rfl
    | ok data => exact createAccountQuery_eq hashtext userId data
  | updateAccount id body =>
    simp only [route, Call.plan]
    split
    · cases updateAccountSchema (some body) with
      | error issue => rfl
      | ok updates =>
        simp only [updateAccountQuery]
        split <;>
        · refine congrArg (Program.query _) (funext fun answer => ?_)
          cases answer with
          | error error => rfl
          | ok rows =>
            change Program.handle (updatedAccount (rows.head?.bind SqlRow.toAccount)) _ =
              .done (.ok (accountResponse (rows.head?.bind SqlRow.toAccount)))
            cases rows.head?.bind SqlRow.toAccount <;> rfl
    · rfl
  | deleteAccount id =>
    simp only [route, Call.plan]
    split
    · refine congrArg (Program.query _) (funext fun answer => ?_)
      cases answer <;> rfl
    · rfl

/-! ## One statement -/

/-- The same answer, but for the order of a list. -/
inductive Response.Like : Response K → Response K → Prop
  | refl (response : Response K) : Like response response
  | reordered {items items' : List (Json K)} (h : items.Perm items') :
      Like (.accounts items) (.accounts items')

section Tables

omit [Field K] [LinearOrder K] [FloorRing K]

theorem database_setAccounts (tables : Tables K) (userId : String)
    (accounts : List (ℕ × Account K)) :
    (tables.setAccounts userId accounts).database =
      tables.database.setAccounts userId (accounts.map (·.2)) := by
  simp only [Tables.database, Tables.setAccounts, Database.setAccounts, Database.mk.injEq,
    true_and]
  funext owner
  by_cases h : owner = userId
  · subst h
    rw [Function.update_self, Function.update_self]
  · rw [Function.update_of_ne h, Function.update_of_ne h]

theorem length_setAccounts (tables : Tables K) {userId : String}
    {accounts : List (ℕ × Account K)} (h : accounts.length ≤ (tables.accounts userId).length)
    (owner : String) :
    ((tables.setAccounts userId accounts).accounts owner).length ≤
      (tables.accounts owner).length := by
  by_cases howner : owner = userId
  · subst howner
    simpa [Tables.setAccounts] using h
  · simp [Tables.setAccounts, Function.update_of_ne howner]

theorem find?_database (accounts : List (ℕ × Account K)) (id : String) :
    (accounts.map (·.2)).find? (·.id = id) =
      (accounts.find? (·.2.id = id)).map (·.2) := by
  rw [List.find?_map]
  rfl

end Tables

/-- What a statement comes to does what a call does, and no owner has more accounts after
it. -/
def Does (tables : Tables K) (handled : Database K × Response K)
    (answer : List (SqlRow K) → Response K) :
    Option (List (SqlRow K) × (Tables K → Tables K)) → Prop
  | some (rows, change) =>
    (change tables).database = handled.1 ∧ handled.2.Like (answer rows) ∧
      ∀ owner, ((change tables).accounts owner).length ≤ (tables.accounts owner).length
  | none => handled = (tables.database, .failed 500)

omit [LinearOrder K] [FloorRing K] in
theorem saveUserProfile_writes {db written : Database K} {userId : String}
    {data : SaveProfileData K} {revision : ℤ}
    (h : db.saveUserProfile userId data = some (written, revision)) :
    ∃ row, written =
      { db with userProfiles := Function.update db.userProfiles userId (some row) } := by
  unfold Database.saveUserProfile at h
  split at h
  · obtain ⟨rfl, -⟩ := Prod.mk.inj (Option.some.inj h)
    exact ⟨_, rfl⟩
  · split at h
    · obtain ⟨rfl, -⟩ := Prod.mk.inj (Option.some.inj h)
      exact ⟨_, rfl⟩
    · cases h
  · cases h

theorem writeProfile_does (tables : Tables K) (userId : String) (data : SaveProfileData K)
    (moment : Moment) :
    Does tables
      (match tables.database.saveUserProfile userId data with
        | none => (tables.database, .failed 409)
        | some (db, revision) => (db, .revision revision))
      (fun rows => revisionResponse (rows.head?.bind SqlRow.toRevision))
      (executeStatement moment moment (.writeProfile userId data) tables) := by
  simp only [executeStatement]
  cases hsave : tables.database.saveUserProfile userId data with
  | none => exact ⟨rfl, .refl _, fun _ => le_refl _⟩
  | some written =>
    obtain ⟨db, revision⟩ := written
    refine ⟨?_, .refl _, fun _ => le_refl _⟩
    obtain ⟨row, rfl⟩ := saveUserProfile_writes hsave
    simp only [Tables.database, Function.update_self]

theorem getAccount_does (tables : Tables K) (id userId : String) (moment : Moment) :
    Does tables (tables.database, tables.database.getAccount id userId)
      (fun rows => accountResponse (rows.head?.bind SqlRow.toAccount))
      (executeStatement moment moment (.selectAccount id userId) tables) := by
  unfold Database.getAccount
  rw [show tables.database.accounts userId = (tables.accounts userId).map (·.2) from rfl,
    find?_database]
  simp only [executeStatement]
  cases (tables.accounts userId).find? (·.2.id = id) with
  | none => exact ⟨rfl, .refl _, fun _ => le_refl _⟩
  | some account => exact ⟨rfl, .refl _, fun _ => le_refl _⟩

theorem updateAccount_does (tables : Tables K) (id userId : String)
    (updates : UpdateAccountData K) (moment : Moment) :
    Does tables (tables.database.updateAccount id userId updates)
      (fun rows => accountResponse (rows.head?.bind SqlRow.toAccount))
      (executeStatement moment moment
        (if updates.isEmpty then .selectAccount id userId else .updateAccount id userId updates)
        tables) := by
  unfold Database.updateAccount
  rw [show tables.database.accounts userId = (tables.accounts userId).map (·.2) from rfl,
    find?_database]
  by_cases hempty : updates.isEmpty = true
  · simp only [if_pos hempty, executeStatement]
    cases (tables.accounts userId).find? (·.2.id = id) with
    | none => exact ⟨rfl, .refl _, fun _ => le_refl _⟩
    | some account => exact ⟨rfl, .refl _, fun _ => le_refl _⟩
  · simp only [if_neg hempty, executeStatement]
    cases (tables.accounts userId).find? (·.2.id = id) with
    | none => exact ⟨rfl, .refl _, fun _ => le_refl _⟩
    | some account =>
      simp only [Option.map_some]
      split
      · refine ⟨?_, .refl _, length_setAccounts tables (by rw [List.length_map])⟩
        rw [database_setAccounts, List.map_map, List.map_map]
        congr 1
        refine List.map_congr_left fun a _ => ?_
        simp only [Function.comp_apply]
        split <;> rfl
      · rfl

theorem deleteAccount_does (tables : Tables K) (id userId : String) (moment : Moment) :
    Does tables (tables.database.deleteAccount id userId)
      (fun rows => if rows.head?.isSome then .noContent else .failed 404)
      (executeStatement moment moment (.deleteAccount id userId) tables) := by
  unfold Database.deleteAccount
  rw [show tables.database.accounts userId = (tables.accounts userId).map (·.2) from rfl]
  have hlength := length_setAccounts tables (List.length_filter_le (·.2.id ≠ id)
    (tables.accounts userId))
  have hany : ((tables.accounts userId).map (·.2)).any (·.id = id) = true ↔
      (tables.accounts userId).filter (·.2.id = id) ≠ [] := by
    rw [List.any_map, List.any_eq_true, Ne, List.filter_eq_nil_iff]
    push Not
    rfl
  cases hdeleted : (tables.accounts userId).filter (·.2.id = id) with
  | nil =>
    rw [if_neg (by rw [hany, hdeleted]; exact fun h => h rfl)]
    refine ⟨?_, ?_, hlength⟩
    · have hkept : (tables.accounts userId).filter (·.2.id ≠ id) = tables.accounts userId := by
        rw [List.filter_eq_self]
        intro a ha
        simpa using List.filter_eq_nil_iff.mp hdeleted a ha
      beta_reduce
      rw [hkept, database_setAccounts]
      simp [Database.setAccounts, Tables.database]
    · rw [hdeleted]
      exact .refl _
  | cons row rows =>
    rw [if_pos (by rw [hany, hdeleted]; exact List.cons_ne_nil _ _)]
    refine ⟨?_, ?_, hlength⟩
    · rw [database_setAccounts, List.filter_map]
      rfl
    · rw [hdeleted]
      exact .refl _

theorem getAccounts_does (tables : Tables K) (userId : String) (moment : Moment) :
    Does tables (tables.database, .accounts ((tables.database.accounts userId).map accountJson))
      (fun rows => .accounts ((rows.filterMap SqlRow.toAccount).map accountJson))
      (executeStatement moment moment (.selectAccounts userId) tables) := by
  refine ⟨rfl, .reordered ?_, fun _ => le_refl _⟩
  have hrows : ((newestFirst (tables.accounts userId)).map fun a =>
      SqlRow.account a.2).filterMap SqlRow.toAccount =
      (newestFirst (tables.accounts userId)).map (·.2) := by
    rw [List.filterMap_map, ← List.filterMap_eq_map]
    rfl
  rw [hrows]
  exact ((List.mergeSort_perm _ _).symm.map _).map _

/-- What a plan comes to, where nothing else runs, is what the call does. -/
def RoutePlan.Agrees (userId : String) (call : Call K) : RoutePlan K → Prop
  | .refusal status =>
    ∀ (db : Database K) (newId : String), db.handle userId newId call = (db, .failed status)
  | .statement asked answer status =>
    status .other = 500 ∧ ∀ (tables : Tables K) (moment : Moment),
      Does tables (tables.database.handle userId moment.newId call) answer
        (executeStatement moment moment asked tables)
  | .create data =>
    ∀ (db : Database K) (newId : String),
      db.handle userId newId call = db.createAccount data userId newId

theorem plan_agrees (userId : String) (call : Call K) :
    (call.plan userId).Agrees userId call := by
  cases call with
  | getProfile =>
    refine ⟨rfl, fun tables moment => ⟨rfl, ?_, fun _ => le_refl _⟩⟩
    change Response.Like (.profile (tables.userProfiles userId))
      (.profile (((tables.userProfiles userId).map SqlRow.profile).toList.head?.bind
        SqlRow.toProfile))
    cases tables.userProfiles userId <;> exact .refl _
  | saveProfile body =>
    simp only [Call.plan]
    cases hbody : saveProfileSchema (some body) with
    | error issue => exact fun db newId => by simp only [Database.handle, hbody]
    | ok data =>
      refine ⟨rfl, fun tables moment => ?_⟩
      simp only [Database.handle, hbody]
      exact writeProfile_does tables userId data moment
  | getAccounts => exact ⟨rfl, fun tables moment => getAccounts_does tables userId moment⟩
  | getAccount id =>
    simp only [Call.plan]
    split
    · rename_i hid
      refine ⟨rfl, fun tables moment => ?_⟩
      simp only [Database.handle, if_pos hid]
      exact getAccount_does tables id userId moment
    · rename_i hid
      exact fun db newId => by simp only [Database.handle, if_neg hid]
  | createAccount body =>
    simp only [Call.plan]
    cases hbody : createAccountSchema (some body) with
    | error issue => exact fun db newId => by simp only [Database.handle, hbody]
    | ok data => exact fun db newId => by simp only [Database.handle, hbody]
  | updateAccount id body =>
    simp only [Call.plan]
    split
    · rename_i hid
      cases hbody : updateAccountSchema (some body) with
      | error issue => exact fun db newId => by simp only [Database.handle, hid, hbody, if_true]
      | ok updates =>
        refine ⟨rfl, fun tables moment => ?_⟩
        simp only [Database.handle, hid, hbody, if_true]
        exact updateAccount_does tables id userId updates moment
    · rename_i hid
      exact fun db newId => by simp only [Database.handle, if_neg hid]
  | deleteAccount id =>
    simp only [Call.plan]
    split
    · rename_i hid
      refine ⟨rfl, fun tables moment => ?_⟩
      simp only [Database.handle, if_pos hid]
      exact deleteAccount_does tables id userId moment
    · rename_i hid
      exact fun db newId => by simp only [Database.handle, if_neg hid]

/-! ## Where a request stands -/

section Stage

variable {ι : Type} (faults : Prop) (hashtext : String → ℤ) (client : ι)
  (locks : ℤ → Option ι) (tables : Tables K) (userId : String)

def createdPending (userId : String) (began : Moment) (row : Account K) (tables : Tables K) :
    Tables K :=
  tables.setAccounts userId ((began.now, row) :: tables.accounts userId)

def CreateAccountData.row (data : CreateAccountData K) (newId : String) : Account K :=
  createdRow data data.stocks data.bonds newId

/-- A request between two of its commands: what it does next, its connection, and what it
was answered with if it has taken effect or never will. -/
inductive Stage : RoutePlan K → Query K (Response K) → Connection (Tables K) Moment →
    Option (Response K) → Prop
  | waiting (plan : RoutePlan K) : Stage plan (plan.program hashtext userId) .idle none
  | answered {plan : RoutePlan K} {connection : Connection (Tables K) Moment}
      {response answer : Response K}
      (h : answer.Like response ∨ faults ∧ response = .failed 500) :
      Stage plan (.done (.ok response)) connection (some answer)
  | begun {data : CreateAccountData K} {began : Moment} :
      Stage (.create data) (settingTimeout hashtext userId data) (.active began id) none
  | limited {data : CreateAccountData K} {began : Moment} :
      Stage (.create data) (locking hashtext userId data) (.active began id) none
  | locked {data : CreateAccountData K} {began : Moment}
      (hlock : locks (hashtext (accountsLock userId)) = some client) :
      Stage (.create data) (counting userId data) (.active began id) none
  | counted {data : CreateAccountData K} {began : Moment}
      (hlock : locks (hashtext (accountsLock userId)) = some client)
      (hroom : (tables.accounts userId).length < maxPlanAccounts) :
      Stage (.create data) (inserting userId data) (.active began id) none
  | inserted {data : CreateAccountData K} {began : Moment} {newId : String}
      (hlock : locks (hashtext (accountsLock userId)) = some client)
      (hroom : (tables.accounts userId).length < maxPlanAccounts)
      (hchecks : accountChecks (data.row newId) = true) :
      Stage (.create data) (committing (some (.account (data.row newId))))
        (.active began (createdPending userId began (data.row newId))) none
  | aborting {data : CreateAccountData K} {error : DatabaseError}
      {connection : Connection (Tables K) Moment} (h : faults ∨ connection ≠ .closed) :
      Stage (.create data) (rollingBack error) connection
        (some (.failed (createStatus error)))

variable {faults hashtext client locks tables userId}

/-- What other clients do leaves a request where it stands. -/
theorem Stage.frame {locks' : ℤ → Option ι} {tables' : Tables K} {plan : RoutePlan K}
    {program : Query K (Response K)} {connection : Connection (Tables K) Moment}
    {answer : Option (Response K)}
    (h : Stage faults hashtext client locks tables userId plan program connection answer)
    (hlocks : ∀ key, locks key = some client → locks' key = some client)
    (hroom : locks (hashtext (accountsLock userId)) = some client →
      (tables'.accounts userId).length ≤ (tables.accounts userId).length) :
    Stage faults hashtext client locks' tables' userId plan program connection answer := by
  cases h with
  | waiting => exact .waiting plan
  | answered h => exact .answered h
  | begun => exact .begun
  | limited => exact .limited
  | locked hlock => exact .locked (hlocks _ hlock)
  | counted hlock hlt => exact .counted (hlocks _ hlock) ((hroom hlock).trans_lt hlt)
  | inserted hlock hlt hchecks =>
    exact .inserted (hlocks _ hlock) ((hroom hlock).trans_lt hlt) hchecks
  | aborting h => exact .aborting h

theorem createAccount_eq (db : Database K) (data : CreateAccountData K) (userId newId : String) :
    db.createAccount data userId newId =
      if maxPlanAccounts ≤ (db.accounts userId).length then (db, .failed 409)
      else if accountChecks (data.row newId) then
        (db.setAccounts userId (data.row newId :: db.accounts userId),
          .account (accountJson (data.row newId)))
      else (db, .failed 500) := rfl

omit [Field K] [LinearOrder K] [FloorRing K] in
theorem length_database (tables : Tables K) (owner : String) :
    (tables.database.accounts owner).length = (tables.accounts owner).length :=
  List.length_map ..

theorem create_handle {data : CreateAccountData K} {call : Call K}
    (hagrees : (RoutePlan.create data).Agrees userId call) (moment : Moment) :
    DataRequest.handle ⟨userId, call⟩ moment tables.database =
      if maxPlanAccounts ≤ (tables.accounts userId).length then (tables.database, .failed 409)
      else if accountChecks (data.row moment.newId) then
        (tables.database.setAccounts userId
            (data.row moment.newId :: tables.database.accounts userId),
          .account (accountJson (data.row moment.newId)))
      else (tables.database, .failed 500) := by
  rw [DataRequest.handle, hagrees, createAccount_eq, length_database]

/-- A command that runs. -/
theorem Stage.execute {plan : RoutePlan K} {connection : Connection (Tables K) Moment}
    {answer : Option (Response K)} {command : Command (SqlStatement K) ℤ}
    {next : Except DatabaseError (List (SqlRow K)) → Query K (Response K)}
    {program : Query K (Response K)}
    (h : Stage faults hashtext client locks tables userId plan program connection answer)
    (hprogram : program = .query command next) {call : Call K}
    (hagrees : plan.Agrees userId call) (moment : Moment) {locks' : ℤ → Option ι}
    (hlocks : ∀ key, locks key = some client ∨ command = .lock key →
      (connection.perform postgres moment tables command).2.1.isActive = true →
      locks' key = some client) :
    ∃ answer', Stage faults hashtext client locks'
        (connection.perform postgres moment tables command).2.2 userId plan
        (next (connection.perform postgres moment tables command).1)
        (connection.perform postgres moment tables command).2.1 answer' ∧
      Effect (DataRequest.handle ⟨userId, call⟩) Tables.database tables
        (connection.perform postgres moment tables command).2.2 answer answer' ∧
      ∀ owner, locks (hashtext (accountsLock owner)) ≠ some client →
        ((connection.perform postgres moment tables command).2.2.accounts owner).length ≤
          (tables.accounts owner).length := by
  cases h with
  | waiting =>
    cases plan with
    | refusal status => cases hprogram
    | statement asked answer status =>
      obtain ⟨rfl, rfl⟩ := Program.query.inj hprogram
      obtain ⟨hstatus, hdoes⟩ := hagrees
      have hdoes := hdoes tables moment
      simp only [Connection.perform, postgres]
      cases hrun : executeStatement moment moment asked tables with
      | none =>
        rw [hrun] at hdoes
        have hhandled : tables.database.handle userId moment.newId call =
          (tables.database, .failed 500) := hdoes
        refine ⟨some (.failed 500), .answered (.inl ?_), .inr ⟨rfl, moment, ?_, ?_⟩,
          fun _ _ => le_refl _⟩
        · rw [hstatus]
          exact .refl _
        · rw [DataRequest.handle, hhandled]
        · rw [DataRequest.handle, hhandled]
      | some run =>
        rw [hrun] at hdoes
        obtain ⟨hdatabase, hanswer, hlength⟩ := hdoes
        exact ⟨_, .answered (.inl hanswer), .inr ⟨rfl, moment, hdatabase, rfl⟩,
          fun owner _ => hlength owner⟩
    | create data =>
      obtain ⟨rfl, rfl⟩ := Program.query.inj hprogram
      exact ⟨none, .begun, .inl ⟨rfl, rfl⟩, fun _ _ => le_refl _⟩
  | answered h => cases hprogram
  | begun =>
    obtain ⟨rfl, rfl⟩ := Program.query.inj hprogram
    exact ⟨none, .limited, .inl ⟨rfl, rfl⟩, fun _ _ => le_refl _⟩
  | limited =>
    obtain ⟨rfl, rfl⟩ := Program.query.inj hprogram
    exact ⟨none, .locked (hlocks _ (.inr rfl) rfl), .inl ⟨rfl, rfl⟩, fun _ _ => le_refl _⟩
  | locked hlock =>
    obtain ⟨rfl, rfl⟩ := Program.query.inj hprogram
    by_cases hroom : maxPlanAccounts ≤ (tables.accounts userId).length
    · refine ⟨some (.failed 409), ?_, .inr ⟨rfl, moment, ?_, ?_⟩, fun _ _ => le_refl _⟩
      · change Stage _ _ _ _ _ _ _ (if maxPlanAccounts ≤ (tables.accounts userId).length then
          rollingBack .accountLimit else _) _ _
        rw [if_pos hroom]
        exact .aborting (.inr (by intro hclosed; cases hclosed))
      · rw [create_handle hagrees, if_pos hroom]
        rfl
      · rw [create_handle hagrees, if_pos hroom]
    · refine ⟨none, ?_, .inl ⟨rfl, rfl⟩, fun _ _ => le_refl _⟩
      change Stage _ _ _ _ _ _ _ (if maxPlanAccounts ≤ (tables.accounts userId).length then
        rollingBack .accountLimit else _) _ _
      rw [if_neg hroom]
      exact .counted (hlocks _ (.inl hlock) rfl) (not_le.mp hroom)
  | counted hlock hroom =>
    obtain ⟨rfl, rfl⟩ := Program.query.inj hprogram
    rename_i data began
    by_cases hchecks : accountChecks (data.row moment.newId) = true
    · have hrun : executeStatement began moment
          (.insertAccount data data.stocks data.bonds userId) tables =
          some ([.account (data.row moment.newId)],
            createdPending userId began (data.row moment.newId)) := if_pos hchecks
      simp only [Connection.perform, postgres, id_eq, hrun] at hlocks ⊢
      exact ⟨none, .inserted (hlocks _ (.inl hlock) rfl) hroom hchecks, .inl ⟨rfl, rfl⟩,
        fun _ _ => le_refl _⟩
    · have hrun : executeStatement began moment
          (.insertAccount data data.stocks data.bonds userId) tables = none := if_neg hchecks
      simp only [Connection.perform, postgres, id_eq, hrun]
      refine ⟨some (.failed 500), .aborting (.inr (by intro hclosed; cases hclosed)),
        .inr ⟨rfl, moment, ?_, ?_⟩, fun _ _ => le_refl _⟩
      · rw [create_handle hagrees, if_neg (not_le.mpr hroom), if_neg hchecks]
      · rw [create_handle hagrees, if_neg (not_le.mpr hroom), if_neg hchecks]
  | inserted hlock hroom hchecks =>
    obtain ⟨rfl, rfl⟩ := Program.query.inj hprogram
    rename_i data began newId
    refine ⟨some (.account (accountJson (data.row newId))), .answered (.inl (.refl _)),
      .inr ⟨rfl, ⟨0, newId⟩, ?_, ?_⟩, fun owner howner => ?_⟩
    · rw [create_handle hagrees, if_neg (not_le.mpr hroom), if_pos hchecks]
      exact database_setAccounts ..
    · rw [create_handle hagrees, if_neg (not_le.mpr hroom), if_pos hchecks]
    · have hne : owner ≠ userId := by
        rintro rfl
        exact howner hlock
      change ((Function.update tables.accounts userId _) owner).length ≤ _
      rw [Function.update_of_ne hne]
  | aborting h =>
    obtain ⟨rfl, rfl⟩ := Program.query.inj hprogram
    cases connection with
    | closed =>
      exact ⟨_, .answered (.inr ⟨h.resolve_right fun hopen => hopen rfl, rfl⟩), .inl ⟨rfl, rfl⟩,
        fun _ _ => le_refl _⟩
    | _ => exact ⟨_, .answered (.inl (.refl _)), .inl ⟨rfl, rfl⟩, fun _ _ => le_refl _⟩

/-- A command that fails: the request is answered with an error, unless it has been. -/
theorem Stage.fail {plan : RoutePlan K} {connection : Connection (Tables K) Moment}
    {answer : Option (Response K)} {command : Command (SqlStatement K) ℤ}
    {next : Except DatabaseError (List (SqlRow K)) → Query K (Response K)}
    {program : Query K (Response K)}
    (h : Stage faults hashtext client locks tables userId plan program connection answer)
    (hprogram : program = .query command next) {call : Call K}
    (hagrees : plan.Agrees userId call) (hfaults : faults) (locks' : ℤ → Option ι)
    (tables' : Tables K) (connection' : Connection (Tables K) Moment) :
    Stage faults hashtext client locks' tables' userId plan (next (.error .other)) connection'
      (some (answer.getD (.failed 500))) := by
  cases h with
  | waiting =>
    cases plan with
    | refusal status => cases hprogram
    | statement asked answer status =>
      obtain ⟨rfl, rfl⟩ := Program.query.inj hprogram
      refine .answered (.inl ?_)
      rw [hagrees.1]
      exact .refl _
    | create data =>
      obtain ⟨rfl, rfl⟩ := Program.query.inj hprogram
      exact .answered (.inl (.refl _))
  | answered h => cases hprogram
  | aborting h =>
    obtain ⟨rfl, rfl⟩ := Program.query.inj hprogram
    exact .answered (.inr ⟨hfaults, rfl⟩)
  | begun | limited | locked | counted | inserted =>
    obtain ⟨rfl, rfl⟩ := Program.query.inj hprogram
    exact .aborting (.inl hfaults)

theorem Stage.outcome {plan : RoutePlan K} {program : Query K (Response K)}
    {connection : Connection (Tables K) Moment} {answer : Option (Response K)}
    (h : Stage faults hashtext client locks tables userId plan program connection answer)
    {outcome : Except DatabaseError (Response K)} (houtcome : program.result = some outcome) :
    ∃ response, outcome = .ok response ∧
      ((∃ given, answer = some given ∧ (given.Like response ∨ faults ∧ response = .failed 500)) ∨
        ∃ status, plan = .refusal status ∧ response = .failed status) := by
  cases h with
  | waiting =>
    cases plan with
    | refusal status =>
      obtain rfl := Option.some.inj houtcome
      exact ⟨_, rfl, .inr ⟨status, rfl, rfl⟩⟩
    | statement | create => cases houtcome
  | answered h =>
    obtain rfl := Option.some.inj houtcome
    exact ⟨_, rfl, .inl ⟨_, rfl, h⟩⟩
  | _ => cases houtcome

theorem Stage.unstarted {plan : RoutePlan K} {program : Query K (Response K)}
    {connection : Connection (Tables K) Moment} {answer : Option (Response K)}
    (h : Stage faults hashtext client locks tables userId plan program connection answer)
    (hprogram : program = plan.program hashtext userId) (hresult : program.result = none) :
    answer = none := by
  cases h with
  | answered => cases hresult
  | aborting => cases hprogram
  | _ => rfl

end Stage

/-! ## Runs -/

section Runs

variable {ι : Type} [DecidableEq ι] (faults : Prop) (hashtext : String → ℤ)
  (requests : ι → DataRequest K)

abbrev Requests (ι K : Type) : Type :=
  State ι (Tables K) (SqlStatement K) ℤ (SqlRow K) DatabaseError Moment (Response K)

/-- The requests before any of them has started. -/
def Requests.start (tables : Tables K) : Requests ι K :=
  State.start tables fun client =>
    route hashtext (requests client).userId (requests client).call

/-- The requests one at a time. -/
abbrev Requests.Serially : Serial ι (Database K) (Response K) →
    Serial ι (Database K) (Response K) → Prop :=
  Serial.Next (fun client => (requests client).handle) (.failed 500) faults

def Requests.Stands (client : ι) (locks : ℤ → Option ι) (tables : Tables K) :
    Query K (Response K) → Connection (Tables K) Moment → Option (Response K) → Prop :=
  Stage faults hashtext client locks tables (requests client).userId
    ((requests client).call.plan (requests client).userId)

/-- The accounts of an owner grow under the owner's lock only. -/
def Requests.Guarantee (client : ι) (locks : ℤ → Option ι) (tables tables' : Tables K) : Prop :=
  ∀ owner, locks (hashtext (accountsLock owner)) ≠ some client →
    (tables'.accounts owner).length ≤ (tables.accounts owner).length

variable {faults hashtext requests}

omit [DecidableEq ι] in
theorem requests_proceed :
    Proceeds postgres faults Tables.database (fun client => (requests client).handle)
      (.failed 500) (Requests.Stands faults hashtext requests) (Requests.Guarantee hashtext) where
  unchanged _ _ _ _ _ := le_refl _
  frame h hother hlocks hguarantee := h.frame hlocks fun hkey => hguarantee _ fun hheld =>
    hother (Option.some.inj (hheld.symm.trans hkey))
  execute h now _ hlocks := Stage.execute h rfl (plan_agrees _ _) now hlocks
  fail h hfaults locks' tables' connection' :=
    Stage.fail h rfl (plan_agrees _ _) hfaults locks' tables' connection'

omit [DecidableEq ι] in
theorem simulates_start (tables : Tables K) :
    Simulates Tables.database (Requests.Stands faults hashtext requests)
      (Requests.start hashtext requests tables) ⟨tables.database, fun _ => none⟩ := by
  refine ⟨rfl, fun client => ?_⟩
  change Stage _ _ _ _ _ _ _ (route hashtext _ _) .idle none
  rw [route_eq]
  exact .waiting _

/-- The serial state stands where the requests do. -/
structure Represents (faults : Prop) (hashtext : String → ℤ) (requests : ι → DataRequest K)
    (state : Requests ι K) (serial : Serial ι (Database K) (Response K)) : Prop where
  database : state.committed.database = serial.database
  /-- A request is answered as its call is, or by a failure of the system, or without the
  database. -/
  answered : ∀ client outcome, (state.clients client).result = some outcome →
    ∃ response, outcome = .ok response ∧
      ((∃ answer, serial.answers client = some answer ∧
          (answer.Like response ∨ faults ∧ response = .failed 500)) ∨
        ∀ (db : Database K) newId,
          db.handle (requests client).userId newId (requests client).call = (db, response))
  /-- A request that has not started has no effect yet. -/
  unstarted : ∀ client, (state.clients client).result = none →
    state.clients client = route hashtext (requests client).userId (requests client).call →
    serial.answers client = none

omit [DecidableEq ι] in
theorem represents_of_simulates {state : Requests ι K} {serial : Serial ι (Database K) (Response K)}
    (h : Simulates Tables.database (Requests.Stands faults hashtext requests) state serial) :
    Represents faults hashtext requests state serial where
  database := h.1
  answered client outcome houtcome := by
    obtain ⟨response, rfl, hgiven | ⟨status, hplan, rfl⟩⟩ := (h.2 client).outcome houtcome
    · exact ⟨response, rfl, .inl hgiven⟩
    · have hagrees := plan_agrees (requests client).userId (requests client).call
      rw [hplan] at hagrees
      exact ⟨_, rfl, .inr hagrees⟩
  unstarted client hresult hroute := by
    rw [route_eq] at hroute
    exact (h.2 client).unstarted hroute hresult

/-- At any two points of a run the requests stand where they do at two points of a serial
run: a request takes effect after it starts and before it is answered. -/
theorem requests_serializable (faults : Prop) (hashtext : String → ℤ)
    (requests : ι → DataRequest K) (tables : Tables K) {state later : Requests ι K}
    (hrun : Runs.Reaches (State.Next postgres faults) (Requests.start hashtext requests tables)
      state)
    (hrest : Runs.Reaches (State.Next postgres faults) state later) :
    ∃ serial serial', Runs.Reaches (Requests.Serially faults requests)
        ⟨tables.database, fun _ => none⟩ serial ∧
      Runs.Reaches (Requests.Serially faults requests) serial serial' ∧
      Represents faults hashtext requests state serial ∧
      Represents faults hashtext requests later serial' := by
  obtain ⟨serial, hserial, h⟩ := requests_proceed.serializable (simulates_start tables) hrun
  obtain ⟨serial', hserial', h'⟩ := requests_proceed.serializable h hrest
  exact ⟨serial, serial', hserial, hserial', represents_of_simulates h, represents_of_simulates h'⟩

/-- Two accounts that one owner creates at once. -/
def racingCreates (_client : Bool) : DataRequest ℚ :=
  ⟨"owner", .createAccount (createAccountBody
    { name := "Savings", institution := "", accountType := .roth, balance := some 100,
      stocksPct := none, bondsPct := none })⟩

def lengthHash (text : String) : ℤ := text.length

/-- An owner with so many accounts. -/
def ownerTables (count : ℕ) : Tables ℚ where
  userProfiles _ := none
  accounts _ := List.replicate count (0,
    { id := "account", name := "Checking", institution := "", accountType := .roth,
      balance := 0, assetWeights := ⟨0, 1⟩ })

/-- Both begin; the first takes the lock, and is through before the second has it. -/
def racingFirst : List (Event Bool Moment) :=
  [true, false, true, false, true, true, true, true].map fun client =>
    .execute client ⟨0, "first"⟩

def racingSecond : List (Event Bool Moment) :=
  [false, false, false, false].map fun client => .execute client ⟨1, "second"⟩

theorem requests_serializable_racing :
    ∃ state ∈ Runs.run (State.step postgres) (fun _ event => event.faultless)
        (Requests.start lengthHash racingCreates (ownerTables 0)) racingFirst,
      ∃ later ∈ Runs.run (State.step postgres) (fun _ event => event.faultless) state
          racingSecond,
        (later.committed.accounts "owner").length = 2 ∧
        ∃ serial serial', Runs.Reaches (Requests.Serially False racingCreates)
            ⟨(ownerTables 0).database, fun _ => none⟩ serial ∧
          Runs.Reaches (Requests.Serially False racingCreates) serial serial' ∧
          Represents False lengthHash racingCreates state serial ∧
          Represents False lengthHash racingCreates later serial' := by
  have hruns : ∃ state ∈ Runs.run (State.step postgres) (fun _ event => event.faultless)
        (Requests.start lengthHash racingCreates (ownerTables 0)) racingFirst,
      ∃ later ∈ Runs.run (State.step postgres) (fun _ event => event.faultless) state
          racingSecond, (later.committed.accounts "owner").length = 2 := by
    decide +kernel
  obtain ⟨state, hstate, later, hlater, hlength⟩ := hruns
  exact ⟨state, hstate, later, hlater, hlength,
    requests_serializable False lengthHash racingCreates (ownerTables 0)
      (State.reaches_of_faultless hstate) (State.reaches_of_faultless hlater)⟩

/-! ## The limit of an owner -/

theorem length_createAccount (db : Database K) (data : CreateAccountData K)
    (userId newId owner : String) :
    ((db.createAccount data userId newId).1.accounts owner).length ≤
      max (db.accounts owner).length maxPlanAccounts := by
  rw [createAccount_eq]
  split
  · exact le_max_left ..
  · rename_i hroom
    split
    · by_cases howner : owner = userId
      · subst howner
        simp only [Database.setAccounts, Function.update_self, List.length_cons]
        omega
      · simp only [Database.setAccounts, Function.update_of_ne howner]
        exact le_max_left ..
    · exact le_max_left ..

omit [Field K] [LinearOrder K] [FloorRing K] in
theorem length_database_setAccounts (db : Database K) {userId : String}
    {accounts : List (Account K)} (h : accounts.length ≤ (db.accounts userId).length)
    (owner : String) :
    ((db.setAccounts userId accounts).accounts owner).length ≤ (db.accounts owner).length := by
  by_cases howner : owner = userId
  · subst howner
    simpa [Database.setAccounts] using h
  · simp [Database.setAccounts, Function.update_of_ne howner]

theorem length_handle (db : Database K) (userId newId owner : String) (call : Call K) :
    ((db.handle userId newId call).1.accounts owner).length ≤
      max (db.accounts owner).length maxPlanAccounts := by
  cases call with
  | getProfile | getAccounts | getAccount => exact le_max_left ..
  | saveProfile body =>
    simp only [Database.handle]
    split
    · exact le_max_left ..
    · split
      · exact le_max_left ..
      · rename_i hsave
        obtain ⟨row, rfl⟩ := saveUserProfile_writes hsave
        exact le_max_left ..
  | createAccount body =>
    simp only [Database.handle]
    split
    · exact le_max_left ..
    · exact length_createAccount ..
  | updateAccount id body =>
    simp only [Database.handle, Database.updateAccount]
    split
    · split
      · exact le_max_left ..
      · split
        · exact le_max_left ..
        · split
          · exact le_max_left ..
          · split
            · exact (length_database_setAccounts db (by rw [List.length_map]) owner).trans
                (le_max_left ..)
            · exact le_max_left ..
    · exact le_max_left ..
  | deleteAccount id =>
    simp only [Database.handle, Database.deleteAccount]
    split
    · split
      · exact (length_database_setAccounts db (List.length_filter_le ..) owner).trans
          (le_max_left ..)
      · exact le_max_left ..
    · exact le_max_left ..

theorem length_serially {serial serial' : Serial ι (Database K) (Response K)}
    (h : Requests.Serially faults requests serial serial') (owner : String) :
    (serial'.database.accounts owner).length ≤
      max (serial.database.accounts owner).length maxPlanAccounts := by
  obtain ⟨event, -, hstep⟩ := h
  unfold Serial.step at hstep
  split at hstep
  · cases hstep
  · cases event with
    | execute client moment | lose client moment =>
      obtain rfl := Option.some.inj hstep
      exact length_handle ..
    | refuse client | disconnect client =>
      obtain rfl := Option.some.inj hstep
      exact le_max_left ..

/-- However creates race, none takes its owner past the limit. -/
theorem accounts_within_limit (faults : Prop) (hashtext : String → ℤ)
    (requests : ι → DataRequest K) (tables : Tables K) {state : Requests ι K}
    (hrun : Runs.Reaches (State.Next postgres faults)
      (Requests.start hashtext requests tables) state) (owner : String) :
    (state.committed.accounts owner).length ≤
      max (tables.accounts owner).length maxPlanAccounts := by
  obtain ⟨serial, -, hserial, -, hstands, -⟩ :=
    requests_serializable faults hashtext requests tables hrun .refl
  rw [← length_database, hstands.database, ← length_database tables]
  refine Runs.invariant (fun serial : Serial ι (Database K) (Response K) =>
    (serial.database.accounts owner).length ≤
      max (tables.database.accounts owner).length maxPlanAccounts) (fun hnext h => ?_)
    (le_max_left ..) hserial
  exact (length_serially hnext owner).trans (max_le h (le_max_right ..))

theorem accounts_within_limit_racing :
    ∃ state ∈ Runs.run (State.step postgres) (fun _ event => event.faultless)
        (Requests.start lengthHash racingCreates (ownerTables 19))
        (racingFirst ++ racingSecond.take 3),
      (state.clients false).result.isSome = true ∧
        (state.committed.accounts "owner").length ≤ maxPlanAccounts := by
  have hrun : ∃ state ∈ Runs.run (State.step postgres) (fun _ event => event.faultless)
        (Requests.start lengthHash racingCreates (ownerTables 19))
        (racingFirst ++ racingSecond.take 3),
      (state.clients false).result.isSome = true := by
    decide +kernel
  obtain ⟨state, hstate, hanswered⟩ := hrun
  exact ⟨state, hstate, hanswered, accounts_within_limit False lengthHash racingCreates
    (ownerTables 19) (State.reaches_of_faultless hstate) "owner"⟩

/-! ## Every request is answered -/

section Ends

omit [LinearOrder K] [FloorRing K]

omit [Field K] in
theorem rollingBack_ends (phase : Phase) (error : DatabaseError) (n : ℕ) :
    (rollingBack error : Query K (Response K)).Ends phase (n + 1) :=
  Program.ends_query trivial fun answer => by cases answer <;> exact Program.ends_done _ _

omit [Field K] in
theorem committing_ends (phase : Phase) (row : Option (SqlRow K)) :
    (committing row).Ends phase 2 := by
  refine Program.ends_query trivial fun answer => ?_
  cases answer with
  | error error => exact rollingBack_ends _ _ 0
  | ok rows =>
    change Program.Ends _ _ (match row.bind SqlRow.toAccount with
      | none => _
      | some account => _)
    cases row.bind SqlRow.toAccount <;> exact Program.ends_done _ _

theorem inserting_ends (userId : String) (data : CreateAccountData K) :
    (inserting userId data).Ends .holding 3 := by
  refine Program.ends_query trivial fun answer => ?_
  cases answer with
  | error error => exact rollingBack_ends _ _ 1
  | ok rows => exact committing_ends _ _

theorem counting_ends (userId : String) (data : CreateAccountData K) :
    (counting userId data).Ends .holding 4 := by
  refine Program.ends_query trivial fun answer => ?_
  cases answer with
  | error error => exact rollingBack_ends _ _ 2
  | ok rows =>
    change Program.Ends _ _ (ite _ _ _)
    split
    · exact rollingBack_ends _ _ 2
    · exact inserting_ends userId data

theorem beginning_ends (hashtext : String → ℤ) (userId : String) (data : CreateAccountData K) :
    (beginning hashtext userId data).Ends .outside 7 := by
  refine Program.ends_query rfl fun answer => ?_
  cases answer with
  | error error => exact Program.ends_done _ _
  | ok rows =>
    refine Program.ends_query trivial fun answer => ?_
    cases answer with
    | error error => exact rollingBack_ends _ _ 4
    | ok rows =>
      refine Program.ends_query rfl fun answer => ?_
      cases answer with
      | error error => exact rollingBack_ends _ _ 3
      | ok rows => exact counting_ends userId data

end Ends

theorem route_ends (hashtext : String → ℤ) (userId : String) (call : Call K) :
    (route hashtext userId call).Ends .outside 7 := by
  rw [route_eq]
  cases call.plan userId with
  | refusal status => exact Program.ends_done _ _
  | statement asked answer status =>
    refine Program.ends_query trivial fun answer => ?_
    cases answer <;> exact Program.ends_done _ _
  | create data => exact beginning_ends hashtext userId data

/-- Requests take seven commands each at most, and no wait for a lock is circular: a request
without its answer can go on, or waits for a lock whose holder can. -/
theorem requests_progress [Fintype ι] (hashtext : String → ℤ) (requests : ι → DataRequest K)
    (tables : Tables K) {state : Requests ι K} {events : List (Event ι Moment)}
    (hrun : Runs.run (State.step postgres) (fun _ _ => true)
      (Requests.start hashtext requests tables) events = some state) :
    events.length ≤ 7 * Fintype.card ι ∧
      ∀ client, (state.clients client).result = none → ∀ moment,
        (state.step postgres (.execute client moment)).isSome = true ∨
          ∃ key next holder, state.clients client = .query (.lock key) next ∧
            state.locks key = some holder ∧
            (state.step postgres (.execute holder moment)).isSome = true := by
  refine ⟨?_, fun client hclient moment => ?_⟩
  · refine (State.run_length (fun _ => 7) (fun client => ?_) hrun).trans ?_
    · exact (route_ends ..).2
    · simp [mul_comm]
  · have horderly : State.Orderly state := by
      refine Runs.invariant _ ?_ (State.orderly_start fun client => ?_)
        (Runs.reachable_of_run hrun)
      · rintro s t ⟨event, -, hstep⟩ h
        exact h.step hstep
      · exact (route_ends ..).1
    exact horderly.progress hclient moment

/-- The second create waits for the first. -/
theorem requests_progress_racing :
    ∃ state ∈ Runs.run (State.step postgres) (fun _ _ => true)
        (Requests.start lengthHash racingCreates (ownerTables 0))
        (racingFirst.take 5 : List (Event Bool Moment)),
      (state.step postgres (.execute false ⟨1, "second"⟩)).isNone = true ∧
        ∃ key next holder, state.clients false = .query (.lock key) next ∧
          state.locks key = some holder ∧
          (state.step postgres (.execute holder ⟨1, "second"⟩)).isSome = true := by
  have hrun : ∃ state ∈ Runs.run (State.step postgres) (fun _ _ => true)
        (Requests.start lengthHash racingCreates (ownerTables 0)) (racingFirst.take 5),
      (state.clients false).result.isNone = true ∧
        (state.step postgres (.execute false ⟨1, "second"⟩)).isNone = true := by
    decide +kernel
  obtain ⟨state, hstate, hresult, hwaits⟩ := hrun
  refine ⟨state, hstate, hwaits, ?_⟩
  obtain ⟨-, hprogress⟩ := requests_progress lengthHash racingCreates (ownerTables 0) hstate
  exact (hprogress false (Option.isNone_iff_eq_none.mp hresult) ⟨1, "second"⟩).resolve_left
    (by simp [Option.isNone_iff_eq_none.mp hwaits])

end Runs

end RetirementPlanner.Web
