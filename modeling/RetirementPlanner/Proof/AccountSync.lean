import RetirementPlanner.Lib.InFlight
import RetirementPlanner.Lib.Runs
import RetirementPlanner.Proof.Codec
import RetirementPlanner.Proof.Link
import RetirementPlanner.Proof.World

/-!
# Accounts of one client and the server

An account operation writes, then reads the whole list back and puts it into the plan.
What the server reads is its list until the next write (`AccountInv.fresh`), but a list
read before that write may be delivered last. So the client and the server agree when
nothing is in flight, provided that the last list to arrive was read after the server's
last write (`accounts_converge`).
-/

namespace RetirementPlanner.Web

open Schema Runs InFlight

variable {ι K Result Sensitivities : Type} [DecidableEq ι] [Field K] [LinearOrder K]
  [FloorRing K]

/-! ## Runs of account operations -/

def Event.isAccountOperation : Event K Result Sensitivities → Bool
  | .createAccount _ _ | .updateAccount _ _ | .deleteAccount _ => true
  | _ => false

/-- An account write that its operation takes for done. -/
def Response.writeSucceeded : Response K → Bool
  | .account value => (accountSchema (some value)).isOk
  | .noContent => true
  | _ => false

/-- Nothing happens but account operations of one client, and all its requests succeed. -/
def accountsSucceed (client : ι) (world : World ι K Result Sensitivities) :
    Occurrence ι K Result Sensitivities → Bool
  | .act c event => decide (c = client) && event.isAccountOperation
  | .executeWrite _ _ | .readList _ => true
  | .deliverWrite index =>
    (world.accountWrites[index]?.bind (·.answer)).all (·.writeSucceeded)
  | .deliverList index =>
    (world.accountLists[index]?.bind (·.items)).all fun items =>
      (Session.parseCloudAccounts items).isOk
  | _ => false

/-- A list that arrives when nothing else is in flight was read after the last write. -/
def freshArrivesLast (world : World ι K Result Sensitivities) :
    Occurrence ι K Result Sensitivities → Bool
  | .deliverList index =>
    !(world.accountWrites.isEmpty && world.accountLists.length == 1)
      || world.accountLists[index]?.all fun list => list.readAt == world.writesExecuted
  | _ => true

namespace World

/-- No account request is in flight. -/
def AccountsIdle (world : World ι K Result Sensitivities) : Prop :=
  world.accountWrites = [] ∧ world.accountLists = []

/-- A client in cloud mode holds the server's accounts, and nothing is in flight. -/
structure AccountsSettled (client : ι) (ownerId : String)
    (world : World ι K Result Sensitivities) : Prop where
  owner : (world.sessions client).cloudOwner = some ownerId
  idle : world.AccountsIdle
  agree : (world.sessions client).state.plan.accounts = world.database.accounts ownerId

end World

/-! ## What the session does -/

/-- What decides where account operations go is kept. -/
structure SameAccounts (before after : Session K Result Sensitivities) : Prop where
  owner : after.cloudOwner = before.cloudOwner
  accounts : after.state.plan.accounts = before.state.plan.accounts

/-- An account operation in cloud mode sends at most its write. -/
theorem accountOperation_cloud {session : Session K Result Sensitivities} {ownerId : String}
    (howner : session.cloudOwner = some ownerId) {event : Event K Result Sensitivities}
    (hevent : event.isAccountOperation = true) :
    SameAccounts session (session.handle event).1 ∧
      ((session.handle event).2 = none ∨
        ∃ call, (session.handle event).2 = some (.writeAccount ownerId call)) := by
  cases event with
  | createAccount id data =>
    simp only [Session.handle, Session.createAccount, howner]
    split
    · exact ⟨⟨rfl, rfl⟩, .inl rfl⟩
    · exact ⟨⟨rfl, rfl⟩, .inr ⟨_, rfl⟩⟩
  | updateAccount id updates =>
    simp only [Session.handle, Session.updateAccount, howner]
    exact ⟨⟨rfl, rfl⟩, .inr ⟨_, rfl⟩⟩
  | deleteAccount id =>
    simp only [Session.handle, Session.deleteAccount, howner]
    exact ⟨⟨rfl, rfl⟩, .inr ⟨_, rfl⟩⟩
  | _ => cases hevent

/-- After a write that succeeded, the operation asks for the list. -/
theorem accountWritten_succeeded {session : Session K Result Sensitivities} {ownerId : String}
    (howner : session.state.authUser = some ownerId) (call : Call K) {response : Response K}
    (hresponse : response.writeSucceeded = true) :
    session.receive (.accountWritten ownerId call response)
      = (session, some (.listAccounts ownerId)) := by
  have hsent : session.accountWritten ownerId = some (.listAccounts ownerId) := if_pos howner
  cases response with
  | account value =>
    cases hvalue : accountSchema (some value) with
    | error issue => simp [Response.writeSucceeded, hvalue, Except.isOk, Except.toBool] at hresponse
    | ok account => simp only [Session.receive, hvalue, hsent]
  | noContent => simp only [Session.receive, hsent]
  | profile | accounts | revision | failed => cases hresponse

/-- A list that the server read is put into the plan as it was. -/
theorem accountsListed_parsed {session : Session K Result Sensitivities} {ownerId : String}
    (howner : session.cloudOwner = some ownerId) {items : List (Json K)}
    (hitems : (Session.parseCloudAccounts items).isOk = true) :
    let next := session.receive (.accountsListed ownerId items)
    next.2 = none ∧ next.1.cloudOwner = session.cloudOwner ∧
      ∀ accounts : List (Account K), items = accounts.map accountJson →
        next.1.state.plan.accounts = accounts := by
  cases hparse : Session.parseCloudAccounts items with
  | error issue => simp [hparse, Except.isOk, Except.toBool] at hitems
  | ok parsed =>
    simp only [Session.receive, hparse, Session.accountsListed, if_pos (cloudOwner_eq howner)]
    refine ⟨trivial, rfl, ?_⟩
    rintro accounts rfl
    exact accountSchema_faithful.array hparse

/-! ## The invariant -/

/-- What account operations of a client are about: its requests on their way, the
server's count of writes, the accounts it holds and those stored. -/
structure AccountView (ι K : Type) where
  writes : List (AccountWrite ι K)
  lists : List (AccountList ι K)
  executed : ℕ
  held : List (Account K)
  stored : List (Account K)

def World.accountView (world : World ι K Result Sensitivities) (client : ι) (ownerId : String) :
    AccountView ι K :=
  ⟨world.accountWrites, world.accountLists, world.writesExecuted,
    (world.sessions client).state.plan.accounts, world.database.accounts ownerId⟩

structure AccountInv (client : ι) (ownerId : String) (view : AccountView ι K) : Prop where
  writes : ∀ write ∈ view.writes, write.client = client ∧ write.ownerId = ownerId
  lists : ∀ list ∈ view.lists, list.client = client ∧ list.ownerId = ownerId
  behind : ∀ list ∈ view.lists, list.readAt ≤ view.executed
  /-- What was read after the last write is the server's list. -/
  fresh : ∀ list ∈ view.lists, list.readAt = view.executed →
    ∀ items, list.items = some items → items = view.stored.map accountJson
  idle : view.writes = [] → view.lists = [] → view.held = view.stored

namespace AccountInv

variable {client : ι} {ownerId : String} {view : AccountView ι K}

omit [DecidableEq ι] [Field K] [LinearOrder K] [FloorRing K] in
/-- An operation sends its write. -/
theorem write (h : AccountInv client ownerId view) (call : Call K) :
    AccountInv client ownerId
      { view with writes := ⟨client, ownerId, call, true, none⟩ :: view.writes } := by
  refine ⟨?_, h.lists, h.behind, h.fresh, fun hnil => nomatch hnil⟩
  intro write hwrite
  obtain rfl | hwrite := List.mem_cons.mp hwrite
  · exact ⟨rfl, rfl⟩
  · exact h.writes write hwrite

omit [DecidableEq ι] [Field K] [LinearOrder K] [FloorRing K] in
/-- The server executes a write: every list read so far is behind it. -/
theorem execute {before after : List (AccountWrite ι K)} {write : AccountWrite ι K}
    (hwrites : view.writes = before ++ write :: after) (h : AccountInv client ownerId view)
    (answer : Option (Response K)) (stored : List (Account K)) :
    AccountInv client ownerId
      { view with
        writes := before ++ { write with answer } :: after
        executed := view.executed + 1
        stored } := by
  refine ⟨?_, h.lists, ?_, ?_, fun hnil => by simp at hnil⟩
  · intro other hother
    have hmem := h.writes
    rw [hwrites] at hmem
    obtain hother | hother := List.mem_append.mp hother
    · exact hmem other (List.mem_append_left _ hother)
    · obtain rfl | hother := List.mem_cons.mp hother
      · exact hmem write (by simp)
      · exact hmem other (by simp [hother])
  · intro list hlist
    exact (h.behind list hlist).trans (Nat.le_succ _)
  · intro list hlist hread
    have hle := h.behind list hlist
    simp only at hread
    omega

omit [DecidableEq ι] [Field K] [LinearOrder K] [FloorRing K] in
/-- A write is answered, and its operation asks for the list. -/
theorem written {before after : List (AccountWrite ι K)} {write : AccountWrite ι K}
    (hwrites : view.writes = before ++ write :: after) (h : AccountInv client ownerId view) :
    AccountInv client ownerId
      { view with
        writes := before ++ after
        lists := ⟨client, ownerId, none, 0⟩ :: view.lists } := by
  refine ⟨?_, ?_, ?_, ?_, fun _ hnil => nomatch hnil⟩
  · intro other hother
    refine h.writes other ?_
    rw [hwrites]
    obtain hother | hother := List.mem_append.mp hother <;> simp [hother]
  · intro list hlist
    obtain rfl | hlist := List.mem_cons.mp hlist
    · exact ⟨rfl, rfl⟩
    · exact h.lists list hlist
  · intro list hlist
    obtain rfl | hlist := List.mem_cons.mp hlist
    · exact Nat.zero_le _
    · exact h.behind list hlist
  · intro list hlist hread items hitems
    obtain rfl | hlist := List.mem_cons.mp hlist
    · cases hitems
    · exact h.fresh list hlist hread items hitems

omit [DecidableEq ι] [Field K] [LinearOrder K] [FloorRing K] in
/-- The server reads a list. -/
theorem read {before after : List (AccountList ι K)} {list : AccountList ι K}
    (hlists : view.lists = before ++ list :: after) (h : AccountInv client ownerId view) :
    AccountInv client ownerId
      { view with
        lists := before ++ { list with
          items := some (view.stored.map accountJson), readAt := view.executed } :: after } := by
  have hcases : ∀ other ∈ before ++ { list with
      items := some (view.stored.map accountJson), readAt := view.executed } :: after,
      other ∈ view.lists ∨ other = { list with
        items := some (view.stored.map accountJson), readAt := view.executed } := by
    intro other hother
    rw [hlists]
    exact mem_replaced list hother
  refine ⟨h.writes, ?_, ?_, ?_, fun _ hnil => by simp at hnil⟩
  · intro other hother
    obtain hother | rfl := hcases other hother
    · exact h.lists other hother
    · exact h.lists list (by simp [hlists])
  · intro other hother
    obtain hother | rfl := hcases other hother
    · exact h.behind other hother
    · exact le_refl _
  · intro other hother hread items hitems
    obtain hother | rfl := hcases other hother
    · exact h.fresh other hother hread items hitems
    · cases hitems
      rfl

omit [DecidableEq ι] [Field K] [LinearOrder K] [FloorRing K] in
/-- A list arrives; if nothing else is in flight, it was read after the last write. -/
theorem deliver {before after : List (AccountList ι K)} {list : AccountList ι K}
    {items : List (Json K)} (hlists : view.lists = before ++ list :: after)
    (hitems : list.items = some items) (h : AccountInv client ownerId view)
    (hlast : view.writes = [] → before ++ after = [] → list.readAt = view.executed)
    {held : List (Account K)}
    (hheld : ∀ accounts : List (Account K), items = accounts.map accountJson → held = accounts) :
    AccountInv client ownerId { view with lists := before ++ after, held } := by
  have hmem : ∀ other ∈ before ++ after, other ∈ view.lists := by
    intro other hother
    rw [hlists]
    obtain hother | hother := List.mem_append.mp hother <;> simp [hother]
  refine ⟨h.writes, fun other hother => h.lists other (hmem other hother),
    fun other hother => h.behind other (hmem other hother),
    fun other hother => h.fresh other (hmem other hother), fun hwrites hnil => ?_⟩
  have hlist : list ∈ view.lists := by simp [hlists]
  exact hheld view.stored (h.fresh list hlist (hlast hwrites hnil) items hitems)

end AccountInv

/-! ## Steps of the world -/

/-- The client stays in cloud mode, and the invariant holds. -/
structure AccountsHold (client : ι) (ownerId : String) (world : World ι K Result Sensitivities) :
    Prop where
  owner : (world.sessions client).cloudOwner = some ownerId
  inv : AccountInv client ownerId (world.accountView client ownerId)

variable {client : ι} {ownerId : String} {world next : World ι K Result Sensitivities}

theorem act_hold (h : AccountsHold client ownerId world) {event : Event K Result Sensitivities}
    (hevent : event.isAccountOperation = true) :
    AccountsHold client ownerId (world.put client ((world.sessions client).handle event)
      (World.observeEvent client (world.sessions client) event)) := by
  obtain ⟨hsame, hsent⟩ := accountOperation_cloud h.owner hevent
  refine ⟨by simpa [World.put] using hsame.owner.trans h.owner, ?_⟩
  obtain hsent | ⟨call, hsent⟩ := hsent
  · simpa [World.accountView, World.put, hsent, newAccountWrites, newAccountLists,
      hsame.accounts] using h.inv
  · simpa [World.accountView, World.put, hsent, newAccountWrites, newAccountLists,
      hsame.accounts] using h.inv.write call

omit [DecidableEq ι] in
theorem executeWrite_hold (h : AccountsHold client ownerId world) {index : ℕ} {newId : String}
    (hstep : world.executeWrite index newId = some next) : AccountsHold client ownerId next := by
  obtain ⟨write, hwrite, rfl⟩ := World.executeWrite_some hstep
  obtain ⟨before, after, hsplit, hset, -⟩ := split hwrite
  refine ⟨h.owner, ?_⟩
  simpa [World.accountView, hset] using h.inv.execute hsplit
    (some (world.database.handle write.ownerId newId write.call).2)
    ((world.database.handle write.ownerId newId write.call).1.accounts ownerId)

theorem deliverWrite_hold (h : AccountsHold client ownerId world) {index : ℕ}
    (hsucceeds : (world.accountWrites[index]?.bind (·.answer)).all (·.writeSucceeded) = true)
    (hstep : world.deliverWrite index = some next) : AccountsHold client ownerId next := by
  obtain ⟨write, response, hwrite, hresponse, rfl⟩ := World.deliverWrite_some hstep
  obtain ⟨before, after, hsplit, -, herase⟩ := split hwrite
  obtain ⟨hclient, howner⟩ := h.inv.writes write (by
    show write ∈ world.accountWrites
    rw [hsplit]
    simp)
  have hsucceeded : response.writeSucceeded = true := by
    simpa [hwrite, hresponse] using hsucceeds
  have hreceive := accountWritten_succeeded (cloudOwner_eq h.owner) write.call
    hsucceeded
  simp only [World.deliver, hclient, howner, hreceive]
  refine ⟨by simpa [World.put] using h.owner, ?_⟩
  simpa [World.accountView, World.put, newAccountWrites, newAccountLists, herase] using
    h.inv.written hsplit

omit [DecidableEq ι] in
theorem readList_hold (h : AccountsHold client ownerId world) {index : ℕ}
    (hstep : world.readList index = some next) : AccountsHold client ownerId next := by
  obtain ⟨list, hlist, rfl⟩ := World.readList_some hstep
  obtain ⟨before, after, hsplit, hset, -⟩ := split hlist
  obtain ⟨-, howner⟩ := h.inv.lists list (by
    show list ∈ world.accountLists
    rw [hsplit]
    simp)
  refine ⟨h.owner, ?_⟩
  simpa [World.accountView, hset, howner] using h.inv.read hsplit

theorem deliverList_hold (h : AccountsHold client ownerId world) {index : ℕ}
    (hsucceeds : (world.accountLists[index]?.bind (·.items)).all (fun items =>
      (Session.parseCloudAccounts items).isOk) = true)
    (hfresh : freshArrivesLast world (.deliverList index) = true)
    (hstep : world.deliverList index = some next) : AccountsHold client ownerId next := by
  obtain ⟨list, items, hlist, hitems, rfl⟩ := World.deliverList_some hstep
  obtain ⟨before, after, hsplit, -, herase⟩ := split hlist
  obtain ⟨hclient, howner⟩ := h.inv.lists list (by
    show list ∈ world.accountLists
    rw [hsplit]
    simp)
  have hparse : (Session.parseCloudAccounts items).isOk = true := by
    simpa [hlist, hitems] using hsucceeds
  obtain ⟨hsent, hcloud, hheld⟩ := accountsListed_parsed h.owner hparse
  have hlast : world.accountWrites = [] → before ++ after = [] →
      list.readAt = world.writesExecuted := by
    intro hwrites hnil
    obtain ⟨rfl, rfl⟩ := List.append_eq_nil_iff.mp hnil
    have hget : [list][index]? = some list := by simpa [hsplit] using hlist
    simpa [freshArrivesLast, hwrites, hsplit, hget] using hfresh
  simp only [World.deliver, hclient, howner]
  refine ⟨by simpa [World.put] using hcloud.trans h.owner, ?_⟩
  simpa [World.accountView, World.put, hsent, newAccountWrites, newAccountLists, herase] using
    h.inv.deliver hsplit hitems hlast hheld

theorem accountStep_hold (h : AccountsHold client ownerId world)
    {occurrence : Occurrence ι K Result Sensitivities}
    (hsucceeds : accountsSucceed client world occurrence = true)
    (hfresh : freshArrivesLast world occurrence = true)
    (hstep : world.step occurrence = some next) : AccountsHold client ownerId next := by
  cases occurrence with
  | act c event =>
    obtain ⟨hclient, hevent⟩ := (Bool.and_eq_true _ _).mp hsucceeds
    obtain rfl := of_decide_eq_true hclient
    cases hstep
    exact act_hold h hevent
  | executeWrite index newId => exact executeWrite_hold h hstep
  | deliverWrite index => exact deliverWrite_hold h hsucceeds hstep
  | readList index => exact readList_hold h hstep
  | deliverList index => exact deliverList_hold h hsucceeds hfresh hstep
  | _ => cases hsucceeds

/-! ## The main result -/

/-- The runs in which a client's account operations succeed and, whenever a list arrives
with nothing else in flight, the server read it after its last write. -/
def OrderedRuns (client : ι) : World ι K Result Sensitivities → World ι K Result Sensitivities →
    Prop :=
  Reaches (Next World.step fun world occurrence =>
    (accountsSucceed client world occurrence && freshArrivesLast world occurrence) = true)

/-- In such a run the client and the server hold the same accounts whenever nothing is in
flight. -/
theorem accounts_converge (hsettled : world.AccountsSettled client ownerId)
    (hrun : OrderedRuns client world next) (hidle : next.AccountsIdle) :
    (next.sessions client).state.plan.accounts = next.database.accounts ownerId := by
  have hstart : AccountsHold client ownerId world := by
    obtain ⟨hwrites, hlists⟩ := hsettled.idle
    refine ⟨hsettled.owner, ?_, ?_, ?_, ?_, fun _ _ => hsettled.agree⟩ <;>
      simp [World.accountView, hwrites, hlists]
  have hold : AccountsHold client ownerId next := by
    refine invariant (AccountsHold client ownerId) ?_ hstart hrun
    rintro s t ⟨occurrence, hmay, hstep⟩ h
    obtain ⟨hsucceeds, hfresh⟩ := (Bool.and_eq_true _ _).mp hmay
    exact accountStep_hold h hsucceeds hfresh hstep
  exact hold.inv.idle hidle.1 hidle.2

/-! ## Lists that overtake each other -/

def setBalance (balance : ℚ) : Occurrence Unit ℚ Unit Unit :=
  .act () (.updateAccount brokerage.id ⟨none, none, none, some balance, none⟩)

/-- Two updates at once, and the server executes the later one first. The list read between
the two writes arrives before the one read after both. -/
def overlapping : List (Occurrence Unit ℚ Unit Unit) :=
  [setBalance 200, setBalance 300, .executeWrite 0 "", .deliverWrite 0, .readList 0,
    .executeWrite 0 "", .deliverList 0, .deliverWrite 0, .readList 0, .deliverList 0]

/-- The list read between the two writes arrives last. -/
def overtaken : List (Occurrence Unit ℚ Unit Unit) :=
  [setBalance 200, setBalance 300, .executeWrite 1 "", .deliverWrite 1, .readList 0,
    .executeWrite 0 "", .deliverWrite 0, .readList 0, .deliverList 0, .deliverList 0]

instance (world : World ι K Result Sensitivities) : Decidable world.AccountsIdle :=
  inferInstanceAs (Decidable (_ ∧ _))

instance (world : World ι K Result Sensitivities) :
    Decidable (world.AccountsSettled client ownerId) :=
  decidable_of_iff ((world.sessions client).cloudOwner = some ownerId ∧ world.AccountsIdle ∧
      (world.sessions client).state.plan.accounts = world.database.accounts ownerId)
    ⟨fun ⟨howner, hidle, hagree⟩ => ⟨howner, hidle, hagree⟩,
      fun h => ⟨h.owner, h.idle, h.agree⟩⟩

/-- The browser holds what the server stores, which is the update the user made first. -/
theorem accounts_converge_overlapping :
    ∃ world ∈ run World.step (fun _ _ => true) newUserWorld signIn,
      ∃ next ∈ run World.step (fun world occurrence =>
          accountsSucceed () world occurrence && freshArrivesLast world occurrence) world
            overlapping,
        (next.database.accounts "user").map (·.balance) = [200] ∧
          (next.sessions ()).state.plan.accounts = next.database.accounts "user" := by
  have hrun : ∃ world ∈ run World.step (fun _ _ => true) newUserWorld signIn,
      world.AccountsSettled () "user" ∧ ∃ next ∈ run World.step (fun world occurrence =>
        accountsSucceed () world occurrence && freshArrivesLast world occurrence) world overlapping,
      next.AccountsIdle ∧ (next.database.accounts "user").map (·.balance) = [200] := by
    decide +kernel
  obtain ⟨world, hworld, hsettled, next, hnext, hidle, hstored⟩ := hrun
  exact ⟨world, hworld, next, hnext, hstored,
    accounts_converge hsettled (reaches_of_run hnext) hidle⟩

/-- After two updates at once, the browser may hold what the server no longer does. -/
theorem overtaken_diverges :
    ∃ world ∈ run World.step (fun _ _ => true) newUserWorld signIn,
      world.AccountsSettled () "user" ∧ ∃ next,
        Reaches (Next World.step fun world occurrence =>
          accountsSucceed () world occurrence = true) world next ∧
        next.AccountsIdle ∧
        (next.sessions ()).state.plan.accounts ≠ next.database.accounts "user" := by
  have hrun : ∃ world ∈ run World.step (fun _ _ => true) newUserWorld signIn,
      world.AccountsSettled () "user" ∧
        ∃ next ∈ run World.step (accountsSucceed ()) world overtaken, next.AccountsIdle ∧
          (next.sessions ()).state.plan.accounts ≠ next.database.accounts "user" := by
    decide +kernel
  obtain ⟨world, hworld, hsettled, next, hnext, hidle, hdiffer⟩ := hrun
  exact ⟨world, hworld, hsettled, next, reaches_of_run hnext, hidle, hdiffer⟩

end RetirementPlanner.Web
