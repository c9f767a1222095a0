import RetirementPlanner.Web.World

/-!
# What a step of a world can do

Each step that concerns a request on its way, read back from its outcome: which request it
was, what the step asked of it, and the world after it. What a step preserves is proved from
these, for every invariant of a world.
-/

namespace RetirementPlanner.Web.World

variable {ι K Result Sensitivities : Type} [Field K] [LinearOrder K] [FloorRing K]
  {world next : World ι K Result Sensitivities} {index : ℕ}

/-! ## Saves -/

theorem executeSave_some (h : world.executeSave index = some next) :
    ∃ save, world.saves[index]? = some save ∧ save.answer = none ∧
      next = { world with
        database := (world.database.handle save.ownerId "" (.saveProfile save.body)).1
        saves := world.saves.set index { save with
          answer := some (world.database.handle save.ownerId "" (.saveProfile save.body)).2 }
        history := world.observeSave save.client save.ownerId save.body ++ world.history } := by
  obtain ⟨save, hsave, h⟩ := Option.bind_eq_some_iff.mp h
  split at h
  · cases h
  · rename_i hanswer
    exact ⟨save, hsave, Option.not_isSome_iff_eq_none.mp hanswer, (Option.some.inj h).symm⟩

theorem deliverSave_some [DecidableEq ι] (h : world.deliverSave index = some next) :
    ∃ save response, world.saves[index]? = some save ∧ save.answer = some response ∧
      save.waiting = true ∧
      next = { world with saves := world.saves.eraseIdx index }.deliver save.client
        (.saved save.generation save.ownerId response)
        (observeSaved save.client (world.sessions save.client) save.generation save.ownerId
          response) := by
  obtain ⟨save, hsave, h⟩ := Option.bind_eq_some_iff.mp h
  obtain ⟨response, hresponse, h⟩ := Option.bind_eq_some_iff.mp h
  split at h
  · rename_i hwaiting
    exact ⟨save, response, hsave, hresponse, hwaiting, (Option.some.inj h).symm⟩
  · cases h

theorem loseSave_some [DecidableEq ι] (h : world.loseSave index = some next) :
    ∃ save, world.saves[index]? = some save ∧ save.waiting = true ∧
      next = { world with saves := world.saves.set index { save with waiting := false } }.deliver
        save.client (.saveFailed save.generation save.ownerId) [] := by
  obtain ⟨save, hsave, h⟩ := Option.bind_eq_some_iff.mp h
  split at h
  · rename_i hwaiting
    exact ⟨save, hsave, hwaiting, (Option.some.inj h).symm⟩
  · cases h

/-! ## Bootstraps -/

theorem readProfile_some (h : world.readProfile index = some next) :
    ∃ load, world.loads[index]? = some load ∧
      next = { world with
        loads := world.loads.set index
          { load with dbProfile := some (world.database.userProfiles load.ownerId) } } := by
  obtain ⟨load, hload, h⟩ := Option.bind_eq_some_iff.mp h
  split at h
  · cases h
  · exact ⟨load, hload, (Option.some.inj h).symm⟩

theorem readAccounts_some (h : world.readAccounts index = some next) :
    ∃ load, world.loads[index]? = some load ∧
      next = { world with
        loads := world.loads.set index
          { load with
            items := some ((world.database.accounts load.ownerId).map accountJson) } } := by
  obtain ⟨load, hload, h⟩ := Option.bind_eq_some_iff.mp h
  split at h
  · cases h
  · exact ⟨load, hload, (Option.some.inj h).symm⟩

theorem deliverLoad_some [DecidableEq ι] (h : world.deliverLoad index = some next) :
    ∃ load dbProfile items, world.loads[index]? = some load ∧ load.dbProfile = some dbProfile ∧
      load.items = some items ∧
      next = world.endLoad index load (.loaded load.generation load.ownerId dbProfile items) := by
  obtain ⟨load, hload, h⟩ := Option.bind_eq_some_iff.mp h
  obtain ⟨dbProfile, hprofile, h⟩ := Option.bind_eq_some_iff.mp h
  obtain ⟨items, hitems, h⟩ := Option.bind_eq_some_iff.mp h
  exact ⟨load, dbProfile, items, hload, hprofile, hitems, (Option.some.inj h).symm⟩

theorem loseLoad_some [DecidableEq ι] (h : world.loseLoad index = some next) :
    ∃ load, world.loads[index]? = some load ∧
      next = world.endLoad index load (.loadFailed load.generation load.ownerId) := by
  obtain ⟨load, hload, h⟩ := Option.bind_eq_some_iff.mp h
  exact ⟨load, hload, (Option.some.inj h).symm⟩

/-! ## Accounts -/

theorem executeWrite_some {newId : String} (h : world.executeWrite index newId = some next) :
    ∃ write, world.accountWrites[index]? = some write ∧
      next = { world with
        database := (world.database.handle write.ownerId newId write.call).1
        writesExecuted := world.writesExecuted + 1
        accountWrites := world.accountWrites.set index { write with
          answer := some (world.database.handle write.ownerId newId write.call).2 } } := by
  obtain ⟨write, hwrite, h⟩ := Option.bind_eq_some_iff.mp h
  split at h
  · cases h
  · exact ⟨write, hwrite, (Option.some.inj h).symm⟩

theorem deliverWrite_some [DecidableEq ι] (h : world.deliverWrite index = some next) :
    ∃ write response, world.accountWrites[index]? = some write ∧ write.answer = some response ∧
      next = { world with accountWrites := world.accountWrites.eraseIdx index }.deliver
        write.client (.accountWritten write.ownerId write.call response) [] := by
  obtain ⟨write, hwrite, h⟩ := Option.bind_eq_some_iff.mp h
  obtain ⟨response, hresponse, h⟩ := Option.bind_eq_some_iff.mp h
  split at h
  · exact ⟨write, response, hwrite, hresponse, (Option.some.inj h).symm⟩
  · cases h

theorem loseWrite_some [DecidableEq ι] (h : world.loseWrite index = some next) :
    ∃ write, world.accountWrites[index]? = some write ∧
      next = { world with
          accountWrites := world.accountWrites.set index { write with waiting := false } }.deliver
        write.client (.accountFailed write.ownerId write.call.failure) [] := by
  obtain ⟨write, hwrite, h⟩ := Option.bind_eq_some_iff.mp h
  split at h
  · exact ⟨write, hwrite, (Option.some.inj h).symm⟩
  · cases h

theorem readList_some (h : world.readList index = some next) :
    ∃ list, world.accountLists[index]? = some list ∧
      next = { world with
        accountLists := world.accountLists.set index { list with
          items := some ((world.database.accounts list.ownerId).map accountJson)
          readAt := world.writesExecuted } } := by
  obtain ⟨list, hlist, h⟩ := Option.bind_eq_some_iff.mp h
  split at h
  · cases h
  · exact ⟨list, hlist, (Option.some.inj h).symm⟩

theorem deliverList_some [DecidableEq ι] (h : world.deliverList index = some next) :
    ∃ list items, world.accountLists[index]? = some list ∧ list.items = some items ∧
      next = { world with accountLists := world.accountLists.eraseIdx index }.deliver list.client
        (.accountsListed list.ownerId items) [] := by
  obtain ⟨list, hlist, h⟩ := Option.bind_eq_some_iff.mp h
  obtain ⟨items, hitems, h⟩ := Option.bind_eq_some_iff.mp h
  exact ⟨list, items, hlist, hitems, (Option.some.inj h).symm⟩

theorem loseList_some [DecidableEq ι] (h : world.loseList index = some next) :
    ∃ list, world.accountLists[index]? = some list ∧
      next = { world with accountLists := world.accountLists.eraseIdx index }.deliver list.client
        (.accountFailed list.ownerId (Call.getAccounts : Call K).failure) [] := by
  obtain ⟨list, hlist, h⟩ := Option.bind_eq_some_iff.mp h
  exact ⟨list, hlist, (Option.some.inj h).symm⟩

end RetirementPlanner.Web.World
