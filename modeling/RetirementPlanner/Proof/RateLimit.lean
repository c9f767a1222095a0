import Mathlib.Tactic
import RetirementPlanner.Lib.SlidingWindow
import RetirementPlanner.Web.RateLimit

/-!
# When the rate limiter enforces its limits

What a limiter admits to an identifier is within its limit in every span of its window as
long as every request that still counts for its maker is found where the maker's next request
looks for it (`Held`). Steps that see to that, and a first request within the limit, keep it
(`step_held`): `rateLimiter_enforces`.
-/

namespace RetirementPlanner.Web

open KeyedStore SlidingWindow

variable {K : Type} [Field K] [LinearOrder K] (limits : String → RateLimit K)

/-! ## What is admitted and what is kept -/

/-- What was admitted to an identifier: times and costs. -/
def admittedTo (identifier : String) (admitted : List (Admission K)) : List (K × K) :=
  (admitted.filter fun e => e.identifier = identifier).map fun e => (e.time, e.cost)

/-- A request still counts for the identifier that made it. -/
def Admission.Live (now : K) (e : Admission K) : Prop :=
  now - (limits e.identifier).windowMs < e.time

instance (now : K) (e : Admission K) : Decidable (e.Live limits now) :=
  inferInstanceAs (Decidable (_ < _))

/-- The limiter does what it is for. -/
structure Enforced (run : LimiterRun K) : Prop where
  within : ∀ identifier, Limited (limits identifier).windowMs (limits identifier).limit
    (admittedTo identifier run.admitted)
  bounded : size run.store ≤ RateLimiter.maxStoreEntries

def LimiterEvent.Positive : LimiterEvent K → Prop
  | .check _ _ cost => 0 < cost
  | .cleanup _ => True

/-- A first request is within the limit; the requests that still count for their makers are not
dropped with the oldest key, nor pruned by a caller with a shorter window, nor cleaned up; none of
the caller's own is kept under another key; and the key that is dropped is not empty. -/
def Careful (run : LimiterRun K) : LimiterEvent K → Prop
  | .check now identifier cost =>
    (run.store.lookup (run.store.storeKeyFor identifier) = none →
      cost ≤ (limits identifier).limit ∧ ∀ key, run.store.dropped = some key →
        key ≠ "" ∧ ∀ e ∈ run.admitted, e.Live limits now → e.storeKey ≠ key) ∧
    ∀ e ∈ run.admitted, e.Live limits now →
      (e.identifier = identifier → e.storeKey = run.store.storeKeyFor identifier) ∧
      (e.storeKey = run.store.storeKeyFor identifier →
        now - (limits identifier).windowMs < e.time)
  | .cleanup now => ∀ e ∈ run.admitted, e.Live limits now →
      ∀ record, run.store.lookup e.storeKey = some record → now ≤ record.resetTime

def kept (store : RateLimiter K) (key : String) : List (K × K) :=
  ((store.lookup key).elim [] (·.requests)).map fun r => (r.time, r.cost)

/-- What was admitted under a key and still counts. -/
def liveUnder (now : K) (key : String) (admitted : List (Admission K)) : List (K × K) :=
  (admitted.filter fun e => e.storeKey = key ∧ e.Live limits now).map fun e => (e.time, e.cost)

/-- Every request that still counts for its maker is kept under its key. -/
structure Held (run : LimiterRun K) : Prop where
  enforced : Enforced limits run
  live : ∀ key, (liveUnder limits run.clock key run.admitted).Sublist (kept run.store key)
  kept_nonneg : ∀ key, ∀ r ∈ kept run.store key, 0 ≤ r.2
  admitted_nonneg : ∀ e ∈ run.admitted, 0 ≤ e.cost

section Lists

variable {limits}

omit [Field K] [LinearOrder K] in
theorem admittedTo_append (identifier : String) (admitted : List (Admission K)) (e : Admission K) :
    admittedTo identifier (admitted ++ [e]) = admittedTo identifier admitted
      ++ if e.identifier = identifier then [(e.time, e.cost)] else [] := by
  rw [admittedTo, List.filter_append, List.map_append]
  congr 1
  split
  · rename_i h
    rw [List.filter_cons_of_pos (by simpa using h)]
    rfl
  · rename_i h
    rw [List.filter_cons_of_neg (by simpa using h)]
    rfl

theorem liveUnder_append (now : K) (key : String) (admitted : List (Admission K))
    (e : Admission K) :
    (liveUnder limits now key (admitted ++ [e])).Sublist
      (liveUnder limits now key admitted ++ [(e.time, e.cost)]) := by
  rw [liveUnder, List.filter_append, List.map_append]
  exact (List.Sublist.refl _).append (List.filter_sublist.map _)

theorem liveUnder_append_ne {now : K} {key : String} {admitted : List (Admission K)}
    {e : Admission K} (h : e.storeKey ≠ key) :
    liveUnder limits now key (admitted ++ [e]) = liveUnder limits now key admitted := by
  rw [liveUnder, List.filter_append, List.filter_cons_of_neg (by simp [h]), List.filter_nil,
    List.append_nil]
  rfl

theorem liveUnder_eq_nil {now : K} {key : String} {admitted : List (Admission K)}
    (h : ∀ e ∈ admitted, e.Live limits now → e.storeKey ≠ key) :
    liveUnder limits now key admitted = [] := by
  rw [liveUnder, List.map_eq_nil_iff, List.filter_eq_nil_iff]
  intro e he hlive
  simp only [Bool.decide_and, Bool.and_eq_true, decide_eq_true_eq] at hlive
  exact h e he hlive.2 hlive.1

/-- Later no more of it counts. -/
theorem liveUnder_later {clock now : K} (h : clock ≤ now) (key : String)
    (admitted : List (Admission K)) [IsStrictOrderedRing K] :
    (liveUnder limits now key admitted).Sublist (liveUnder limits clock key admitted) := by
  refine (List.monotone_filter_right admitted fun e he => ?_).map _
  simp only [Bool.decide_and, Bool.and_eq_true, decide_eq_true_eq] at he ⊢
  exact ⟨he.1, (sub_le_sub_right h _).trans_lt he.2⟩

/-- The caller's own requests that count are among those under its key. -/
theorem recent_sublist {now : K} {identifier key : String} {admitted : List (Admission K)}
    (h : ∀ e ∈ admitted, e.Live limits now → e.identifier = identifier → e.storeKey = key) :
    (recent (limits identifier).windowMs now (admittedTo identifier admitted)).Sublist
      (liveUnder limits now key admitted) := by
  induction admitted with
  | nil => exact .slnil
  | cons e admitted ih =>
    have hrest := ih fun e' he' => h e' (List.mem_cons_of_mem _ he')
    simp only [recent, admittedTo, liveUnder, List.filter_cons, decide_eq_true_eq] at hrest ⊢
    by_cases hown : e.identifier = identifier
    · rw [if_pos hown, List.map_cons, List.filter_cons]
      by_cases hlive : now - (limits identifier).windowMs < e.time
      · have hlive' : e.Live limits now := by
          rw [Admission.Live, hown]
          exact hlive
        rw [if_pos (by simpa using hlive), if_pos ⟨h e List.mem_cons_self hlive' hown, hlive'⟩]
        exact hrest.cons_cons _
      · rw [if_neg (by simpa using hlive)]
        split
        · exact hrest.cons _
        · exact hrest
    · rw [if_neg hown]
      split
      · exact hrest.cons _
      · exact hrest

end Lists

/-! ## What a request does to the store -/

section Store

variable {limits}

omit [Field K] [LinearOrder K] in
theorem kept_insert (store : RateLimiter K) (key : String) (record : RateLimitStore K)
    (key' : String) :
    kept (store.insert key record) key'
      = if key' = key then record.requests.map fun r => (r.time, r.cost) else kept store key' := by
  rw [kept]
  split
  · rename_i hkey
    rw [hkey, AList.lookup_insert]
    rfl
  · rename_i hkey
    rw [AList.lookup_insert_ne hkey]
    rfl

omit [Field K] [LinearOrder K] in
theorem kept_replace {store : RateLimiter K} {key : String} {old : RateLimitStore K}
    (h : store.lookup key = some old) (record : RateLimitStore K) (key' : String) :
    kept (store.replace key record) key'
      = if key' = key then record.requests.map fun r => (r.time, r.cost) else kept store key' := by
  rw [kept, lookup_replace, h]
  split
  · rfl
  · rfl

omit [Field K] [LinearOrder K] in
theorem kept_of_none {store : RateLimiter K} {key : String} (h : store.lookup key = none) :
    kept store key = [] := by
  rw [kept, h]
  rfl

omit [Field K] [LinearOrder K] in
/-- Making room drops the record of one key at most. -/
theorem lookup_makeRoom (store : RateLimiter K) (key : String) :
    store.makeRoom.lookup key = store.lookup key ∨
      store.dropped = some key ∧ store.makeRoom.lookup key = none := by
  rw [RateLimiter.makeRoom]
  cases hdropped : store.dropped with
  | none => exact .inl rfl
  | some oldestKey =>
    dsimp only
    split
    · by_cases hkey : key = oldestKey
      · subst hkey
        exact .inr ⟨rfl, AList.lookup_erase _ _⟩
      · exact .inl (AList.lookup_erase_ne hkey)
    · exact .inl rfl

omit [Field K] [LinearOrder K] in
theorem size_makeRoom_lt {store : RateLimiter K} (h : size store ≤ RateLimiter.maxStoreEntries)
    (hkey : ∀ key, store.dropped = some key → key ≠ "") :
    size store.makeRoom < RateLimiter.maxStoreEntries := by
  rw [RateLimiter.makeRoom]
  by_cases hfull : RateLimiter.maxStoreEntries ≤ size store
  · have hpos : 0 < size store := lt_of_lt_of_le (by decide) hfull
    cases holdest : oldest store with
    | none =>
      rw [oldest, List.getLast?_eq_none_iff] at holdest
      rw [size, holdest] at hpos
      cases hpos
    | some oldestKey =>
      have hdropped : store.dropped = some oldestKey := by
        rw [RateLimiter.dropped, if_pos hfull, holdest]
      rw [hdropped]
      dsimp only
      rw [if_pos (hkey oldestKey hdropped), size_erase (mem_of_oldest holdest)]
      omega
  · have hdropped : store.dropped = none := if_neg hfull
    rw [hdropped]
    exact not_le.mp hfull

/-- What is left under a key once the requests outside the window are filtered out. -/
theorem map_filter_eq_recent {store : RateLimiter K} {key : String} {record : RateLimitStore K}
    (h : store.lookup key = some record) (windowMs now : K) :
    ((record.requests.filter fun r => now - windowMs < r.time).map fun r => (r.time, r.cost))
      = recent windowMs now (kept store key) := by
  rw [kept, h, recent, List.filter_map]
  rfl

theorem check_none {store : RateLimiter K} {identifier : String}
    (h : store.lookup (store.storeKeyFor identifier) = none) (now limit windowMs cost : K) :
    (store.check now identifier limit windowMs cost).1.success = true ∧
      (store.check now identifier limit windowMs cost).2
        = store.makeRoom.insert (store.storeKeyFor identifier)
            ⟨[⟨now, cost⟩], now + windowMs⟩ := by
  rw [RateLimiter.check, h]
  exact ⟨rfl, rfl⟩

/-- A record found admits a request that fits, and is left without what is outside the window. -/
theorem check_some {store : RateLimiter K} {identifier : String} {record : RateLimitStore K}
    (h : store.lookup (store.storeKeyFor identifier) = some record)
    (now limit windowMs cost : K) :
    ((store.check now identifier limit windowMs cost).1.success = true ↔
      total (recent windowMs now (kept store (store.storeKeyFor identifier))) + cost ≤ limit) ∧
    size (store.check now identifier limit windowMs cost).2 = size store ∧
    ∀ key, kept (store.check now identifier limit windowMs cost).2 key
      = if key = store.storeKeyFor identifier then
          recent windowMs now (kept store (store.storeKeyFor identifier))
            ++ (if (store.check now identifier limit windowMs cost).1.success then [(now, cost)]
              else [])
        else kept store key := by
  have hrecent := map_filter_eq_recent h windowMs now
  have hused : total (recent windowMs now (kept store (store.storeKeyFor identifier)))
      = ((record.requests.filter fun r => now - windowMs < r.time).map (·.cost)).sum := by
    rw [← hrecent, total, List.map_map]
    rfl
  rw [RateLimiter.check, h, hused, ← hrecent]
  dsimp only
  split
  · rename_i hover
    refine ⟨⟨fun hsuccess => (Bool.noConfusion hsuccess), fun hfits => ?_⟩,
      size_replace _ _ _, fun key => ?_⟩
    · exact absurd hfits (not_le.mpr hover)
    · rw [kept_replace h]
      simp
  · rename_i hfits
    refine ⟨⟨fun _ => not_lt.mp hfits, fun _ => rfl⟩, size_replace _ _ _, fun key => ?_⟩
    rw [kept_replace h]
    simp

end Store

/-! ## Steps -/

section Steps

variable {limits}

theorem LimiterRun.step_check {run run' : LimiterRun K} {now cost : K} {identifier : String} :
    run.step limits (.check now identifier cost) = some run' ↔ run.clock ≤ now ∧
      run' = ⟨now, (run.store.check now identifier (limits identifier).limit
          (limits identifier).windowMs cost).2,
        if (run.store.check now identifier (limits identifier).limit
            (limits identifier).windowMs cost).1.success then
          run.admitted ++ [⟨identifier, run.store.storeKeyFor identifier, now, cost⟩]
        else run.admitted⟩ := by
  rw [LimiterRun.step, ite_eq_iff]
  simp only [Option.some.injEq, reduceCtorEq, and_false, or_false, eq_comm]

theorem LimiterRun.step_cleanup {run run' : LimiterRun K} {now : K} :
    run.step limits (.cleanup now) = some run'
      ↔ run.clock ≤ now ∧ run' = ⟨now, run.store.cleanup now, run.admitted⟩ := by
  rw [LimiterRun.step, ite_eq_iff]
  simp only [Option.some.injEq, reduceCtorEq, and_false, or_false, eq_comm]

variable [IsStrictOrderedRing K]

/-- A request that fits beside the identifier's own recent ones keeps every span within its
limit. -/
theorem within_append {admitted : List (Admission K)} {e : Admission K}
    (h : ∀ identifier, Limited (limits identifier).windowMs (limits identifier).limit
      (admittedTo identifier admitted))
    (hcosts : ∀ e ∈ admitted, 0 ≤ e.cost)
    (hfits : total (recent (limits e.identifier).windowMs e.time
      (admittedTo e.identifier admitted)) + e.cost ≤ (limits e.identifier).limit)
    (identifier : String) :
    Limited (limits identifier).windowMs (limits identifier).limit
      (admittedTo identifier (admitted ++ [e])) := by
  rw [admittedTo_append]
  split
  · rename_i hown
    subst hown
    refine (h e.identifier).append (fun s hs => ?_) hfits
    obtain ⟨e', he', rfl⟩ := List.mem_map.mp hs
    exact hcosts e' (List.mem_of_mem_filter he')
  · rw [List.append_nil]
    exact h identifier

theorem Held.later {run : LimiterRun K} (h : Held limits run) {now : K} (hclock : run.clock ≤ now) :
    Held limits { run with clock := now } where
  enforced := ⟨h.enforced.within, h.enforced.bounded⟩
  live := fun key => (liveUnder_later hclock key run.admitted).trans (h.live key)
  kept_nonneg := h.kept_nonneg
  admitted_nonneg := h.admitted_nonneg

omit [IsStrictOrderedRing K] in
/-- Room is made without dropping what still counts. -/
theorem Held.makeRoom {run : LimiterRun K} (h : Held limits run)
    (hdropped : ∀ key, run.store.dropped = some key →
      key ≠ "" ∧ ∀ e ∈ run.admitted, e.Live limits run.clock → e.storeKey ≠ key) :
    Held limits { run with store := run.store.makeRoom } := by
  have hsize := size_makeRoom_lt h.enforced.bounded fun key hkey => (hdropped key hkey).1
  refine ⟨⟨h.enforced.within, hsize.le⟩, fun key => ?_, fun key r hr => ?_, h.admitted_nonneg⟩
  · rcases lookup_makeRoom run.store key with hsame | ⟨hgone, -⟩
    · rw [kept, hsame]
      exact h.live key
    · rw [liveUnder_eq_nil (hdropped key hgone).2]
      exact List.nil_sublist _
  · rcases lookup_makeRoom run.store key with hsame | ⟨-, hgone⟩
    · rw [kept, hsame] at hr
      exact h.kept_nonneg key r hr
    · rw [kept_of_none hgone] at hr
      cases hr

/-- A first request finds none of its maker's requests anywhere. -/
theorem Held.first {run : LimiterRun K} (h : Held limits run) {key : String}
    (hnone : run.store.lookup key = none) (hroom : size run.store < RateLimiter.maxStoreEntries)
    {identifier : String} {cost : K} (hcost : 0 < cost) (hlimit : cost ≤ (limits identifier).limit)
    (hown : ∀ e ∈ run.admitted, e.Live limits run.clock → e.identifier = identifier →
      e.storeKey = key) (resetTime : K) :
    Held limits ⟨run.clock, run.store.insert key ⟨[⟨run.clock, cost⟩], resetTime⟩,
      run.admitted ++ [⟨identifier, key, run.clock, cost⟩]⟩ := by
  have hnothing : liveUnder limits run.clock key run.admitted = [] := by
    have hlive := h.live key
    rw [kept_of_none hnone] at hlive
    exact List.sublist_nil.mp hlive
  have hrecent : recent (limits identifier).windowMs run.clock
      (admittedTo identifier run.admitted) = [] := by
    have hsub := recent_sublist hown
    rw [hnothing] at hsub
    exact List.sublist_nil.mp hsub
  refine ⟨⟨within_append h.enforced.within h.admitted_nonneg ?_, ?_⟩, fun key' => ?_,
    fun key' r hr => ?_, ?_⟩
  · rw [hrecent]
    simpa [total] using hlimit
  · rw [size_insert hnone]
    exact hroom
  · rw [kept_insert]
    split
    · rename_i hkey
      subst hkey
      refine (liveUnder_append _ _ _ _).trans ?_
      rw [hnothing]
      exact .refl _
    · rename_i hkey
      rw [liveUnder_append_ne (Ne.symm hkey)]
      exact h.live key'
  · rw [kept_insert] at hr
    split at hr
    · rw [List.map_singleton, List.mem_singleton] at hr
      rw [hr]
      exact hcost.le
    · exact h.kept_nonneg key' r hr
  · rw [List.forall_mem_append, List.forall_mem_singleton]
    exact ⟨h.admitted_nonneg, hcost.le⟩

/-- A request is counted with what its record keeps, which holds all that counts for its maker. -/
theorem Held.found {run : LimiterRun K} (h : Held limits run) {identifier : String} {cost : K}
    (hcost : 0 < cost) {record : RateLimitStore K}
    (hrecord : run.store.lookup (run.store.storeKeyFor identifier) = some record)
    (hothers : ∀ e ∈ run.admitted, e.Live limits run.clock →
      (e.identifier = identifier → e.storeKey = run.store.storeKeyFor identifier) ∧
      (e.storeKey = run.store.storeKeyFor identifier →
        run.clock - (limits identifier).windowMs < e.time)) :
    Held limits ⟨run.clock, (run.store.check run.clock identifier (limits identifier).limit
        (limits identifier).windowMs cost).2,
      if (run.store.check run.clock identifier (limits identifier).limit
          (limits identifier).windowMs cost).1.success then
        run.admitted ++ [⟨identifier, run.store.storeKeyFor identifier, run.clock, cost⟩]
      else run.admitted⟩ := by
  obtain ⟨hsuccess, hsize, hkept⟩ := check_some hrecord run.clock (limits identifier).limit
    (limits identifier).windowMs cost
  generalize run.store.check run.clock identifier (limits identifier).limit
    (limits identifier).windowMs cost = answer at hsuccess hsize hkept
  generalize run.store.storeKeyFor identifier = key at hsuccess hkept hothers hrecord
  -- Filtering by the caller's window leaves what counts for anyone.
  have hlive : (liveUnder limits run.clock key run.admitted).Sublist
      (recent (limits identifier).windowMs run.clock (kept run.store key)) := by
    have hfilter := (h.live key).filter fun s =>
      decide (run.clock - (limits identifier).windowMs < s.1)
    rwa [List.filter_eq_self.mpr] at hfilter
    intro s hs
    obtain ⟨e, he, rfl⟩ := List.mem_map.mp hs
    obtain ⟨he, hlive⟩ := List.mem_filter.mp he
    simp only [Bool.decide_and, Bool.and_eq_true, decide_eq_true_eq] at hlive
    exact decide_eq_true ((hothers e he hlive.2).2 hlive.1)
  have hown := (recent_sublist fun e he hlive => (hothers e he hlive).1).trans hlive
  have hrecent : ∀ s ∈ recent (limits identifier).windowMs run.clock (kept run.store key),
      0 ≤ s.2 := fun s hs => h.kept_nonneg key s (List.mem_of_mem_filter hs)
  by_cases hadmitted : answer.1.success = true
  · simp only [if_pos hadmitted] at hkept ⊢
    refine ⟨⟨within_append h.enforced.within h.admitted_nonneg ?_, ?_⟩, fun key' => ?_,
      fun key' r hr => ?_, ?_⟩
    · exact (add_le_add_left (total_le_of_sublist hown hrecent) cost).trans (hsuccess.mp hadmitted)
    · rw [hsize]
      exact h.enforced.bounded
    · rw [hkept]
      split
      · rename_i hkey
        subst hkey
        exact (liveUnder_append _ _ _ _).trans (hlive.append (.refl _))
      · rename_i hkey
        rw [liveUnder_append_ne (Ne.symm hkey)]
        exact h.live key'
    · rw [hkept] at hr
      split at hr
      · rcases List.mem_append.mp hr with hr | hr
        · exact hrecent r hr
        · rw [List.mem_singleton.mp hr]
          exact hcost.le
      · exact h.kept_nonneg key' r hr
    · rw [List.forall_mem_append, List.forall_mem_singleton]
      exact ⟨h.admitted_nonneg, hcost.le⟩
  · simp only [if_neg hadmitted, List.append_nil] at hkept ⊢
    refine ⟨⟨h.enforced.within, hsize.trans_le h.enforced.bounded⟩, fun key' => ?_,
      fun key' r hr => ?_, h.admitted_nonneg⟩
    · rw [hkept]
      split
      · rename_i hkey
        subst hkey
        exact hlive
      · exact h.live key'
    · rw [hkept] at hr
      split at hr
      · exact hrecent r hr
      · exact h.kept_nonneg key' r hr

omit [IsStrictOrderedRing K] in
/-- A pass that cleans up no record with a request that still counts. -/
theorem Held.cleanup {run : LimiterRun K} (h : Held limits run)
    (hcareful : Careful limits run (.cleanup run.clock)) :
    Held limits { run with store := run.store.cleanup run.clock } := by
  have hkept : ∀ key, kept (run.store.cleanup run.clock) key = kept run.store key ∨
      kept (run.store.cleanup run.clock) key = [] ∧
        ∃ record, run.store.lookup key = some record ∧ record.resetTime < run.clock := by
    intro key
    rw [kept, RateLimiter.cleanup, lookup_deleteWhere]
    cases hrecord : run.store.lookup key with
    | none => exact .inl (by rw [kept, hrecord]; rfl)
    | some record =>
      rw [Option.filter_some]
      by_cases hover : record.resetTime < run.clock
      · rw [decide_eq_true hover]
        exact .inr ⟨rfl, record, rfl, hover⟩
      · rw [decide_eq_false hover]
        exact .inl (by rw [kept, hrecord]; rfl)
  refine ⟨⟨h.enforced.within, (size_deleteWhere_le _ _).trans h.enforced.bounded⟩, fun key => ?_,
    fun key r hr => ?_, h.admitted_nonneg⟩
  · rcases hkept key with hsame | ⟨-, record, hrecord, hover⟩
    · rw [hsame]
      exact h.live key
    · rw [liveUnder_eq_nil]
      · exact List.nil_sublist _
      · rintro e he hlive rfl
        exact absurd hover (not_lt.mpr (hcareful e he hlive record hrecord))
  · rcases hkept key with hsame | ⟨hgone, -⟩
    · rw [hsame] at hr
      exact h.kept_nonneg key r hr
    · rw [hgone] at hr
      cases hr

/-- A careful step keeps what counts where its maker looks for it. -/
theorem step_held {run run' : LimiterRun K} {event : LimiterEvent K} (h : Held limits run)
    (hpositive : event.Positive) (hcareful : Careful limits run event)
    (hstep : run.step limits event = some run') : Held limits run' := by
  cases event with
  | check now identifier cost =>
    obtain ⟨hclock, rfl⟩ := LimiterRun.step_check.mp hstep
    have hlater := h.later hclock
    obtain ⟨hfirst, hothers⟩ := hcareful
    cases hrecord : run.store.lookup (run.store.storeKeyFor identifier) with
    | none =>
      obtain ⟨hlimit, hdropped⟩ := hfirst hrecord
      obtain ⟨hsuccess, hstore⟩ := check_none hrecord now (limits identifier).limit
        (limits identifier).windowMs cost
      have hroom : run.store.makeRoom.lookup (run.store.storeKeyFor identifier) = none := by
        rcases lookup_makeRoom run.store (run.store.storeKeyFor identifier) with hsame | ⟨-, hgone⟩
        · rw [hsame, hrecord]
        · exact hgone
      rw [hstore, if_pos hsuccess]
      exact (hlater.makeRoom hdropped).first hroom
        (size_makeRoom_lt h.enforced.bounded fun key hkey => (hdropped key hkey).1) hpositive hlimit
        (fun e he hlive => (hothers e he hlive).1) _
    | some record => exact hlater.found hpositive hrecord hothers
  | cleanup now =>
    obtain ⟨hclock, rfl⟩ := LimiterRun.step_cleanup.mp hstep
    exact (h.later hclock).cleanup hcareful

/-- In every run whose steps are all careful, what an identifier was admitted is within its limit
in every span of its window, and the store never holds more than its maximum. -/
theorem rateLimiter_enforces {clock : K} {run : LimiterRun K}
    (hrun : Runs.Reaches (Runs.Next (LimiterRun.step limits)
      fun run event => event.Positive ∧ Careful limits run event) (.start clock) run) :
    Enforced limits run := by
  have hstart : Held limits (.start clock) :=
    ⟨⟨fun _ => limited_nil _ _, Nat.zero_le _⟩, fun _ => .slnil, fun _ _ hr => (nomatch hr),
      fun _ he => (nomatch he)⟩
  have hheld : Held limits run := by
    refine Runs.invariant (Held limits) (fun hnext h => ?_) hstart hrun
    obtain ⟨event, ⟨hpositive, hcareful⟩, hstep⟩ := hnext
    exact step_held h hpositive hcareful hstep
  exact hheld.enforced

end Steps

/-- Two requests of one identifier, within its limit together. -/
theorem rateLimiter_enforces_two_requests : ∃ run : LimiterRun ℚ,
    run.admitted = [⟨"a", "a", 0, 3⟩, ⟨"a", "a", 1, 2⟩] ∧
      Enforced (fun _ => ⟨5, 60000⟩) run := by
  have hrun : Runs.Reaches (Runs.Next (LimiterRun.step fun _ => (⟨5, 60000⟩ : RateLimit ℚ))
      fun run event => event.Positive ∧ Careful (fun _ => ⟨5, 60000⟩) run event) (.start 0) _ :=
    (Relation.ReflTransGen.refl.tail
      ⟨.check 0 "a" 3, ⟨three_pos, fun _ => ⟨by norm_num, by decide +kernel⟩,
        fun _ he => (nomatch he)⟩, LimiterRun.step_check.mpr ⟨le_rfl, rfl⟩⟩).tail
      ⟨.check 1 "a" 2, ⟨two_pos, by decide +kernel, by decide +kernel⟩,
        LimiterRun.step_check.mpr ⟨zero_le_one, rfl⟩⟩
  exact ⟨_, by decide +kernel, rateLimiter_enforces hrun⟩

/-- A first request that costs twice the limit. -/
theorem not_enforced_first_request : ¬ ∀ run : LimiterRun ℚ,
    Runs.Reaches (Runs.Next (LimiterRun.step fun _ => (⟨5, 60000⟩ : RateLimit ℚ))
      fun _ event => event.Positive) (.start 0) run → Enforced (fun _ => ⟨5, 60000⟩) run := by
  intro henforced
  have hrun : Runs.Reaches (Runs.Next (LimiterRun.step fun _ => (⟨5, 60000⟩ : RateLimit ℚ))
      fun _ event => event.Positive) (.start 0) _ :=
    .single ⟨.check 0 "a" 10, by norm_num [LimiterEvent.Positive],
      LimiterRun.step_check.mpr ⟨le_rfl, rfl⟩⟩
  have hwithin := (henforced _ hrun).within "a" (-1)
  revert hwithin
  decide +kernel

end RetirementPlanner.Web
