import Mathlib.Algebra.Order.Floor.Ring
import RetirementPlanner.Lib.Handlers
import RetirementPlanner.Web.Quota
import RetirementPlanner.Web.SimulationRequest

/-!
# Cloud compute at the edge

`worker/simulation-routes.ts` and `worker/application-user.ts`: who may use the native service and
how much of it, and the sign-up behind it (`/api/auth/sync-user` of `data-routes.ts`). A handler
takes one step from each `await` to the next; the handlers share the two shards of the quota object,
the `users` table and the caches of the data centers.

Any call that a handler makes may fail, before or after it had its effect (`Outcome`). What
`verifyAuthToken` answers comes with the request, as does what `JSON.parse` makes of its body, and
of the response of the service only the status counts.
-/

namespace RetirementPlanner.Web.Edge

open Schema

variable {K : Type}

/-! ## Bodies -/

/-- What a handler may catch. -/
inductive Thrown
  /-- A `RangeError`. -/
  | tooLarge (message : String)
  /-- A `SyntaxError`. -/
  | malformed
  /-- A `RustServiceUnavailableError`. -/
  | unavailable
  /-- An `AbortError`, or an error that says "timeout". -/
  | timeout
  | other
  deriving DecidableEq, Repr

/-- A body as it is received: the length its header declares, the lengths of its chunks, and what
the text that they make is as JSON. -/
structure Body (α : Type) where
  declaredLength : Option ℕ
  chunks : List ℕ
  json : Option α

/-- The loop of `readLimitedJson`. -/
def readChunks (maxBytes : ℕ) : ℕ → List ℕ → Except Thrown Unit
  | _, [] => .ok ()
  | totalBytes, chunk :: chunks =>
    if maxBytes < totalBytes + chunk then .error (.tooLarge "Request body is too large")
    else readChunks maxBytes (totalBytes + chunk) chunks

/-- Parse JSON without allowing an unbounded request body into process memory. -/
def readLimitedJson {α : Type} (body : Body α) (maxBytes : ℕ) : Except Thrown α :=
  if body.declaredLength.any fun length => decide (maxBytes < length) then
    .error (.tooLarge "Request body is too large")
  else do
    readChunks maxBytes 0 body.chunks
    match body.json with
    | none => .error .malformed
    | some json => .ok json

/-! ## Responses -/

structure Response where
  status : ℕ
  error : Option String
  details : Option String
  retryAfter : Option ℤ
  deriving DecidableEq, Repr

def Response.failure (status : ℕ) (error : String) : Response := ⟨status, some error, none, none⟩

/-- `bodyError` of `data-routes.ts`. -/
def bodyError : Thrown → Option Response
  | .tooLarge message => some (.failure 413 message)
  | .malformed => some (.failure 400 "Request body must be valid JSON")
  | _ => none

/-- Map a proxy failure onto the status the smoke check reads to tell the modes apart. -/
def simulationProxyError (error : Thrown) (timeoutLabel : String) : Option Response :=
  match error with
  | .tooLarge message => some (.failure 413 message)
  | .malformed => some (.failure 400 "Request body must be valid JSON")
  | .unavailable =>
    some ⟨503, some "Service unavailable", some "Cannot connect to simulation service", none⟩
  | .timeout => some ⟨504, some timeoutLabel, some "Request took too long", none⟩
  | .other => none

/-- How a call that a handler awaits comes out. -/
inductive Outcome
  | done
  /-- It is rejected before it had its effect. -/
  | fails (error : Thrown) (aborted : Bool)
  /-- It had its effect, and is rejected all the same. -/
  | lost (error : Thrown) (aborted : Bool)
  /-- The service answers with a status. -/
  | replies (status : ℕ)

/-! ## Simulations -/

def simulationBodyLimit : ℕ := 256 * 1024

inductive Payload (K : Type)
  | monteCarlo (request : MonteCarloRequest K)
  | batch (request : BatchRequest K)

/-- What a payload is charged. -/
def Payload.paths : Payload K → ℤ
  | .monteCarlo request => request.config.paths
  | .batch request => (request.simulations.map (·.config.paths)).sum

/-- The two public endpoints. -/
inductive Endpoint (K : Type)
  | monteCarlo (body : Body (Json K))
  | batch (body : Body (BatchBody K))

def Endpoint.timeoutLabel : Endpoint K → String
  | .monteCarlo _ => "Simulation timeout"
  | .batch _ => "Batch simulation timeout"

def Endpoint.unavailableLabel : Endpoint K → String
  | .monteCarlo _ => "Simulation service unavailable"
  | .batch _ => "Batch simulation service unavailable"

/-- The `catch` of a handler. -/
def Endpoint.caught (endpoint : Endpoint K) (error : Thrown) (aborted : Bool) : Response :=
  if aborted then ⟨499, none, none, none⟩
  else
    (simulationProxyError error endpoint.timeoutLabel).getD
      ⟨500, some "Internal server error", some (match endpoint with
        | .monteCarlo _ => "Simulation failed"
        | .batch _ => "Batch simulation failed"), none⟩

/-- `proxyToRustService`: an answer of the service is streamed back untouched. -/
def Endpoint.proxied (endpoint : Endpoint K) (status : ℕ) : Response :=
  if 200 ≤ status ∧ status < 300 then ⟨status, none, none, none⟩
  else ⟨502, some endpoint.unavailableLabel, some s!"Rust service returned {status}", none⟩

structure SimulationCall (K : Type) where
  /-- The data center whose cache the request sees. -/
  place : String
  /-- Of the verified token. -/
  uid : Option String
  endpoint : Endpoint K

/-- Where the handler of a simulation stands. -/
inductive SimulationStage (K : Type)
  | arrived
  /-- Charged for the request, at a time. -/
  | counted (uid : String) (time : K)
  /-- The cache does not know the account. -/
  | uncached (uid : String) (time : K)
  /-- The account has a row, which the cache is yet to be told. -/
  | registered (uid : String)
  | admitted (uid : String)
  | parsed (uid : String) (payload : Payload K)
  /-- Charged for the paths, at a time. -/
  | charged (uid : String) (payload : Payload K) (time : K)
  | answered (response : Response)

/-! ## Signing up -/

def syncBodyLimit : ℕ := 16 * 1024

structure SyncCall (K : Type) where
  /-- What Cloudflare says of the caller, or "unknown". -/
  clientIp : String
  /-- The account of the verified token, and its email. -/
  user : Option (String × Option String)
  body : Option (Body (Json K))

inductive SyncStage
  | arrived
  | read (uid : String) (inviteCode : Option String)
  /-- The account has no row yet. -/
  | unknown (uid : String) (inviteCode : Option String)
  /-- The code was valid. -/
  | invited (uid : String)
  | answered (response : Response)

/-- A text under `inviteCode`. Nothing else is a code. -/
def inviteCodeOf : Json K → Option String
  | .obj fields =>
    match Fields.get fields "inviteCode" with
    | some (.str code) => some code
    | _ => none
  | _ => none

/-- The codes are compared by their digests. No codes configured closes signup entirely. -/
def verifyInviteCode {D : Type} [DecidableEq D] (digest : String → D) (inviteCodes : List String)
    (provided : Option String) : Bool :=
  match provided with
  | none => false
  | some provided =>
    provided ≠ "" && inviteCodes.foldl
      (fun matched code => decide (digest provided = digest code) || matched) false

/-! ## What the handlers share -/

section Shared

variable [Field K] [LinearOrder K]

def simulationBudget : Budget K := ⟨300, 60 * 1000⟩
def simulationPathBudget : Budget K := ⟨2000000, 60 * 1000⟩
/-- Brute-force budget per IP for signup attempts that need a code. -/
def inviteRateLimit : Budget K := ⟨10, 60 * 60 * 1000⟩

/-- Bounded revocation delay on a cached membership answer. -/
def membershipTtl : K := 60 * 1000

/-- Something sent to the native service. -/
structure Sent (K : Type) where
  call : SimulationCall K
  uid : String
  payload : Payload K
  /-- When its paths were charged. -/
  time : K

/-- The last three say what happened: which queries the simulations cost, with the times their
requests were charged, what was sent, and who tried which code. -/
structure Shared (K : Type) where
  clock : K
  signup : QuotaRun K
  simulation : QuotaRun K
  /-- The ids in the `users` table. -/
  users : List String
  /-- When a data center forgets that an account is registered. -/
  cache : String × String → Option K
  queries : List (String × K)
  sent : List (Sent K)
  attempts : List (String × K)
  invited : List (String × String)

def Shared.start (clock : K) (users : List String) : Shared K where
  clock := clock
  signup := .start clock
  simulation := .start clock
  users := users
  cache := fun _ => none
  queries := []
  sent := []
  attempts := []
  invited := []

/-- A call of the quota object, and its history. -/
def charge (run : QuotaRun K) (now : K) (key : String) (cost : K) (budget : Budget K) :
    QuotaDecision K × QuotaRun K :=
  let answered := run.counter.consume now key cost budget
  (answered.1, ⟨now, answered.2, ⟨now, key, cost, answered.1⟩ :: run.calls⟩)

/-- `caches.default.match` -/
def Shared.cached (s : Shared K) (place uid : String) : Bool :=
  (s.cache (place, uid)).any fun expires => decide (s.clock < expires)

def Shared.remember (s : Shared K) (place uid : String) : Shared K :=
  { s with cache := Function.update s.cache (place, uid) (some (s.clock + membershipTtl)) }

def Shared.ask (s : Shared K) (uid : String) (time : K) : Shared K :=
  { s with queries := (uid, time) :: s.queries }

def Shared.send (s : Shared K) (call : SimulationCall K) (uid : String) (payload : Payload K)
    (time : K) : Shared K :=
  { s with sent := ⟨call, uid, payload, time⟩ :: s.sent }

variable [FloorRing K]

/-- A response that says when to come back. -/
def tooMany (error : String) (seconds : ℤ) : Response := ⟨429, some error, none, some seconds⟩

def retryAfter (now reset : K) : ℤ := ⌈(reset - now) / 1000⌉

/-- What the handler reads of the body. -/
def Endpoint.read : Endpoint K → Except Response (Payload K)
  | .monteCarlo body =>
    match readLimitedJson body simulationBodyLimit with
    | .error error => .error ((Endpoint.monteCarlo body).caught error false)
    | .ok json =>
      match monteCarloRequestSchema (some json) with
      | .error _ => .error (.failure 400 "Invalid simulation request")
      | .ok request => .ok (.monteCarlo request)
  | .batch body =>
    match readLimitedJson body simulationBodyLimit with
    | .error error => .error ((Endpoint.batch body).caught error false)
    | .ok json =>
      match batchRequestSchema json with
      | .error _ => .error (.failure 400 "Invalid batch simulation request")
      | .ok request => .ok (.batch request)

/-! ## The handlers -/

/-- `admit`, in which the request budget is spent before the membership lookup so an identity with
no account here cannot drive unbounded database queries, and then the body, `chargePaths` and the
call of the service. -/
def advanceSimulation (s : Shared K) (call : SimulationCall K) :
    SimulationStage K → Outcome → Option (Shared K × SimulationStage K)
  | .arrived, outcome =>
    match call.uid, outcome with
    | none, .done => some (s, .answered (.failure 401 "Unauthorized"))
    | some uid, .done =>
      let limited := charge s.simulation s.clock ("simulate:" ++ uid) 1 simulationBudget
      some ({ s with simulation := limited.2 },
        if limited.1.success then .counted uid s.clock
        else .answered (tooMany "Too many simulation requests. Slow down and retry shortly."
          (max 1 (retryAfter s.clock limited.1.reset))))
    | some uid, .lost error aborted =>
      let limited := charge s.simulation s.clock ("simulate:" ++ uid) 1 simulationBudget
      some ({ s with simulation := limited.2 }, .answered (call.endpoint.caught error aborted))
    | some _, .fails error aborted =>
      some (s, .answered (call.endpoint.caught error aborted))
    | _, _ => none
  | .counted uid time, .done =>
    some (s, if s.cached call.place uid then .admitted uid else .uncached uid time)
  -- A cache that cannot be read is one that does not know.
  | .counted uid time, .fails _ _ => some (s, .uncached uid time)
  | .uncached uid time, .done =>
    some (s.ask uid time, if uid ∈ s.users then .registered uid
      else .answered (.failure 403 "This account cannot use cloud compute"))
  | .uncached uid time, .fails error aborted =>
    some (s.ask uid time, .answered (call.endpoint.caught error aborted))
  | .registered uid, .done => some (s.remember call.place uid, .admitted uid)
  | .registered uid, .fails _ _ => some (s, .admitted uid)
  | .registered uid, .lost _ _ => some (s.remember call.place uid, .admitted uid)
  | .admitted uid, .done =>
    some (s, match call.endpoint.read with
      | .error response => .answered response
      | .ok payload => .parsed uid payload)
  | .admitted _, .fails error aborted =>
    some (s, .answered (call.endpoint.caught error aborted))
  | .parsed uid payload, .done =>
    let limited := charge s.simulation s.clock ("simulate-paths:" ++ uid) payload.paths
      simulationPathBudget
    some ({ s with simulation := limited.2 },
      if limited.1.success then .charged uid payload s.clock
      else .answered (tooMany "Simulation compute quota exceeded. Retry shortly."
        (max 1 (retryAfter s.clock limited.1.reset))))
  | .parsed uid payload, .lost error aborted =>
    let limited := charge s.simulation s.clock ("simulate-paths:" ++ uid) payload.paths
      simulationPathBudget
    some ({ s with simulation := limited.2 }, .answered (call.endpoint.caught error aborted))
  | .parsed _ _, .fails error aborted =>
    some (s, .answered (call.endpoint.caught error aborted))
  | .charged uid payload time, .replies status =>
    some (s.send call uid payload time, .answered (call.endpoint.proxied status))
  | .charged uid payload time, .lost error aborted =>
    some (s.send call uid payload time, .answered (call.endpoint.caught error aborted))
  -- No address or no token: nothing is sent.
  | .charged _ _ _, .fails error aborted =>
    some (s, .answered (call.endpoint.caught error aborted))
  | _, _ => none

/-- The `catch` of `/api/auth/sync-user`. -/
def syncCaught (error : Thrown) : Response :=
  (bodyError error).getD (.failure 500 "Failed to sync user")

variable {D : Type} [DecidableEq D] (digest : String → D) (inviteCodes : List String)

def advanceSync (s : Shared K) (call : SyncCall K) :
    SyncStage → Outcome → Option (Shared K × SyncStage)
  | .arrived, .done =>
    some (s, match call.user with
      | none => .answered (.failure 401 "Unauthorized")
      | some (_, none) => .answered (.failure 400 "Authenticated account has no email claim")
      | some (uid, some _) =>
        match call.body with
        | none => .read uid none
        | some body =>
          match readLimitedJson body syncBodyLimit with
          | .error error => .answered (syncCaught error)
          | .ok json => .read uid (inviteCodeOf json))
  | .arrived, .fails error _ => some (s, .answered (syncCaught error))
  | .read uid inviteCode, .done =>
    some (s, if uid ∈ s.users then .answered ⟨200, none, none, none⟩ else .unknown uid inviteCode)
  | .read _ _, .fails error _ => some (s, .answered (syncCaught error))
  | .unknown uid inviteCode, .done =>
    let limited := charge s.signup s.clock ("invite:" ++ call.clientIp) 1 inviteRateLimit
    if limited.1.success then
      let tried := { s with
        signup := limited.2, attempts := (call.clientIp, s.clock) :: s.attempts }
      match inviteCode with
      | some code =>
        if verifyInviteCode digest inviteCodes (some code) then
          some ({ tried with invited := (uid, code) :: s.invited }, .invited uid)
        else some (tried, .answered (.failure 403 "That invite code is not valid"))
      | none => some (tried, .answered (.failure 403 "That invite code is not valid"))
    else
      some ({ s with signup := limited.2 }, .answered (tooMany
        "Too many signup attempts. Try again later." (retryAfter s.clock limited.1.reset)))
  | .unknown _ _, .lost error _ =>
    let limited := charge s.signup s.clock ("invite:" ++ call.clientIp) 1 inviteRateLimit
    some ({ s with signup := limited.2 }, .answered (syncCaught error))
  | .unknown _ _, .fails error _ => some (s, .answered (syncCaught error))
  | .invited uid, .done =>
    some ({ s with users := s.users.insert uid }, .answered ⟨200, none, none, none⟩)
  | .invited uid, .lost error _ =>
    some ({ s with users := s.users.insert uid }, .answered (syncCaught error))
  | .invited _, .fails error _ => some (s, .answered (syncCaught error))
  | _, _ => none

/-! ## The edge -/

inductive Call (K : Type)
  | simulation (call : SimulationCall K)
  | sync (call : SyncCall K)

inductive Job (K : Type)
  | simulation (call : SimulationCall K) (stage : SimulationStage K)
  | sync (call : SyncCall K) (stage : SyncStage)

/-- What happens besides. -/
inductive Happening (K : Type)
  | elapse (now : K)
  | signupAlarm
  | simulationAlarm
  /-- An account is removed. -/
  | remove (uid : String)
  /-- A data center drops an entry. -/
  | evict (place uid : String)

def start : Call K → Job K
  | .simulation call => .simulation call .arrived
  | .sync call => .sync call .arrived

def advance (s : Shared K) : Job K → Outcome → Option (Shared K × Job K)
  | .simulation call stage, outcome =>
    (advanceSimulation s call stage outcome).map fun next => (next.1, .simulation call next.2)
  | .sync call stage, outcome =>
    (advanceSync digest inviteCodes s call stage outcome).map fun next =>
      (next.1, .sync call next.2)

def happens (s : Shared K) : Happening K → Option (Shared K)
  | .elapse now => if s.clock ≤ now then some { s with clock := now } else none
  | .signupAlarm => (s.signup.step (.alarm s.clock)).map fun signup => { s with signup }
  | .simulationAlarm =>
    (s.simulation.step (.alarm s.clock)).map fun simulation => { s with simulation }
  | .remove uid => some { s with users := s.users.filter (· ≠ uid) }
  | .evict place uid => some { s with cache := Function.update s.cache (place, uid) none }

/-- The handlers at the edge and all that they share. -/
def edge : Handlers.Model (Shared K) (Call K) (Job K) Outcome (Happening K) where
  start := start
  advance := advance digest inviteCodes
  happens := happens

end Shared

end RetirementPlanner.Web.Edge
