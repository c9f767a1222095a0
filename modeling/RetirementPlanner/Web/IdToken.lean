import Mathlib.Algebra.Order.Floor.Ring
import RetirementPlanner.Lib.Handlers
import RetirementPlanner.Lib.Numerals

/-!
# Identity tokens for the native service

`worker/google-id-token.ts`: the token of a request is the one its isolate is using, or is being
minted, or that its data center's cache holds, or else Google's for an assertion signed with the
service account's key. The key is rotated at any time, and a request may be of either side of it.

A token is what its claims say and the key whose assertion it was exchanged for, which nothing here
reads. A mint is driven by the request that began it.
-/

namespace RetirementPlanner.Web.IdToken

variable {K : Type}

structure Token (K : Type) where
  aud : Option String
  /-- In seconds. -/
  exp : Option K
  signedWith : String
  deriving DecidableEq, Repr

structure TokenCall where
  isolate : String
  /-- The data center whose cache the request sees. -/
  place : String
  /-- The id of the service account's key, if the account is configured. -/
  privateKeyId : Option String
  audience : String

/-- What an isolate is using: the mint that produced it or will. -/
structure Current where
  keyId : String
  audience : String
  mint : ℕ
  deriving DecidableEq, Repr

/-- A mint, and how it was settled. -/
structure Mint (K : Type) where
  keyId : String
  audience : String
  settled : Option (Option (Token K))

structure Cached (K : Type) where
  token : Token K
  expires : K

structure Shared (K : Type) where
  clock : K
  current : String → Option Current
  mints : List (Mint K)
  /-- The imported key of an isolate, with its id. -/
  signingKey : String → Option (String × String)
  cache : String × String × String → Option (Cached K)

inductive Stage (K : Type)
  | arrived
  | waiting (mint : ℕ) (since : K)
  | looking (mint : ℕ) (since : K)
  | signing (mint : ℕ) (since : K)
  | exchanging (mint : ℕ) (since : K) (key : String)
  /-- Found usable at a time, and on its way into the cache for a lifetime. -/
  | caching (mint : ℕ) (since : K) (token : Token K) (checked lifetime : K)
  | returned (since : K) (token : Token K) (checked : K)
  | failed

structure Job (K : Type) where
  call : TokenCall
  stage : Stage K

/-- How an awaited call comes out. -/
inductive Outcome (K : Type)
  | done
  | fails
  /-- Google answers with a token of these claims, whose lifetime is spread by so many seconds. -/
  | minted (aud : Option String) (exp : Option K) (spread : ℕ)
  /-- The cache stores the token, and says so or not. -/
  | stored
  deriving DecidableEq, Repr

inductive Happening (K : Type)
  | elapse (now : K)
  | evict (entry : String × String × String)

section Minting

variable [Field K] [LinearOrder K]

def cacheLifetimeSeconds : K := 55 * 60
def cacheSpreadSeconds : ℕ := 120
def expiryMarginSeconds : K := 60

/-- `usableToken`: for the audience, and not about to expire. -/
def usable (now : K) (audience : String) (token : Token K) : Bool :=
  token.aud = some audience &&
    token.exp.any fun exp => decide (now < exp * 1000 - expiryMarginSeconds * 1000)

def Shared.start (clock : K) : Shared K where
  clock := clock
  current := fun _ => none
  mints := []
  signingKey := fun _ => none
  cache := fun _ => none

def Shared.settle (s : Shared K) (mint : ℕ) (result : Option (Token K)) : Shared K :=
  { s with mints := s.mints.modify mint fun this => { this with settled := some result } }

/-- Begins a mint, which is what the isolate uses from then on. -/
def Shared.beginMint (s : Shared K) (call : TokenCall) (keyId : String) : Shared K :=
  { s with
    mints := s.mints ++ [⟨keyId, call.audience, none⟩]
    current := Function.update s.current call.isolate
      (some ⟨keyId, call.audience, s.mints.length⟩) }

/-- The mint fails, and is not what the isolate uses any more. -/
def Shared.reject (s : Shared K) (call : TokenCall) (mint : ℕ) : Shared K :=
  let settled := s.settle mint none
  if (s.current call.isolate).any fun current => current.mint = mint then
    { settled with current := Function.update s.current call.isolate none }
  else settled

variable [FloorRing K]

/-- How long `cacheToken` asks for a token to be kept, in seconds. -/
def lifetime (now : K) (token : Token K) (spread : ℕ) : K :=
  min (cacheLifetimeSeconds - spread)
    ((⌊(token.exp.getD 0 * 1000 - now) / 1000⌋ : ℤ) - expiryMarginSeconds)

/-- `caches.default.put` -/
def Shared.put (s : Shared K) (call : TokenCall) (keyId : String) (token : Token K)
    (lifetime : K) : Shared K :=
  let entry : Cached K := ⟨token, s.clock + lifetime * 1000⟩
  { s with cache := Function.update s.cache (call.place, keyId, call.audience) (some entry) }

/-- The imported key, imported again where it is of another id. -/
def Shared.importKey (s : Shared K) (keyOf : String → String) (isolate keyId : String) :
    String × Shared K :=
  match s.signingKey isolate with
  | some (id, key) =>
    if id = keyId then (key, s)
    else (keyOf keyId,
      { s with signingKey := Function.update s.signingKey isolate (some (keyId, keyOf keyId)) })
  | none => (keyOf keyId,
      { s with signingKey := Function.update s.signingKey isolate (some (keyId, keyOf keyId)) })

/-- `googleIdToken` -/
def advance (keyOf : String → String) (s : Shared K) (call : TokenCall) (keyId : String) :
    Stage K → Outcome K → Option (Shared K × Stage K)
  | .arrived, .done =>
    match s.current call.isolate with
    | some current =>
      if current.audience = call.audience ∧ current.keyId = keyId then
        some (s, .waiting current.mint s.clock)
      else some (s.beginMint call keyId, .looking s.mints.length s.clock)
    | none => some (s.beginMint call keyId, .looking s.mints.length s.clock)
  | .waiting mint since, .done =>
    match s.mints[mint]?.bind (·.settled) with
    | none => none
    | some (some token) =>
      if usable s.clock call.audience token then some (s, .returned since token s.clock)
      else some (s.beginMint call keyId, .looking s.mints.length since)
    | some none => some (s.beginMint call keyId, .looking s.mints.length since)
  | .looking mint since, .done =>
    match s.cache (call.place, keyId, call.audience) with
    | some cached =>
      if s.clock < cached.expires ∧ usable s.clock call.audience cached.token then
        some (s.settle mint (some cached.token), .returned since cached.token s.clock)
      else some (s, .signing mint since)
    | none => some (s, .signing mint since)
  | .looking mint since, .fails => some (s, .signing mint since)
  | .signing mint since, .done =>
    let imported := s.importKey keyOf call.isolate keyId
    some (imported.2, .exchanging mint since imported.1)
  | .signing mint _, .fails =>
    -- A rejected key would otherwise be replayed to every later request.
    let forgotten :=
      if (s.signingKey call.isolate).any fun imported => imported.1 = keyId then
        { s with signingKey := Function.update s.signingKey call.isolate none }
      else s
    some (forgotten.reject call mint, .failed)
  | .exchanging mint since key, .minted aud exp spread =>
    if cacheSpreadSeconds ≤ spread then none
    else if usable s.clock call.audience ⟨aud, exp, key⟩ then
      -- The lifetime is settled before the put is awaited, and a token without one is not put.
      let lifetime := lifetime s.clock ⟨aud, exp, key⟩ spread
      if lifetime ≤ 0 then
        some (s.settle mint (some ⟨aud, exp, key⟩), .returned since ⟨aud, exp, key⟩ s.clock)
      else some (s, .caching mint since ⟨aud, exp, key⟩ s.clock lifetime)
    else some (s.reject call mint, .failed)
  | .exchanging mint _ _, .fails => some (s.reject call mint, .failed)
  | .caching mint since token checked lifetime, .stored =>
    some ((s.put call keyId token lifetime).settle mint (some token),
      .returned since token checked)
  | .caching mint since token checked _, .fails =>
    some (s.settle mint (some token), .returned since token checked)
  | _, _ => none

/-- Without its credentials a request fails before anything. -/
def advanceJob (keyOf : String → String) (s : Shared K) (job : Job K) (outcome : Outcome K) :
    Option (Shared K × Job K) :=
  match job.call.privateKeyId, job.stage with
  | some keyId, stage =>
    (advance keyOf s job.call keyId stage outcome).map fun next =>
      (next.1, { job with stage := next.2 })
  | none, .arrived => some (s, { job with stage := .failed })
  | none, _ => none

def happens (s : Shared K) : Happening K → Option (Shared K)
  | .elapse now => if s.clock ≤ now then some { s with clock := now } else none
  | .evict entry => some { s with cache := Function.update s.cache entry none }

/-- The isolates of every data center. -/
def isolates (keyOf : String → String) :
    Handlers.Model (Shared K) TokenCall (Job K) (Outcome K) (Happening K) where
  start call := ⟨call, .arrived⟩
  advance := advanceJob keyOf
  happens := happens

end Minting

end RetirementPlanner.Web.IdToken
