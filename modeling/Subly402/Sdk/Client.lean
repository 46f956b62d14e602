/-
# The client that pays for what it fetches

`Subly402Client` in `sdk/src/subly402.ts`.  A request that is answered with 402 is paid: one
of the offered options is chosen, its price is compared with the policy, the enclave behind
its facilitator is attested, and the request is sent again with a signed payload.  With
`autoDeposit`, an answer that the balance is too small has the client deposit and send the
request up to twelve times more, each time with a payload of its own.
-/

import Subly402.Lib.ZeroPad
import Subly402.Sdk.Amount
import Subly402.Sdk.Attestation
import Subly402.Sdk.CanonicalJson

namespace Subly402
namespace Sdk

open Lib
open Lib.Prog (orReturn failIf)

/-! ### The world -/

/-- What the client reads of a seller's response. -/
structure Response where
  status : ℕ
  /-- The `PAYMENT-REQUIRED` header. -/
  paymentRequired : Option String
  /-- `response.json()`, where the body is JSON. -/
  json : Option Json

/-- The facilitator's answer to `/v1/attestation`. -/
structure AttestationReply where
  ok : Bool
  status : ℕ
  json : Option Json

/-- `Subly402Signer`, with its public key as the text that `signerAddress` makes of it. -/
structure Signer where
  address : Option String
  publicKey : Option String

/-- `Subly402AutoDepositContext`. -/
structure DepositContext where
  amount : Option Json
  amountAtomic : ℤ
  details : Json
  facilitatorUrl : String
  reason : String
  attempt : ℕ

/-- The request that is paid for. -/
structure Request where
  url : String
  method : Option String
  /-- What `bodyToBytes` makes of the body. -/
  body : Except Js.Error (List UInt8)

/-- Whom the client asks, and their answers by the number of the question. -/
structure World where
  engine : Js.Engine
  nitro : NitroVerifier
  /-- `fetchImpl(url, options)`. -/
  respond : ℕ → Except Js.Error Response
  /-- `fetch` of a facilitator's `/v1/attestation`. -/
  attestation : ℕ → String → Except Js.Error AttestationReply
  /-- `probeTlsPublicKeySha256`. -/
  probeTls : ℕ → String → Except Js.Error String
  /-- `Date.now()`. -/
  now : ℕ → ℤ
  /-- `randomUUID()`. -/
  uuid : ℕ → String
  /-- `signMessage`. -/
  sign : ℕ → Signer → String → Except Js.Error String
  /-- `autoDeposit.deposit`. -/
  deposit : ℕ → DepositContext → Except Js.Error Unit
  /-- `nitroAttestation.documentValidator`, which accepts where there is none. -/
  documentValidator : ℕ → NitroDocument → Json → Except Js.Error Unit
  /-- `attestationVerifier`. -/
  attestationVerifier : ℕ → Json → Except Js.Error Unit

/-- `PaymentPayload`; the fields that come from the seller have whatever kind it sent. -/
structure PaymentPayload where
  paymentId : String
  client : String
  vault : Option Json
  providerId : Option Json
  payTo : Option Json
  network : Option Json
  assetMint : Option Json
  amount : Option Json
  requestHash : String
  paymentDetailsHash : String
  expiresAt : String
  nonce : String
  clientSig : String

/-- A payload that was signed, the option it pays for, and the numbers of the first question
of the call and of the signature. -/
structure Signed where
  payload : PaymentPayload
  details : Json
  began : ℕ
  step : ℕ

/-- The client's state. -/
structure Session where
  /-- `attestationCache`. -/
  cache : FiniteMap String Json
  /-- How many questions were asked. -/
  steps : ℕ
  signed : List Signed

/-- The normalised `autoDeposit`. -/
structure AutoDeposit where
  maxDepositPerRequest : Option Amount

/-- `Subly402Client`. -/
structure Client where
  trustedFacilitators : List String
  maxPaymentPerRequest : Option Amount
  autoDeposit : Option AutoDeposit
  nitroAttestation : Option NitroAttestationConfig
  /-- Whether there is an `attestationVerifier`. -/
  hasAttestationVerifier : Bool
  schemes : List (String × Signer)
  defaultScheme : Option Signer

/-- `EXPIRY_SAFETY_MARGIN_MS`. -/
def expirySafetyMarginMs : ℤ := 60 * 1000

/-- `DEPOSIT_SYNC_RETRY_ATTEMPTS`. -/
def depositSyncRetryAttempts : ℕ := 12

/-- Ask the world. -/
def ask {α : Type} (answer : ℕ → α) : Prog Session Js.Error α := fun s =>
  (.ok (answer s.steps), { s with steps := s.steps + 1 })

/-- Ask the world for something that may fail. -/
def await {α : Type} (answer : ℕ → Except Js.Error α) : Prog Session Js.Error α := fun s =>
  (answer s.steps, { s with steps := s.steps + 1 })

/-- `await` takes a step and its answer. -/
@[simp]
theorem run_await {α : Type} (answer : ℕ → Except Js.Error α) (s : Session) :
    (await answer).run s = (answer s.steps, { s with steps := s.steps + 1 }) := rfl

/-- Past a question. -/
theorem leaves_ask_bind {α β : Type} {answer : ℕ → α} {k : α → Prog Session Js.Error β}
    {s : Session} {R : Session → Prop}
    (h : (k (answer s.steps)).Leaves { s with steps := s.steps + 1 } R) :
    (ask answer >>= k).Leaves s R := h

/-- Past a question that may fail. -/
theorem leaves_await_bind {α β : Type} {answer : ℕ → Except Js.Error α}
    {k : α → Prog Session Js.Error β} {s : Session} {R : Session → Prop}
    (hfail : R { s with steps := s.steps + 1 })
    (h : ∀ a, answer s.steps = .ok a → (k a).Leaves { s with steps := s.steps + 1 } R) :
    (await answer >>= k).Leaves s R := by
  have hrun := run_await answer s
  cases ha : answer s.steps with
  | error e =>
    rw [ha] at hrun
    exact .of_run (by rw [Prog.run_bind, hrun]) hfail
  | ok a =>
    rw [ha] at hrun
    exact .run_bind hrun (h a ha)

/-- Rule for `await`. -/
theorem returns_await_bind {α β : Type} {answer : ℕ → Except Js.Error α}
    {k : α → Prog Session Js.Error β} {s : Session} {Q : β → Session → Prop}
    (h : ∀ a, answer s.steps = .ok a → (k a).Returns { s with steps := s.steps + 1 } Q) :
    (await answer >>= k).Returns s Q := by
  have hrun := run_await answer s
  cases ha : answer s.steps with
  | error e =>
    intro b t ht
    rw [Prog.run_bind, hrun, ha] at ht
    cases ht
  | ok a =>
    rw [ha] at hrun
    exact .run_bind hrun (h a ha)

/-! ### Reading what the seller sent -/

section
variable (E : Js.Engine)

/-- `normalizeBaseUrl`. -/
def normalizeBaseUrl (url : String) : String :=
  if url.toList.getLast? = some '/' then String.ofList url.toList.dropLast else url

/-- `networkMatches`. -/
def networkMatches (pattern : String) (network : Option Json) : Except Js.Error Bool :=
  if pattern = "*" ∨ network.bind Json.asStr = some pattern then .ok true
  else if [':', '*'] <:+ pattern.toList then do
    let network ← Js.text network
    return decide (pattern.toList.dropLast <+: network.toList)
  else .ok false

/-- `decodeJsonHeader`. -/
def decodeJsonHeader (value headerName : String) : Except Js.Error Json :=
  match E.parseJson (E.base64 value) with
  | .ok decoded => .ok decoded
  | .error _ =>
    match E.parseJson (E.base64Url value) with
    | .ok decoded => .ok decoded
    | .error reason => .error (.error ("Invalid " ++ headerName ++ " header: " ++ reason))

/-- `readPaymentRequiredResponse`. -/
def readPaymentRequiredResponse (response : Response) : Except Js.Error Json :=
  match response.paymentRequired.filter (· ≠ "") with
  | some header => do
    let decoded ← decodeJsonHeader E header "PAYMENT-REQUIRED"
    match response.json with
    | some body => return Js.spread body decoded
    | none => return decoded
  | none => okOrElse response.json .builtin

/-- The reason that a response gives, by its code or by words of its message. -/
def reasonOf (code words : String) (body : Json) : Except Js.Error (Option String) := do
  let given := Js.orElse (← Js.prop (some body) "facilitatorError") (← Js.prop (some body) "error")
  if Js.same E given (some (.string code)) then return some code
  let message ← Js.prop (some body) "message"
  if Js.isNullish message then return none
  let message ← Js.text message
  if words.toList <:+: (E.toLowerCase message).toList then return some message
  return none

/-- `insufficientBalanceReason`. -/
def insufficientBalanceReason : Json → Except Js.Error (Option String) :=
  reasonOf E "insufficient_balance" "insufficient"

/-- `depositSyncReason`. -/
def depositSyncReason : Json → Except Js.Error (Option String) :=
  reasonOf E "deposit_sync_in_progress" "deposit synchronization"

/-- The base URL of an option's facilitator. -/
def facilitatorUrlOf (details : Json) : Except Js.Error String := do
  return normalizeBaseUrl (← Js.text (← Js.prop (some details) "facilitatorUrl"))

/-- `signerAddress`. -/
def signerAddress (signer : Signer) : Except Js.Error String :=
  match signer.address.filter (· ≠ ""), signer.publicKey with
  | some address, _ => .ok address
  | none, some publicKey => .ok publicKey
  | none, none => .error (.error "Subly402 signer public key is required")

/-! ### Attestations -/

/-- The comparison of a response with an option that two checks make, each with its own texts
for the vault configuration, the signer and the policy hash. -/
def detailsMismatch (texts : String × String × String) (attestation details : Json) :
    Except Js.Error (Option String) := do
  let config ← Js.prop (some attestation) "vaultConfig"
  if ¬ Js.same E config (← Js.read (some details) ["vault", "config"]) then return some texts.1
  let signer ← Js.prop (some attestation) "vaultSigner"
  if ¬ Js.same E signer (← Js.read (some details) ["vault", "signer"]) then return some texts.2.1
  let hash ← Js.text (← Js.prop (some attestation) "attestationPolicyHash")
  let expected ← Js.text (← Js.read (some details) ["vault", "attestationPolicyHash"])
  if E.toLowerCase hash ≠ E.toLowerCase expected then return some texts.2.2
  return none

/-- `assertAttestationMatchesDetails`. -/
def assertAttestationMatchesDetails (attestation details : Json) (now : ℤ) :
    Except Js.Error Unit := do
  match ← detailsMismatch E ("Subly402 attestation vaultConfig mismatch",
      "Subly402 attestation vaultSigner mismatch", "Subly402 attestation policy hash mismatch")
      attestation details with
  | some text => throw (.error text)
  | none =>
    let issuedAt := E.parseDate (← Js.prop (some attestation) "issuedAt")
    let expiresAt := E.parseDate (← Js.prop (some attestation) "expiresAt")
    match issuedAt, expiresAt with
    | some issuedAtMs, some expiresAtMs =>
      refuseIf (expiresAtMs ≤ now ∨ expiresAtMs ≤ issuedAtMs)
        (.error "Subly402 attestation is expired or invalid")
    | _, _ => throw (.error "Subly402 attestation timestamps are invalid")

/-- `cacheEntryStaleReason`. -/
def cacheEntryStaleReason (cached details : Json) (now : ℤ) :
    Except Js.Error (Option String) := do
  match ← detailsMismatch E ("vaultConfig mismatch", "vaultSigner mismatch",
      "attestationPolicyHash mismatch") cached details with
  | some reason => return some reason
  | none =>
    match E.parseDate (← Js.prop (some cached) "expiresAt") with
    | none => return some "invalid expiresAt"
    | some expiresAtMs =>
      if expiresAtMs ≤ now + expirySafetyMarginMs then return some "near or past expiry"
      return none

/-- `decodeLocalAttestationDocument`. -/
def decodeLocalAttestationDocument (attestation : Json) : Option Json := do
  let bytes ← (Js.prop (some attestation) "attestationDocument" >>= Js.bytes E).toOption
  (E.parseJson bytes).toOption

/-- `localDocument?.mode === "local-dev"`. -/
def isLocalDevAttestation (attestation : Json) : Bool :=
  Js.same E ((decodeLocalAttestationDocument E attestation).bind fun d => d.get "mode")
    (some (.string "local-dev"))

/-- `verifyLocalAttestationDocument`. -/
def verifyLocalAttestationDocument (attestation localDocument : Json) : Except Js.Error Unit := do
  let one : Option Json := some (.scalar (.number Js.one))
  refuseIf (¬ Js.same E (localDocument.get "version") one ∨
      ¬ Js.same E (localDocument.get "mode") (some (.string "local-dev")))
    (.error "Unsupported Subly402 local attestation document")
  refuseIf (¬ Js.same E (localDocument.get "vaultConfig") (attestation.get "vaultConfig"))
    (.error "Subly402 local attestation vaultConfig mismatch")
  refuseIf (¬ Js.same E (localDocument.get "vaultSigner") (attestation.get "vaultSigner"))
    (.error "Subly402 local attestation vaultSigner mismatch")
  let hash ← Js.text (localDocument.get "attestationPolicyHash")
  let expected ← Js.text (attestation.get "attestationPolicyHash")
  refuseIf (E.toLowerCase hash ≠ E.toLowerCase expected)
    (.error "Subly402 local attestation policy hash mismatch")
  refuseIf ((localDocument.get "snapshotSeqno").isSome ∧
      ¬ Js.same E (localDocument.get "snapshotSeqno") (attestation.get "snapshotSeqno"))
    (.error "Subly402 local attestation snapshotSeqno mismatch")

/-- The configuration that a document is verified under: what it leaves open is taken from the
option. -/
def NitroAttestationConfig.forDetails (config : NitroAttestationConfig) (details : Json) :
    Except Js.Error NitroAttestationConfig := do
  let hash ← Js.read (some details) ["vault", "attestationPolicyHash"]
  let signer ← Js.read (some details) ["vault", "signer"]
  return { config with
    expectedPolicyHash := Js.orElse config.expectedPolicyHash hash
    expectedVaultSigner := Js.orElse config.expectedVaultSigner signer
    requireSubly402UserData := some (config.requireSubly402UserData.getD true) }

end

namespace Client

variable (c : Client) (w : World)

/-- `verifyAttestedTlsBinding`. -/
def verifyAttestedTlsBinding (facilitatorUrl : String) (attestation : Json)
    (allowMissingForLocalDev : Bool) : Prog Session Js.Error Unit := do
  let tls ← orReturn (Js.prop (some attestation) "tlsPublicKeySha256")
  if Js.truthy w.engine tls then
    let observed ← await fun k => w.probeTls k facilitatorUrl
    let expected ← orReturn (Js.text tls)
    failIf (w.engine.toLowerCase observed ≠ w.engine.toLowerCase expected)
      (.error "Subly402 attested TLS public key mismatch")
  else
    failIf (allowMissingForLocalDev = false)
      (.error "Subly402 non-local attestation is missing attested tlsPublicKeySha256")

/-- The branches of `verifyAttestation` for a document that is not a local one. -/
def verifyRemoteDocument (details attestation : Json) : Prog Session Js.Error Unit := do
  match c.nitroAttestation with
  | some config =>
    let config ← orReturn (config.forDetails details)
    let chainTime ← ask w.now
    let now ← ask w.now
    let validator ← ask w.documentValidator
    let _ ← orReturn (verifyNitroAttestationDocument w.engine w.nitro attestation config chainTime
      now validator)
    if c.hasAttestationVerifier then await fun k => w.attestationVerifier k attestation
  | none =>
    if c.hasAttestationVerifier then await fun k => w.attestationVerifier k attestation
    else throw (.error ("Subly402Client requires nitroAttestation or attestationVerifier "
      ++ "for non-local attestation"))

/-- The branches of `verifyAttestation` for the document of a response that matches the option.
Which one is taken is for the document to say. -/
def verifyDocument (details attestation : Json) : Prog Session Js.Error Unit :=
  match isLocalDevAttestation w.engine attestation,
      decodeLocalAttestationDocument w.engine attestation with
  | true, some localDocument =>
    orReturn (verifyLocalAttestationDocument w.engine attestation localDocument)
  | _, _ => c.verifyRemoteDocument w details attestation

/-- A response that `verifyAttestation` fetches and checks. -/
def freshAttestation (details : Json) (facilitatorUrl : String) : Prog Session Js.Error Json := do
  let reply ← await fun k => w.attestation k facilitatorUrl
  failIf (reply.ok = false)
    (.error ("Subly402 attestation fetch failed: " ++ toString reply.status))
  let attestation ← orReturn (okOrElse reply.json .builtin)
  let now ← ask w.now
  orReturn (assertAttestationMatchesDetails w.engine attestation details now)
  c.verifyDocument w details attestation
  verifyAttestedTlsBinding w facilitatorUrl attestation (isLocalDevAttestation w.engine attestation)
  return attestation

/-- `verifyAttestation` where the cache does not help. -/
def attest (details : Json) (facilitatorUrl : String) : Prog Session Js.Error Json := do
  let attestation ← c.freshAttestation w details facilitatorUrl
  modify fun s => { s with cache := s.cache.insert facilitatorUrl attestation }
  return attestation

/-- `verifyAttestation`. -/
def verifyAttestation (details : Json) : Prog Session Js.Error Json := do
  let facilitatorUrl ← orReturn (facilitatorUrlOf details)
  failIf (c.trustedFacilitators ≠ [] ∧ facilitatorUrl ∉ c.trustedFacilitators)
    (.error ("Untrusted Subly402 facilitator: " ++ facilitatorUrl))
  let s ← get
  match s.cache[facilitatorUrl]? with
  | none => c.attest w details facilitatorUrl
  | some cached =>
    let now ← ask w.now
    match ← orReturn (cacheEntryStaleReason w.engine cached details now) with
    | none => return cached
    | some _ =>
      modify fun s => { s with cache := s.cache.erase facilitatorUrl }
      c.attest w details facilitatorUrl

/-! ### Payments -/

/-- `findSchemeForNetwork`. -/
def findSchemeForNetwork (network : Option Json) : Except Js.Error (Option Signer) := do
  match ← c.schemes.findM? fun registered => networkMatches registered.1 network with
  | some registered => return some registered.2
  | none => return c.defaultScheme

/-- An offered option with the signer that can pay it. -/
def candidate (accept : Json) : Except Js.Error (Json × Option Signer) := do
  let scheme ← Js.prop (some accept) "scheme"
  if scheme.bind Json.asStr = some "subly402-svm-v1" then
    return (accept, ← c.findSchemeForNetwork (← Js.prop (some accept) "network"))
  else return (accept, none)

/-- The choice of an option. -/
def select (body : Json) : Except Js.Error (Json × Signer) := do
  let accepts ← Js.prop (some body) "accepts"
  let offered ← match accepts with
    | none => pure []
    | some (.scalar .null) => pure []
    | some (.array items) => pure items
    | some _ => throw .builtin
  let candidates ← offered.mapM c.candidate
  okOrElse (candidates.findSome? fun o => o.2.map fun signer => (o.1, signer))
    (.error "No Subly402-compatible payment option for registered networks")

/-- A limit that an amount is compared with, `undefined` for none.  The text says what the
amount exceeds. -/
def assertWithin (E : Js.Engine) (limit : Option Amount) (what : String) (details : Json) :
    Except Js.Error Unit :=
  match limit with
  | none => .ok ()
  | some limit => do
    let value ← Js.prop (some details) "amount"
    let amount ← Js.bigInt E value
    let decimals ← Js.read (some details) ["asset", "decimals"]
    let most ← parseAmountToAtomic E limit decimals
    refuseIf (most < amount)
      (.error ("Subly402 " ++ what ++ " exceeds policy: " ++ Js.display E value ++ " > "
        ++ toString most))

/-- `assertBudget`. -/
def assertBudget (E : Js.Engine) (details : Json) : Except Js.Error Unit :=
  assertWithin E c.maxPaymentPerRequest "payment" details

/-- `depositOnDemand`. -/
def depositOnDemand (autoDeposit : AutoDeposit) (details : Json) (reason : String) (attempt : ℕ) :
    Prog Session Js.Error Unit := do
  let amount ← orReturn (Js.prop (some details) "amount")
  let amountAtomic ← orReturn (Js.bigInt w.engine amount)
  orReturn (assertWithin w.engine autoDeposit.maxDepositPerRequest "autoDeposit" details)
  let facilitatorUrl ← orReturn (facilitatorUrlOf details)
  await fun k => w.deposit k { amount, amountAtomic, details, facilitatorUrl, reason, attempt }

/-- `buildSignatureMessage`. -/
def signatureMessage (E : Js.Engine) (p : PaymentPayload) : String :=
  "SUBLY402-SVM-V1-AUTH\n1\nsubly402-svm-v1\n" ++ p.paymentId ++ "\n" ++ p.client ++ "\n"
    ++ Js.display E p.vault ++ "\n" ++ Js.display E p.providerId ++ "\n"
    ++ Js.display E p.payTo ++ "\n" ++ Js.display E p.network ++ "\n"
    ++ Js.display E p.assetMint ++ "\n" ++ Js.display E p.amount ++ "\n"
    ++ p.requestHash ++ "\n" ++ p.paymentDetailsHash ++ "\n" ++ p.expiresAt ++ "\n"
    ++ p.nonce ++ "\n"

/-- What `buildPaymentPayload` fills in from the request, the option and the signer. -/
def unsignedPayload (E : Js.Engine) (request : Request) (details : Json) (signer : Signer)
    (uuid : String) (nonceTime expiryTime : ℤ) : Except Js.Error PaymentPayload := do
  let (origin, pathname, search) ← E.parseUrl request.url
  let method := E.toUpperCase ((request.method.filter (· ≠ "")).getD "GET")
  let body ← request.body
  let paymentDetailsHash := E.sha256hex (utf8 (canonicalJson details))
  let context : RequestContext :=
    { method, origin, pathAndQuery := pathname ++ search, bodySha256 := E.sha256hex body }
  let client ← signerAddress signer
  return {
    paymentId := "pay_" ++ uuid, client
    vault := ← Js.read (some details) ["vault", "config"]
    providerId := ← Js.prop (some details) "providerId"
    payTo := ← Js.prop (some details) "payTo"
    network := ← Js.prop (some details) "network"
    assetMint := ← Js.read (some details) ["asset", "mint"]
    amount := ← Js.prop (some details) "amount"
    requestHash := E.sha256hex (utf8 (requestText context paymentDetailsHash))
    paymentDetailsHash
    expiresAt := E.toISOString (expiryTime + 30 * 60 * 1000)
    nonce := toString nonceTime
    clientSig := "" }

/-- `buildPaymentPayload`. -/
def buildPaymentPayload (request : Request) (details : Json) (signer : Signer) (began : ℕ) :
    Prog Session Js.Error PaymentPayload := do
  let uuid ← ask w.uuid
  let nonceTime ← ask w.now
  let expiryTime ← ask w.now
  let unsigned ← orReturn (unsignedPayload w.engine request details signer uuid nonceTime expiryTime)
  let clientSig ← await fun k => w.sign k signer (signatureMessage w.engine unsigned)
  let payload := { unsigned with clientSig }
  modify fun s => { s with signed := s.signed ++ [{ payload, details, began, step := s.steps }] }
  return payload

/-- The loop of `fetch` after a deposit, with the attempts that are left and the last answer
that it would return. -/
def retry (request : Request) (details : Json) (signer : Signer) (began : ℕ) :
    ℕ → Response → Prog Session Js.Error Response
  | 0, last => return last
  | attempts + 1, _ => do
    let _ ← buildPaymentPayload w request details signer began
    let response ← await w.respond
    if response.status ≠ 402 then return response
    match readPaymentRequiredResponse w.engine response with
    | .error _ => return response
    | .ok body =>
      match ← orReturn (depositSyncReason w.engine body) with
      | none => return response
      | some _ => retry request details signer began attempts response

/-- What `fetch` does with the answer to the paid request. -/
def topUp (request : Request) (details : Json) (signer : Signer) (began : ℕ)
    (paidResponse : Response) : Prog Session Js.Error Response :=
  match c.autoDeposit with
  | none => return paidResponse
  | some autoDeposit => do
    if paidResponse.status ≠ 402 then return paidResponse
    match readPaymentRequiredResponse w.engine paidResponse with
    | .error _ => return paidResponse
    | .ok body =>
      match ← orReturn (insufficientBalanceReason w.engine body) with
      | none => return paidResponse
      | some reason =>
        depositOnDemand w autoDeposit details reason 1
        retry w request details signer began depositSyncRetryAttempts paidResponse

/-- The payment of a chosen option. -/
def pay (request : Request) (details : Json) (signer : Signer) (began : ℕ) :
    Prog Session Js.Error Response := do
  let _ ← buildPaymentPayload w request details signer began
  let paidResponse ← await w.respond
  c.topUp w request details signer began paidResponse

/-- `fetch`. -/
def fetch (request : Request) : Prog Session Js.Error Response := do
  let s ← get
  let initialRes ← await w.respond
  if initialRes.status ≠ 402 then return initialRes
  let body ← orReturn (readPaymentRequiredResponse w.engine initialRes)
  let (details, signer) ← orReturn (c.select body)
  orReturn (c.assertBudget w.engine details)
  let _ ← c.verifyAttestation w details
  c.pay w request details signer s.steps

end Client

/-! ### The gate signs nothing -/

/-- Nothing happened between two states but questions. -/
structure Asks (s t : Session) : Prop where
  cache : t.cache = s.cache
  signed : t.signed = s.signed
  steps : s.steps ≤ t.steps

instance : IsPreorder Session Asks where
  refl _ := ⟨rfl, rfl, le_rfl⟩
  trans _ _ _ h h' :=
    ⟨h'.cache.trans h.cache, h'.signed.trans h.signed, h.steps.trans h'.steps⟩

section
variable {α : Type}

/-- An answer is one step. -/
theorem ask_asks (answer : ℕ → α) : (ask answer).Along Asks := fun _ => ⟨rfl, rfl, Nat.le_succ _⟩

/-- So is an awaited one. -/
theorem await_asks (answer : ℕ → Except Js.Error α) : (await answer).Along Asks := fun _ =>
  ⟨rfl, rfl, Nat.le_succ _⟩

/-- What was signed stays as it was. -/
theorem Asks.keeps {p : Prog Session Js.Error α} (h : p.Along Asks) :
    p.Along (Prog.Same Session.signed) := h.mono fun _ _ h => h.signed

end

namespace Client

variable {c : Client} {w : World}

/-- The TLS check only asks. -/
theorem verifyAttestedTlsBinding_asks (url : String) (attestation : Json) (allowMissing : Bool) :
    (verifyAttestedTlsBinding w url attestation allowMissing).Along Asks := by
  refine .bind (.orReturn _) fun tls => .ite (fun _ => ?_) fun _ => .failIf _ _
  exact .bind (await_asks _) fun _ => .bind (.orReturn _) fun _ => .failIf _ _

/-- The remote check only asks. -/
theorem verifyRemoteDocument_asks (details attestation : Json) :
    (c.verifyRemoteDocument w details attestation).Along Asks := by
  unfold verifyRemoteDocument
  split
  · refine .bind (.orReturn _) fun _ => .bind (ask_asks _) fun _ => .bind (ask_asks _) fun _ =>
      .bind (ask_asks _) fun _ => .bind (.orReturn _) fun _ => ?_
    exact .ite (fun _ => await_asks _) fun _ => .pure _
  · exact .ite (fun _ => await_asks _) fun _ => .throw _

/-- The document check only asks. -/
theorem verifyDocument_asks (details attestation : Json) :
    (c.verifyDocument w details attestation).Along Asks := by
  unfold verifyDocument
  split
  · exact .orReturn _
  · exact verifyRemoteDocument_asks _ _

/-- Fetching an attestation only asks. -/
theorem freshAttestation_asks (details : Json) (url : String) :
    (c.freshAttestation w details url).Along Asks :=
  .bind (await_asks _) fun _ => .bind (.failIf _ _) fun _ => .bind (.orReturn _) fun _ =>
    .bind (ask_asks _) fun _ => .bind (.orReturn _) fun _ =>
    .bind (verifyDocument_asks _ _) fun _ => .bind (verifyAttestedTlsBinding_asks _ _ _) fun _ =>
    .pure _

/-- Attesting signs nothing. -/
theorem attest_keeps (details : Json) (url : String) :
    (c.attest w details url).Along (Prog.Same Session.signed) :=
  .bind (Asks.keeps (freshAttestation_asks _ _)) fun _ => .bind (.modify fun _ => rfl) fun _ =>
    .pure _

/-- Nor does the gate. -/
theorem verifyAttestation_keeps (details : Json) :
    (c.verifyAttestation w details).Along (Prog.Same Session.signed) := by
  refine .bind (.orReturn _) fun url => .bind (.failIf _ _) fun _ => .get_bind fun s => ?_
  split
  · exact attest_keeps _ _
  · refine .bind (Asks.keeps (ask_asks _)) fun _ => .bind (.orReturn _) fun reason => ?_
    cases reason with
    | none => exact .pure _
    | some _ => exact .bind (.modify fun _ => rfl) fun _ => attest_keeps _ _

end Client

/-! ### What a payment signs -/

/-- A payload for an option, signed in a call no earlier than a question. -/
structure Pays (details : Json) (began start : ℕ) (p : Signed) : Prop where
  option : p.details = details
  call : p.began = began
  step : start ≤ p.step
  vault : Js.read (some details) ["vault", "config"] = .ok p.payload.vault
  amount : Js.prop (some details) "amount" = .ok p.payload.amount

/-- At most so many payloads for an option were signed, and the cache was left alone. -/
structure Signs (details : Json) (began most : ℕ) (s t : Session) : Prop where
  cache : t.cache = s.cache
  steps : s.steps ≤ t.steps
  signed : ∃ new, t.signed = s.signed ++ new ∧ new.length ≤ most ∧
    ∀ p ∈ new, Pays details began s.steps p

namespace Signs

variable {details : Json} {began most more : ℕ} {s t u : Session} {α β : Type}

/-- Nothing signed. -/
theorem refl (s : Session) : Signs details began most s s :=
  ⟨rfl, le_rfl, [], (List.append_nil _).symm, Nat.zero_le _, nofun⟩

/-- A larger bound. -/
theorem mono (h : Signs details began most s t) (hle : most ≤ more) :
    Signs details began more s t := by
  obtain ⟨new, hnew, hlen, hpays⟩ := h.signed
  exact ⟨h.cache, h.steps, new, hnew, hlen.trans hle, hpays⟩

/-- Bounds add. -/
theorem trans (h : Signs details began most s t) (h' : Signs details began more t u) :
    Signs details began (most + more) s u := by
  obtain ⟨new, hnew, hlen, hpays⟩ := h.signed
  obtain ⟨new', hnew', hlen', hpays'⟩ := h'.signed
  refine ⟨h'.cache.trans h.cache, h.steps.trans h'.steps, new ++ new', ?_, ?_, ?_⟩
  · rw [hnew', hnew, List.append_assoc]
  · rw [List.length_append]
    omega
  · intro p hp
    obtain hp | hp := List.mem_append.1 hp
    · exact hpays p hp
    · have hpay := hpays' p hp
      exact { hpay with step := h.steps.trans hpay.step }

/-- One program after another. -/
theorem bind {p : Prog Session Js.Error α} {k : α → Prog Session Js.Error β}
    (hp : p.Along (Signs details began most)) (hk : ∀ a, (k a).Along (Signs details began more)) :
    (p >>= k).Along (Signs details began (most + more)) := fun s =>
  (hp s).bind (fun _ h => h.mono (Nat.le_add_right _ _)) fun a t h =>
    (hk a t).mono fun _ h' => h.trans h'

/-- After a program that signs nothing. -/
theorem quiet_bind {p : Prog Session Js.Error α} {k : α → Prog Session Js.Error β}
    (hp : p.Along (Signs details began 0)) (hk : ∀ a, (k a).Along (Signs details began most)) :
    (p >>= k).Along (Signs details began most) := by
  have h := bind hp hk
  rwa [Nat.zero_add] at h

/-- `pure` signs nothing. -/
theorem pure (a : α) : (Pure.pure a : Prog Session Js.Error α).Along (Signs details began most) :=
  refl

/-- Asking signs nothing. -/
theorem ask (answer : ℕ → α) : (ask answer).Along (Signs details began 0) := fun _ =>
  ⟨rfl, Nat.le_succ _, [], (List.append_nil _).symm, le_rfl, nofun⟩

/-- Waiting signs nothing. -/
theorem await (answer : ℕ → Except Js.Error α) : (await answer).Along (Signs details began 0) :=
  fun _ => ⟨rfl, Nat.le_succ _, [], (List.append_nil _).symm, le_rfl, nofun⟩

/-- A result signs nothing. -/
theorem orReturn_bind {r : Except Js.Error α} {k : α → Prog Session Js.Error β}
    (h : ∀ a, r = .ok a → (k a).Along (Signs details began most)) :
    (orReturn r >>= k).Along (Signs details began most) := fun s =>
  .orReturn_bind (refl s) fun a ha => h a ha s

/-- After an answer of the world. -/
theorem await_bind {answer : ℕ → Except Js.Error α} {k : α → Prog Session Js.Error β}
    (h : ∀ n a, answer n = .ok a → (k a).Along (Signs details began most)) :
    (Sdk.await answer >>= k).Along (Signs details began most) := fun s => by
  have hask : Signs details began 0 s { s with steps := s.steps + 1 } := await answer s
  refine leaves_await_bind (hask.mono (Nat.zero_le _)) fun a ha => (h _ a ha _).mono fun u hu => ?_
  have htrans := hask.trans hu
  rwa [Nat.zero_add] at htrans

end Signs

namespace Client

variable {c : Client} {w : World} {request : Request} {details : Json} {signer : Signer}
  {began : ℕ}

/-- The fields that the payload takes from the option. -/
theorem unsignedPayload_ok {E : Js.Engine} {uuid : String} {nonceTime expiryTime : ℤ}
    {p : PaymentPayload}
    (h : unsignedPayload E request details signer uuid nonceTime expiryTime = .ok p) :
    Js.read (some details) ["vault", "config"] = .ok p.vault
      ∧ Js.prop (some details) "amount" = .ok p.amount := by
  simp only [unsignedPayload, bind_eq_ok] at h
  obtain ⟨_, -, _, -, _, -, _, hvault, _, -, _, -, _, -, _, -, _, hamount, ⟨⟩⟩ := h
  exact ⟨hvault, hamount⟩

/-- A payload is signed at most once. -/
theorem buildPaymentPayload_signs :
    (buildPaymentPayload w request details signer began).Along (Signs details began 1) := by
  refine Signs.quiet_bind (Signs.ask _) fun uuid => Signs.quiet_bind (Signs.ask _) fun nonceTime =>
    Signs.quiet_bind (Signs.ask _) fun expiryTime => Signs.orReturn_bind fun unsigned hunsigned =>
    Signs.quiet_bind (Signs.await _) fun clientSig s => ?_
  obtain ⟨hvault, hamount⟩ := unsignedPayload_ok hunsigned
  refine Prog.Leaves.modify_bind ⟨rfl, le_rfl, [_], rfl, le_rfl, ?_⟩
  intro p hp
  obtain rfl := List.mem_singleton.1 hp
  exact ⟨rfl, rfl, le_rfl, hvault, hamount⟩

/-- Every round of the loop signs one payload. -/
theorem retry_signs (attempts : ℕ) (last : Response) :
    (retry w request details signer began attempts last).Along (Signs details began attempts) := by
  induction attempts generalizing last with
  | zero => exact Signs.pure _
  | succ attempts ih =>
    suffices h : (retry w request details signer began (attempts + 1) last).Along
        (Signs details began (1 + attempts)) by rwa [Nat.add_comm 1 attempts] at h
    refine Signs.bind buildPaymentPayload_signs fun _ =>
      Signs.quiet_bind (Signs.await _) fun response => ?_
    refine .ite (fun _ => Signs.pure _) fun _ => ?_
    split
    · exact Signs.pure _
    · refine Signs.orReturn_bind fun reason _ => ?_
      cases reason with
      | none => exact Signs.pure _
      | some _ => exact ih response

/-- A deposit signs no payload. -/
theorem depositOnDemand_signs (autoDeposit : AutoDeposit) (reason : String) (attempt : ℕ) :
    (depositOnDemand w autoDeposit details reason attempt).Along (Signs details began 0) :=
  Signs.orReturn_bind fun _ _ => Signs.orReturn_bind fun _ _ => Signs.orReturn_bind fun _ _ =>
    Signs.orReturn_bind fun _ _ => Signs.await _

/-- A top-up signs at most one payload a retry. -/
theorem topUp_signs (paidResponse : Response) :
    (c.topUp w request details signer began paidResponse).Along
      (Signs details began depositSyncRetryAttempts) := by
  unfold topUp
  split
  · exact Signs.pure _
  · refine .ite (fun _ => Signs.pure _) fun _ => ?_
    split
    · exact Signs.pure _
    · refine Signs.orReturn_bind fun reason _ => ?_
      cases reason with
      | none => exact Signs.pure _
      | some reason =>
        exact Signs.quiet_bind (depositOnDemand_signs _ _ _) fun _ => retry_signs _ _

/-- A 402 that says that the balance is too small. -/
def ReportsInsufficient (E : Js.Engine) (response : Response) : Prop :=
  response.status = 402 ∧ ∃ body reason, readPaymentRequiredResponse E response = .ok body ∧
    insufficientBalanceReason E body = .ok (some reason)

/-- Without a report that the balance is too small, nothing more is signed. -/
theorem topUp_quiet {paidResponse : Response}
    (h : c.autoDeposit = none ∨ ¬ ReportsInsufficient w.engine paidResponse) :
    (c.topUp w request details signer began paidResponse).Along (Signs details began 0) := by
  unfold topUp
  split
  · exact Signs.pure _
  · next autoDeposit hauto =>
    have hreport := h.resolve_left (by rw [hauto]; simp)
    refine .ite (fun _ => Signs.pure _) fun hstatus => ?_
    split
    · exact Signs.pure _
    · next body hbody =>
      refine Signs.orReturn_bind fun reason hreason => ?_
      cases reason with
      | none => exact Signs.pure _
      | some reason => exact absurd ⟨not_not.1 hstatus, body, reason, hbody, hreason⟩ hreport

/-- The payment signs one payload, and what the answer to it leads to. -/
theorem pay_signs {most : ℕ}
    (h : ∀ k paidResponse, w.respond k = .ok paidResponse →
      (c.topUp w request details signer began paidResponse).Along (Signs details began most)) :
    (c.pay w request details signer began).Along (Signs details began (1 + most)) :=
  Signs.bind buildPaymentPayload_signs fun _ => Signs.await_bind h

end Client

/-! ### A client and a seller -/

namespace Sample

/-- A number by its digits. -/
def num (digits : List Char) (h : digits ≠ [] ∧ digits.all isNumberChar) : Json :=
  .scalar (.number ⟨digits, h.1, List.all_eq_true.1 h.2⟩)

/-- The hash of a key. -/
def keyHash : String := hexEncode (Bytes32.fill 0).bytes

/-- What stands in the local document. -/
def localDocument : Json :=
  .object [("attestationPolicyHash", .string "policy"), ("mode", .string "local-dev"),
    ("vaultConfig", .string "vault"), ("vaultSigner", .string "signer"),
    ("version", .scalar (.number Js.one))]

/-- What stands in the user data of the genuine document. -/
def userData : Json :=
  .object [("attestationPolicyHash", .string "policy"), ("snapshotSeqno", .scalar (.number Js.one)),
    ("tlsPublicKeySha256", .string keyHash), ("vaultConfig", .string "vault"),
    ("vaultSigner", .string "signer"), ("version", .scalar (.number Js.one))]

/-- The six bits of a character in either alphabet of base64. -/
def sextet? (c : Char) : Option ℕ :=
  let n := c.toNat
  if 65 ≤ n ∧ n ≤ 90 then some (n - 65)
  else if 97 ≤ n ∧ n ≤ 122 then some (n - 71)
  else if 48 ≤ n ∧ n ≤ 57 then some (n + 4)
  else if c = '+' ∨ c = '-' then some 62
  else if c = '/' ∨ c = '_' then some 63
  else none

/-- The bytes that groups of six bits make up. -/
def ofSextets : List ℕ → List UInt8
  | a :: b :: c :: d :: rest =>
    .ofNat (4 * a + b / 16) :: .ofNat (16 * b + c / 4) :: .ofNat (64 * c + d) :: ofSextets rest
  | [a, b, c] => [.ofNat (4 * a + b / 16), .ofNat (16 * b + c / 4)]
  | [a, b] => [.ofNat (4 * a + b / 16)]
  | _ => []

/-- Base64 up to the padding, as `Buffer.from` reads it. -/
def base64 (s : String) : List UInt8 := ofSextets ((s.toList.takeWhile (· ≠ '=')).filterMap sextet?)

/-- The character of six bits. -/
def ofSextet (n : ℕ) : Char :=
  Char.ofNat (if n < 26 then n + 65 else if n < 52 then n + 71 else if n < 62 then n - 4
    else if n = 62 then 43 else 47)

/-- Base64 with padding. -/
def toBase64 : List UInt8 → List Char
  | a :: b :: c :: rest =>
    let n := 65536 * a.toNat + 256 * b.toNat + c.toNat
    ofSextet (n / 262144) :: ofSextet (n / 4096 % 64) :: ofSextet (n / 64 % 64)
      :: ofSextet (n % 64) :: toBase64 rest
  | [a, b] =>
    let n := 256 * a.toNat + b.toNat
    [ofSextet (n / 1024), ofSextet (n / 16 % 64), ofSextet (4 * n % 64), '=']
  | [a] => [ofSextet (a.toNat / 4), ofSextet (16 * a.toNat % 64), '=', '=']
  | [] => []

/-- A time of the first day of 1970. -/
def toISOString (ms : ℕ) : String :=
  let digits (width n : ℕ) := String.ofList (zeroPad width n)
  "1970-01-01T" ++ digits 2 (ms / 3600000) ++ ":" ++ digits 2 (ms / 60000 % 60) ++ ":"
    ++ digits 2 (ms / 1000 % 60) ++ "." ++ digits 3 (ms % 1000) ++ "Z"

def engine : Js.Engine where
  sameNumber a b := a.text = b.text
  isZero n := n.text = ['0']
  bigInt
    | .scalar (.number n) => (Json.decimal? n.text).map Int.ofNat
    | _ => none
  exceeds n
    | some (.scalar (.number m)) => (Json.decimal? m.text).elim false (· < n)
    | _ => false
  toLowerCase s := s
  toUpperCase s := s
  display
    | .scalar a => String.ofList a.text
    | _ => "[object Object]"
  base64 := base64
  base64Url := base64
  buffer _ := .error .builtin
  toBase64 bytes := String.ofList (toBase64 bytes)
  parseJson bytes :=
    if bytes = utf8 localDocument.canonical then .ok localDocument
    else if bytes = utf8 userData.canonical then .ok userData
    else .error "Unexpected token"
  parseDate
    | some (.string "1970-01-01T00:00:00.000Z") => some 0
    | some (.string "1970-01-01T00:16:40.000Z") => some 1000000
    | _ => none
  toISOString ms := toISOString ms.toNat
  sha256hex _ := keyHash
  parseUrl url := .ok (url, "/", "")

/-- The document that the enclave sends is the byte 78. -/
def nitro : NitroVerifier where
  parse bytes :=
    if bytes = [78] then
      .ok { timestampMs := 0, digest := "SHA384", pcrs := [("0", "aa")], publicKeyDer := some [1]
            userData := some (utf8 userData.canonical), nonce := none }
    else .error .builtin
  verifyCertificateChain _ _ _ := .ok ()
  verifyCoseSignature _ := .ok ()

/-- An option with its price and the decimals that the seller names. -/
def offer (amount : String) (decimals : Json) : Json :=
  .object [("amount", .string amount), ("asset", .object [("decimals", decimals)]),
    ("facilitatorUrl", .string "https://f"), ("network", .string "solana:x"),
    ("scheme", .string "subly402-svm-v1"),
    ("vault", .object [("attestationPolicyHash", .string "policy"), ("config", .string "vault"),
      ("signer", .string "signer")])]

def paymentRequired (option : Json) : Response :=
  { status := 402, paymentRequired := none, json := some (.object [("accepts", .array [option])]) }

/-- The facilitator's response with a document. -/
def attestation (document : String) : Json :=
  .object [("attestationDocument", .string document), ("attestationPolicyHash", .string "policy"),
    ("expiresAt", .string "1970-01-01T00:16:40.000Z"),
    ("issuedAt", .string "1970-01-01T00:00:00.000Z"), ("tlsPublicKeySha256", .string keyHash),
    ("vaultConfig", .string "vault"),
    ("vaultSigner", .string "signer")]

/-- A seller that answers the first request of a call with an option and every other one in one
way; a second call starts at the question 12. -/
def world (document : String) (option : Json) (answer : Response) : World where
  engine := engine
  nitro := nitro
  respond k := .ok (if k = 0 ∨ k = 12 then paymentRequired option else answer)
  attestation _ _ := .ok { ok := true, status := 200, json := some (attestation document) }
  probeTls _ _ := .ok keyHash
  now _ := 0
  uuid k := String.ofList (List.replicate k 'u')
  sign _ _ _ := .ok "signature"
  deposit _ _ := .ok ()
  documentValidator _ _ _ := .ok ()
  attestationVerifier _ _ := .ok ()

/-- The configuration pins a PCR and leaves the rest to the defaults. -/
def config : NitroAttestationConfig where
  policy := none
  expectedPcrs := some [("0", "aa")]
  expectedPolicyHash := none
  expectedNonce := none
  expectedVaultSigner := none
  maxAgeMs := none
  rootCertificatesPem := []
  requireSubly402UserData := none
  allowMissingPcrPinning := false

/-- A client with a policy of one token for each request. -/
def client : Client where
  trustedFacilitators := []
  maxPaymentPerRequest := some (.text "$1")
  autoDeposit := none
  nitroAttestation := some config
  hasAttestationVerifier := false
  schemes := [("solana:*", ⟨some "address", none⟩)]
  defaultScheme := none

/-- The same client with `autoDeposit`. -/
def depositing : Client := { client with autoDeposit := some ⟨none⟩ }

def request : Request where
  url := "https://s"
  method := none
  body := .ok []

def session : Session where
  cache := ∅
  steps := 0
  signed := []

/-- An answer that ends a call. -/
def served : Response := { status := 200, paymentRequired := none, json := none }

/-- An answer that has the client top up, and then try again. -/
def short : Response :=
  { status := 402, paymentRequired := none
    json := some (.object [("error", .string "insufficient_balance"),
      ("message", .string "deposit synchronization")]) }

def six : Json := num ['6'] (by simp [isNumberChar])

def eighteen : Json := num ['1', '8'] (by simp [isNumberChar])

/-- A seller behind a genuine enclave. -/
def shop (decimals : Json) (amount : String) (answer : Response) : World :=
  world "Tg==" (offer amount decimals) answer

/-- A seller whose facilitator sends a local document. -/
def impostor : World :=
  world (String.ofList (toBase64 (utf8 localDocument.canonical))) (offer "1000000" six) served

end Sample

end Sdk
end Subly402
