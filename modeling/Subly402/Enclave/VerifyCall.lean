/-
# `/verify` as it is called

`post_verify` of `enclave/src/handlers.rs` with everything it looks at: the vault's status,
the payment details, the expiry, the client's signature, the request hash, and the
provider's registration and headers.  What it does after these checks is
`Handlers.postVerify`.
-/

import Subly402.Lib.Lines
import Subly402.Enclave.PaymentRequest
import Subly402.Enclave.Resends

namespace Subly402

open Lib
open Lib.Prog (okOr failIf orReturn Returns Leaves)

/-! ### The call -/

/-- `PaymentPayload`. -/
structure SignedPayload extends PaymentPayload where
  version : ℕ
  expiresAt : String
  nonce : String
  clientSig : String

/-- The headers that `post_verify` reads. -/
structure ProviderHeaders where
  /-- `x-subly402-provider-id`. -/
  providerId : Option String
  /-- `x-subly402-provider-auth`. -/
  providerAuth : Option String
  authorization : Option String
  /-- The fingerprint that the TLS listener puts in. -/
  mtlsFingerprint : Option String

/-- The headers and the body of a `/verify` request. -/
structure VerifyCall where
  headers : ProviderHeaders
  payload : SignedPayload
  paymentDetails : Option Json
  requestContext : RequestContext

/-- What a call meets: the detector, the vault's account and the clock. -/
structure VerifyMoment where
  /-- The detector is enabled and not ready. -/
  depositSync : Bool
  /-- `vault_config.status`, where the account could be read. -/
  status : Option ℕ
  now : ℤ
  times : Times

/-- The libraries that read the texts of a payload. -/
structure VerifyLibs (env : Env) where
  /-- `verify_ed25519_signature`. -/
  verify : SignatureCheck
  /-- `chrono::DateTime::parse_from_rfc3339`. -/
  parseRfc3339 : String → Option ℤ
  parseRfc3339_line : ∀ {text time}, parseRfc3339 text = some time → breaks text = 0
  pubkeyFromStr_line : ∀ {text key}, env.pubkeyFromStr text = some key → breaks text = 0

/-! ### What is signed and hashed -/

/-- The message of `verify_client_signature`. -/
def signatureMessage (payload : SignedPayload) : String :=
  "SUBLY402-SVM-V1-AUTH\n" ++ (toString payload.version ++ "\n") ++ (payload.scheme ++ "\n")
    ++ (payload.paymentId ++ "\n") ++ (payload.client ++ "\n") ++ (payload.vault ++ "\n")
    ++ (payload.providerId ++ "\n") ++ (payload.payTo ++ "\n") ++ (payload.network ++ "\n")
    ++ (payload.assetMint ++ "\n") ++ (payload.amount ++ "\n") ++ (payload.requestHash ++ "\n")
    ++ (payload.paymentDetailsHash ++ "\n") ++ (payload.expiresAt ++ "\n")
    ++ (payload.nonce ++ "\n")

/-- The signed fields in their order. -/
def SignedPayload.fields (p : SignedPayload) : List String :=
  [toString p.version, p.scheme, p.paymentId, p.client, p.vault, p.providerId, p.payTo, p.network,
    p.assetMint, p.amount, p.requestHash, p.paymentDetailsHash, p.expiresAt, p.nonce]

/-- The signed text is a tag and lines. -/
theorem signatureMessage_eq (p : SignedPayload) :
    signatureMessage p = "SUBLY402-SVM-V1-AUTH\n" ++ lines p.fields := by
  unfold signatureMessage SignedPayload.fields
  simp only [lines_cons_cons, lines_singleton, String.append_assoc]

/-- The request text is a tag and lines. -/
theorem requestText_eq (ctx : RequestContext) (hash : String) :
    requestText ctx hash = "SUBLY402-SVM-V1-REQ\n" ++
      lines [ctx.method, ctx.origin, ctx.pathAndQuery, ctx.bodySha256, hash] := by
  unfold requestText
  simp only [lines_cons_cons, lines_singleton, String.append_assoc]

/-- What `derive_open_provider_id` hashes. -/
def openProviderText (network assetMint payTo : String) : String :=
  "SUBLY402-OPEN-PROVIDER-V1\n" ++ network ++ "\n" ++ assetMint ++ "\n" ++ payTo ++ "\n"

/-- The provider text is a tag and lines. -/
theorem openProviderText_eq (network assetMint payTo : String) :
    openProviderText network assetMint payTo
      = "SUBLY402-OPEN-PROVIDER-V1\n" ++ lines [network, assetMint, payTo] := by
  unfold openProviderText
  simp only [lines_cons_cons, lines_singleton, String.append_assoc]

namespace Sdk

/-- `buildSignatureMessage`, with a version that is a whole number. -/
def buildSignatureMessage (fields : SignedPayload) : List UInt8 :=
  utf8 ("SUBLY402-SVM-V1-AUTH\n" ++ toString fields.version ++ "\n" ++ fields.scheme ++ "\n"
    ++ fields.paymentId ++ "\n" ++ fields.client ++ "\n" ++ fields.vault ++ "\n"
    ++ fields.providerId ++ "\n" ++ fields.payTo ++ "\n" ++ fields.network ++ "\n"
    ++ fields.assetMint ++ "\n" ++ fields.amount ++ "\n" ++ fields.requestHash ++ "\n"
    ++ fields.paymentDetailsHash ++ "\n" ++ fields.expiresAt ++ "\n" ++ fields.nonce ++ "\n")

/-- The preimage of the client's `computeRequestHash`. -/
def requestPreimage (method origin pathAndQuery bodySha256 paymentDetailsHash : String) :
    List UInt8 :=
  utf8 ("SUBLY402-SVM-V1-REQ\n" ++ method ++ "\n" ++ origin ++ "\n" ++ pathAndQuery ++ "\n"
    ++ bodySha256 ++ "\n" ++ paymentDetailsHash ++ "\n")

/-- What `deriveProviderId` of the middleware gives to its hash. -/
def providerIdPreimage (network assetMint payTo : String) : List UInt8 :=
  utf8 "SUBLY402-OPEN-PROVIDER-V1\n" ++ utf8 network ++ utf8 "\n" ++ utf8 assetMint ++ utf8 "\n"
    ++ utf8 payTo ++ utf8 "\n"

end Sdk

/-! ### `post_verify` -/

namespace VerifyCall

/-- `post_verify` up to where it looks for the provider. -/
def check (env : Env) (libs : VerifyLibs env) (vaultConfig : Pubkey) (details : Json) (now : ℤ)
    (call : VerifyCall) : Except EnclaveError Handlers.VerifyRequest := do
  let payload := call.payload
  refuseIf (payload.scheme ≠ "subly402-svm-v1") .invalidScheme
  refuseIf ((details.get "scheme").bind Json.asStr ≠ some "subly402-svm-v1") .invalidScheme
  let computedHash := computePaymentDetailsHash env details
  let providedHash ← okOrElse (hexDecode payload.paymentDetailsHash) .paymentDetailsHashMismatch
  refuseIf (computedHash.bytes ≠ providedHash) .paymentDetailsHashMismatch
  validatePaymentDetailsMatchPayload details payload.toPaymentPayload
  refuseIf (payload.vault ≠ env.pubkeyToString vaultConfig) .vaultNotActive
  let expiresAt ← okOrElse (libs.parseRfc3339 payload.expiresAt) .paymentExpired
  refuseIf (expiresAt < now) .paymentExpired
  let clientPubkey ← okOrElse (env.pubkeyFromStr payload.client) .invalidClientSignature
  refuseIf (¬ libs.verify clientPubkey (signatureMessage payload) payload.clientSig)
    .invalidClientSignature
  let computedRequestHash := computeRequestHash env call.requestContext payload.paymentDetailsHash
  let providedRequestHash ← okOrElse (hexDecode payload.requestHash) .requestHashMismatch
  refuseIf (computedRequestHash.bytes ≠ providedRequestHash) .requestHashMismatch
  let amount ← okOrElse (parseU64 payload.amount) (.internal "Invalid amount")
  let verifyWindowSec ← parseVerifyWindowSec details
  return { paymentId := payload.paymentId, client := payload.client
           providerId := payload.providerId, amount, requestHash := computedRequestHash
           paymentDetailsHash := computedHash, verifyWindowSec }

/-- The comparison of a payload with the provider's registration. -/
def matchProvider (env : Env) (provider : ProviderRegistration) (call : VerifyCall) :
    Except EnclaveError Unit := do
  refuseIf (call.payload.payTo ≠ env.pubkeyToString provider.settlementTokenAccount) .payToMismatch
  refuseIf (call.payload.assetMint ≠ env.pubkeyToString provider.assetMint) .assetMintMismatch
  refuseIf (call.payload.network ≠ provider.network) .networkMismatch
  refuseIf (provider.allowedOrigins ≠ [] ∧ call.requestContext.origin ∉ provider.allowedOrigins)
    .originNotAllowed

end VerifyCall

namespace Handlers

/-- `ensure_vault_allows_new_verification`. -/
def ensureVaultAllowsNewVerification (status : Option ℕ) : Except EnclaveError Unit :=
  match status with
  | none => .error .vaultStatusUnavailable
  | some status =>
    if status = Chain.vaultStatusActive then .ok ()
    else if status = Chain.vaultStatusPaused then .error .vaultPaused
    else if status = Chain.vaultStatusMigrating then .error .vaultMigrating
    else if status = Chain.vaultStatusRetired then .error .vaultRetired
    else .error .vaultStatusUnavailable

/-- The token of an `Authorization: Bearer` header. -/
def bearerToken (headers : ProviderHeaders) : Option String :=
  headers.authorization.bind fun value =>
    if "Bearer ".toList.isPrefixOf value.toList then some (String.ofList (value.toList.drop 7))
    else none

/-- A provider id in the headers is the provider's. -/
def matchProviderId (provider : ProviderRegistration) (headers : ProviderHeaders) :
    Except EnclaveError Unit :=
  refuseIf (∃ id ∈ headers.providerId, id ≠ provider.providerId) .providerIdMismatch

/-- `authenticate_registered_provider`. -/
def authenticateRegisteredProvider (env : Env) (provider : ProviderRegistration)
    (headers : ProviderHeaders) : Except EnclaveError Unit :=
  if provider.authMode = "bearer" then do
    let apiKeyHash ← okOrElse provider.apiKeyHash .invalidProviderAuthConfig
    refuseIf (apiKeyHash.length ≠ 32) .invalidProviderAuthConfig
    let providerId ← okOrElse headers.providerId .providerAuthFailed
    refuseIf (providerId ≠ provider.providerId) .providerIdMismatch
    let token ← okOrElse (bearerToken headers) .providerAuthFailed
    refuseIf ((env.curve.sha256 (utf8 token)).bytes ≠ apiKeyHash) .providerAuthFailed
  else if provider.authMode = "api-key" then do
    let apiKeyHash ← okOrElse provider.apiKeyHash .invalidProviderAuthConfig
    refuseIf (apiKeyHash.length ≠ 32) .invalidProviderAuthConfig
    matchProviderId provider headers
    let token ← okOrElse (headers.providerAuth.or (bearerToken headers)) .providerAuthFailed
    refuseIf ((env.curve.sha256 (utf8 token)).bytes ≠ apiKeyHash) .providerAuthFailed
  else if provider.authMode = "mtls" then do
    let expectedFingerprint ← okOrElse provider.mtlsCertFingerprint .invalidProviderAuthConfig
    refuseIf (expectedFingerprint.length ≠ 32) .invalidProviderAuthConfig
    matchProviderId provider headers
    let presented ← okOrElse headers.mtlsFingerprint .providerAuthFailed
    let presentedFingerprint ← okOrElse (hexDecode presented) .providerAuthFailed
    refuseIf (presentedFingerprint ≠ expectedFingerprint) .providerAuthFailed
  else if provider.authMode = "none" then matchProviderId provider headers
  else .error .unsupportedProviderAuthMode

/-- `post_verify` with its checks. -/
def postVerifyCall (env : Env) (libs : VerifyLibs env) (vaultConfig : Pubkey) (call : VerifyCall)
    (m : VerifyMoment) : AppM VerifyResponse := do
  let details ← okOr call.paymentDetails .paymentDetailsRequired
  failIf m.depositSync .depositSyncInProgress
  orReturn (ensureVaultAllowsNewVerification m.status)
  let req ← orReturn (call.check env libs vaultConfig details m.now)
  let payload := call.payload
  ensureOpenProviderRegistered env
    { providerId := payload.providerId, network := payload.network
      assetMint := payload.assetMint, payTo := payload.payTo }
  let provider ← okOr (← get).vault.providers[payload.providerId]? .providerNotFound
  orReturn (authenticateRegisteredProvider env provider call.headers)
  orReturn (call.matchProvider env provider)
  postVerify env req m.times

end Handlers

/-! ### What acceptance says about line breaks -/

/-- Signed fields that `post_verify` reads as something other than a text. -/
structure SignedPayload.Checked (p : SignedPayload) : Prop where
  scheme : breaks p.scheme = 0
  client : breaks p.client = 0
  vault : breaks p.vault = 0
  amount : breaks p.amount = 0
  requestHash : breaks p.requestHash = 0
  paymentDetailsHash : breaks p.paymentDetailsHash = 0
  expiresAt : breaks p.expiresAt = 0

/-- A payload that also matches its provider's registration. -/
structure SignedPayload.Matched (p : SignedPayload) : Prop extends p.Checked where
  payTo : breaks p.payTo = 0
  assetMint : breaks p.assetMint = 0

/-- A number has no line break. -/
theorem breaks_of_parseU64 {text : String} {n : ℕ} (h : parseU64 text = some n) :
    breaks text = 0 := by
  unfold parseU64 at h
  obtain ⟨m, hm, -⟩ := Option.bind_eq_some_iff.1 h
  have hdigits : ∀ {cs : List Char} {m : ℕ}, Json.decimal? cs = some m → '\n' ∉ cs := by
    intro cs m hm hmem
    unfold Json.decimal? at hm
    split at hm
    · next hall => exact absurd (List.all_eq_true.1 hall.2 _ hmem) (by decide)
    · cases hm
  rw [breaks_eq_zero]
  split at hm
  · next digits htext =>
    rw [htext, List.mem_cons, not_or]
    exact ⟨by decide, hdigits hm⟩
  · exact hdigits hm

section Accepted

variable {env : Env} {libs : VerifyLibs env} {vaultConfig : Pubkey} {call : VerifyCall}

/-- A printed key has no line break. -/
theorem VerifyLibs.breaks_pubkeyToString (libs : VerifyLibs env) (key : Pubkey) :
    breaks (env.pubkeyToString key) = 0 :=
  libs.pubkeyFromStr_line (env.pubkeyFromStr_toString key)

/-- What the check makes of an accepted payload. -/
theorem VerifyCall.check_checked {details : Json} {now : ℤ} {req : Handlers.VerifyRequest}
    (h : call.check env libs vaultConfig details now = .ok req) : call.payload.Checked := by
  simp only [check, bind_eq_ok, refuseIf_eq_ok, okOrElse_eq_ok, ne_eq, not_not, exists_const] at h
  obtain ⟨hscheme, -, _, hprovided, -, _, -, hvault, _, hexpires, -, _, hclient, -, _,
    hprovidedRequest, -, _, hamount, -⟩ := h
  exact {
    scheme := by rw [hscheme]; decide
    client := libs.pubkeyFromStr_line hclient
    vault := by rw [hvault]; exact libs.breaks_pubkeyToString _
    amount := breaks_of_parseU64 hamount
    requestHash := breaks_of_hexDecode hprovidedRequest
    paymentDetailsHash := breaks_of_hexDecode hprovided
    expiresAt := libs.parseRfc3339_line hexpires }

/-- **Accepted payloads have line breaks in four fields at most.** -/
theorem postVerifyCall_matched (m : VerifyMoment) (s : AppState) :
    (Handlers.postVerifyCall env libs vaultConfig call m).Returns s
      fun _ _ => call.payload.Matched := by
  refine .okOr_bind fun details _ => .failIf_bind fun _ => .orReturn_bind fun _ _ =>
    .orReturn_bind fun req hreq => ?_
  have hchecked := VerifyCall.check_checked hreq
  refine .bind (P := fun _ _ => True) (fun _ _ _ => trivial) fun _ _ _ => .get_bind <|
    .okOr_bind fun provider _ => .orReturn_bind fun _ _ => .orReturn_bind fun _ hmatch => ?_
  simp only [VerifyCall.matchProvider, bind_eq_ok, refuseIf_eq_ok, ne_eq, not_not, exists_const]
    at hmatch
  obtain ⟨hpayTo, hmint, -⟩ := hmatch
  exact fun _ _ _ => {
    hchecked with
    payTo := by rw [hpayTo]; exact libs.breaks_pubkeyToString _
    assetMint := by rw [hmint]; exact libs.breaks_pubkeyToString _ }

end Accepted

/-! ### Unambiguous texts -/

/-- The payload without the signature. -/
def SignedPayload.signed (p : SignedPayload) : SignedPayload := { p with clientSig := "" }

/-- Payloads sign alike exactly when their fields agree. -/
theorem SignedPayload.signed_eq_iff {p p' : SignedPayload} :
    p.signed = p'.signed ↔ p.fields = p'.fields := by
  constructor
  · intro h
    have hfields : p.signed.fields = p'.signed.fields := by rw [h]
    exact hfields
  · intro h
    obtain ⟨⟨_, _, _, _, _, _, _, _, _, _, _⟩, _, _, _, _⟩ := p
    obtain ⟨⟨_, _, _, _, _, _, _, _, _, _, _⟩, _, _, _, _⟩ := p'
    simp only [fields, List.cons.injEq, and_true] at h
    obtain ⟨hversion, rfl, rfl, rfl, rfl, rfl, rfl, rfl, rfl, rfl, rfl, rfl, rfl, rfl⟩ := h
    rw [Nat.repr_inj.1 hversion]
    rfl

/-- The payloads have the same numbers of line breaks where there can be any, the nonce apart. -/
def SignedPayload.SameBreaks (p p' : SignedPayload) : Prop :=
  breaks p.paymentId = breaks p'.paymentId ∧ breaks p.providerId = breaks p'.providerId ∧
    breaks p.network = breaks p'.network

instance (p p' : SignedPayload) : Decidable (p.SameBreaks p') :=
  inferInstanceAs (Decidable (_ ∧ _ ∧ _))

/-- One signed text, one payload. -/
theorem SignedPayload.Matched.signed_iff {p p' : SignedPayload} (hp : p.Matched) (hp' : p'.Matched)
    (h : signatureMessage p = signatureMessage p') : p.signed = p'.signed ↔ p.SameBreaks p' := by
  rw [signed_eq_iff]
  constructor
  · intro hfields
    simp only [fields, List.cons.injEq] at hfields
    unfold SameBreaks
    rw [hfields.2.2.1, hfields.2.2.2.2.2.1, hfields.2.2.2.2.2.2.2.1]
    exact ⟨rfl, rfl, rfl⟩
  · rintro ⟨hpayment, hprovider, hnetwork⟩
    rw [signatureMessage_eq, signatureMessage_eq] at h
    have hsum := sum_breaks_eq (by rfl) h
    refine lines_inj_of_append ?_ h
    have hversion := breaks_toString p.version
    have hversion' := breaks_toString p'.version
    -- every field but the nonce has the same number, and so has the nonce
    simp only [fields, List.map_cons, List.map_nil, List.sum_cons, List.sum_nil, hversion, hversion',
      hp.scheme, hp'.scheme, hp.client, hp'.client, hp.vault, hp'.vault, hp.amount, hp'.amount,
      hp.requestHash, hp'.requestHash, hp.paymentDetailsHash, hp'.paymentDetailsHash, hp.expiresAt,
      hp'.expiresAt, hp.payTo, hp'.payTo, hp.assetMint, hp'.assetMint, hpayment, hprovider,
      hnetwork] at hsum ⊢
    have hnonce : breaks p.nonce = breaks p'.nonce := by omega
    rw [hnonce]

/-- One request text, one request. -/
theorem requestText_iff {ctx ctx' : RequestContext} {hash hash' : String}
    (h : requestText ctx hash = requestText ctx' hash') :
    ctx = ctx' ∧ hash = hash' ↔ breaks ctx.method = breaks ctx'.method ∧
      breaks ctx.origin = breaks ctx'.origin ∧ breaks ctx.pathAndQuery = breaks ctx'.pathAndQuery ∧
      breaks ctx.bodySha256 = breaks ctx'.bodySha256 := by
  constructor
  · rintro ⟨rfl, -⟩
    exact ⟨rfl, rfl, rfl, rfl⟩
  · rintro ⟨hmethod, horigin, hpath, hbody⟩
    rw [requestText_eq, requestText_eq] at h
    have hsum := sum_breaks_eq (by rfl) h
    simp only [List.map_cons, List.map_nil, List.sum_cons, List.sum_nil] at hsum
    have hhash : breaks hash = breaks hash' := by omega
    have hfields := lines_inj_of_append
      (by simp only [List.map_cons, List.map_nil, hmethod, horigin, hpath, hbody, hhash]) h
    obtain ⟨_, _, _, _⟩ := ctx
    obtain ⟨_, _, _, _⟩ := ctx'
    simp only [List.cons.injEq, and_true] at hfields
    obtain ⟨rfl, rfl, rfl, rfl, rfl⟩ := hfields
    exact ⟨rfl, rfl⟩

/-- One text of an open provider's id, one network, mint and account. -/
theorem openProviderText_iff {network network' assetMint assetMint' payTo payTo' : String}
    (h : openProviderText network assetMint payTo = openProviderText network' assetMint' payTo') :
    network = network' ∧ assetMint = assetMint' ∧ payTo = payTo' ↔
      breaks network = breaks network' ∧ breaks assetMint = breaks assetMint' := by
  constructor
  · rintro ⟨rfl, rfl, -⟩
    exact ⟨rfl, rfl⟩
  · rintro ⟨hnetwork, hmint⟩
    rw [openProviderText_eq, openProviderText_eq] at h
    have hsum := sum_breaks_eq (by rfl) h
    simp only [List.map_cons, List.map_nil, List.sum_cons, List.sum_nil] at hsum
    have hpayTo : breaks payTo = breaks payTo' := by omega
    have hfields := lines_inj_of_append
      (by simp only [List.map_cons, List.map_nil, hnetwork, hmint, hpayTo]) h
    simp only [List.cons.injEq, and_true] at hfields
    exact hfields

/-- **Signed and hashed texts are unambiguous up to line breaks in the fields, and both languages
build the same bytes.** -/
theorem bindings_unambiguous_iff {env : Env} (libs : VerifyLibs env) :
    (∀ (vaultConfig vaultConfig' : Pubkey) (call call' : VerifyCall) (m m' : VerifyMoment)
      (s s' : AppState) (response response' : Handlers.VerifyResponse),
      ((Handlers.postVerifyCall env libs vaultConfig call m).run s).1 = .ok response →
      ((Handlers.postVerifyCall env libs vaultConfig' call' m').run s').1 = .ok response' →
      utf8 (signatureMessage call.payload) = utf8 (signatureMessage call'.payload) →
      (call.payload.signed = call'.payload.signed ↔ call.payload.SameBreaks call'.payload)) ∧
    (∀ (ctx ctx' : RequestContext) (hash hash' : String),
      utf8 (requestText ctx hash) = utf8 (requestText ctx' hash') →
      (ctx = ctx' ∧ hash = hash' ↔ breaks ctx.method = breaks ctx'.method ∧
        breaks ctx.origin = breaks ctx'.origin ∧
        breaks ctx.pathAndQuery = breaks ctx'.pathAndQuery ∧
        breaks ctx.bodySha256 = breaks ctx'.bodySha256)) ∧
    (∀ network network' assetMint assetMint' payTo payTo' : String,
      utf8 (openProviderText network assetMint payTo)
        = utf8 (openProviderText network' assetMint' payTo') →
      (network = network' ∧ assetMint = assetMint' ∧ payTo = payTo' ↔
        breaks network = breaks network' ∧ breaks assetMint = breaks assetMint')) ∧
    (∀ payload : SignedPayload,
      utf8 (signatureMessage payload) = Sdk.buildSignatureMessage payload) ∧
    (∀ (ctx : RequestContext) (hash : String), utf8 (requestText ctx hash)
      = Sdk.requestPreimage ctx.method ctx.origin ctx.pathAndQuery ctx.bodySha256 hash) ∧
    ∀ network assetMint payTo : String, utf8 (openProviderText network assetMint payTo)
      = Sdk.providerIdPreimage network assetMint payTo := by
  refine ⟨?_, fun _ _ _ _ h => requestText_iff (utf8_injective h),
    fun _ _ _ _ _ _ h => openProviderText_iff (utf8_injective h), fun payload => ?_,
    fun _ _ => rfl, fun network assetMint payTo => ?_⟩
  · intro vaultConfig vaultConfig' call call' m m' s s' response response' hok hok' h
    have hmatched : call.payload.Matched :=
      postVerifyCall_matched m s response _ (Prod.ext hok rfl)
    have hmatched' : call'.payload.Matched :=
      postVerifyCall_matched m' s' response' _ (Prod.ext hok' rfl)
    exact hmatched.signed_iff hmatched' (utf8_injective h)
  · unfold signatureMessage Sdk.buildSignatureMessage
    simp only [String.append_assoc]
  · unfold openProviderText Sdk.providerIdPreimage
    simp only [utf8_append, List.append_assoc]

/-! ### One signature, two payments -/

namespace Resold

open Shop (world)

def client : String := hexEncode (Bytes32.fill 1).bytes
def account : String := hexEncode (Bytes32.fill 2).bytes
def mint : String := hexEncode (Bytes32.fill 3).bytes
def vault : String := hexEncode (Bytes32.fill 9).bytes
def expiry : String := "2026-01-01T00:00:00Z"

/-- What a seller asks for. -/
def details (providerId network amount : String) : Json :=
  .object [("amount", .string amount), ("asset", .object [("mint", .string mint)]),
    ("network", .string network), ("payTo", .string account), ("providerId", .string providerId),
    ("scheme", .string "subly402-svm-v1"), ("vault", .object [("config", .string vault)]),
    ("verifyWindowSec", Shop.minute)]

def context : RequestContext :=
  { method := "GET", origin := "https://shop", pathAndQuery := "/", bodySha256 := "" }

/-- The text of the hash of what a seller asks for. -/
def detailsHash (providerId network amount : String) : String :=
  hexEncode (computePaymentDetailsHash world (details providerId network amount)).bytes

/-- The text of the hash of a request for it. -/
def requestHash (providerId network amount : String) : String :=
  hexEncode (computeRequestHash world context (detailsHash providerId network amount)).bytes

/-- A payment for it. -/
def payload (paymentId providerId network amount nonce : String) : SignedPayload :=
  { scheme := "subly402-svm-v1", paymentId, client, vault, providerId, payTo := account, network
    assetMint := mint, amount, requestHash := requestHash providerId network amount
    paymentDetailsHash := detailsHash providerId network amount, version := 1, expiresAt := expiry
    nonce, clientSig := "signature" }

/-- A network that has the lines of an offer of three in it. -/
def network : String :=
  lines ["solana", client, vault, "plain", account, "solana", mint, "3",
    requestHash "plain" "solana" "3", detailsHash "plain" "solana" "3", expiry] ++ "0"

/-- The payment of one that the client signs. -/
def small : SignedPayload := payload "pay" "odd" network "1" "7"

/-- The payment of three that the same text reads as: what stands before the lines of the offer and
after them are its payment id and its nonce. -/
def large : SignedPayload :=
  payload (lines ["pay", client, vault, "odd", account] ++ "solana") "plain" "solana" "3"
    (lines ["0", mint, "1", requestHash "odd" network "1", detailsHash "odd" network "1", expiry]
      ++ "7")

/-- Two amounts, one signed text. -/
theorem one_text : signatureMessage small = signatureMessage large := by
  unfold signatureMessage small large network payload
  simp only [lines_cons_cons, lines_singleton, String.append_assoc]

/-- A client who signs the small payment and nothing else. -/
def libs : VerifyLibs world where
  verify key message clientSig :=
    key = .fill 1 ∧ message = signatureMessage small ∧ clientSig = "signature"
  parseRfc3339 text := if text = expiry then some 100 else none
  parseRfc3339_line {text time} h := by
    split at h
    · next heq => rw [heq]; decide
    · cases h
  pubkeyFromStr_line {text key} h := by
    obtain ⟨bytes, hbytes, -⟩ := Option.bind_eq_some_iff.1 h
    exact breaks_of_hexDecode hbytes

/-- The request for a payment. -/
def call (p : SignedPayload) : VerifyCall :=
  { headers := ⟨none, none, none, none⟩, payload := p, requestContext := context
    paymentDetails := some (details p.providerId p.network p.amount) }

/-- What the enclave takes from it. -/
def request (p : SignedPayload) (amount : ℕ) : Handlers.VerifyRequest :=
  { paymentId := p.paymentId, client, providerId := p.providerId, amount, verifyWindowSec := 60
    requestHash := computeRequestHash world context p.paymentDetailsHash
    paymentDetailsHash := computePaymentDetailsHash world (details p.providerId p.network p.amount) }

/-- The check accepts every payload with that text. -/
theorem check_call {paymentId providerId network amount nonce : String} {n : ℕ}
    (hn : parseU64 amount = some n)
    (htext : signatureMessage (payload paymentId providerId network amount nonce)
      = signatureMessage small) :
    (call (payload paymentId providerId network amount nonce)).check world libs (.fill 9)
        (details providerId network amount) 1
      = .ok (request (payload paymentId providerId network amount nonce) n) := by
  have hclient : world.pubkeyFromStr client = some (.fill 1) := world.pubkeyFromStr_toString _
  have hdetails : validatePaymentDetailsMatchPayload (details providerId network amount)
      (payload paymentId providerId network amount nonce).toPaymentPayload = .ok () := by
    refine bind_eq_ok.2 ⟨providerId, rfl, bind_eq_ok.2 ⟨(), refuseIf_eq_ok.2 (not_not.2 rfl), ?_⟩⟩
    refine bind_eq_ok.2 ⟨account, rfl, bind_eq_ok.2 ⟨(), refuseIf_eq_ok.2 (not_not.2 rfl), ?_⟩⟩
    refine bind_eq_ok.2 ⟨network, rfl, bind_eq_ok.2 ⟨(), refuseIf_eq_ok.2 (not_not.2 rfl), ?_⟩⟩
    refine bind_eq_ok.2 ⟨mint, rfl, bind_eq_ok.2 ⟨(), refuseIf_eq_ok.2 (not_not.2 rfl), ?_⟩⟩
    refine bind_eq_ok.2 ⟨amount, rfl, bind_eq_ok.2 ⟨(), refuseIf_eq_ok.2 (not_not.2 rfl), ?_⟩⟩
    exact bind_eq_ok.2 ⟨vault, rfl, refuseIf_eq_ok.2 (not_not.2 rfl)⟩
  have hscheme : ((details providerId network amount).get "scheme").bind Json.asStr
      = some "subly402-svm-v1" := rfl
  have hwindow : parseVerifyWindowSec (details providerId network amount) = .ok 60 := rfl
  have hverify : libs.verify (.fill 1)
      (signatureMessage (payload paymentId providerId network amount nonce)) "signature" = true := by
    rw [htext]
    simp [libs]
  have hexpiry : libs.parseRfc3339 expiry = some 100 := rfl
  refine bind_eq_ok.2 ⟨(), refuseIf_eq_ok.2 (by simp [call, payload]), ?_⟩
  refine bind_eq_ok.2 ⟨(), refuseIf_eq_ok.2 (by simp [hscheme]), ?_⟩
  refine bind_eq_ok.2 ⟨_, okOrElse_eq_ok.2 (hexDecode_hexEncode _), ?_⟩
  refine bind_eq_ok.2 ⟨(), refuseIf_eq_ok.2 (by simp), ?_⟩
  refine bind_eq_ok.2 ⟨(), hdetails, ?_⟩
  refine bind_eq_ok.2 ⟨(), refuseIf_eq_ok.2 (not_not.2 rfl), ?_⟩
  refine bind_eq_ok.2 ⟨100, rfl, ?_⟩
  refine bind_eq_ok.2 ⟨(), refuseIf_eq_ok.2 (by decide), ?_⟩
  refine bind_eq_ok.2 ⟨.fill 1, okOrElse_eq_ok.2 hclient, ?_⟩
  refine bind_eq_ok.2 ⟨(), refuseIf_eq_ok.2 (not_not.2 hverify), ?_⟩
  refine bind_eq_ok.2 ⟨_, okOrElse_eq_ok.2 (hexDecode_hexEncode _), ?_⟩
  refine bind_eq_ok.2 ⟨(), refuseIf_eq_ok.2 (not_not.2 rfl), ?_⟩
  refine bind_eq_ok.2 ⟨n, okOrElse_eq_ok.2 hn, ?_⟩
  exact bind_eq_ok.2 ⟨60, hwindow, rfl⟩

/-- The registration of an id and a network. -/
def registration (providerId network : String) : RegisterProviderRequest :=
  { Shop.seller with providerId, network }

/-- The client has deposited five, and the seller has registered twice. -/
def registered : AppState :=
  run world [.deposit ⟨Shop.deposit, Shop.deposit_mem⟩ 0, .registerProvider (registration "odd" network),
    .registerProvider (registration "plain" "solana")]

def moment : VerifyMoment := { depositSync := false, status := some 0, now := 1, times := ⟨1, 1⟩ }

/-- Such a call is the plain reservation of its amount. -/
theorem postVerifyCall_call {s : AppState} {paymentId providerId network amount nonce : String}
    {n : ℕ} (hn : parseU64 amount = some n)
    (htext : signatureMessage (payload paymentId providerId network amount nonce)
      = signatureMessage small) {provider : ProviderRegistration}
    (hprovider : s.vault.providers[providerId]? = some provider)
    (hauth : provider.authMode = "none") (hnetwork : provider.network = network)
    (haccount : provider.settlementTokenAccount = .fill 2) (hmint : provider.assetMint = .fill 3)
    (horigins : provider.allowedOrigins = []) :
    (Handlers.postVerifyCall world libs (.fill 9)
        (call (payload paymentId providerId network amount nonce)) moment).run s
      = (Handlers.postVerify world (request (payload paymentId providerId network amount nonce) n)
          ⟨1, 1⟩).run s := by
  have hcheck := check_call hn htext
  have hopen : ∀ payload : Handlers.OpenPayment, payload.providerId = providerId →
      (Handlers.ensureOpenProviderRegistered world payload).run s = (.ok (), s) := by
    rintro payload rfl
    have hsome : (s.vault.providers[payload.providerId]?).isSome := by rw [hprovider]; rfl
    unfold Handlers.ensureOpenProviderRegistered
    rw [Prog.run_bind, Prog.run_get]
    simp only [hsome, true_or, if_true, Prog.run_pure]
  have hauthenticated : Handlers.authenticateRegisteredProvider world provider
      (call (payload paymentId providerId network amount nonce)).headers = .ok () := by
    simp [Handlers.authenticateRegisteredProvider, hauth, Handlers.matchProviderId, call]
  have hmatch : (call (payload paymentId providerId network amount nonce)).matchProvider world
      provider = .ok () := by
    refine bind_eq_ok.2 ⟨(), refuseIf_eq_ok.2 (not_not.2 (by rw [haccount]; rfl)), ?_⟩
    refine bind_eq_ok.2 ⟨(), refuseIf_eq_ok.2 (not_not.2 (by rw [hmint]; rfl)), ?_⟩
    refine bind_eq_ok.2 ⟨(), refuseIf_eq_ok.2 (not_not.2 hnetwork.symm), ?_⟩
    exact refuseIf_eq_ok.2 fun h => h.1 horigins
  unfold Handlers.postVerifyCall
  rw [Prog.run_bind, show (call _).paymentDetails = some (details providerId network amount) from rfl]
  simp only [Prog.run_okOr_some, Prog.run_bind, Prog.run_failIf, Prog.run_orReturn, Prog.run_get]
  rw [show moment.now = 1 from rfl, hcheck, if_neg (show ¬ moment.depositSync = true by decide)]
  simp only [show Handlers.ensureVaultAllowsNewVerification moment.status = .ok () from rfl]
  rw [hopen _ rfl, show (call (payload paymentId providerId network amount nonce)).payload.providerId
    = providerId from rfl]
  simp only [hprovider, Prog.run_okOr_some, hauthenticated, hmatch]
  rfl

/-- What the enclave keeps of the registration. -/
def kept (providerId network : String) : ProviderRegistration :=
  { providerId, displayName := "Shop", participantPubkey := none
    participantAttestationPolicyHash := none, participantAttestationVerifiedAtMs := none
    participantAttestationMode := none, settlementTokenAccount := .fill 2, network
    assetMint := .fill 3, allowedOrigins := [], authMode := "none", apiKeyHash := none
    mtlsCertFingerprint := none }

/-- The odd provider is registered. -/
theorem registered_odd : registered.vault.providers["odd"]? = some (kept "odd" network) := by
  decide +kernel

/-- The small payment is verified. -/
def first : Except EnclaveError Handlers.VerifyResponse × AppState :=
  (Handlers.postVerifyCall world libs (.fill 9) (call small) moment).run registered

/-- Then the large one, with the same signature. -/
def second : Except EnclaveError Handlers.VerifyResponse × AppState :=
  (Handlers.postVerifyCall world libs (.fill 9) (call large) moment).run first.2

/-- The first call is a reservation of 1. -/
theorem first_eq :
    first = (Handlers.postVerify world (request small 1) ⟨1, 1⟩).run registered :=
  postVerifyCall_call (by decide) rfl registered_odd rfl rfl rfl rfl rfl

/-- The plain provider is still registered. -/
theorem first_plain : first.2.vault.providers["plain"]? = some (kept "plain" "solana") := by
  rw [first_eq]
  decide +kernel

/-- The second call is a reservation of 3. -/
theorem second_eq :
    second = (Handlers.postVerify world (request large 3) ⟨1, 1⟩).run first.2 :=
  postVerifyCall_call (by decide) one_text.symm first_plain rfl rfl rfl rfl rfl

/-- The first call is accepted. -/
theorem first_accepted : first.1.toOption.map (·.amount) = some 1 := by
  rw [first_eq]
  decide +kernel

/-- The second is accepted too, and both stay locked. -/
theorem second_accepted : second.1.toOption.map (·.amount) = some 3 ∧
    (second.2.vault.balance (.fill 1)).locked = 4 := by
  rw [second_eq, first_eq]
  decide +kernel

/-- A request with a method and an origin. -/
def spread (method origin : String) : RequestContext := { context with method, origin }

/-- Two payments are accepted for one signature of one text, and lock one and three.  Two requests
have one request text, and two sellers one text of their ids. -/
theorem one_signature_two_payments :
    first.1.toOption.map (·.amount) = some 1 ∧ second.1.toOption.map (·.amount) = some 3 ∧
      (second.2.vault.balance (.fill 1)).locked = 4 ∧ small.clientSig = large.clientSig ∧
      utf8 (signatureMessage small) = utf8 (signatureMessage large) ∧
      small.amount ≠ large.amount ∧ small.providerId ≠ large.providerId ∧
      utf8 (requestText (spread "GET\nb" "c") "") = utf8 (requestText (spread "GET" "b\nc") "") ∧
      utf8 (openProviderText "a\nb" "c" "d") = utf8 (openProviderText "a" "b\nc" "d") :=
  ⟨first_accepted, second_accepted.1, second_accepted.2, rfl, by rw [one_text], by decide, by decide,
    congrArg utf8 (by decide), congrArg utf8 (by decide)⟩

/-- An answer with an amount is a success. -/
theorem ok_of_amount {answer : Except EnclaveError Handlers.VerifyResponse} {n : ℕ}
    (h : answer.toOption.map (·.amount) = some n) : ∃ response, answer = .ok response := by
  cases answer with
  | ok response => exact ⟨response, rfl⟩
  | error e => cases h

/-- What the numbers of line breaks say about these texts. -/
theorem resold_read_back :
    (small.signed = large.signed ↔ small.SameBreaks large) ∧
    (spread "GET\nb" "c" = spread "GET" "b\nc" ∧ "" = "" ↔ breaks "GET\nb" = breaks "GET" ∧
      breaks "c" = breaks "b\nc" ∧ breaks "/" = breaks "/" ∧ breaks "" = breaks "") ∧
    ("a\nb" = "a" ∧ "c" = "b\nc" ∧ "d" = "d" ↔
      breaks "a\nb" = breaks "a" ∧ breaks "c" = breaks "b\nc") := by
  obtain ⟨hsigned, hrequest, hprovider, -⟩ := bindings_unambiguous_iff libs
  obtain ⟨response, hfirst⟩ := ok_of_amount first_accepted
  obtain ⟨response', hsecond⟩ := ok_of_amount second_accepted.1
  exact ⟨hsigned (.fill 9) (.fill 9) (call small) (call large) moment moment _ _ _ _ hfirst hsecond
      (by rw [show (call small).payload = small from rfl, one_text]; rfl),
    hrequest (spread "GET\nb" "c") (spread "GET" "b\nc") "" "" (congrArg utf8 (by decide)),
    hprovider "a\nb" "a" "c" "b\nc" "d" "d" (congrArg utf8 (by decide))⟩

end Resold

end Subly402
