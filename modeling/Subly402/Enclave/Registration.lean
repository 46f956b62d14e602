/-
# Registering providers

`post_register_provider` and `ensure_open_provider_registered` of
`enclave/src/handlers.rs`.  Both parse the request, build the registration, log a
`ProviderRegistered` entry and insert the registration.
-/

import Subly402.Enclave.Steps

namespace Subly402

open Lib
open Lib.Prog (okOr failIf orReturn Leaves)

/-- `RegisterProviderRequest`. -/
structure RegisterProviderRequest where
  providerId : String
  displayName : String
  participantPubkey : Option String
  participantAttestation : Option String
  settlementTokenAccount : String
  network : String
  assetMint : String
  allowedOrigins : List String
  authMode : String
  apiKeyHash : String
  mtlsCertFingerprint : Option String
deriving DecidableEq

/-- What `post_register_provider` reads out of a request. -/
structure ParsedRegistration where
  settlementTokenAccount : Pubkey
  participantPubkey : Option Pubkey
  attestation : Option VerifiedProviderAttestation
  assetMint : Pubkey
  apiKeyHash : Option (List UInt8)
  mtlsCertFingerprint : Option (List UInt8)

namespace RegisterProviderRequest

/-- A credential: 32 bytes in hex. -/
def decodeCredential (text : String) : Except EnclaveError (List UInt8) := do
  let bytes ← okOrElse (hexDecode text) .invalidProviderAuthConfig
  if bytes.length ≠ 32 then throw .invalidProviderAuthConfig else return bytes

/-- The credentials that the auth mode uses. -/
def credentials (env : Env) (req : RegisterProviderRequest) (participantPubkey : Option Pubkey) :
    Except EnclaveError (Option (List UInt8) × Option (List UInt8)) :=
  if req.authMode = "bearer" ∨ req.authMode = "api-key" then do
    let apiKeyHash ← decodeCredential req.apiKeyHash
    return (some apiKeyHash, none)
  else if req.authMode = "mtls" then
    if env.providerMtlsEnabled then do
      let fingerprintHex ← okOrElse req.mtlsCertFingerprint .invalidProviderAuthConfig
      let fingerprint ← decodeCredential fingerprintHex
      return (none, some fingerprint)
    else throw .mtlsNotEnabled
  else if req.authMode = "none" then
    if participantPubkey.isSome then throw .invalidProviderAuthConfig else return (none, none)
  else throw .unsupportedProviderAuthMode

/-- The attestation that a participant key needs. -/
def verifiedAttestation (env : Env) (req : RegisterProviderRequest) (participantPubkey : Option Pubkey) :
    Except EnclaveError (Option VerifiedProviderAttestation) :=
  match participantPubkey with
  | some participantPubkey => do
    let attestation ← okOrElse req.participantAttestation .providerParticipantAttestationRequired
    match env.verifyAttestation attestation req.providerId participantPubkey with
    | .ok verified => return some verified
    | .error message => throw (.invalidProviderParticipantAttestation message)
  | none => return none

/-- The checks of `post_register_provider` before it takes the lock. -/
def parse (env : Env) (req : RegisterProviderRequest) : Except EnclaveError ParsedRegistration := do
  let settlementTokenAccount ← okOrElse (env.pubkeyFromStr req.settlementTokenAccount)
    (.internal "Invalid settlement token account")
  let participantPubkey ← traverseOption
    (fun text => okOrElse (env.pubkeyFromStr text) .invalidProviderParticipant)
    req.participantPubkey
  let attestation ← req.verifiedAttestation env participantPubkey
  let assetMint ← okOrElse (env.pubkeyFromStr req.assetMint) (.internal "Invalid asset mint")
  let (apiKeyHash, mtlsCertFingerprint) ← req.credentials env participantPubkey
  return { settlementTokenAccount, participantPubkey, attestation, assetMint, apiKeyHash
           mtlsCertFingerprint }

/-- The registration that the handler inserts. -/
def registration (req : RegisterProviderRequest) (parsed : ParsedRegistration) :
    ProviderRegistration :=
  { providerId := req.providerId
    displayName := req.displayName
    participantPubkey := parsed.participantPubkey
    participantAttestationPolicyHash := parsed.attestation.map (·.policyHash)
    participantAttestationVerifiedAtMs := parsed.attestation.map (·.verifiedAtMs)
    participantAttestationMode := parsed.attestation.map (·.mode.asStr)
    settlementTokenAccount := parsed.settlementTokenAccount
    network := req.network
    assetMint := parsed.assetMint
    allowedOrigins := req.allowedOrigins
    authMode := req.authMode
    apiKeyHash := parsed.apiKeyHash
    mtlsCertFingerprint := parsed.mtlsCertFingerprint }

/-- The entry that the handler logs. -/
def entry (req : RegisterProviderRequest) (parsed : ParsedRegistration) : WalEntry :=
  .providerRegistered req.providerId req.displayName req.participantPubkey
    (parsed.attestation.map (·.policyHashHex)) (parsed.attestation.map (·.verifiedAtMs))
    (parsed.attestation.map (·.mode.asStr)) req.settlementTokenAccount req.network req.assetMint
    req.allowedOrigins req.authMode
    (if req.apiKeyHash.isEmpty then none else some req.apiKeyHash) req.mtlsCertFingerprint

end RegisterProviderRequest

namespace Handlers

/-- `post_register_provider`. -/
def postRegisterProvider (env : Env) (req : RegisterProviderRequest) : AppM Unit := do
  let parsed ← orReturn (req.parse env)
  failIf (((← get).vault.providers[req.providerId]?).isSome) .providerAlreadyRegistered
  append env (req.entry parsed)
  modify fun s => s.setVault (s.vault.setProvider req.providerId (req.registration parsed))

/-- The fields of `PaymentPayload` that open a provider. -/
structure OpenPayment where
  providerId : String
  network : String
  assetMint : String
  payTo : String

/-- `derive_open_provider_id`. -/
def deriveOpenProviderId (env : Env) (network assetMint payTo : String) : String :=
  let text := "SUBLY402-OPEN-PROVIDER-V1\n" ++ network ++ "\n" ++ assetMint ++ "\n" ++ payTo ++ "\n"
  let digest := hexEncode (env.curve.sha256 (utf8 text)).bytes
  "payto_" ++ String.ofList (digest.toList.take 32)

/-- The registration of a seller nobody registered. -/
def OpenPayment.registration (payload : OpenPayment) (settlementTokenAccount assetMint : Pubkey) :
    ProviderRegistration :=
  { providerId := payload.providerId, displayName := "Open x402 seller", participantPubkey := none
    participantAttestationPolicyHash := none, participantAttestationVerifiedAtMs := none
    participantAttestationMode := none, settlementTokenAccount, network := payload.network
    assetMint, allowedOrigins := [], authMode := "none", apiKeyHash := none
    mtlsCertFingerprint := none }

/-- The entry of a seller nobody registered. -/
def OpenPayment.entry (payload : OpenPayment) : WalEntry :=
  .providerRegistered payload.providerId "Open x402 seller" none none none none payload.payTo
    payload.network payload.assetMint [] "none" none none

/-- `ensure_open_provider_registered`. -/
def ensureOpenProviderRegistered (env : Env) (payload : OpenPayment) : AppM Unit := do
  if ((← get).vault.providers[payload.providerId]?).isSome ∨
      payload.providerId ≠ deriveOpenProviderId env payload.network payload.assetMint payload.payTo
  then return
  else
    let settlementTokenAccount ← okOr (env.pubkeyFromStr payload.payTo) .invalidPaymentDetails
    let assetMint ← okOr (env.pubkeyFromStr payload.assetMint) .invalidPaymentDetails
    append env payload.entry
    modify fun s => s.setVault (s.vault.setProvider payload.providerId
      (payload.registration settlementTokenAccount assetMint))

end Handlers

variable {env : Env} {s : AppState}

/-! ### Reading the entry back -/

/-- The entry of a seller nobody registered reads back as it was registered. -/
theorem Handlers.OpenPayment.decode_entry {payload : Handlers.OpenPayment} {account mint : Pubkey}
    (haccount : env.pubkeyFromStr payload.payTo = some account)
    (hmint : env.pubkeyFromStr payload.assetMint = some mint) :
    decodeRegistration env payload.entry = some (.ok (payload.registration account mint)) := by
  simp [decodeRegistration, OpenPayment.entry, OpenPayment.registration, parsePubkey_ok haccount,
    parsePubkey_ok hmint, bind, Except.bind, pure, Except.pure]

namespace RegisterProviderRequest

variable {req : RegisterProviderRequest} {parsed : ParsedRegistration}

/-- What a request that parsed says about its texts. -/
structure Parses (env : Env) (req : RegisterProviderRequest) (parsed : ParsedRegistration) :
    Prop where
  account : env.pubkeyFromStr req.settlementTokenAccount = some parsed.settlementTokenAccount
  participant : traverseOption (parsePubkey env "participant_pubkey") req.participantPubkey
    = .ok parsed.participantPubkey
  mint : env.pubkeyFromStr req.assetMint = some parsed.assetMint
  credentials : req.credentials env parsed.participantPubkey
    = .ok (parsed.apiKeyHash, parsed.mtlsCertFingerprint)

/-- What a request that parses says. -/
theorem parses (h : req.parse env = .ok parsed) : req.Parses env parsed := by
  simp only [parse, bind_eq_ok, okOrElse_eq_ok] at h
  obtain ⟨_, haccount, _, hparticipant, _, -, _, hmint, _, hcredentials, ⟨⟩⟩ := h
  refine ⟨haccount, traverseOption_ok_imp hparticipant fun a b hb => ?_, hmint, hcredentials⟩
  exact parsePubkey_ok (okOrElse_eq_ok.1 hb)

/-- A credential that decodes is not empty. -/
theorem decodeCredential_ok {text : String} {bytes : List UInt8}
    (h : decodeCredential text = .ok bytes) : hexDecode text = some bytes ∧ text ≠ "" := by
  obtain ⟨bytes', hbytes, h⟩ := bind_eq_ok.1 h
  split at h
  · cases h
  · next hlength =>
    obtain rfl := Except.ok.inj h
    rw [not_not] at hlength
    refine ⟨okOrElse_eq_ok.1 hbytes, fun hempty => ?_⟩
    subst hempty
    obtain rfl : [] = bytes' := Option.some.inj (okOrElse_eq_ok.1 hbytes)
    cases hlength

/-- The credentials of a request that parsed: the one its auth mode uses. -/
theorem credentials_cases {participant : Option Pubkey} {api mtls : Option (List UInt8)}
    (h : req.credentials env participant = .ok (api, mtls)) :
    ((req.authMode = "bearer" ∨ req.authMode = "api-key") ∧
      ∃ bytes, hexDecode req.apiKeyHash = some bytes ∧ req.apiKeyHash ≠ "" ∧
        api = some bytes ∧ mtls = none) ∨
    (req.authMode = "mtls" ∧
      ∃ text bytes, req.mtlsCertFingerprint = some text ∧ hexDecode text = some bytes ∧
        api = none ∧ mtls = some bytes) ∨
    (req.authMode = "none" ∧ api = none ∧ mtls = none) := by
  rw [credentials] at h
  split at h
  · next hmode =>
    obtain ⟨bytes, hbytes, h⟩ := bind_eq_ok.1 h
    obtain ⟨hdecode, hne⟩ := decodeCredential_ok hbytes
    cases h
    exact .inl ⟨hmode, bytes, hdecode, hne, rfl, rfl⟩
  split at h
  · next hmode =>
    split at h
    · obtain ⟨text, htext, h⟩ := bind_eq_ok.1 h
      obtain ⟨bytes, hbytes, h⟩ := bind_eq_ok.1 h
      cases h
      exact .inr (.inl ⟨hmode, text, bytes, okOrElse_eq_ok.1 htext, (decodeCredential_ok hbytes).1,
        rfl, rfl⟩)
    · cases h
  split at h
  · next hmode =>
    split at h
    · cases h
    · cases h
      exact .inr (.inr ⟨hmode, rfl, rfl⟩)
  · cases h

/-- The entry reads back as the registration where its two credentials do. -/
theorem decode_entry (h : req.Parses env parsed) :
    decodeRegistration env (req.entry parsed) = some (.ok (req.registration parsed)) ↔
      traverseOption (decodeProviderHex env "api_key_hash")
          (if req.apiKeyHash.isEmpty then none else some req.apiKeyHash) = .ok parsed.apiKeyHash ∧
        traverseOption (decodeProviderHex env "mtls_cert_fingerprint") req.mtlsCertFingerprint
          = .ok parsed.mtlsCertFingerprint := by
  have hpolicy : traverseOption (decodePolicyHash env) (parsed.attestation.map (·.policyHashHex))
      = .ok (parsed.attestation.map (·.policyHash)) := by
    cases parsed.attestation with
    | none => rfl
    | some attestation =>
      refine traverseOption_some ?_
      simp [decodePolicyHash, VerifiedProviderAttestation.policyHashHex, ok_bind]
  simp only [decodeRegistration, entry, parsePubkey_ok h.account, parsePubkey_ok h.mint,
    h.participant, hpolicy, ok_bind, Option.some.injEq]
  constructor
  · intro heq
    obtain ⟨api, hapi, heq⟩ := bind_eq_ok.1 heq
    obtain ⟨mtls, hmtls, heq⟩ := bind_eq_ok.1 heq
    have heq := Except.ok.inj heq
    rw [hapi, hmtls]
    exact ⟨congrArg Except.ok (congrArg ProviderRegistration.apiKeyHash heq),
      congrArg Except.ok (congrArg ProviderRegistration.mtlsCertFingerprint heq)⟩
  · rintro ⟨hapi, hmtls⟩
    rw [hapi, hmtls]
    rfl

/-- The request has no credential besides the one its auth mode uses. -/
def NoSpareCredential (req : RegisterProviderRequest) : Prop :=
  (req.authMode = "mtls" ∨ req.mtlsCertFingerprint = none) ∧
    (req.authMode = "bearer" ∨ req.authMode = "api-key" ∨ req.apiKeyHash = "")

instance : Decidable req.NoSpareCredential := inferInstanceAs (Decidable (_ ∧ _))

/-- **An entry reads back as its registration where the request has no spare credential, and
nowhere else.** -/
theorem decode_entry_iff (h : req.parse env = .ok parsed) :
    decodeRegistration env (req.entry parsed) = some (.ok (req.registration parsed)) ↔
      req.NoSpareCredential := by
  have hp := parses h
  rw [decode_entry hp, NoSpareCredential]
  obtain ⟨hmode, bytes, hbytes, hne, hapi, hmtls⟩ | ⟨hmode, text, bytes, htext, hbytes, hapi, hmtls⟩ |
    ⟨hmode, hapi, hmtls⟩ := credentials_cases hp.credentials
  · have hread : traverseOption (decodeProviderHex env "api_key_hash")
        (if req.apiKeyHash.isEmpty then none else some req.apiKeyHash) = .ok (some bytes) := by
      rw [if_neg (by simpa using hne)]
      exact traverseOption_some (by simp [decodeProviderHex, hbytes])
    rw [hapi, hmtls, hread, traverseOption_eq_none]
    rcases hmode with hmode | hmode <;> simp [hmode]
  · have hread : traverseOption (decodeProviderHex env "mtls_cert_fingerprint")
        req.mtlsCertFingerprint = .ok (some bytes) := by
      rw [htext]
      exact traverseOption_some (by simp [decodeProviderHex, hbytes])
    rw [hapi, hmtls, hread, traverseOption_eq_none]
    simp [hmode]
  · rw [hapi, hmtls, traverseOption_eq_none, traverseOption_eq_none]
    simp [hmode, and_comm]

end RegisterProviderRequest

/-! ### Steps -/

/-- The entry of an accepted registration reads back as the registration. -/
def RegisterProviderRequest.ReplaysAsIs (env : Env) (req : RegisterProviderRequest) : Prop :=
  ∀ parsed, req.parse env = .ok parsed →
    decodeRegistration env (req.entry parsed) = some (.ok (req.registration parsed))

/-- A registration that was inserted. -/
theorem Sound.register (entry : WalEntry) (provider : ProviderRegistration)
    (hnew : s.vault.providers[provider.providerId]? = none) :
    Sound env s ((s.setWal (s.wal.store entry)).setVault
      (s.vault.setProvider provider.providerId provider)) :=
  .commit _ (.of_vault (.register provider) (fun _ h => h) rfl le_rfl rfl rfl hnew (.of_none rfl rfl)
    (by rintro _ ⟨⟩)) fun hs => hs.keep subset_rfl fun _ => rfl

/-- A registration that was inserted, and that its entry reads back as. -/
theorem Logged.register {entry : WalEntry} (provider : ProviderRegistration)
    (hnew : s.vault.providers[provider.providerId]? = none)
    (hread : decodeRegistration env entry = some (.ok provider)) :
    Logged env s ((s.setWal (s.wal.store entry)).setVault
      (s.vault.setProvider provider.providerId provider)) := by
  refine .commit_vault (.of_vault (.register provider) (fun _ h => h) rfl le_rfl rfl rfl hnew
    (.of_none rfl rfl) (by rintro _ ⟨⟩)) (.register hread) ?_
  cases entry <;> simp_all [decodeRegistration, WalEntry.txSignature?]

namespace Handlers

/-- **A registration is a sound step, and a logged one where its entry reads back.** -/
theorem postRegisterProvider_effect (s : AppState) (req : RegisterProviderRequest) :
    (postRegisterProvider env req).Leaves s (Effect env (req.ReplaysAsIs env) s) := by
  refine .orReturn_bind (Logged.refl env s).effect fun parsed hparsed => .get_bind <|
    .failIf_bind (fun _ => (Logged.refl env s).effect) fun hnew => ?_
  rw [Bool.not_eq_true, Option.isSome_eq_false_iff, Option.isNone_iff_eq_none] at hnew
  refine .append_bind rfl (Logged.skip env s).effect (.of_run rfl ⟨?_, fun hread => ?_⟩)
  · exact .register _ (req.registration parsed) hnew
  · exact .register (req.registration parsed) hnew (hread parsed hparsed)

/-- An open provider is logged before it is registered. -/
theorem ensureOpenProviderRegistered_logged (s : AppState) (payload : OpenPayment) :
    (ensureOpenProviderRegistered env payload).Leaves s (Logged env s) := by
  refine .get_bind ?_
  split
  · exact .pure (.refl env s)
  · next hcond =>
    obtain ⟨hnew, -⟩ := not_or.1 hcond
    rw [Bool.not_eq_true, Option.isSome_eq_false_iff, Option.isNone_iff_eq_none] at hnew
    refine .okOr_bind (.refl env s) fun account haccount => .okOr_bind (.refl env s)
      fun mint hmint => .append_bind rfl (.skip env s) (.of_run rfl ?_)
    exact .register (payload.registration account mint) hnew
      (OpenPayment.decode_entry haccount hmint)

end Handlers

end Subly402
