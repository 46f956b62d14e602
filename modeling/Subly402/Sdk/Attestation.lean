/-
# Nitro attestation documents

`verifyNitroAttestationDocument` in `sdk/src/attestation.ts`: a document that the enclave's
facilitator returns is opened, its certificates and its signature are checked, and what it
says is compared with the response it came in and with the client's configuration.  The
response is whatever JSON the facilitator sent.
-/

import Subly402.Lib.Js
import Subly402.Lib.JsonText

namespace Subly402
namespace Sdk

open Lib

/-- `Subly402NitroUserDataEnvelope`. -/
structure UserDataEnvelope where
  version : JsonNumber
  vaultConfig : String
  vaultSigner : String
  attestationPolicyHash : String
  snapshotSeqno : JsonNumber
  tlsPublicKeySha256 : Option String
  manifestHash : Option String

/-- `NitroAttestationDocument`, with the byte strings as bytes and without what only the
certificate chain reads. -/
structure NitroDocument where
  timestampMs : ℤ
  digest : String
  pcrs : List (String × String)
  publicKeyDer : Option (List UInt8)
  userData : Option (List UInt8)
  nonce : Option (List UInt8)

/-- `NitroAttestationPolicy`. -/
structure NitroAttestationPolicy where
  version : JsonNumber
  pcrs : List (String × String)
  eifSigningCertSha256 : String
  kmsKeyArnSha256 : String
  protocol : String

/-- The nonce that a client asks for, `string | Uint8Array`. -/
inductive ExpectedNonce where
  | text (text : String)
  | bytes (bytes : List UInt8)

/-- `NitroAttestationConfig`.  The expected policy hash and signer may come from a seller, so
they are values of any kind. -/
structure NitroAttestationConfig where
  policy : Option NitroAttestationPolicy
  expectedPcrs : Option (List (String × String))
  expectedPolicyHash : Option Json
  expectedNonce : Option ExpectedNonce
  expectedVaultSigner : Option Json
  maxAgeMs : Option ℤ
  rootCertificatesPem : List String
  requireSubly402UserData : Option Bool
  allowMissingPcrPinning : Bool

/-- What a document is checked with, outside of the source. -/
structure NitroVerifier where
  /-- `parseCoseSign1` and `parseNitroAttestationPayload`. -/
  parse : List UInt8 → Except Js.Error NitroDocument
  /-- `verifyCertificateChain` under some roots, at a time. -/
  verifyCertificateChain : List String → List UInt8 → ℤ → Except Js.Error Unit
  /-- `verifyCoseSignature`. -/
  verifyCoseSignature : List UInt8 → Except Js.Error Unit

/-- `AWS_NITRO_ROOT_G1_PEM`. -/
def awsNitroRootG1Pem : String := "-----BEGIN CERTIFICATE-----
MIICETCCAZagAwIBAgIRAPkxdWgbkK/hHUbMtOTn+FYwCgYIKoZIzj0EAwMwSTEL
MAkGA1UEBhMCVVMxDzANBgNVBAoMBkFtYXpvbjEMMAoGA1UECwwDQVdTMRswGQYD
VQQDDBJhd3Mubml0cm8tZW5jbGF2ZXMwHhcNMTkxMDI4MTMyODA1WhcNNDkxMDI4
MTQyODA1WjBJMQswCQYDVQQGEwJVUzEPMA0GA1UECgwGQW1hem9uMQwwCgYDVQQL
DANBV1MxGzAZBgNVBAMMEmF3cy5uaXRyby1lbmNsYXZlczB2MBAGByqGSM49AgEG
BSuBBAAiA2IABPwCVOumCMHzaHDimtqQvkY4MpJzbolL//Zy2YlES1BR5TSksfbb
48C8WBoyt7F2Bw7eEtaaP+ohG2bnUs990d0JX28TcPQXCEPZ3BABIeTPYwEoCWZE
h8l5YoQwTcU/9KNCMEAwDwYDVR0TAQH/BAUwAwEB/zAdBgNVHQ4EFgQUkCW1DdkF
R+eWw5b6cp3PmanfS5YwDgYDVR0PAQH/BAQDAgGGMAoGCCqGSM49BAMDA2kAMGYC
MQCjfy+Rocm9Xue4YnwWmNJVA44fA0P5W2OpYow9OYCVRaEevL8uO1XYru5xtMPW
rfMCMQCi85sWBbJwKKXdS6BptQFuZbT73o/gBh1qUxl/nNr12UO8Yfwr6wPLb+6N
IwLz3/Y=
-----END CERTIFICATE-----"

/-- `DEFAULT_MAX_ATTESTATION_AGE_MS`. -/
def defaultMaxAttestationAgeMs : ℤ := 10 * 60 * 1000

section
variable (E : Js.Engine)

/-- `normalizeHex`. -/
def normalizeHex (value : String) : String :=
  match (E.toLowerCase value).toList with
  | '0' :: 'x' :: digits => String.ofList digits
  | _ => E.toLowerCase value

/-- `normalizeHex` of a value of any kind. -/
def normalizeHexOf (value : Option Json) : Except Js.Error String := do
  return normalizeHex E (← Js.text value)

/-- `normalizeNonceString`. -/
def normalizeNonceString (value : String) : String :=
  let trimmed := Js.trim value.toList
  let isBase64 := trimmed.length % 4 = 0 ∧ trimmed ≠ [] ∧
    trimmed.all fun c => c.isAlphanum || c = '+' || c = '/' || c = '='
  if isBase64 then String.ofList trimmed else E.toBase64 (utf8 (String.ofList trimmed))

/-- `normalizePolicy`.  `canonicalJson` sorts the entries of every object, whatever order they are
put in here. -/
def normalizePolicy (policy : NitroAttestationPolicy) : Json :=
  .object
    [("version", .scalar (.number policy.version)),
     ("pcrs", .object (policy.pcrs.map fun pcr => (pcr.1, .string (normalizeHex E pcr.2)))),
     ("eifSigningCertSha256", .string (normalizeHex E policy.eifSigningCertSha256)),
     ("kmsKeyArnSha256", .string (normalizeHex E policy.kmsKeyArnSha256)),
     ("protocol", .string policy.protocol)]

/-- What is hashed, `canonicalJson(normalizePolicy(policy))`: JavaScript sorts keys by their UTF-16
units. -/
def policyPreimage (policy : NitroAttestationPolicy) : String :=
  String.ofList ((normalizePolicy E policy).write jsQuote byUnits)

/-- `computeNitroAttestationPolicyHash`. -/
def computeNitroAttestationPolicyHash (policy : NitroAttestationPolicy) : String :=
  E.sha256hex (utf8 (policyPreimage E policy))

/-- `parseSubly402UserDataEnvelope`. -/
def parseSubly402UserDataEnvelope (userData : List UInt8) : Option UserDataEnvelope := do
  let parsed ← (E.parseJson userData).toOption
  let number (key : String) : Option JsonNumber := match parsed.get key with
    | some (.scalar (.number n)) => some n
    | _ => none
  let text (key : String) : Option String := (parsed.get key).bind Json.asStr
  -- an optional field is a text or is not there; `null` is neither
  let optional (key : String) : Option (Option String) := match parsed.get key with
    | none => some none
    | some (.string s) => some (some s)
    | some _ => none
  return { version := ← number "version", vaultConfig := ← text "vaultConfig"
           vaultSigner := ← text "vaultSigner"
           attestationPolicyHash := ← text "attestationPolicyHash"
           snapshotSeqno := ← number "snapshotSeqno"
           tlsPublicKeySha256 := ← optional "tlsPublicKeySha256"
           manifestHash := ← optional "manifestHash" }

/-- `document.parsedSubly402UserData`. -/
def NitroDocument.parsedSubly402UserData (document : NitroDocument) : Option UserDataEnvelope :=
  document.userData.bind (parseSubly402UserDataEnvelope E)

/-- The PCRs that the configuration pins. -/
def NitroAttestationConfig.pinned (config : NitroAttestationConfig) :
    Option (List (String × String)) :=
  match config.policy with
  | some policy => some policy.pcrs
  | none => config.expectedPcrs

/-- The roots that a chain may end at. -/
def NitroAttestationConfig.trustedRoots (config : NitroAttestationConfig) : List String :=
  if config.rootCertificatesPem = [] then [awsNitroRootG1Pem] else config.rootCertificatesPem

/-- `assertPcrPinningConfigured`. -/
def assertPcrPinningConfigured (config : NitroAttestationConfig) : Except Js.Error Unit :=
  refuseIf (config.allowMissingPcrPinning = false ∧ config.pinned.getD [] = [])
    (.error ("Nitro attestation verification requires PCR pinning: pass nitroAttestation.policy "
      ++ "(full policy object) or nitroAttestation.expectedPcrs, or set "
      ++ "allowMissingPcrPinning=true to opt out (not recommended)."))

/-- `verifyAttestationTimestamp`. -/
def verifyAttestationTimestamp (document : NitroDocument) (maxAgeMs : Option ℤ) (now : ℤ) :
    Except Js.Error Unit := do
  refuseIf (document.timestampMs > now + 60000)
    (.error "Attestation document timestamp is in the future")
  refuseIf (now - document.timestampMs > maxAgeMs.getD defaultMaxAttestationAgeMs)
    (.error "Attestation document is older than the allowed maxAgeMs")
  refuseIf (document.digest ≠ "SHA384")
    (.error ("Unsupported Nitro attestation digest " ++ document.digest))

/-- The check of one pinned PCR. -/
def verifyPcr (document : NitroDocument) (pcr : String × String) : Except Js.Error Unit := do
  let actual ← okOrElse
    (((document.pcrs.find? fun p => p.1 = pcr.1).map (·.2)).filter (· ≠ ""))
    (.error ("Attestation document is missing expected PCR" ++ pcr.1))
  refuseIf (normalizeHex E actual ≠ normalizeHex E pcr.2)
    (.error ("Attestation PCR" ++ pcr.1 ++ " does not match the expected value"))

/-- The policy hash that `verifyExpectedPolicy` expects. -/
def expectedHash (attestation : Json) (config : NitroAttestationConfig) :
    Except Js.Error String :=
  match config.policy with
  | some policy => .ok (computeNitroAttestationPolicyHash E policy)
  | none => do
    let provided ← Js.prop (some attestation) "attestationPolicyHash"
    normalizeHexOf E (Js.orElse config.expectedPolicyHash provided)

/-- `verifyExpectedPolicy`. -/
def verifyExpectedPolicy (document : NitroDocument) (attestation : Json)
    (config : NitroAttestationConfig) : Except Js.Error Unit := do
  let expected ← expectedHash E attestation config
  let provided ← normalizeHexOf E (← Js.prop (some attestation) "attestationPolicyHash")
  refuseIf (provided ≠ expected)
    (.error "Attestation policy hash does not match the expected value")
  (config.pinned.getD []).forM (verifyPcr E document)

/-- `verifyExpectedNonce`. -/
def verifyExpectedNonce (document : NitroDocument) (expectedNonce : Option ExpectedNonce) :
    Except Js.Error Unit :=
  match expectedNonce with
  | none => .ok ()
  | some expected => do
    let nonce ← okOrElse ((document.nonce.map E.toBase64).filter (· ≠ ""))
      (.error "Attestation document is missing the required nonce")
    let expected := match expected with
      | .text text => normalizeNonceString E text
      | .bytes bytes => E.toBase64 bytes
    refuseIf (nonce ≠ expected)
      (.error "Attestation document nonce does not match the expected value")

/-- `assertMatchingOptionalField`. -/
def assertMatchingOptionalField (documentValue : Option String) (responseValue : Option Json)
    (field : String) : Except Js.Error Unit :=
  match documentValue, responseValue with
  | none, none => .ok ()
  | some value, some response => do
    let response ← normalizeHexOf E (some response)
    refuseIf (normalizeHex E value ≠ response)
      (.error ("Subly402 user_data " ++ field ++ " does not match attestation response"))
  | _, _ =>
    .error (.error ("Attestation response " ++ field ++ " is not consistently bound in user_data"))

/-- The last check of `verifySubly402UserDataBinding`: the document's key has the response's
hash. -/
def verifyDocumentKey (document : NitroDocument) (tls : Option Json) : Except Js.Error Unit := do
  if Js.truthy E tls then
    let key ← okOrElse (document.publicKeyDer.filter (· ≠ []))
      (.error "Attestation document is missing the TLS public key bound to the response")
    let expected ← normalizeHexOf E tls
    refuseIf (normalizeHex E (E.sha256hex key) ≠ expected)
      (.error "Attestation document TLS public key does not match attestation response")

/-- What `verifySubly402UserDataBinding` checks of user data that is there. -/
def verifyEnvelope (parsed : UserDataEnvelope) (document : NitroDocument) (attestation : Json)
    (expectedVaultSigner : Option Json) : Except Js.Error Unit := do
  refuseIf (¬ E.sameNumber parsed.version Js.one)
    (.error "Unsupported Subly402 Nitro user_data envelope version")
  let vaultConfig ← Js.prop (some attestation) "vaultConfig"
  refuseIf (¬ Js.same E (some (.string parsed.vaultConfig)) vaultConfig)
    (.error "Subly402 user_data vaultConfig does not match attestation response")
  let vaultSigner ← Js.prop (some attestation) "vaultSigner"
  refuseIf (¬ Js.same E (some (.string parsed.vaultSigner)) vaultSigner)
    (.error "Subly402 user_data vaultSigner does not match attestation response")
  let provided ← normalizeHexOf E (← Js.prop (some attestation) "attestationPolicyHash")
  refuseIf (normalizeHex E parsed.attestationPolicyHash ≠ provided)
    (.error "Subly402 user_data attestationPolicyHash does not match attestation response")
  refuseIf (Js.truthy E expectedVaultSigner ∧
      ¬ Js.same E (some (.string parsed.vaultSigner)) expectedVaultSigner)
    (.error "Subly402 user_data vaultSigner does not match the expected vault signer")
  let snapshotSeqno ← Js.prop (some attestation) "snapshotSeqno"
  refuseIf (snapshotSeqno.isSome ∧
      ¬ Js.same E (some (.scalar (.number parsed.snapshotSeqno))) snapshotSeqno)
    (.error "Subly402 user_data snapshotSeqno does not match attestation response")
  let tls ← Js.prop (some attestation) "tlsPublicKeySha256"
  assertMatchingOptionalField E parsed.tlsPublicKeySha256 tls "tlsPublicKeySha256"
  let manifestHash ← Js.prop (some attestation) "manifestHash"
  assertMatchingOptionalField E parsed.manifestHash manifestHash "manifestHash"
  verifyDocumentKey E document tls

/-- `verifySubly402UserDataBinding`. -/
def verifySubly402UserDataBinding (document : NitroDocument) (attestation : Json)
    (expectedVaultSigner : Option Json) (requireSubly402UserData : Option Bool) :
    Except Js.Error Unit :=
  match document.parsedSubly402UserData E with
  | none => refuseIf (requireSubly402UserData = some true ∨ Js.truthy E expectedVaultSigner)
      (.error "Attestation document is missing the required Subly402 user_data envelope")
  | some parsed => verifyEnvelope E parsed document attestation expectedVaultSigner

variable (V : NitroVerifier)

/-- `verifyNitroAttestationDocument`, with the two times at which it reads the clock and what
`documentValidator` says of the document. -/
def verifyNitroAttestationDocument (attestation : Json) (config : NitroAttestationConfig)
    (chainTime now : ℤ) (documentValidator : NitroDocument → Json → Except Js.Error Unit) :
    Except Js.Error NitroDocument := do
  assertPcrPinningConfigured config
  let attestationDocument ← Js.prop (some attestation) "attestationDocument"
  let bytes ← Js.bytes E attestationDocument
  let document ← V.parse bytes
  V.verifyCertificateChain config.trustedRoots bytes chainTime
  V.verifyCoseSignature bytes
  verifyAttestationTimestamp document config.maxAgeMs now
  verifyExpectedPolicy E document attestation config
  verifyExpectedNonce E document config.expectedNonce
  verifySubly402UserDataBinding E document attestation config.expectedVaultSigner
    config.requireSubly402UserData
  documentValidator document attestation
  return document

end

/-! ### What a success says -/

section
variable {E : Js.Engine} {V : NitroVerifier} {attestation : Json} {config : NitroAttestationConfig}
  {chainTime now : ℤ} {documentValidator : NitroDocument → Json → Except Js.Error Unit}
  {document : NitroDocument}

theorem normalizeHexOf_eq_ok {value : Option Json} {hex : String} :
    normalizeHexOf E value = .ok hex ↔ ∃ s, value = some (.string s) ∧ hex = normalizeHex E s := by
  unfold normalizeHexOf
  rw [bind_eq_ok]
  simp only [Js.text_eq_ok, pure, Except.pure, Except.ok.injEq]
  exact exists_congr fun s => and_congr_right fun _ => eq_comm

/-- A value that is checked against an optional text of the document. -/
theorem matching_of_text {documentValue : Option String} {s field : String}
    (h : assertMatchingOptionalField E documentValue (some (.string s)) field = .ok ()) :
    ∃ value, documentValue = some value ∧ normalizeHex E value = normalizeHex E s := by
  cases documentValue with
  | none => cases h
  | some value =>
    obtain ⟨hex, hhex, h⟩ := bind_eq_ok.1 h
    obtain ⟨_, ⟨⟩, rfl⟩ := normalizeHexOf_eq_ok.1 hhex
    rw [refuseIf_eq_ok, not_not] at h
    exact ⟨value, rfl, h⟩

/-- What user data says of the response that carried it. -/
structure Binds (E : Js.Engine) (parsed : UserDataEnvelope) (attestation : Json) : Prop where
  vaultConfig : attestation.get "vaultConfig" = some (.string parsed.vaultConfig)
  vaultSigner : attestation.get "vaultSigner" = some (.string parsed.vaultSigner)
  tls : ∀ s, attestation.get "tlsPublicKeySha256" = some (.string s) →
    ∃ value, parsed.tlsPublicKeySha256 = some value ∧ normalizeHex E value = normalizeHex E s

/-- A property of a value that has properties. -/
theorem get_of_prop {key : String} {value : Option Json}
    (h : Js.prop (some attestation) key = .ok value) : attestation.get key = value := by
  unfold Js.prop at h
  split at h
  · cases h
  · cases h
  · next heq =>
    cases heq
    cases h
    rfl

theorem verifyEnvelope_binds {parsed : UserDataEnvelope} {expectedVaultSigner : Option Json}
    (h : verifyEnvelope E parsed document attestation expectedVaultSigner = .ok ()) :
    Binds E parsed attestation := by
  simp only [verifyEnvelope, bind_eq_ok, refuseIf_eq_ok, not_not, exists_const] at h
  obtain ⟨-, _, hconfig, hsameConfig, _, hsigner, hsameSigner, _, -, _, -, -, -, _, -, -, tls, htls,
    _, hmatching, -⟩ := h
  constructor
  · rw [get_of_prop hconfig]
    exact Js.same_text_left hsameConfig
  · rw [get_of_prop hsigner]
    exact Js.same_text_left hsameSigner
  · intro s hs
    rw [get_of_prop htls] at hs
    subst hs
    exact matching_of_text hmatching

/-- **What a success says of the response.** -/
theorem verifyNitroAttestationDocument_binds
    (h : verifyNitroAttestationDocument E V attestation config chainTime now documentValidator
      = .ok document)
    (hrequired : config.requireSubly402UserData = some true
      ∨ Js.truthy E config.expectedVaultSigner) :
    ∃ parsed, document.parsedSubly402UserData E = some parsed ∧ Binds E parsed attestation := by
  simp only [verifyNitroAttestationDocument, bind_eq_ok] at h
  obtain ⟨_, -, _, -, _, -, _, -, _, -, _, -, _, -, _, -, _, -, _, hbinding, _, -, ⟨⟩⟩ := h
  unfold verifySubly402UserDataBinding at hbinding
  split at hbinding
  · rw [refuseIf_eq_ok] at hbinding
    exact absurd hrequired hbinding
  · next parsed hparsed => exact ⟨parsed, hparsed, verifyEnvelope_binds hbinding⟩

/-- The expected policy hash counts only as the hash it stands for. -/
theorem verifyNitroAttestationDocument_congr (base : NitroAttestationConfig)
    {hash hash' : Option Json}
    (h : expectedHash E attestation { base with expectedPolicyHash := hash }
      = expectedHash E attestation { base with expectedPolicyHash := hash' }) :
    verifyNitroAttestationDocument E V attestation { base with expectedPolicyHash := hash }
        chainTime now documentValidator
      = verifyNitroAttestationDocument E V attestation { base with expectedPolicyHash := hash' }
        chainTime now documentValidator := by
  have hpolicy (document : NitroDocument) :
      verifyExpectedPolicy E document attestation { base with expectedPolicyHash := hash }
        = verifyExpectedPolicy E document attestation { base with expectedPolicyHash := hash' } := by
    unfold verifyExpectedPolicy
    rw [h]
    rfl
  unfold verifyNitroAttestationDocument
  simp only [hpolicy]
  rfl

end

end Sdk
end Subly402
