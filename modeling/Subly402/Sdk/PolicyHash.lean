/-
# The hash of an attestation policy in three places

A policy names the measurements of an enclave image, the hashes of its signing certificate
and of its KMS key, and a protocol; its hash stands for it on chain and in documents.  Three
programs compute the hash of canonical JSON of the policy: `provider_attestation.rs` for the
policy of a provider, `attestation.rs` for the enclave's own policy, and the client's
`attestation.ts`.  Each brings the hexadecimal texts to a common form in its own way:
-/

import Subly402.Lib.HexText
import Subly402.Sdk.CanonicalJson
import Subly402.Sdk.Client

namespace Subly402

open Lib HexText

/-! ### Policies -/

/-- `ProviderAttestationPolicy`. -/
structure AttestationPolicy where
  version : UInt32
  pcrs : FiniteMap String String
  eifSigningCertSha256 : String
  kmsKeyArnSha256 : String
  protocol : String

/-- An integer as both languages write it. -/
def integer (n : ℕ) : Json := .scalar (.number (NumberLiteral.decimal ⟨false, n, none, none⟩))

namespace AttestationPolicy

/-- The texts of a policy that are hexadecimal. -/
def hexValues (policy : AttestationPolicy) : List String :=
  policy.eifSigningCertSha256 :: policy.kmsKeyArnSha256 :: policy.pcrs.toList.map Prod.snd

/-- The names of the measurements. -/
def indexes (policy : AttestationPolicy) : List String := policy.pcrs.toList.map Prod.fst

/-- The measurements with their values in a common form. -/
def entries (form : String → String) (policy : AttestationPolicy) : List (String × Json) :=
  policy.pcrs.toList.map fun pcr => (pcr.1, .string (form pcr.2))

/-- The policy as JSON, with its hexadecimal texts in a common form. -/
def json (form : String → String) (policy : AttestationPolicy) : Json :=
  .object
    [("version", integer policy.version.toNat),
     ("pcrs", .object (policy.entries form)),
     ("eifSigningCertSha256", .string (form policy.eifSigningCertSha256)),
     ("kmsKeyArnSha256", .string (form policy.kmsKeyArnSha256)),
     ("protocol", .string policy.protocol)]

/-- The policy as the client has it. -/
def toSdk (policy : AttestationPolicy) : Sdk.NitroAttestationPolicy where
  version := NumberLiteral.decimal ⟨false, policy.version.toNat, none, none⟩
  pcrs := policy.pcrs.toList
  eifSigningCertSha256 := policy.eifSigningCertSha256
  kmsKeyArnSha256 := policy.kmsKeyArnSha256
  protocol := policy.protocol

/-- The policies are one when their hexadecimal texts are brought to a common form. -/
structure SameIn (form : String → String) (policy policy' : AttestationPolicy) : Prop where
  version : policy.version = policy'.version
  pcrs : ∀ index : String, policy.pcrs[index]?.map form = policy'.pcrs[index]?.map form
  eifSigningCertSha256 : form policy.eifSigningCertSha256 = form policy'.eifSigningCertSha256
  kmsKeyArnSha256 : form policy.kmsKeyArnSha256 = form policy'.kmsKeyArnSha256
  protocol : policy.protocol = policy'.protocol

end AttestationPolicy

/-! ### The provider's policy -/

namespace ProviderAttestation

/-- `normalize_hex`. -/
def normalizeHex (value : String) : String :=
  String.ofList (lower (dropMarkers (trim value.toList)))

/-- `normalized_policy_json`. -/
def normalizedPolicyJson (policy : AttestationPolicy) : String :=
  canonicalJson (policy.json normalizeHex)

/-- `compute_provider_attestation_policy_hash`. -/
def computeProviderAttestationPolicyHash (sha256 : List UInt8 → Bytes32)
    (policy : AttestationPolicy) : String :=
  hexEncode (sha256 (utf8 (normalizedPolicyJson policy))).bytes

end ProviderAttestation

/-! ### The enclave's own policy -/

namespace NitroPolicy

/-- `serde_cbor::Value`, with the kinds that the enclave looks for. -/
inductive Cbor where
  | integer (value : ℤ)
  | bytes (bytes : List UInt8)
  | text (text : String)
  | array (values : List Cbor)
  | map (entries : List (Cbor × Cbor))
  | other

/-- What the derivation reads: the variables of the environment, the document of the Nitro device,
and the libraries that open it. -/
structure Site where
  policyHashHex : Option String
  useDynamicNitroAttestation : Bool
  eifSigningCertSha256 : Option String
  kmsKeyArnSha256 : Option String
  kmsKeyArn : Option String
  protocol : Option String
  requestNitroAttestationDocument : Except String String
  base64Decode : String → Except String (List UInt8)
  cborDecode : List UInt8 → Except String Cbor
  sha256 : List UInt8 → Bytes32

/-- `normalize_hex`. -/
def normalizeHex (value : String) : Except String String := do
  let normalized := lower (dropMarker (trim value.toList))
  refuseIf (normalized = []) "hex value must not be empty"
  refuseIf (¬normalized.all isHexDigit) ("hex value contains non-hex characters: " ++ value)
  return String.ofList normalized

/-- `decode_fixed_hex_32`. -/
def decodeFixedHex32 (name value : String) : Except String Bytes32 := do
  let normalized ← normalizeHex value
  -- of sixteen letters, so only their number can be wrong
  let bytes ← okOrElse (hexDecode normalized) (name ++ " must be valid hex: Odd number of digits")
  okOrElse (Bytes32.ofList? bytes) (name ++ " must decode to exactly 32 bytes")

/-- The measurements that a policy has. -/
def required : List String := ["0", "1", "2", "3", "8"]

/-- The name of a measurement. -/
def pcrId : Cbor → Except String String
  | .integer value => .ok (toString value)
  | .text value => .ok value
  | _ => .error "Nitro attestation PCR key must be text or integer"

/-- The body of the loop over the measurements. -/
def insertPcr (pcrs : FiniteMap String String) (entry : Cbor × Cbor) :
    Except String (FiniteMap String String) := do
  let id ← pcrId entry.1
  if id ∉ required then return pcrs
  match entry.2 with
  | .bytes bytes => return pcrs.insert id (hexEncode bytes)
  | _ => .error ("Nitro attestation PCR" ++ id ++ " must be encoded as bytes")

/-- The body of the loop over the entries of the payload. -/
def readEntry (pcrs : FiniteMap String String) (entry : Cbor × Cbor) :
    Except String (FiniteMap String String) :=
  match entry with
  | (.text "pcrs", .map pcrMap) => pcrMap.foldlM insertPcr pcrs
  | (.text "pcrs", _) => .error "Nitro attestation pcrs field must be a CBOR map"
  | _ => .ok pcrs

/-- The payload of a document. -/
def payload : Cbor → Except String (List UInt8)
  | .array [_, _, .bytes bytes, _] => .ok bytes
  | .array [_, _, _, _] => .error "Nitro attestation payload was not encoded as bytes"
  | _ => .error "Nitro attestation document is not a valid COSE_Sign1 array"

/-- The entries of a payload. -/
def payloadMap : Cbor → Except String (List (Cbor × Cbor))
  | .map entries => .ok entries
  | _ => .error "Nitro attestation payload must decode to a CBOR map"

/-- `parse_pcrs_from_attestation_document`. -/
def parsePcrsFromAttestationDocument (site : Site) (document : String) :
    Except String (FiniteMap String String) := do
  let document ← (site.base64Decode document).mapError ("invalid Nitro attestation base64: " ++ ·)
  let sign1 ← (site.cborDecode document).mapError
    ("failed to decode COSE_Sign1 attestation document: " ++ ·)
  let payload ← (site.cborDecode (← payload sign1)).mapError
    ("failed to decode Nitro attestation payload: " ++ ·)
  let pcrs ← (← payloadMap payload).foldlM readEntry ∅
  required.forM fun id =>
    refuseIf (pcrs[id]? = none) ("Nitro attestation document is missing PCR" ++ id)
  return pcrs

/-- The hash of the KMS key, as a text. -/
def kmsHash (site : Site) : Except String String :=
  match site.kmsKeyArnSha256 with
  | some value => normalizeHex value
  | none => do
    let keyArn ← okOrElse site.kmsKeyArn
      "SUBLY402_KMS_KEY_ARN or SUBLY402_KMS_KEY_ARN_SHA256 must be set for Nitro policy derivation"
    return hexEncode (site.sha256 (utf8 keyArn)).bytes

/-- The derivation of the policy's text. -/
def derive (site : Site) : Except String String := do
  let eifSigningCertSha256 ← okOrElse site.eifSigningCertSha256
    "SUBLY402_EIF_SIGNING_CERT_SHA256 must be set for Nitro policy derivation"
  let kmsKeyArnSha256 ← kmsHash site
  let protocol := site.protocol.getD "subly402-svm-v1"
  let document ← site.requestNitroAttestationDocument
  let pcrs ← parsePcrsFromAttestationDocument site document
  let eif ← normalizeHex eifSigningCertSha256
  return canonicalJson (.object
    [("version", integer 1),
     ("pcrs", .object (pcrs.toList.map fun pcr => (pcr.1, .string pcr.2))),
     ("eifSigningCertSha256", .string eif),
     ("kmsKeyArnSha256", .string kmsKeyArnSha256),
     ("protocol", .string protocol)])

/-- `resolve_attestation_policy_hash_from_env`. -/
def resolveAttestationPolicyHashFromEnv (site : Site) : Except String Bytes32 :=
  match site.policyHashHex with
  | some value => decodeFixedHex32 "SUBLY402_ATTESTATION_POLICY_HASH_HEX" value
  | none =>
    if ¬site.useDynamicNitroAttestation then .ok (.fill 0)
    else do return site.sha256 (utf8 (← derive site))

/-- The policy that an enclave has: the version is fixed, the measurements are those of the
document, and the rest comes from the environment. -/
structure Describes (site : Site) (policy : AttestationPolicy) : Prop where
  version : policy.version = 1
  pcrs : ∃ document, site.requestNitroAttestationDocument = .ok document ∧
    parsePcrsFromAttestationDocument site document = .ok policy.pcrs
  eifSigningCertSha256 : site.eifSigningCertSha256 = some policy.eifSigningCertSha256
  kmsKeyArnSha256 : site.kmsKeyArnSha256 = some policy.kmsKeyArnSha256 ∨
    site.kmsKeyArnSha256 = none ∧ ∃ keyArn, site.kmsKeyArn = some keyArn ∧
      policy.kmsKeyArnSha256 = hexEncode (site.sha256 (utf8 keyArn)).bytes
  protocol : policy.protocol = site.protocol.getD "subly402-svm-v1"

end NitroPolicy

/-! ### Sorted policies -/

namespace AttestationPolicy

section Sorted

variable {β : Type} [LinearOrder β]

/-- The fields of a policy in order. -/
def fields : List String :=
  ["eifSigningCertSha256", "kmsKeyArnSha256", "pcrs", "protocol", "version"]

theorem sortKeys_entries (rank : String → β) (form : String → String) (policy : AttestationPolicy) :
    (Json.object (policy.entries form)).sortKeys rank = .object (byRank rank (policy.entries form)) := by
  rw [Json.sortKeys, Json.sortEntries_eq_byRank, entries, List.map_map]
  rfl

/-- A rank that has the fields in order sorts every policy alike. -/
theorem sortKeys_json {rank : String → β} (h : fields.Pairwise (rank · < rank ·))
    (form : String → String) (policy : AttestationPolicy) :
    (policy.json form).sortKeys rank = .object
      [("eifSigningCertSha256", .string (form policy.eifSigningCertSha256)),
       ("kmsKeyArnSha256", .string (form policy.kmsKeyArnSha256)),
       ("pcrs", .object (byRank rank (policy.entries form))),
       ("protocol", .string policy.protocol),
       ("version", integer policy.version.toNat)] := by
  simp only [fields, List.pairwise_cons, List.mem_cons, List.not_mem_nil, or_false, forall_eq_or_imp,
    forall_eq, List.Pairwise.nil, and_true, false_imp_iff, implies_true] at h
  obtain ⟨⟨hek, hep, her, hev⟩, ⟨hkp, hkr, hkv⟩, ⟨hpr, hpv⟩, hrv⟩ := h
  rw [json, Json.sortKeys]
  simp only [Json.sortEntries, sortKeys_entries]
  simp only [integer, Json.sortKeys, List.orderedInsert_cons, List.orderedInsert_nil, EntryLe,
    hkr.le, hek.le, hep.not_ge, hkp.not_ge, hpr.le, hev.not_ge, hkv.not_ge, hpv.not_ge, hrv.not_ge,
    if_true, if_false]

theorem fields_byBytes : fields.Pairwise (byBytes · < byBytes ·) := by decide +kernel

theorem fields_byUnits : fields.Pairwise (byUnits · < byUnits ·) := by decide +kernel

end Sorted

theorem integer_inj {n n' : ℕ} (h : integer n = integer n') : n = n' := by
  have hdigits : Nat.toDigits 10 n = Nat.toDigits 10 n' := by
    simpa [integer, NumberLiteral.decimal] using h
  rw [← Nat.ofDigitChars_ten_toDigits (n := n), hdigits, Nat.ofDigitChars_ten_toDigits]

/-! ### A sorted policy names the policy -/

theorem map_fst_entries (form : String → String) (policy : AttestationPolicy) :
    (policy.entries form).map Prod.fst = policy.indexes := by
  rw [entries, indexes, List.map_map]
  rfl

theorem nodup_indexes (policy : AttestationPolicy) : policy.indexes.Nodup := by
  rw [indexes, Std.ExtTreeMap.map_fst_toList_eq_keys]
  exact Std.ExtTreeMap.nodup_keys

theorem mem_entries_iff {form : String → String} {policy : AttestationPolicy} {index text : String} :
    (index, Json.string text) ∈ policy.entries form ↔ policy.pcrs[index]?.map form = some text := by
  rw [entries, List.mem_map, Option.map_eq_some_iff]
  constructor
  · rintro ⟨⟨index', value⟩, hmem, heq⟩
    cases heq
    exact ⟨value, FiniteMap.mem_toList_iff.1 hmem, rfl⟩
  · rintro ⟨value, hvalue, rfl⟩
    exact ⟨(index, value), FiniteMap.mem_toList_iff.2 hvalue, rfl⟩

/-- Policies with one sorted value are one in the common form. -/
theorem sameIn_of_sortKeys {β : Type} [LinearOrder β] {rank : String → β}
    (hfields : fields.Pairwise (rank · < rank ·)) {form : String → String}
    {policy policy' : AttestationPolicy}
    (h : (policy.json form).sortKeys rank = (policy'.json form).sortKeys rank) :
    policy.SameIn form policy' := by
  rw [sortKeys_json hfields, sortKeys_json hfields] at h
  simp only [Json.object.injEq, List.cons.injEq, Prod.mk.injEq, true_and, and_true,
    Json.string.injEq] at h
  obtain ⟨heif, hkms, hpcrs, hprotocol, hversion⟩ := h
  have hperm : (policy.entries form).Perm (policy'.entries form) := by
    refine (List.perm_insertionSort (EntryLe rank) _).symm.trans ?_
    rw [show (policy.entries form).insertionSort (EntryLe rank) = _ from hpcrs]
    exact List.perm_insertionSort _ _
  refine ⟨UInt32.toNat_inj.1 (integer_inj hversion), fun index => ?_, heif, hkms, hprotocol⟩
  refine Option.ext fun text => ?_
  rw [← mem_entries_iff, ← mem_entries_iff, hperm.mem_iff]

/-- Two common forms give one text, for ranks that order strings, exactly when they agree on the
hexadecimal texts and the ranks on the names. -/
theorem sortKeys_eq_iff {β γ : Type} [LinearOrder β] [LinearOrder γ] {rank : String → β}
    {rank' : String → γ} (hrank : Function.Injective rank) (hrank' : Function.Injective rank')
    (hfields : fields.Pairwise (rank · < rank ·)) (hfields' : fields.Pairwise (rank' · < rank' ·))
    (form form' : String → String) (policy : AttestationPolicy) :
    (policy.json form).sortKeys rank = (policy.json form').sortKeys rank' ↔
      (∀ value ∈ policy.hexValues, form value = form' value) ∧
        RanksAgree rank rank' policy.indexes := by
  have hpcrs := insertionSort_eq_iff hrank hrank'
    (show (policy.entries form).map Prod.fst = (policy.entries form').map Prod.fst by
      rw [map_fst_entries, map_fst_entries])
    (by rw [map_fst_entries]; exact policy.nodup_indexes)
  have hentries : policy.entries form = policy.entries form' ↔
      ∀ value ∈ policy.pcrs.toList.map Prod.snd, form value = form' value := by
    rw [entries, entries, List.map_inj_left, List.forall_mem_map]
    simp
  rw [sortKeys_json hfields, sortKeys_json hfields']
  simp only [Json.object.injEq, List.cons.injEq, Prod.mk.injEq, true_and, and_true,
    Json.string.injEq]
  rw [hpcrs, hentries, map_fst_entries, hexValues, List.forall_mem_cons, List.forall_mem_cons]
  tauto

end AttestationPolicy

/-! ### Provider and client -/

namespace Sdk

/-- `toLowerCase` of ASCII texts. -/
def LowersAscii (E : Js.Engine) : Prop :=
  ∀ text : String, (∀ c ∈ text.toList, c.toNat < 128) →
    E.toLowerCase text = String.ofList (lower text.toList)

theorem policyPreimage_eq (E : Js.Engine) (policy : AttestationPolicy) :
    policyPreimage E policy.toSdk = canonicalJson (policy.json (normalizeHex E)) := rfl

theorem normalizeHex_eq {E : Js.Engine} (hE : LowersAscii E) {value : String}
    (hascii : ∀ c ∈ value.toList, c.toNat < 128) :
    normalizeHex E value = String.ofList (dropMarker (lower value.toList)) := by
  rw [normalizeHex, hE value hascii, String.toList_ofList]
  split
  · next digits heq => rw [heq, dropMarker]
  · next hnot =>
    rw [dropMarker_of_not_marked]
    rintro ⟨digits, heq⟩
    exact hnot digits heq.symm

end Sdk

namespace ProviderAttestation

/-- Provider and client bring clean texts to one form, and no others. -/
theorem normalizeHex_eq_iff {E : Js.Engine} (hE : Sdk.LowersAscii E) {value : String}
    (hascii : ∀ c ∈ value.toList, c.toNat < 128) :
    normalizeHex value = Sdk.normalizeHex E value ↔ Clean value.toList := by
  rw [Sdk.normalizeHex_eq hE hascii, normalizeHex, String.ofList_inj, normal_eq_iff]

/-- When provider and client hash one text. -/
theorem normalizedPolicyJson_eq_iff {E : Js.Engine} (hE : Sdk.LowersAscii E)
    {policy : AttestationPolicy}
    (hascii : ∀ value ∈ policy.hexValues, ∀ c ∈ value.toList, c.toNat < 128) :
    normalizedPolicyJson policy = Sdk.policyPreimage E policy.toSdk ↔
      (∀ value ∈ policy.hexValues, Clean value.toList) ∧
        RanksAgree byBytes byUnits policy.indexes := by
  rw [normalizedPolicyJson, Sdk.policyPreimage_eq, canonicalJson_eq_iff,
    AttestationPolicy.sortKeys_eq_iff byBytes_injective byUnits_injective
      AttestationPolicy.fields_byBytes AttestationPolicy.fields_byUnits]
  refine and_congr_left fun _ => forall₂_congr fun value hvalue => ?_
  exact normalizeHex_eq_iff hE (hascii value hvalue)

/-- The provider's text names the policy. -/
theorem sameIn_of_normalizedPolicyJson {policy policy' : AttestationPolicy}
    (h : normalizedPolicyJson policy = normalizedPolicyJson policy') :
    policy.SameIn normalizeHex policy' :=
  AttestationPolicy.sameIn_of_sortKeys AttestationPolicy.fields_byBytes
    (Json.sortKeys_eq_of_write (String.ofList_injective h))

end ProviderAttestation

/-- The client's text names the policy. -/
theorem Sdk.sameIn_of_policyPreimage {E : Js.Engine} {policy policy' : AttestationPolicy}
    (h : Sdk.policyPreimage E policy.toSdk = Sdk.policyPreimage E policy'.toSdk) :
    policy.SameIn (Sdk.normalizeHex E) policy' := by
  have hwrite := String.ofList_injective h
  rw [jsQuote_eq_quote] at hwrite
  exact AttestationPolicy.sameIn_of_sortKeys AttestationPolicy.fields_byUnits
    (Json.sortKeys_eq_of_write hwrite)

/-! ### The enclave -/

namespace NitroPolicy

/-- The provider's form of a text that the enclave accepts is the enclave's. -/
theorem normalizeHex_provider {value normalized : String} (h : normalizeHex value = .ok normalized) :
    ProviderAttestation.normalizeHex value = normalized := by
  unfold normalizeHex at h
  simp only [bind_eq_ok, refuseIf_eq_ok] at h
  obtain ⟨_, hne, _, hdigits, heq⟩ := h
  cases heq
  rw [not_not, List.all_eq_true] at hdigits
  rw [ProviderAttestation.normalizeHex, dropMarkers_of_digits hdigits]

theorem hexDigit_digit : ∀ n < 16, isHexDigit (hexDigit n) = true ∧ (hexDigit n).toLower = hexDigit n := by
  decide

/-- Bytes in hexadecimal are in the provider's form. -/
theorem normalizeHex_hexEncode (bytes : List UInt8) :
    ProviderAttestation.normalizeHex (hexEncode bytes) = hexEncode bytes := by
  have hdigits : ∀ c ∈ (hexEncode bytes).toList, isHexDigit c = true ∧ c.toLower = c := by
    intro c hc
    rw [hexEncode, String.toList_ofList, List.mem_flatMap] at hc
    obtain ⟨b, -, hc⟩ := hc
    have hb : b.toNat < 256 := b.toNat_lt
    simp only [List.mem_cons, List.not_mem_nil, or_false] at hc
    rcases hc with rfl | rfl
    · exact hexDigit_digit _ (by omega)
    · exact hexDigit_digit _ (by omega)
  have hlower : lower (hexEncode bytes).toList = (hexEncode bytes).toList :=
    List.map_congr_left (fun c hc => (hdigits c hc).2) |>.trans (List.map_id' _)
  rw [ProviderAttestation.normalizeHex, normal_of_digits (fun c hc => (hdigits c hc).1) hlower,
    String.ofList_toList]

/-- The values of the measurements are bytes in hexadecimal. -/
def Encoded (pcrs : FiniteMap String String) : Prop :=
  ∀ index value : String, pcrs[index]? = some value → ∃ bytes, value = hexEncode bytes

theorem Encoded.insert {pcrs : FiniteMap String String} (h : Encoded pcrs) (id : String)
    (bytes : List UInt8) : Encoded (pcrs.insert id (hexEncode bytes)) :=
  FiniteMap.forall_insert h ⟨bytes, rfl⟩

theorem Encoded.insertPcr {pcrs pcrs' : FiniteMap String String} {entry : Cbor × Cbor}
    (h : Encoded pcrs) (hstep : insertPcr pcrs entry = .ok pcrs') : Encoded pcrs' := by
  unfold NitroPolicy.insertPcr at hstep
  obtain ⟨id, -, hstep⟩ := bind_eq_ok.1 hstep
  split at hstep
  · cases hstep
    exact h
  · split at hstep
    · cases hstep
      exact h.insert id _
    · cases hstep

theorem Encoded.readEntry {pcrs pcrs' : FiniteMap String String} {entry : Cbor × Cbor}
    (h : Encoded pcrs) (hstep : readEntry pcrs entry = .ok pcrs') : Encoded pcrs' := by
  unfold NitroPolicy.readEntry at hstep
  split at hstep
  · exact foldlM_keep (fun _ _ _ hpcrs hinsert => Encoded.insertPcr hpcrs hinsert) h hstep
  · cases hstep
  · cases hstep
    exact h

/-- The measurements of a document are bytes in hexadecimal. -/
theorem encoded_of_parse {site : Site} {document : String} {pcrs : FiniteMap String String}
    (h : parsePcrsFromAttestationDocument site document = .ok pcrs) : Encoded pcrs := by
  unfold parsePcrsFromAttestationDocument at h
  simp only [bind_eq_ok] at h
  obtain ⟨_, -, _, -, _, -, _, -, _, -, read, hread, _, -, heq⟩ := h
  cases heq
  refine foldlM_keep (fun _ _ _ hpcrs hstep => Encoded.readEntry hpcrs hstep) ?_ hread
  intro index value hvalue
  simp at hvalue

theorem kmsHash_provider {site : Site} {kms : String} (h : kmsHash site = .ok kms) :
    ∃ value, ProviderAttestation.normalizeHex value = kms ∧
      (site.kmsKeyArnSha256 = some value ∨
        site.kmsKeyArnSha256 = none ∧ ∃ keyArn, site.kmsKeyArn = some keyArn ∧
          value = hexEncode (site.sha256 (utf8 keyArn)).bytes) := by
  unfold kmsHash at h
  split at h
  · next value hvalue => exact ⟨value, normalizeHex_provider h, .inl hvalue⟩
  · next hnone =>
    simp only [bind_eq_ok, okOrElse_eq_ok] at h
    obtain ⟨keyArn, harn, heq⟩ := h
    cases heq
    exact ⟨_, normalizeHex_hexEncode _, .inr ⟨hnone, keyArn, harn, rfl⟩⟩

/-- What the enclave derives is the provider's text of the policy that the enclave has. -/
theorem derive_provider {site : Site} {text : String} (h : derive site = .ok text) :
    ∃ policy, Describes site policy ∧ text = ProviderAttestation.normalizedPolicyJson policy := by
  unfold derive at h
  simp only [bind_eq_ok, okOrElse_eq_ok] at h
  obtain ⟨cert, hcert, kms, hkms, document, hdocument, pcrs, hpcrs, eif, heif, heq⟩ := h
  obtain ⟨value, hvalue, hfrom⟩ := kmsHash_provider hkms
  refine ⟨⟨1, pcrs, cert, value, site.protocol.getD "subly402-svm-v1"⟩,
    ⟨rfl, ⟨document, hdocument, hpcrs⟩, hcert, hfrom, rfl⟩, ?_⟩
  have hentries : ∀ pcr ∈ pcrs.toList,
      ((pcr.1, .string pcr.2) : String × Json)
        = (pcr.1, .string (ProviderAttestation.normalizeHex pcr.2)) := by
    intro pcr hpcr
    obtain ⟨bytes, hbytes⟩ := encoded_of_parse hpcrs _ _ (FiniteMap.mem_toList_iff.1 hpcr)
    rw [hbytes, normalizeHex_hexEncode]
  have hversion : integer (1 : UInt32).toNat = integer 1 := rfl
  obtain rfl := Except.ok.inj heq
  simp only [ProviderAttestation.normalizedPolicyJson, AttestationPolicy.json,
    AttestationPolicy.entries, hvalue, normalizeHex_provider heif, List.map_congr_left hentries,
    hversion]

end NitroPolicy

open ProviderAttestation in
/-- **Policy hashes agree for clean texts only.**  Provider and client hash one text, and so get one
hash, exactly when the hexadecimal texts are clean and the names of the measurements are in one
order.  The enclave's hash is the provider's of the enclave's policy.  Each text names the policy
up to the common form. -/
theorem policy_hash_agrees_iff (E : Js.Engine) (sha256 : List UInt8 → Bytes32)
    (hE : Sdk.LowersAscii E) (hsha : ∀ bytes, E.sha256hex bytes = hexEncode (sha256 bytes).bytes) :
    (∀ policy : AttestationPolicy,
      (∀ value ∈ policy.hexValues, ∀ c ∈ value.toList, c.toNat < 128) →
      (normalizedPolicyJson policy = Sdk.policyPreimage E policy.toSdk ↔
        (∀ value ∈ policy.hexValues, Clean value.toList) ∧
          RanksAgree byBytes byUnits policy.indexes) ∧
      ((∀ value ∈ policy.hexValues, Clean value.toList) →
        RanksAgree byBytes byUnits policy.indexes →
        computeProviderAttestationPolicyHash sha256 policy
          = Sdk.computeNitroAttestationPolicyHash E policy.toSdk)) ∧
    (∀ (site : NitroPolicy.Site) (hash : Bytes32), site.sha256 = sha256 →
      site.policyHashHex = none → site.useDynamicNitroAttestation = true →
      NitroPolicy.resolveAttestationPolicyHashFromEnv site = .ok hash →
      ∃ policy, NitroPolicy.Describes site policy ∧
        hash = sha256 (utf8 (normalizedPolicyJson policy)) ∧
        hexEncode hash.bytes = computeProviderAttestationPolicyHash sha256 policy) ∧
    (∀ policy policy' : AttestationPolicy,
      normalizedPolicyJson policy = normalizedPolicyJson policy' →
        policy.SameIn ProviderAttestation.normalizeHex policy') ∧
    ∀ policy policy' : AttestationPolicy,
      Sdk.policyPreimage E policy.toSdk = Sdk.policyPreimage E policy'.toSdk →
        policy.SameIn (Sdk.normalizeHex E) policy' := by
  refine ⟨fun policy hascii => ?_, ?_, fun _ _ => sameIn_of_normalizedPolicyJson,
    fun _ _ => Sdk.sameIn_of_policyPreimage⟩
  · have hiff := normalizedPolicyJson_eq_iff hE hascii
    refine ⟨hiff, fun hclean hagree => ?_⟩
    rw [computeProviderAttestationPolicyHash, Sdk.computeNitroAttestationPolicyHash, hsha,
      hiff.2 ⟨hclean, hagree⟩]
  · rintro site hash rfl hoverride hdynamic h
    rw [NitroPolicy.resolveAttestationPolicyHashFromEnv, hoverride] at h
    simp only [hdynamic, not_true_eq_false, if_false, bind_eq_ok] at h
    obtain ⟨text, htext, heq⟩ := h
    cases heq
    obtain ⟨policy, hpolicy, rfl⟩ := NitroPolicy.derive_provider htext
    exact ⟨policy, hpolicy, rfl, rfl⟩

/-! ### A policy in three spellings -/

namespace PolicySample

def sha256 (bytes : List UInt8) : Bytes32 := .fill bytes.sum

/-- An engine that lowers ASCII letters. -/
def engine : Js.Engine :=
  { Sdk.Sample.engine with
    toLowerCase := fun text => String.ofList (lower text.toList)
    sha256hex := fun bytes => hexEncode (sha256 bytes).bytes }

def policy (certificate : String) : AttestationPolicy where
  version := 1
  pcrs := (∅ : FiniteMap String String).insert "0" "0x0A"
  eifSigningCertSha256 := certificate
  kmsKeyArnSha256 := "cd"
  protocol := "subly402-svm-v1"

/-- An enclave whose document has a byte for each measurement. -/
def site : NitroPolicy.Site where
  policyHashHex := none
  useDynamicNitroAttestation := true
  eifSigningCertSha256 := some " 0xAB"
  kmsKeyArnSha256 := none
  kmsKeyArn := some "key"
  protocol := none
  requestNitroAttestationDocument := .ok "document"
  base64Decode _ := .ok [0]
  cborDecode
    | [0] => .ok (.array [.bytes [], .map [], .bytes [1], .bytes []])
    | _ => .ok (.map [(.text "pcrs", .map [(.integer 0, .bytes [1]), (.integer 1, .bytes [2]),
        (.integer 2, .bytes [3]), (.text "3", .bytes [4]), (.integer 4, .other),
        (.integer 8, .bytes [5])])])
  sha256 := sha256

theorem engine_lowersAscii : Sdk.LowersAscii engine := fun _ _ => rfl

/-- A certificate with a marker is hashed alike, the enclave derives a hash, and the spellings with
and without the marker have one text. -/
theorem spellings_agree :
    ProviderAttestation.computeProviderAttestationPolicyHash sha256 (policy "0xAB")
      = Sdk.computeNitroAttestationPolicyHash engine (policy "0xAB").toSdk ∧
    (∃ hash policy, NitroPolicy.resolveAttestationPolicyHashFromEnv site = .ok hash ∧
      NitroPolicy.Describes site policy ∧
      hexEncode hash.bytes
        = ProviderAttestation.computeProviderAttestationPolicyHash sha256 policy) ∧
    (policy "0xAB").SameIn ProviderAttestation.normalizeHex (policy "ab") ∧
    (policy "0xAB").SameIn (Sdk.normalizeHex engine) (policy "ab") := by
  obtain ⟨hagree, henclave, hprovider, hclient⟩ :=
    policy_hash_agrees_iff engine sha256 engine_lowersAscii fun _ => rfl
  have hvalues : (policy "0xAB").hexValues = ["0xAB", "cd", "0x0A"] := by decide +kernel
  have hascii : ∀ value ∈ (policy "0xAB").hexValues, ∀ c ∈ value.toList, c.toNat < 128 := by
    rw [hvalues]
    simp
  refine ⟨(hagree (policy "0xAB") hascii).2 (by decide +kernel) (by decide +kernel), ?_,
    hprovider _ _ (by decide +kernel), hclient _ _ (by decide +kernel)⟩
  have hok : (NitroPolicy.resolveAttestationPolicyHashFromEnv site).isOk = true := by
    decide +kernel
  cases hhash : NitroPolicy.resolveAttestationPolicyHashFromEnv site with
  | error message =>
    rw [hhash] at hok
    cases hok
  | ok hash =>
    obtain ⟨described, hdescribed, -, heq⟩ := henclave site hash rfl rfl rfl hhash
    exact ⟨hash, described, rfl, hdescribed, heq⟩

/-- A marker in capitals: the provider's function keeps it, the client's takes it away, and the
hashes of one policy differ. -/
theorem capital_marker_differs :
    ProviderAttestation.normalizeHex "0XAB" = "0xab" ∧
    Sdk.normalizeHex engine "0XAB" = "ab" ∧
    NitroPolicy.normalizeHex "0XAB" = .error "hex value contains non-hex characters: 0XAB" ∧
    ProviderAttestation.normalizedPolicyJson (policy "0XAB")
      ≠ Sdk.policyPreimage engine (policy "0XAB").toSdk ∧
    ProviderAttestation.computeProviderAttestationPolicyHash sha256 (policy "0XAB")
      ≠ Sdk.computeNitroAttestationPolicyHash engine (policy "0XAB").toSdk := by
  decide +kernel

end PolicySample
end Subly402
