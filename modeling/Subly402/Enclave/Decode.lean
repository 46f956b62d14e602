/-
# Reading fields of the log

The field readers of `enclave/src/wal.rs` that replay applies to an entry before it
touches the state: `parse_pubkey`, `decode_fixed_hex_32`, and the fields of a
provider registration.  A reader returns the text that replay reports.
-/

import Subly402.Lib.Result
import Subly402.Enclave.Wal

namespace Subly402

open Lib

/-- `parse_pubkey`. -/
def parsePubkey (env : Env) (field value : String) : Except String Pubkey :=
  okOrElse (env.pubkeyFromStr value)
    ("invalid " ++ field ++ " in WAL: " ++ env.pubkeyErrorText value)

/-- `decode_fixed_hex_32`. -/
def decodeFixedHex32 (env : Env) (field value : String) : Except String Bytes32 := do
  let bytes ← okOrElse (hexDecode value)
    ("invalid " ++ field ++ " hex in WAL: " ++ env.hexErrorText value)
  okOrElse (Bytes32.ofList? bytes) (field ++ " must decode to 32 bytes in WAL")

/-- A key that parses. -/
theorem parsePubkey_ok {env : Env} {field value : String} {key : Pubkey}
    (h : env.pubkeyFromStr value = some key) : parsePubkey env field value = .ok key := by
  simp [parsePubkey, h]

/-- Hex that decodes. -/
theorem decodeFixedHex32_ok {env : Env} {field value : String} {b : Bytes32}
    (h : hexDecode32 value = some b) : decodeFixedHex32 env field value = .ok b := by
  obtain ⟨bytes, hbytes, hb⟩ := Option.bind_eq_some_iff.1 h
  simp [decodeFixedHex32, hbytes, hb, bind, Except.bind]

/-- The policy hash of a `ProviderRegistered` entry. -/
def decodePolicyHash (env : Env) (value : String) : Except String Bytes32 := do
  let bytes ← okOrElse (hexDecode value)
    ("invalid provider participant_attestation_policy_hash in WAL: " ++ env.hexErrorText value)
  okOrElse (Bytes32.ofList? bytes)
    "invalid provider participant_attestation_policy_hash length in WAL"

/-- A hash of a `ProviderRegistered` entry that may have any length. -/
def decodeProviderHex (env : Env) (field value : String) : Except String (List UInt8) :=
  okOrElse (hexDecode value)
    ("invalid provider " ++ field ++ " in WAL: " ++ env.hexErrorText value)

/-- The registration that replay inserts for an entry; `none` where the entry is of another
kind. -/
def decodeRegistration (env : Env) : WalEntry → Option (Except String ProviderRegistration)
  | .providerRegistered providerId displayName participantPubkey policyHash verifiedAtMs mode
      settlementTokenAccount network assetMint allowedOrigins authMode apiKeyHash
      mtlsCertFingerprint => some do
    let settlementTokenAccount ←
      parsePubkey env "settlement_token_account" settlementTokenAccount
    let assetMint ← parsePubkey env "asset_mint" assetMint
    let participantPubkey ←
      traverseOption (parsePubkey env "participant_pubkey") participantPubkey
    let participantAttestationPolicyHash ← traverseOption (decodePolicyHash env) policyHash
    let apiKeyHash ← traverseOption (decodeProviderHex env "api_key_hash") apiKeyHash
    let mtlsCertFingerprint ←
      traverseOption (decodeProviderHex env "mtls_cert_fingerprint") mtlsCertFingerprint
    return { providerId, displayName, participantPubkey, participantAttestationPolicyHash
             participantAttestationVerifiedAtMs := verifiedAtMs
             participantAttestationMode := mode, settlementTokenAccount, network, assetMint
             allowedOrigins, authMode, apiKeyHash, mtlsCertFingerprint }
  | _ => none

/-- The registration of an entry is the entry's provider's. -/
theorem decodeRegistration_id {env : Env} {providerId displayName : String}
    {participantPubkey policyHash : Option String} {verifiedAtMs : Option ℤ} {mode : Option String}
    {settlementTokenAccount network assetMint : String} {allowedOrigins : List String}
    {authMode : String} {apiKeyHash mtlsCertFingerprint : Option String}
    {provider : ProviderRegistration}
    (h : decodeRegistration env (.providerRegistered providerId displayName participantPubkey
      policyHash verifiedAtMs mode settlementTokenAccount network assetMint allowedOrigins authMode
      apiKeyHash mtlsCertFingerprint) = some (.ok provider)) : provider.providerId = providerId := by
  simp only [decodeRegistration, Option.some.injEq, bind_eq_ok] at h
  obtain ⟨_, -, _, -, _, -, _, -, _, -, _, -, ⟨⟩⟩ := h
  rfl

end Subly402
