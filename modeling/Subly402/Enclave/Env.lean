/-
# What the enclave does not compute itself

The services the handlers call and whose answers they cannot predict, as one
record: the chain's deposits, the durable store behind the write-ahead log, the
watchtower, the generator of unique ids, the verifier of provider attestations, and
the text forms of the SDK (base58 public keys, base64, associated token accounts).
-/

import Subly402.Asc.AdaptorSig

namespace Subly402

open Lib

/-- The kinds of ids the enclave makes. -/
inductive IdKind where
  | verification
  | reservation
  | settlement
  | channel
  | channelSettlement
deriving DecidableEq

/-- The text in front of the `uuid`. -/
def IdKind.tag : IdKind → String
  | .verification => "ver_"
  | .reservation => "res_"
  | .settlement => "set_"
  | .channel => "ch_"
  | .channelSettlement => "asc_"

/-- `ProviderAttestationMode`. -/
inductive ProviderAttestationMode where
  | localDev
  | nitro
deriving DecidableEq

/-- `ProviderAttestationMode::as_str`. -/
def ProviderAttestationMode.asStr : ProviderAttestationMode → String
  | .localDev => "local-dev"
  | .nitro => "nitro"

/-- `VerifiedProviderAttestation`.  The source keeps the digest of the policy as hex. -/
structure VerifiedProviderAttestation where
  policyHash : Bytes32
  verifiedAtMs : ℤ
  mode : ProviderAttestationMode
deriving DecidableEq

/-- `policy_hash_hex`. -/
def VerifiedProviderAttestation.policyHashHex (attestation : VerifiedProviderAttestation) :
    String :=
  hexEncode attestation.policyHash.bytes

/-- `DepositEvent`. -/
structure DepositEvent where
  signature : String
  client : Pubkey
  amount : ℕ
  slot : ℕ
deriving DecidableEq

/-- `WithdrawEvent`. -/
structure WithdrawEvent where
  signature : String
  client : Pubkey
  recipientAta : Pubkey
  amount : ℕ
  withdrawNonce : ℕ
  expiresAt : ℤ
  slot : ℕ
deriving DecidableEq

/-- The services around the enclave. -/
structure Env where
  curve : Curve
  /-- The deposits that ever reach the vault's token account. -/
  deposits : Finset DepositEvent
  /-- The vault program adds them up in a `u64`, `lifetime_deposited`, with `checked_add`. -/
  deposits_fit : ∑ e ∈ deposits, e.amount < u64Bound
  /-- The outcome of the append with a sequence number: `none` where the record is durable. -/
  appendError : ℕ → Option String
  /-- The outcome of mirroring the receipt with a nonce. -/
  watchtowerError : ℕ → Option EnclaveError
  uuid : ℕ → String
  uuid_injective : Function.Injective uuid
  pubkeyToString : Pubkey → String
  pubkeyFromStr : String → Option Pubkey
  pubkeyFromStr_toString : ∀ key, pubkeyFromStr (pubkeyToString key) = some key
  base64Decode : String → Option (List UInt8)
  /-- The libraries' texts for input that does not parse. -/
  pubkeyErrorText : String → String
  hexErrorText : String → String
  base64ErrorText : String → String
  /-- Whether the enclave was started with provider certificates. -/
  providerMtlsEnabled : Bool
  /-- `verify_provider_participant_attestation`. -/
  verifyAttestation : String → String → Pubkey → Except String VerifiedProviderAttestation
  /-- `get_associated_token_address` for the vault's mint. -/
  associatedTokenAddress : Pubkey → Pubkey

namespace Env

variable (env : Env)

/-- The id of a kind with the `n`-th `uuid`. -/
def freshId (kind : IdKind) (n : ℕ) : String := kind.tag ++ env.uuid n

/-- The ids that can have been made when `n` `uuid`s have been drawn. -/
def Drawn (n : ℕ) (id : String) : Prop := ∃ kind k, k < n ∧ id = env.freshId kind k

variable {env}

/-- A key is known by its text. -/
theorem pubkeyToString_injective (env : Env) : Function.Injective env.pubkeyToString := by
  intro key key' h
  have hkey := env.pubkeyFromStr_toString key
  rw [h, env.pubkeyFromStr_toString key'] at hkey
  exact (Option.some.inj hkey).symm

/-- No two ids are the same: the tags differ in their first letter. -/
theorem freshId_injective {kind kind' : IdKind} {n n' : ℕ}
    (h : env.freshId kind n = env.freshId kind' n') : kind = kind' ∧ n = n' := by
  have hlist : kind.tag.toList ++ (env.uuid n).toList
      = kind'.tag.toList ++ (env.uuid n').toList := by
    rw [← String.toList_append, ← String.toList_append]
    exact congrArg String.toList h
  have hkind : kind = kind' := by
    have hhead := congrArg List.head? hlist
    cases kind <;> cases kind' <;> first | rfl | simp [IdKind.tag] at hhead
  subst hkind
  exact ⟨rfl, env.uuid_injective (String.toList_inj.1 (List.append_cancel_left hlist))⟩

/-- What was drawn stays drawn. -/
theorem Drawn.mono {n n' : ℕ} {id : String} (h : env.Drawn n id) (hle : n ≤ n') :
    env.Drawn n' id := by
  obtain ⟨kind, k, hk, rfl⟩ := h
  exact ⟨kind, k, by omega, rfl⟩

/-- An id below the counter was drawn. -/
theorem drawn_freshId {n k : ℕ} (kind : IdKind) (h : k < n) : env.Drawn n (env.freshId kind k) :=
  ⟨kind, k, h, rfl⟩

/-- The next id is new. -/
theorem not_drawn_freshId {n k : ℕ} (kind : IdKind) (h : n ≤ k) :
    ¬ env.Drawn n (env.freshId kind k) := by
  rintro ⟨kind', k', hk', heq⟩
  have := (freshId_injective heq).2
  omega

end Env

/-! ### An environment to run -/

/-- A curve with one point. -/
def Curve.trivial : Curve where
  Point := PUnit
  Scalar := PUnit
  basepoint := .unit
  compress _ := .fill 0
  decompress _ := some .unit
  scalarToBytes _ := .fill 0
  scalarFromCanonicalBytes _ := some .unit
  scalarFromBytesModOrder _ := .unit
  sha256 _ := .fill 0
  sha512 _ := (.fill 0, .fill 0)
  sha512Scalar _ := .unit

/-- Keys in hex, ids counted in unary, a watchtower that takes every receipt and attestations
that always verify. -/
def Env.plain (deposits : Finset DepositEvent) (deposits_fit : ∑ e ∈ deposits, e.amount < u64Bound)
    (appendError : ℕ → Option String) : Env where
  curve := .trivial
  deposits
  deposits_fit
  appendError
  watchtowerError _ := none
  uuid n := String.ofList (List.replicate n 'u')
  uuid_injective m n h := by simpa using congrArg (·.toList.length) h
  pubkeyToString key := hexEncode key.bytes
  pubkeyFromStr := hexDecode32
  pubkeyFromStr_toString := hexDecode32_hexEncode
  base64Decode _ := some []
  pubkeyErrorText _ := ""
  hexErrorText _ := ""
  base64ErrorText _ := ""
  providerMtlsEnabled := true
  verifyAttestation _ _ _ := .ok { policyHash := .fill 0, verifiedAtMs := 0, mode := .localDev }
  associatedTokenAddress key := key

end Subly402
