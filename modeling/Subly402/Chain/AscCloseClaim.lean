/-
# Claiming on chain

`asc_close_claim` of `programs/subly402_vault`: a provider whose request is not
finalized by the enclave proves on chain that it has the full signature over the
payment.  Two Ed25519 checks stand before the instruction, of the vault's voucher for
the request and of the provider's signature, and the instruction records the second
with the time.
-/

import Subly402.Chain.Program
import Subly402.Asc.AdaptorSig
import Subly402.Lib.Codec

namespace Subly402
namespace Chain

open Lib

/-- `AscClaimVoucherFields`. -/
structure AscClaimVoucher where
  channelIdHash : Bytes32
  requestIdHash : Bytes32
  amount : ℕ
  requestHash : Bytes32
  providerPubkey : Bytes32
  issuedAt : ℤ
  vaultConfig : Pubkey
deriving DecidableEq

namespace AscClaimVoucher

/-- `ASC_CLAIM_VOUCHER_PREFIX` and the byte that ends it. -/
def tag : List UInt8 := utf8 "SUBLY402-ASC-CLAIM-VOUCHER" ++ [0]

/-- `ASC_CLAIM_VOUCHER_MESSAGE_LEN`. -/
def messageLen : ℕ := 203

/-- `build_asc_claim_voucher_message`. -/
def build (v : AscClaimVoucher) : List UInt8 :=
  tag ++ (v.channelIdHash.bytes ++ (v.requestIdHash.bytes ++ (leBytes 8 v.amount ++
    (v.requestHash.bytes ++ (v.providerPubkey.bytes ++ (leBytes 8 (i64Bits v.issuedAt) ++
      v.vaultConfig.bytes))))))

/-- Thirty-two bytes at an offset after the tag. -/
def hashAt (message : List UInt8) (offset : ℕ) : Option Bytes32 :=
  Bytes32.ofList? ((message.drop (27 + offset)).take 32)

/-- `parse_asc_claim_voucher_message`. -/
def parse (message : List UInt8) : Option AscClaimVoucher := do
  if message.length = messageLen ∧ message.take 27 = tag then
    let channelIdHash ← hashAt message 0
    let requestIdHash ← hashAt message 32
    let requestHash ← hashAt message 72
    let providerPubkey ← hashAt message 104
    let vaultConfig ← hashAt message 144
    return { channelIdHash, requestIdHash
             amount := leNat ((message.drop (27 + 64)).take 8), requestHash, providerPubkey
             issuedAt := i64OfBits (leNat ((message.drop (27 + 136)).take 8)), vaultConfig }
  else none

/-- The fields fit the integers of the format. -/
structure Fits (v : AscClaimVoucher) : Prop where
  amount : v.amount < 2 ^ 64
  issuedAt : -2 ^ 63 ≤ v.issuedAt ∧ v.issuedAt < 2 ^ 63

/-- The fields after the tag. -/
def codec : Codec AscClaimVoucher :=
  (Codec.bytes32.pair (Codec.bytes32.pair ((Codec.uint 8).pair (Codec.bytes32.pair
    (Codec.bytes32.pair (Codec.int64.pair Codec.bytes32)))))).iso
    { toFun := fun (channelIdHash, requestIdHash, amount, requestHash, providerPubkey, issuedAt,
        vaultConfig) =>
        { channelIdHash, requestIdHash, amount, requestHash, providerPubkey, issuedAt, vaultConfig }
      invFun := fun v => (v.channelIdHash, v.requestIdHash, v.amount, v.requestHash,
        v.providerPubkey, v.issuedAt, v.vaultConfig)
      left_inv := fun _ => rfl
      right_inv := fun _ => rfl }

theorem build_eq (v : AscClaimVoucher) : v.build = tag ++ codec.encode v := rfl

theorem Fits.valid {v : AscClaimVoucher} (h : v.Fits) : codec.Valid v :=
  ⟨Codec.bytes32_valid _, Codec.bytes32_valid _, h.amount, Codec.bytes32_valid _,
    Codec.bytes32_valid _, h.issuedAt, Codec.bytes32_valid _⟩

theorem length_tag : tag.length = 27 := by decide +kernel

theorem length_build (v : AscClaimVoucher) : v.build.length = messageLen := by
  simp [build, length_tag, messageLen, v.channelIdHash.length_eq, v.requestIdHash.length_eq,
    v.requestHash.length_eq, v.providerPubkey.length_eq, v.vaultConfig.length_eq]

/-- **The message fixes the fields.** -/
theorem build_injective {v w : AscClaimVoucher} (hv : v.Fits) (hw : w.Fits)
    (h : v.build = w.build) : v = w := by
  rw [build_eq, build_eq] at h
  have h := List.append_cancel_left h
  rw [← List.append_nil (codec.encode v), ← List.append_nil (codec.encode w)] at h
  exact (codec.encode_append_inj hv.valid hw.valid h).1

theorem hashAt_isSome {message : List UInt8} (offset : ℕ)
    (h : 27 + offset + 32 ≤ message.length) : ∃ b, hashAt message offset = some b := by
  have hlen : ((message.drop (27 + offset)).take 32).length = 32 := by simp; omega
  exact ⟨⟨_, hlen⟩, dif_pos hlen⟩

/-- **A message of the length and with the tag is read, and is the encoding of what is read.** -/
theorem parse_of_tag {message : List UInt8} (hlen : message.length = messageLen)
    (htag : message.take 27 = tag) : ∃ v, parse message = some v ∧ v.Fits ∧ v.build = message := by
  have hlen' : message.length = 203 := hlen
  obtain ⟨channelIdHash, hchannel⟩ := hashAt_isSome 0 (show _ ≤ message.length by omega)
  obtain ⟨requestIdHash, hid⟩ := hashAt_isSome 32 (show _ ≤ message.length by omega)
  obtain ⟨requestHash, hhash⟩ := hashAt_isSome 72 (show _ ≤ message.length by omega)
  obtain ⟨providerPubkey, hkey⟩ := hashAt_isSome 104 (show _ ≤ message.length by omega)
  obtain ⟨vaultConfig, hvault⟩ := hashAt_isSome 144 (show _ ≤ message.length by omega)
  have hu64 := ParticipantReceiptMessage.u64At_lt message
  refine ⟨⟨channelIdHash, requestIdHash, ParticipantReceiptMessage.u64At message (27 + 64),
    requestHash, providerPubkey, i64OfBits (ParticipantReceiptMessage.u64At message (27 + 136)),
    vaultConfig⟩, ?_, ⟨hu64 _, i64OfBits_bounds (hu64 _)⟩, ?_⟩
  · rw [parse, if_pos ⟨hlen, htag⟩, hchannel, hid, hhash, hkey, hvault]
    rfl
  have hlast : (message.drop (27 + 144)).take 32 = message.drop (27 + 144) :=
    List.take_of_length_le (by simp; omega)
  unfold build
  dsimp only
  rw [← Bytes32.ofList?_eq_some.1 hchannel, ← Bytes32.ofList?_eq_some.1 hid,
    ← Bytes32.ofList?_eq_some.1 hhash, ← Bytes32.ofList?_eq_some.1 hkey,
    ← Bytes32.ofList?_eq_some.1 hvault, i64Bits_i64OfBits (hu64 _),
    ParticipantReceiptMessage.leBytes_u64At (by omega),
    ParticipantReceiptMessage.leBytes_u64At (by omega), hlast, ← htag]
  iterate 6 rw [take_drop_append_drop]
  exact List.take_append_drop 27 message

/-- **Every voucher that is read is the encoding of its fields.** -/
theorem build_of_parse {message : List UInt8} {v : AscClaimVoucher} (h : parse message = some v) :
    v.Fits ∧ v.build = message := by
  by_cases htag : message.length = messageLen ∧ message.take 27 = tag
  · obtain ⟨w, hw, hfits, hbuild⟩ := parse_of_tag htag.1 htag.2
    rw [h] at hw
    cases hw
    exact ⟨hfits, hbuild⟩
  · rw [parse, if_neg htag] at h
    cases h

/-- **A signed voucher is read as its fields.** -/
theorem parse_build {v : AscClaimVoucher} (h : v.Fits) : parse v.build = some v := by
  have htag : v.build.take 27 = tag := by
    rw [build_eq, List.take_left' length_tag]
  obtain ⟨w, hw, hfits, hbuild⟩ := parse_of_tag v.length_build htag
  rw [hw, build_injective hfits h hbuild]

end AscClaimVoucher

/-- `build_asc_payment_message_from_hashes`. -/
def ascPaymentMessage (channelIdHash requestIdHash : Bytes32) (amount : ℕ) (requestHash : Bytes32) :
    List UInt8 :=
  utf8 "subly402-asc-pay-v1" ++ channelIdHash.bytes ++ requestIdHash.bytes ++ leBytes 8 amount
    ++ requestHash.bytes

/-- `AscCloseClaim`. -/
structure AscCloseClaim where
  vault : Pubkey
  channelIdHash : Bytes32
  requestIdHash : Bytes32
  requestHash : Bytes32
  providerPubkey : Bytes32
  fullSigR : Bytes32
  fullSigS : Bytes32
  amount : ℕ
  voucherIssuedAt : ℤ
  claimedAt : ℤ
deriving DecidableEq

/-- The seeds of the account of a claim. -/
def AscCloseClaim.seeds (claim : AscCloseClaim) : Bytes32 × Bytes32 :=
  (claim.channelIdHash, claim.requestIdHash)

/-- `asc_close_claim`, where the claim accounts with the seeds `existing` exist.  The precompile
has verified two signatures before. -/
def ascCloseClaim (vault : VaultConfig) (voucherCheck paymentCheck : Option Ed25519Check)
    (channelIdHash requestIdHash : Bytes32) (clock : ℤ) (existing : List (Bytes32 × Bytes32)) :
    Except VaultError AscCloseClaim := do
  requireThat ((channelIdHash, requestIdHash) ∉ existing) .accountInUse
  let voucherVerified ← verifyEd25519SignatureDetails voucherCheck vault.vaultSignerPubkey
  let voucher ← okOrElse (AscClaimVoucher.parse voucherVerified.message) .invalidAscClaimVoucher
  requireThat (voucher.channelIdHash = channelIdHash) .invalidAscClaimVoucher
  requireThat (voucher.requestIdHash = requestIdHash) .invalidAscClaimVoucher
  requireThat (voucher.vaultConfig = vault.key) .invalidAscClaimVoucher
  let paymentVerified ← verifyEd25519SignatureDetails paymentCheck voucher.providerPubkey
  requireThat (paymentVerified.message = ascPaymentMessage channelIdHash requestIdHash voucher.amount
    voucher.requestHash) .invalidAscCloseClaim
  requireThat (paymentVerified.signature.length = 64) .invalidAscCloseClaim
  let fullSigR ← okOrElse (Bytes32.ofList? (paymentVerified.signature.take 32)) .invalidAscCloseClaim
  let fullSigS ← okOrElse (Bytes32.ofList? (paymentVerified.signature.drop 32)) .invalidAscCloseClaim
  return { vault := vault.key, channelIdHash, requestIdHash, requestHash := voucher.requestHash
           providerPubkey := voucher.providerPubkey, fullSigR, fullSigS, amount := voucher.amount
           voucherIssuedAt := voucher.issuedAt, claimedAt := clock }

/-- A claim carries the time it was made. -/
theorem ascCloseClaim_claimedAt {vault : VaultConfig} {voucherCheck paymentCheck : Option Ed25519Check}
    {channelIdHash requestIdHash : Bytes32} {clock : ℤ} {existing : List (Bytes32 × Bytes32)}
    {claim : AscCloseClaim}
    (h : ascCloseClaim vault voucherCheck paymentCheck channelIdHash requestIdHash clock existing
      = .ok claim) : claim.claimedAt = clock := by
  simp only [ascCloseClaim, bind_eq_ok] at h
  obtain ⟨_, -, _, -, _, -, _, -, _, -, _, -, _, -, _, -, _, -, _, -, _, -, hout⟩ := h
  cases hout
  rfl

end Chain
end Subly402
