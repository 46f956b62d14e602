/-
# The messages of the vault signer

Four builders write what `sign_message` signs with the vault's key.
-/

import Subly402.Enclave.Handlers
import Subly402.Chain.Withdraw
import Subly402.Chain.AscCloseClaim

namespace Subly402

open Lib Chain Handlers

namespace Handlers.VerificationReceipt

/-- `build_verification_receipt_message`, with the hashes as `issue_verification_receipt` passes
them. -/
def message (env : Env) (r : VerificationReceipt) (vaultConfig : Pubkey) : List UInt8 :=
  utf8 ("SUBLY402-VERIFY-RECEIPT\n" ++ (r.verificationId ++ ("\n" ++ (r.reservationId ++ ("\n" ++
    (r.paymentId ++ ("\n" ++ (env.pubkeyToString r.client ++ ("\n" ++ (r.providerId ++ ("\n" ++
      (toString r.amount ++ ("\n" ++ (hexEncode r.requestHash.bytes ++ ("\n" ++
        (hexEncode r.paymentDetailsHash.bytes ++ ("\n" ++ (toString r.reservationExpiresAt ++
          ("\n" ++ (env.pubkeyToString vaultConfig ++ "\n"))))))))))))))))))))

/-- The tag of the text. -/
def tag : List UInt8 := utf8 "SUBLY402-VERIFY-RECEIPT\n"

theorem message_eq (env : Env) (r : VerificationReceipt) (vaultConfig : Pubkey) :
    ∃ rest, r.message env vaultConfig = tag ++ rest := ⟨_, utf8_append _ _⟩

theorem length_tag : tag.length = 24 := by decide +kernel

/-- **The hashes alone make the text longer than a receipt.** -/
theorem length_message (env : Env) (r : VerificationReceipt) (vaultConfig : Pubkey) :
    162 ≤ (r.message env vaultConfig).length := by
  have htag : (utf8 "SUBLY402-VERIFY-RECEIPT\n").length = 24 := length_tag
  have hline : (utf8 "\n").length = 1 := by decide +kernel
  have hrequest := length_hexEncode_le r.requestHash.bytes
  have hdetails := length_hexEncode_le r.paymentDetailsHash.bytes
  rw [r.requestHash.length_eq] at hrequest
  rw [r.paymentDetailsHash.length_eq] at hdetails
  simp only [message, utf8_append, List.length_append, htag, hline]
  omega

end Handlers.VerificationReceipt

/-- What the vault signer signs. -/
inductive VaultMessage where
  | participantReceipt (m : ParticipantReceiptMessage)
  | withdrawAuthorization (client recipientAta : Pubkey) (amount withdrawNonce : ℕ) (expiresAt : ℤ)
      (vaultConfig : Pubkey)
  | claimVoucher (v : AscClaimVoucher)
  | verificationReceipt (r : VerificationReceipt) (vaultConfig : Pubkey)

namespace VaultMessage

/-- The kinds of messages. -/
inductive Kind where
  | participantReceipt
  | withdrawAuthorization
  | claimVoucher
  | verificationReceipt
deriving DecidableEq

/-- The kind of a message. -/
def kind : VaultMessage → Kind
  | .participantReceipt _ => .participantReceipt
  | .withdrawAuthorization .. => .withdrawAuthorization
  | .claimVoucher _ => .claimVoucher
  | .verificationReceipt .. => .verificationReceipt

/-- The bytes that are signed. -/
def bytes (env : Env) : VaultMessage → List UInt8
  | .participantReceipt m => m.build
  | .withdrawAuthorization client recipientAta amount withdrawNonce expiresAt vaultConfig =>
    withdrawMessage client recipientAta amount withdrawNonce expiresAt vaultConfig
  | .claimVoucher v => v.build
  | .verificationReceipt r vaultConfig => r.message env vaultConfig

/-- What the length of a message says about its kind. -/
def LengthFits : Kind → ℕ → Prop
  | .participantReceipt, n => n = 145
  | .withdrawAuthorization, n => n = 120
  | .claimVoucher, n => n = 203
  | .verificationReceipt, n => 162 ≤ n

theorem lengthFits (env : Env) (m : VaultMessage) : LengthFits m.kind (m.bytes env).length := by
  cases m with
  | participantReceipt m =>
    simp [kind, bytes, LengthFits, ParticipantReceiptMessage.build, m.participant.length_eq,
      m.recipientAta.length_eq, m.vaultConfig.length_eq]
  | withdrawAuthorization => exact length_withdrawMessage ..
  | claimVoucher v => exact v.length_build
  | verificationReceipt r vaultConfig => exact r.length_message env vaultConfig

/-- A voucher and a text differ in their tenth letter. -/
theorem build_ne_message (env : Env) (v : AscClaimVoucher) (r : VerificationReceipt)
    (vaultConfig : Pubkey) : v.build ≠ r.message env vaultConfig := by
  intro h
  obtain ⟨rest, hrest⟩ := r.message_eq env vaultConfig
  rw [v.build_eq, hrest] at h
  have htake := congrArg (List.take 10) h
  rw [List.take_append_of_le_length (by rw [AscClaimVoucher.length_tag]; decide),
    List.take_append_of_le_length (by rw [VerificationReceipt.length_tag]; decide)] at htake
  revert htake
  decide +kernel

/-- **No bytes are messages of two kinds.** -/
theorem kind_eq_of_bytes_eq (env : Env) {a b : VaultMessage} (h : a.bytes env = b.bytes env) :
    a.kind = b.kind := by
  have ha := a.lengthFits env
  have hb := b.lengthFits env
  rw [h] at ha
  -- what the lengths leave are the two messages with a tag
  cases a <;> cases b <;> simp only [kind, LengthFits] at ha hb ⊢ <;> try omega
  case claimVoucher.verificationReceipt v r vaultConfig =>
    exact absurd h (build_ne_message env v r vaultConfig)
  case verificationReceipt.claimVoucher r vaultConfig v =>
    exact absurd h.symm (build_ne_message env v r vaultConfig)

/-- **The signed messages are exact and apart**: the decoders of the program return the fields
that were signed, accept nothing but encodings of what they return, and no signature fits a
message of another kind. -/
theorem exact_and_separate (env : Env) :
    (∀ m : ParticipantReceiptMessage, m.Fits → ParticipantReceiptMessage.decode m.build = .ok m) ∧
    (∀ message m, ParticipantReceiptMessage.decode message = .ok m → m.Fits ∧ m.build = message) ∧
    (∀ v : AscClaimVoucher, v.Fits → AscClaimVoucher.parse v.build = some v) ∧
    (∀ message v, AscClaimVoucher.parse message = some v → v.Fits ∧ v.build = message) ∧
    ∀ a b : VaultMessage, a.bytes env = b.bytes env → a.kind = b.kind :=
  ⟨fun _ => ParticipantReceiptMessage.decode_build,
    fun _ _ => ParticipantReceiptMessage.build_of_decode, fun _ => AscClaimVoucher.parse_build,
    fun _ _ => AscClaimVoucher.build_of_parse, fun _ _ => kind_eq_of_bytes_eq env⟩

end VaultMessage

end Subly402
