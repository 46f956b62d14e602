/-
# Receipts at the watchtower

`validate_store_receipt_request_inner` of `watchtower/src/main.rs`: a receipt that is sent
to the watchtower is kept as it was sent, texts and all, once the signed message says
what the fields say and the vault's key signed it.
-/

import Subly402.Chain.Program

namespace Subly402
namespace Watchtower

open Lib Chain

/-- The status codes of a refusal. -/
inductive StatusCode where
  | badRequest
  | serviceUnavailable
deriving DecidableEq

/-- The libraries the watchtower reads its input with, and their texts for what they refuse. -/
structure Env where
  pubkeyFromStr : String → Except String Pubkey
  pubkeyToString : Pubkey → String
  base64Decode : String → Except String (List UInt8)
  /-- `Signature::from_slice` refuses what is not sixty-four bytes long. -/
  signatureErrorText : List UInt8 → String
  vaultErrorText : VaultError → String
  /-- `VerifyingKey::from_bytes`. -/
  verifyingKeyFromBytes : Bytes32 → Except String Unit
  /-- `verify_strict`, of a message and a signature. -/
  verifyStrict : Bytes32 → List UInt8 → List UInt8 → Except String Unit

/-- `StoreReceiptRequest`, and `StoredReceipt`, which has the same fields. -/
structure StoredReceipt where
  participant : String
  participantKind : ℕ
  recipientAta : String
  freeBalance : ℕ
  lockedBalance : ℕ
  maxLockExpiresAt : ℤ
  nonce : ℕ
  timestamp : ℤ
  snapshotSeqno : ℕ
  vaultConfig : String
  signature : String
  message : String
deriving DecidableEq

/-- `ReceiptKey`. -/
structure ReceiptKey where
  vault : Pubkey
  participant : Pubkey
  participantKind : ℕ
deriving DecidableEq

/-- A refusal with a text. -/
abbrev Refusal := StatusCode × String

/-- `map_err` to a bad request with the text of the library after a colon. -/
def orBadRequest {α : Type} (text : String) (r : Except String α) : Except Refusal α :=
  r.mapError fun e => (.badRequest, text ++ ": " ++ e)

/-- `require_match`, and its likes for integers. -/
def requireMatch {α : Type} [DecidableEq α] (actual expected : α) (text : String) :
    Except Refusal Unit :=
  if actual = expected then .ok () else .error (.badRequest, text)

/-- The text changes errors only. -/
@[simp]
theorem orBadRequest_eq_ok {α : Type} {text : String} {r : Except String α} {a : α} :
    orBadRequest text r = .ok a ↔ r = .ok a := by
  cases r <;> simp [orBadRequest, Except.mapError]

/-- The check passes on equal values. -/
@[simp]
theorem requireMatch_eq_ok {α : Type} [DecidableEq α] {actual expected : α} {text : String}
    {u : Unit} : requireMatch actual expected text = .ok u ↔ actual = expected := by
  unfold requireMatch
  split <;> simp_all

section Validate

variable (env : Env)

/-- `Signature::from_slice`. -/
def signatureFromSlice (bytes : List UInt8) : Except String (List UInt8) :=
  if bytes.length = 64 then .ok bytes else .error (env.signatureErrorText bytes)

/-- `decode_participant_receipt_message`, with the text of its error. -/
def decodeReceipt (message : List UInt8) : Except String ParticipantReceiptMessage :=
  (ParticipantReceiptMessage.decode message).mapError env.vaultErrorText

/-- `validate_store_receipt_request_inner`. -/
def validateStoreReceiptRequestInner (req : StoredReceipt) (expectedVault : Option Pubkey)
    (vaultSigner : Bytes32) : Except Refusal (ReceiptKey × StoredReceipt) := do
  refuseIf (1 < req.participantKind) (StatusCode.badRequest, "participantKind must be 0 or 1")
  let participant ← orBadRequest "invalid participant" (env.pubkeyFromStr req.participant)
  let recipientAta ← orBadRequest "invalid recipientAta" (env.pubkeyFromStr req.recipientAta)
  let vault ← orBadRequest "invalid vaultConfig" (env.pubkeyFromStr req.vaultConfig)
  refuseIf (∃ expected ∈ expectedVault, vault ≠ expected)
    (StatusCode.badRequest, "receipt vaultConfig does not match this watchtower")
  let signatureBytes ← orBadRequest "invalid signature base64" (env.base64Decode req.signature)
  let signature ← orBadRequest "invalid signature bytes" (signatureFromSlice env signatureBytes)
  let message ← orBadRequest "invalid message base64" (env.base64Decode req.message)
  let decoded ← orBadRequest "invalid receipt message" (decodeReceipt env message)
  requireMatch decoded.participant participant "participant mismatch in receipt message"
  requireMatch decoded.participantKind req.participantKind
    "participantKind mismatch in receipt message"
  requireMatch decoded.recipientAta recipientAta "recipientAta mismatch in receipt message"
  requireMatch decoded.freeBalance req.freeBalance "freeBalance mismatch in receipt message"
  requireMatch decoded.lockedBalance req.lockedBalance "lockedBalance mismatch in receipt message"
  requireMatch decoded.maxLockExpiresAt req.maxLockExpiresAt
    "maxLockExpiresAt mismatch in receipt message"
  requireMatch decoded.nonce req.nonce "nonce mismatch in receipt message"
  requireMatch decoded.timestamp req.timestamp "timestamp mismatch in receipt message"
  requireMatch decoded.snapshotSeqno req.snapshotSeqno "snapshotSeqno mismatch in receipt message"
  requireMatch decoded.vaultConfig vault "vaultConfig mismatch in receipt message"
  orBadRequest "invalid vault signer" (env.verifyingKeyFromBytes vaultSigner)
  orBadRequest "receipt signature verification failed"
    (env.verifyStrict vaultSigner message signature)
  return ({ vault, participant, participantKind := req.participantKind }, req)

/-- What a receipt says, in values: the texts parse to the parts of a signed message. -/
structure Signed (receipt : StoredReceipt) (vaultSigner : Bytes32) (key : ReceiptKey)
    (signature : List UInt8) (m : ParticipantReceiptMessage) : Prop where
  vaultConfig : env.pubkeyFromStr receipt.vaultConfig = .ok key.vault
  recipientAta : env.pubkeyFromStr receipt.recipientAta = .ok m.recipientAta
  signature_eq : env.base64Decode receipt.signature = .ok signature
  length_signature : signature.length = 64
  message_eq : env.base64Decode receipt.message = .ok m.build
  fits : m.Fits
  participant_eq : m.participant = key.participant
  participantKind_eq : m.participantKind = key.participantKind
  freeBalance : receipt.freeBalance = m.freeBalance
  lockedBalance : receipt.lockedBalance = m.lockedBalance
  maxLockExpiresAt : receipt.maxLockExpiresAt = m.maxLockExpiresAt
  nonce : receipt.nonce = m.nonce
  vaultConfig_eq : m.vaultConfig = key.vault
  verifies : env.verifyStrict vaultSigner m.build signature = .ok ()

variable {env}

/-- A signature is its 64 bytes. -/
theorem signatureFromSlice_eq_ok {bytes signature : List UInt8}
    (h : signatureFromSlice env bytes = .ok signature) : bytes = signature ∧ bytes.length = 64 := by
  unfold signatureFromSlice at h
  split at h
  · next hlen =>
    cases h
    exact ⟨rfl, hlen⟩
  · cases h

/-- The watchtower reads receipts as the vault does. -/
theorem decodeReceipt_eq_ok {message : List UInt8} {m : ParticipantReceiptMessage}
    (h : decodeReceipt env message = .ok m) : ParticipantReceiptMessage.decode message = .ok m := by
  unfold decodeReceipt at h
  cases hdecode : ParticipantReceiptMessage.decode message with
  | error e => simp [hdecode, Except.mapError] at h
  | ok m' =>
    obtain rfl : m' = m := by simpa [hdecode, Except.mapError] using h
    rfl

/-- **A receipt that is kept is what the vault's key signed.** -/
theorem validate_ok {req : StoredReceipt} {expectedVault : Option Pubkey} {vaultSigner : Bytes32}
    {key : ReceiptKey} {receipt : StoredReceipt}
    (h : validateStoreReceiptRequestInner env req expectedVault vaultSigner = .ok (key, receipt)) :
    receipt = req ∧ ∃ signature m, Signed env receipt vaultSigner key signature m := by
  simp only [validateStoreReceiptRequestInner, bind_eq_ok, refuseIf_eq_ok, orBadRequest_eq_ok,
    requireMatch_eq_ok] at h
  obtain ⟨_, -, participant, -, ata, hata, vault, hvault, _, -, bytes, hbytes, signature, hsig,
    message, hmessage, m, hm, _, hparticipant, _, hkind, _, hrecipient, _, hfree, _, hlocked, _,
    hlock, _, hnonce, _, -, _, -, _, hvaultEq, _, -, _, hverify, hout⟩ := h
  cases hout
  obtain ⟨rfl, hlen⟩ := signatureFromSlice_eq_ok hsig
  obtain ⟨hfits, rfl⟩ := ParticipantReceiptMessage.build_of_decode (decodeReceipt_eq_ok hm)
  exact ⟨rfl, bytes, m, ⟨hvault, by rw [hata, hrecipient], hbytes, hlen, hmessage, hfits, hparticipant,
    hkind, hfree.symm, hlocked.symm, hlock.symm, hnonce.symm, hvaultEq, hverify⟩⟩

end Validate

/-! ### Receipts to run -/

namespace Sample

/-- A receipt of the client for four tokens, with a nonce. -/
def messageOf (nonce : ℕ) : ParticipantReceiptMessage :=
  { participant := .fill 1, participantKind := 0, recipientAta := .fill 2, freeBalance := 4
    lockedBalance := 0, maxLockExpiresAt := 0, nonce, timestamp := 5, snapshotSeqno := 3
    vaultConfig := .fill 9 }

/-- A text stands for the number of its letters: a key, a signature or the message with a nonce.
The vault's key signed everything. -/
def env : Env :=
  { pubkeyFromStr := fun text => .ok (.fill (UInt8.ofNat text.length))
    pubkeyToString := fun key => String.ofList (List.replicate (key.bytes.headD 0).toNat 'k')
    base64Decode := fun text => .ok
      (if text.length = 64 then List.replicate 64 7 else (messageOf text.length).build)
    signatureErrorText := fun _ => "not a signature"
    vaultErrorText := fun _ => "not a receipt"
    verifyingKeyFromBytes := fun _ => .ok ()
    verifyStrict := fun _ _ _ => .ok () }

/-- The text of a number. -/
def text (n : ℕ) : String := String.ofList (List.replicate n 'k')

/-- The receipt as it is sent to the watchtower. -/
def receiptOf (nonce : ℕ) : StoredReceipt :=
  { participant := text 1, participantKind := 0, recipientAta := text 2, freeBalance := 4
    lockedBalance := 0, maxLockExpiresAt := 0, nonce, timestamp := 5, snapshotSeqno := 3
    vaultConfig := text 9, signature := text 64, message := text nonce }

end Sample

end Watchtower
end Subly402
