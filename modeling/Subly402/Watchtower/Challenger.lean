/-
# Challenging a stale receipt

`watchtower/src/challenger.rs`: `parse_force_settle_request` reads a request from the bytes
of its account at written-out offsets, and `submit_challenge` builds the two instructions
of a challenge from a stored receipt.
-/

import Subly402.Watchtower.Receipts
import Subly402.Chain.Ed25519

namespace Subly402
namespace Watchtower

open Lib Chain

variable {bump : ℕ} {r : ForceSettleRequest} {discriminator data : List UInt8} {address : Pubkey}

/-! ### The accounts as bytes -/

/-- A request with its bump. -/
abbrev StoredRequest := ℕ × ForceSettleRequest

/-- `ForceSettleRequest` in borsh. -/
def requestCodec : Codec StoredRequest :=
  ((Codec.uint 1).pair (Codec.bytes32.pair (Codec.bytes32.pair ((Codec.uint 1).pair
    (Codec.bytes32.pair ((Codec.uint 8).pair ((Codec.uint 8).pair (Codec.int64.pair
      ((Codec.uint 8).pair ((Codec.bytes 64).pair (Codec.int64.pair
        (Codec.int64.pair Codec.bool)))))))))))).iso
    { toFun := fun (bump, vault, participant, participantKind, recipientAta, freeBalanceDue,
        lockedBalanceDue, maxLockExpiresAt, receiptNonce, receiptSignature, initiatedAt,
        disputeDeadline, isResolved) =>
        (bump, { vault, participant, participantKind, recipientAta, freeBalanceDue, lockedBalanceDue
                 maxLockExpiresAt, receiptNonce, receiptSignature, initiatedAt, disputeDeadline
                 isResolved })
      invFun := fun (bump, r) => (bump, r.vault, r.participant, r.participantKind, r.recipientAta,
        r.freeBalanceDue, r.lockedBalanceDue, r.maxLockExpiresAt, r.receiptNonce,
        r.receiptSignature, r.initiatedAt, r.disputeDeadline, r.isResolved)
      left_inv := fun _ => rfl
      right_inv := fun _ => rfl }

/-- The fields of a request fit its integers. -/
structure RequestFits (bump : ℕ) (r : ForceSettleRequest) : Prop where
  bump : bump < 2 ^ 8
  participantKind : r.participantKind < 2 ^ 8
  freeBalanceDue : r.freeBalanceDue < 2 ^ 64
  lockedBalanceDue : r.lockedBalanceDue < 2 ^ 64
  maxLockExpiresAt : -2 ^ 63 ≤ r.maxLockExpiresAt ∧ r.maxLockExpiresAt < 2 ^ 63
  receiptNonce : r.receiptNonce < 2 ^ 64
  receiptSignature : r.receiptSignature.length = 64
  initiatedAt : -2 ^ 63 ≤ r.initiatedAt ∧ r.initiatedAt < 2 ^ 63
  disputeDeadline : -2 ^ 63 ≤ r.disputeDeadline ∧ r.disputeDeadline < 2 ^ 63

theorem RequestFits.valid (h : RequestFits bump r) :
    requestCodec.Valid (bump, r) :=
  ⟨h.bump, Codec.bytes32_valid _, Codec.bytes32_valid _, h.participantKind, Codec.bytes32_valid _,
    h.freeBalanceDue, h.lockedBalanceDue, h.maxLockExpiresAt, h.receiptNonce, h.receiptSignature,
    h.initiatedAt, h.disputeDeadline, trivial⟩

/-- The data of the account of a request. -/
def requestData (discriminator : List UInt8) (bump : ℕ) (r : ForceSettleRequest) : List UInt8 :=
  discriminator ++ requestCodec.encode (bump, r)

theorem length_requestData (hdisc : discriminator.length = 8) (h : RequestFits bump r) :
    (requestData discriminator bump r).length = 219 := by
  have hcodec : requestCodec.encode (bump, r) = leBytes 1 bump ++ (r.vault.bytes ++
    (r.participant.bytes ++ (leBytes 1 r.participantKind ++ (r.recipientAta.bytes ++
      (leBytes 8 r.freeBalanceDue ++ (leBytes 8 r.lockedBalanceDue ++
        (leBytes 8 (i64Bits r.maxLockExpiresAt) ++ (leBytes 8 r.receiptNonce ++
          (r.receiptSignature ++ (leBytes 8 (i64Bits r.initiatedAt) ++
            (leBytes 8 (i64Bits r.disputeDeadline) ++ [if r.isResolved then 1 else 0]))))))))))) := rfl
  simp [requestData, hcodec, hdisc, h.receiptSignature, Bytes32.length_eq]

/-- `OnChainForceSettleRequest`. -/
structure OnChainForceSettleRequest where
  address : Pubkey
  vault : Pubkey
  participant : Pubkey
  participantKind : ℕ
  recipientAta : Pubkey
  freeBalanceDue : ℕ
  lockedBalanceDue : ℕ
  maxLockExpiresAt : ℤ
  receiptNonce : ℕ
  disputeDeadline : ℤ
  isResolved : Bool
deriving DecidableEq

/-- Thirty-two bytes at an offset. -/
def keyAt (data : List UInt8) (offset : ℕ) : Option Pubkey :=
  Bytes32.ofList? ((data.drop offset).take 32)

/-- The `u64` at an offset. -/
def u64At (data : List UInt8) (offset : ℕ) : ℕ := leNat ((data.drop offset).take 8)

/-- `parse_force_settle_request`. -/
def parseForceSettleRequest (address : Pubkey) (data : List UInt8) :
    Option OnChainForceSettleRequest := do
  if data.length < 219 then none
  else
    let vault ← keyAt data 9
    let participant ← keyAt data 41
    let recipientAta ← keyAt data 74
    return { address, vault, participant
             participantKind := (data.getD 73 0).toNat
             recipientAta
             freeBalanceDue := u64At data 106
             lockedBalanceDue := u64At data 114
             maxLockExpiresAt := i64OfBits (u64At data 122)
             receiptNonce := u64At data 130
             disputeDeadline := i64OfBits (u64At data 210)
             isResolved := decide (data.getD 218 0 ≠ 0) }

/-- The request as the watchtower sees it. -/
def onChain (address : Pubkey) (r : ForceSettleRequest) : OnChainForceSettleRequest :=
  { address, vault := r.vault, participant := r.participant, participantKind := r.participantKind
    recipientAta := r.recipientAta, freeBalanceDue := r.freeBalanceDue
    lockedBalanceDue := r.lockedBalanceDue, maxLockExpiresAt := r.maxLockExpiresAt
    receiptNonce := r.receiptNonce, disputeDeadline := r.disputeDeadline
    isResolved := r.isResolved }

theorem leNat_take_one {offset : ℕ} (h : offset < data.length) :
    leNat ((data.drop offset).take 1) = (data.getD offset 0).toNat := by
  rw [List.drop_eq_getElem_cons h, List.getD_eq_getElem _ _ h, List.take_succ_cons, List.take_zero,
    leNat, leNat]
  omega

theorem bool_decode_drop {rest : List UInt8} {offset : ℕ} {b : Bool} (h : offset < data.length)
    (hread : Codec.bool.decode (data.drop offset) = some (b, rest)) :
    decide (data.getD offset 0 ≠ 0) = b := by
  obtain ⟨-, hbytes⟩ := Codec.bool.decode_sound hread
  rw [List.drop_eq_getElem_cons h] at hbytes
  rw [List.getD_eq_getElem _ _ h, (List.cons.inj hbytes).1]
  cases b <;> decide

/-- **The written-out offsets are those of borsh.** -/
theorem parse_of_decode {rest : List UInt8} {stored : StoredRequest} (hlen : 219 ≤ data.length)
    (h : requestCodec.decode (data.drop 8) = some (stored, rest)) :
    parseForceSettleRequest address data = some (onChain address stored.2) := by
  obtain ⟨vault, hvault, hvaultKey⟩ :=
    Codec.bytes32_decode_drop (show 9 + 32 ≤ data.length by omega)
  obtain ⟨participant, hparticipant, hparticipantKey⟩ :=
    Codec.bytes32_decode_drop (show 41 + 32 ≤ data.length by omega)
  obtain ⟨ata, hata, hataKey⟩ := Codec.bytes32_decode_drop (show 74 + 32 ≤ data.length by omega)
  have hbump := Codec.uint_decode_drop (show 8 + 1 ≤ data.length by omega)
  have hkind := Codec.uint_decode_drop (show 73 + 1 ≤ data.length by omega)
  have hfree := Codec.uint_decode_drop (show 106 + 8 ≤ data.length by omega)
  have hlocked := Codec.uint_decode_drop (show 114 + 8 ≤ data.length by omega)
  have hlock := Codec.int64_decode_drop (show 122 + 8 ≤ data.length by omega)
  have hnonce := Codec.uint_decode_drop (show 130 + 8 ≤ data.length by omega)
  have hsignature := Codec.bytes_decode_drop (show 138 + 64 ≤ data.length by omega)
  have hinitiated := Codec.int64_decode_drop (show 202 + 8 ≤ data.length by omega)
  have hdeadline := Codec.int64_decode_drop (show 210 + 8 ≤ data.length by omega)
  -- the codec reads one field after the other
  have h := Codec.read_iso h
  obtain ⟨-, h⟩ := Codec.read_pair h hbump
  obtain ⟨evault, h⟩ := Codec.read_pair h hvault
  obtain ⟨eparticipant, h⟩ := Codec.read_pair h hparticipant
  obtain ⟨ekind, h⟩ := Codec.read_pair h hkind
  obtain ⟨eata, h⟩ := Codec.read_pair h hata
  obtain ⟨efree, h⟩ := Codec.read_pair h hfree
  obtain ⟨elocked, h⟩ := Codec.read_pair h hlocked
  obtain ⟨elock, h⟩ := Codec.read_pair h hlock
  obtain ⟨enonce, h⟩ := Codec.read_pair h hnonce
  obtain ⟨-, h⟩ := Codec.read_pair h hsignature
  obtain ⟨-, h⟩ := Codec.read_pair h hinitiated
  obtain ⟨edeadline, h⟩ := Codec.read_pair h hdeadline
  have eresolved := bool_decode_drop (show 218 < data.length by omega) h
  rw [leNat_take_one (by omega)] at ekind
  unfold parseForceSettleRequest onChain
  rw [if_neg (by omega), keyAt, keyAt, keyAt, hvaultKey, hparticipantKey, hataKey,
    show stored.2.vault = vault from evault, show stored.2.participant = participant from eparticipant,
    show stored.2.participantKind = _ from ekind, show stored.2.recipientAta = ata from eata,
    show stored.2.freeBalanceDue = _ from efree, show stored.2.lockedBalanceDue = _ from elocked,
    show stored.2.maxLockExpiresAt = _ from elock, show stored.2.receiptNonce = _ from enonce,
    show stored.2.disputeDeadline = _ from edeadline, show stored.2.isResolved = _ from eresolved.symm]
  rfl

/-- **The watchtower reads what the program stored.** -/
theorem parse_requestData (hdisc : discriminator.length = 8) (h : RequestFits bump r) :
    parseForceSettleRequest address (requestData discriminator bump r) = some (onChain address r) := by
  have hread : requestCodec.decode ((requestData discriminator bump r).drop 8)
      = some ((bump, r), []) := by
    rw [requestData, List.drop_left' hdisc, ← requestCodec.decode_encode (bump, r) [] h.valid,
      List.append_nil]
  exact parse_of_decode (length_requestData hdisc h).ge hread

/-! ### The challenge -/

/-- The data of the account of a vault, up to the key of its signer. -/
def vaultConfigData (discriminator : List UInt8) (bump vaultId : ℕ) (governance : Pubkey)
    (vault : VaultConfig) (rest : List UInt8) : List UInt8 :=
  discriminator ++ (leBytes 1 bump ++ (leBytes 8 vaultId ++ (governance.bytes ++
    (leBytes 1 vault.status ++ (vault.vaultSignerPubkey.bytes ++ rest)))))

/-- `build_ed25519_verify_instruction`. -/
def buildEd25519VerifyInstruction (rt : Runtime) (pubkey : Bytes32)
    (signature message : List UInt8) : Chain.Instruction :=
  { programId := rt.ed25519Program
    accounts := []
    data := [1, 0] ++ (leBytes 2 48 ++ (leBytes 2 65535 ++ (leBytes 2 16 ++ (leBytes 2 65535 ++
      (leBytes 2 112 ++ (leBytes 2 message.length ++ (leBytes 2 65535 ++
        (pubkey.bytes ++ (signature ++ message))))))))) }

/-- `map_err` to a text. -/
def orText {α : Type} (text : String) (r : Except String α) : Except String α :=
  r.mapError fun e => text ++ ": " ++ e

/-- The key of the vault's signer in the data of its account. -/
def vaultSignerOf (data : List UInt8) : Except String Bytes32 := do
  refuseIf (data.length < 50 + 32) "VaultConfig data too short"
  okOrElse (keyAt data 50) "Failed to extract vault_signer_pubkey"

/-- `submit_challenge`, up to the two instructions of the transaction it sends; `accountData` is the
node's answer for the data of an account. -/
def submitChallenge (env : Env) (rt : Runtime) (accountData : Pubkey → Except String (List UInt8))
    (forceSettleAddress challenger : Pubkey) (receipt : StoredReceipt) :
    Except String (List Chain.Instruction) := do
  let signatureBytes ← orText "Invalid receipt signature base64" (env.base64Decode receipt.signature)
  let messageBytes ← orText "Invalid receipt message base64" (env.base64Decode receipt.message)
  let vaultConfig ← orText "Invalid vault_config" (env.pubkeyFromStr receipt.vaultConfig)
  let vaultConfigData ← orText "Failed to fetch vault config" (accountData vaultConfig)
  let vaultSigner ← vaultSignerOf vaultConfigData
  refuseIf (signatureBytes.length ≠ 64) "Signature must be 64 bytes"
  let recipientAta ← orText "Invalid recipient_ata" (env.pubkeyFromStr receipt.recipientAta)
  return [buildEd25519VerifyInstruction rt vaultSigner signatureBytes messageBytes,
    { programId := rt.programId
      accounts := [⟨challenger, true, false⟩, ⟨vaultConfig, false, false⟩,
        ⟨forceSettleAddress, false, true⟩, ⟨rt.instructionsSysvar, false, false⟩]
      data := rt.instructionDiscriminator "force_settle_challenge" ++ (recipientAta.bytes ++
        (leBytes 8 receipt.freeBalance ++ (leBytes 8 receipt.lockedBalance ++
          (leBytes 8 (i64Bits receipt.maxLockExpiresAt) ++ (leBytes 8 receipt.nonce ++
            (signatureBytes ++ (leBytes 4 messageBytes.length ++ messageBytes))))))) }]

@[simp]
theorem orText_ok {α : Type} (text : String) (a : α) :
    orText text (.ok a : Except String α) = .ok a := rfl

/-- The signer is where the watchtower looks for it. -/
theorem vaultSignerOf_vaultConfigData (hdisc : discriminator.length = 8) (bump vaultId : ℕ)
    (governance : Pubkey) (vault : VaultConfig) (rest : List UInt8) :
    vaultSignerOf (vaultConfigData discriminator bump vaultId governance vault rest)
      = .ok vault.vaultSignerPubkey := by
  have hskip : (vaultConfigData discriminator bump vaultId governance vault rest).drop 50
      = vault.vaultSignerPubkey.bytes ++ rest := by
    rw [vaultConfigData, ParticipantReceiptMessage.drop_skip hdisc (by decide),
      ParticipantReceiptMessage.drop_skip (length_leBytes 1 bump) (by decide),
      ParticipantReceiptMessage.drop_skip (length_leBytes 8 vaultId) (by decide),
      ParticipantReceiptMessage.drop_skip governance.length_eq (by decide),
      ParticipantReceiptMessage.drop_skip (length_leBytes 1 vault.status) (by decide)]
    rfl
  have hlen : ¬ (vaultConfigData discriminator bump vaultId governance vault rest).length < 50 + 32 := by
    have hdrop := congrArg List.length hskip
    rw [List.length_drop, List.length_append, vault.vaultSignerPubkey.length_eq] at hdrop
    omega
  rw [vaultSignerOf, refuseIf, if_neg hlen, keyAt, hskip,
    List.take_left' vault.vaultSignerPubkey.length_eq, Bytes32.ofList?_bytes]
  rfl

/-- **The Ed25519 instruction says what it was built from.** -/
theorem embeddedCheck_build (rt : Runtime) (index : ℕ) (pubkey : Bytes32)
    {signature message : List UInt8} (hsig : signature.length = 64) (hmsg : message.length = 145) :
    rt.embeddedCheck index (buildEd25519VerifyInstruction rt pubkey signature message)
      = some ⟨pubkey, signature, message⟩ := by
  have hkey := pubkey.length_eq
  obtain ⟨data, hdata⟩ :
      ∃ data, data = (buildEd25519VerifyInstruction rt pubkey signature message).data := ⟨_, rfl⟩
  have hdata' : data = [1, 0, 48, 0, 255, 255, 16, 0, 255, 255, 112, 0, 145, 0, 255, 255] ++
      (pubkey.bytes ++ (signature ++ message)) := by
    have hheader : [1, 0] ++ (leBytes 2 48 ++ (leBytes 2 65535 ++ (leBytes 2 16 ++ (leBytes 2 65535 ++
        (leBytes 2 112 ++ (leBytes 2 145 ++ leBytes 2 65535))))))
          = [1, 0, 48, 0, 255, 255, 16, 0, 255, 255, 112, 0, 145, 0, 255, 255] := by decide +kernel
    rw [hdata, buildEd25519VerifyInstruction, hmsg, ← hheader]
    simp only [List.append_assoc]
  have hlen : data.length = 257 := by
    rw [hdata']
    simp [hkey, hsig, hmsg]
  have hu16 : u16At data 2 = 48 ∧ u16At data 4 = 65535 ∧ u16At data 6 = 16 ∧ u16At data 8 = 65535 ∧
      u16At data 10 = 112 ∧ u16At data 12 = 145 ∧ u16At data 14 = 65535 := by
    rw [hdata']
    simp [u16At, leNat]
  obtain ⟨h2, h4, h6, h8, h10, h12, h14⟩ := hu16
  rw [Runtime.embeddedCheck_eq_some, ← hdata]
  refine ⟨rfl, ⟨by omega, by rw [hdata']; rfl, .inl h4, by omega, by omega, .inl h8, .inl h14,
    by omega⟩, ?_, ?_, ?_⟩
  · rw [h6, hdata', List.drop_left' (by rfl), List.take_left' hkey]
  · rw [h2, hdata', ← List.append_assoc, List.drop_left' (by simp [hkey]), List.take_left' hsig]
  · rw [h10, h12, hdata', ← List.append_assoc, ← List.append_assoc,
      List.drop_left' (by simp [hkey, hsig]), ← hmsg, List.take_length]

/-- A request that a receipt answers: of the same vault and participant, older, and open. -/
structure Answers (key : ReceiptKey) (receipt : StoredReceipt) (request : ForceSettleRequest)
    (clock : ℤ) : Prop where
  vault : request.vault = key.vault
  participant : request.participant = key.participant
  participantKind : request.participantKind = key.participantKind
  unresolved : request.isResolved = false
  older : request.receiptNonce < receipt.nonce
  inTime : clock ≤ request.disputeDeadline

section Accepted

variable {env : Env} {rt : Runtime} {receipt : StoredReceipt} {key : ReceiptKey}
  {signature : List UInt8} {m : ParticipantReceiptMessage} {vault : VaultConfig}
  {request : ForceSettleRequest} {clock : ℤ}

/-- The arguments of a challenge with a receipt. -/
def challengeArgs (signature : List UInt8) (m : ParticipantReceiptMessage) : ReceiptArgs :=
  { recipientAta := m.recipientAta, freeBalance := m.freeBalance, lockedBalance := m.lockedBalance
    maxLockExpiresAt := m.maxLockExpiresAt, receiptNonce := m.nonce, receiptSignature := signature
    receiptMessage := m.build }

theorem length_build (m : ParticipantReceiptMessage) : m.build.length = 145 := by
  simp [ParticipantReceiptMessage.build, Bytes32.length_eq]

theorem challengeArgs_valid (hfits : m.Fits) (hlen : signature.length = 64) :
    ReceiptArgs.codec.Valid (challengeArgs signature m) := by
  have hmessage : m.build.length < 256 ^ 4 := by
    rw [length_build]
    decide
  exact ⟨Codec.bytes32_valid _, hfits.freeBalance, hfits.lockedBalance, hfits.maxLockExpiresAt,
    hfits.nonce, hlen, hmessage⟩

/-- **The handler accepts a receipt that answers the request.** -/
theorem forceSettleChallenge_accepts
    (hsigned : Signed env receipt vault.vaultSignerPubkey key signature m)
    (hvault : vault.key = key.vault) (hanswers : Answers key receipt request clock) :
    forceSettleChallenge vault (some ⟨vault.vaultSignerPubkey, signature, m.build⟩)
      (challengeArgs signature m) clock request = .ok { request with
        recipientAta := m.recipientAta
        freeBalanceDue := m.freeBalance
        lockedBalanceDue := m.lockedBalance
        maxLockExpiresAt := m.maxLockExpiresAt
        receiptNonce := m.nonce
        receiptSignature := signature } := by
  have hkey : request.vault = vault.key := hanswers.vault.trans hvault.symm
  have hnonce : request.receiptNonce < m.nonce := hsigned.nonce ▸ hanswers.older
  have hparticipant : m.participant = request.participant :=
    hsigned.participant_eq.trans hanswers.participant.symm
  have hkind : m.participantKind = request.participantKind :=
    hsigned.participantKind_eq.trans hanswers.participantKind.symm
  have hvaultKey : m.vaultConfig = vault.key := hsigned.vaultConfig_eq.trans hvault.symm
  have hcheck : checkReceipt vault (some ⟨vault.vaultSignerPubkey, signature, m.build⟩)
      request.participant request.participantKind (challengeArgs signature m) = .ok () := by
    simp only [checkReceipt, verifyEd25519SignatureDetails, bind_eq_ok, requireThat_eq_ok,
      okOrElse_eq_ok]
    exact ⟨_, ⟨_, rfl, (), rfl, rfl⟩, (), rfl, (), rfl, m,
      ParticipantReceiptMessage.decode_build hsigned.fits, (), hparticipant, (), hkind, (), rfl, (),
      rfl, (), rfl, (), rfl, (), rfl, hvaultKey⟩
  simp only [forceSettleChallenge, bind_eq_ok, requireThat_eq_ok]
  exact ⟨(), hkey, (), hanswers.unresolved, (), hanswers.inTime, (), hnonce, (), hcheck, rfl⟩

/-- The two instructions of a challenge with a signed receipt. -/
def challengeInstructions (rt : Runtime) (vaultSigner : Bytes32) (vaultConfig address challenger : Pubkey)
    (signature : List UInt8) (m : ParticipantReceiptMessage) : List Chain.Instruction :=
  [buildEd25519VerifyInstruction rt vaultSigner signature m.build,
    { programId := rt.programId
      accounts := [⟨challenger, true, false⟩, ⟨vaultConfig, false, false⟩, ⟨address, false, true⟩,
        ⟨rt.instructionsSysvar, false, false⟩]
      data := rt.instructionDiscriminator "force_settle_challenge"
        ++ ReceiptArgs.codec.encode (challengeArgs signature m) }]

/-- **A stored receipt makes a challenge.** -/
theorem submitChallenge_eq {accountData : Pubkey → Except String (List UInt8)}
    {vaultSigner : Bytes32} {challenger : Pubkey}
    (hsigned : Signed env receipt vaultSigner key signature m)
    (hdata : accountData key.vault = .ok data) (hsigner : vaultSignerOf data = .ok vaultSigner) :
    submitChallenge env rt accountData address challenger receipt =
      .ok (challengeInstructions rt vaultSigner key.vault address challenger signature m) := by
  unfold submitChallenge
  rw [hsigned.signature_eq, hsigned.message_eq, hsigned.vaultConfig, hsigned.recipientAta,
    hsigned.freeBalance, hsigned.lockedBalance, hsigned.maxLockExpiresAt, hsigned.nonce]
  simp only [orText_ok, ok_bind, hdata, hsigner]
  rw [refuseIf, if_neg (not_not_intro hsigned.length_signature)]
  rfl

/-- **The program reads the challenge as it was built.** -/
theorem processChallenge_eq {vaultSigner : Bytes32} {challenger : Pubkey} {check : Ed25519Check}
    {vaults : FiniteMap Pubkey VaultConfig} {requests : FiniteMap Pubkey ForceSettleRequest}
    {request' : ForceSettleRequest} (hsigned : Signed env receipt vaultSigner key signature m)
    (hcheck : rt.ed25519Check (challengeInstructions rt vaultSigner key.vault address challenger signature m)
      1 1 = some check)
    (hvault : vaults[key.vault]? = some vault) (hrequest : requests[address]? = some request)
    (hrun : forceSettleChallenge vault (some check) (challengeArgs signature m) clock request
      = .ok request') :
    rt.processChallenge (challengeInstructions rt vaultSigner key.vault address challenger signature m)
      1 vaults requests clock = .ok request' := by
  have hdisc := rt.length_instructionDiscriminator "force_settle_challenge"
  have hargs := ReceiptArgs.codec.decode_encode (challengeArgs signature m) []
    (challengeArgs_valid hsigned.fits hsigned.length_signature)
  rw [List.append_nil] at hargs
  simp only [Runtime.processChallenge, bind_eq_ok, okOrElse_eq_ok, requireThat_eq_ok]
  refine ⟨_, rfl, (), ⟨rfl, List.take_left' hdisc⟩, (challengeArgs signature m, []), ?_, ?_⟩
  · rw [List.drop_left' hdisc, hargs]
  · change (requireThat _ _ >>= fun _ => _) = _
    simp only [bind_eq_ok, okOrElse_eq_ok, requireThat_eq_ok]
    exact ⟨(), trivial, vault, hvault, request, hrequest, (), trivial, (), trivial, hcheck ▸ hrun⟩

end Accepted

/-- **Challenges of the watchtower are accepted**: the watchtower reads the fields that the program
stored, and for every receipt it accepted and every open, older request of the same vault and
participant, the two instructions it builds pass the handler's checks. -/
theorem challenge_accepted {env : Env} {rt : Runtime} {req receipt : StoredReceipt}
    {expectedVault : Option Pubkey} {vaultSigner : Bytes32} {key : ReceiptKey}
    {vaults : FiniteMap Pubkey VaultConfig} {requests : FiniteMap Pubkey ForceSettleRequest}
    {accountData : Pubkey → Except String (List UInt8)} {vault : VaultConfig}
    {request : ForceSettleRequest} {address challenger governance : Pubkey} {clock : ℤ}
    {discriminator discriminator' rest : List UInt8} {bump bump' vaultId : ℕ}
    (hvalid : validateStoreReceiptRequestInner env req expectedVault vaultSigner
      = .ok (key, receipt))
    (hvault : vaults[key.vault]? = some vault) (hkey : vault.key = key.vault)
    (hsigner : vault.vaultSignerPubkey = vaultSigner)
    (hdisc : discriminator.length = 8) (hdisc' : discriminator'.length = 8)
    (hdata : accountData key.vault
      = .ok (vaultConfigData discriminator bump vaultId governance vault rest))
    (hrequest : requests[address]? = some request) (hfits : RequestFits bump' request)
    (hanswers : Answers key receipt request clock) :
    (requestData discriminator' bump' request).length = 219 ∧
    parseForceSettleRequest address (requestData discriminator' bump' request)
      = some (onChain address request) ∧
    ∃ tx, submitChallenge env rt accountData address challenger receipt = .ok tx ∧
      (∃ check, rt.ed25519Check tx 1 1 = some check ∧
        env.verifyStrict check.publicKey check.message check.signature = .ok ()) ∧
      ∃ request', rt.processChallenge tx 1 vaults requests clock = .ok request' ∧
        request'.receiptNonce = receipt.nonce := by
  refine ⟨length_requestData hdisc' hfits, parse_requestData hdisc' hfits, ?_⟩
  obtain ⟨rfl, signature, m, hsigned⟩ := validate_ok hvalid
  subst hsigner
  have hsubmit : submitChallenge env rt accountData address challenger receipt = .ok
      (challengeInstructions rt vault.vaultSignerPubkey key.vault address challenger signature m) :=
    submitChallenge_eq hsigned hdata
      (vaultSignerOf_vaultConfigData hdisc bump vaultId governance vault rest)
  have hcheck : rt.ed25519Check (challengeInstructions rt vault.vaultSignerPubkey key.vault address
      challenger signature m) 1 1 = some ⟨vault.vaultSignerPubkey, signature, m.build⟩ :=
    Runtime.ed25519Check_eq_some.2 ⟨le_rfl, _, rfl,
      embeddedCheck_build rt 0 _ hsigned.length_signature (length_build m)⟩
  exact ⟨_, hsubmit, ⟨_, hcheck, hsigned.verifies⟩, _, processChallenge_eq hsigned hcheck hvault
    hrequest (forceSettleChallenge_accepts hsigned hkey hanswers), hsigned.nonce.symm⟩

/-! ### A challenge to run -/

namespace Sample

/-- The program. -/
def rt : Runtime :=
  { programId := .fill 20, tokenProgram := .fill 21, systemProgram := .fill 22
    instructionsSysvar := .fill 23, ed25519Program := .fill 24
    sha256 := fun bytes => .fill bytes.sum
    findAuditAddress := fun _ _ index => (.fill (UInt8.ofNat index), 255) }

/-- The client's second receipt. -/
def receipt : StoredReceipt := receiptOf 2

/-- The client's request with its first receipt, for ten tokens. -/
def request : ForceSettleRequest :=
  { vault := .fill 9, participant := .fill 1, participantKind := 0, recipientAta := .fill 2
    freeBalanceDue := 10, lockedBalanceDue := 0, maxLockExpiresAt := 0, receiptNonce := 1
    receiptSignature := List.replicate 64 6, initiatedAt := 0, disputeDeadline := 86400
    isResolved := false }

/-- The node's answer for the vault's account. -/
def accountData (_ : Pubkey) : Except String (List UInt8) :=
  .ok (vaultConfigData (List.replicate 8 0) 255 1 (.fill 5) Exit.vault [])

/-- The vault. -/
def vaults : FiniteMap Pubkey VaultConfig :=
  (∅ : FiniteMap Pubkey VaultConfig).insert (.fill 9) Exit.vault

/-- The request. -/
def requests : FiniteMap Pubkey ForceSettleRequest :=
  (∅ : FiniteMap Pubkey ForceSettleRequest).insert (.fill 30) request

theorem receipt_validates : validateStoreReceiptRequestInner env receipt (some (.fill 9)) (.fill 8)
    = .ok (⟨.fill 9, .fill 1, 0⟩, receipt) := by
  have hpass : (validateStoreReceiptRequestInner env receipt (some (.fill 9)) (.fill 8)).toOption
      = some (⟨.fill 9, .fill 1, 0⟩, receipt) := by decide +kernel
  cases hrun : validateStoreReceiptRequestInner env receipt (some (.fill 9)) (.fill 8) with
  | error e =>
    rw [hrun] at hpass
    cases hpass
  | ok out =>
    rw [hrun] at hpass
    cases hpass
    rfl

end Sample

/-- The second receipt of the client replaces its first. -/
theorem challenge_accepted_sample :
    (requestData (List.replicate 8 1) 254 Sample.request).length = 219 ∧
    parseForceSettleRequest (.fill 30) (requestData (List.replicate 8 1) 254 Sample.request)
      = some (onChain (.fill 30) Sample.request) ∧
    ∃ tx, submitChallenge Sample.env Sample.rt Sample.accountData (.fill 30) (.fill 31)
        Sample.receipt = .ok tx ∧
      (∃ check, Sample.rt.ed25519Check tx 1 1 = some check ∧
        Sample.env.verifyStrict check.publicKey check.message check.signature = .ok ()) ∧
      ∃ request', Sample.rt.processChallenge tx 1 Sample.vaults Sample.requests 100 = .ok request' ∧
        request'.receiptNonce = Sample.receipt.nonce := by
  have hvault : Sample.vaults[(.fill 9 : Pubkey)]? = some Exit.vault := by simp [Sample.vaults]
  have hrequest : Sample.requests[(.fill 30 : Pubkey)]? = some Sample.request := by
    simp [Sample.requests]
  have hfits : RequestFits 254 Sample.request :=
    ⟨by decide, by decide, by decide, by decide, by decide, by decide, by decide, by decide,
      by decide⟩
  have hanswers : Answers ⟨.fill 9, .fill 1, 0⟩ Sample.receipt Sample.request 100 :=
    ⟨rfl, rfl, rfl, rfl, by decide, by decide⟩
  exact challenge_accepted Sample.receipt_validates hvault rfl rfl rfl rfl rfl hrequest hfits hanswers

end Watchtower
end Subly402
