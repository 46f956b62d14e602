/-
# The vault program

The accounts, errors and shared checks of `programs/subly402_vault`: `VaultConfig`,
the signature check of `ed25519_utils.rs` and the decoder of the receipts that the
enclave signs.
-/

import Subly402.Vault.State
import Subly402.Lib.LittleEndian
import Subly402.Lib.Result

namespace Subly402
namespace Chain

open Lib

variable {a b message : List UInt8} {n offset : ℕ}

/-- `VaultError`, with the errors that Anchor and the token program raise on bad accounts. -/
inductive VaultError where
  | vaultInactive
  | vaultInsolvent
  | invalidVaultSigner
  | invalidParticipantReceipt
  | invalidReceiptMessage
  | staleReceiptNonce
  | disputeWindowActive
  | disputeWindowExpired
  | withdrawExpired
  | exitDeadlineExceeded
  | exitDeadlineNotReached
  | vaultAlreadyPaused
  | invalidStatusTransition
  | invalidAmount
  | arithmeticOverflow
  | invalidEd25519Instruction
  | alreadyResolved
  | invalidAscCloseClaim
  | invalidAscClaimVoucher
  | tooManySettlements
  | settleVaultWithoutAudit
  | recordAuditWithoutSettle
  | atomicChunkHashMismatch
  | auditRecordIndexOutOfOrder
  | constraint
  | accountInUse
  | token
deriving DecidableEq

/-- `require!`. -/
def requireThat (c : Prop) [Decidable c] (e : VaultError) : Except VaultError Unit :=
  if c then .ok () else .error e

@[simp]
theorem requireThat_eq_ok {c : Prop} [Decidable c] {e : VaultError} {u : Unit} :
    requireThat c e = .ok u ↔ c := by
  unfold requireThat
  split <;> simp_all

/-- `VaultConfig` with its address, without the fields that only governance uses. -/
structure VaultConfig where
  key : Pubkey
  status : ℕ
  vaultSignerPubkey : Pubkey
  usdcMint : Pubkey
  vaultTokenAccount : Pubkey
  exitDeadline : ℤ
  auditorEpoch : ℕ
  lifetimeDeposited : ℕ
  lifetimeWithdrawn : ℕ
  lifetimeSettled : ℕ
deriving DecidableEq

/-- `VAULT_STATUS_ACTIVE`. -/
def vaultStatusActive : ℕ := 0

/-- `VAULT_STATUS_PAUSED`. -/
def vaultStatusPaused : ℕ := 1

/-- `VAULT_STATUS_MIGRATING`. -/
def vaultStatusMigrating : ℕ := 2

/-- `VAULT_STATUS_RETIRED`. -/
def vaultStatusRetired : ℕ := 3

/-! ### Tokens -/

/-- A token account. -/
structure TokenAccount where
  mint : Pubkey
  owner : Pubkey
  amount : ℕ
deriving DecidableEq

/-- The token accounts, by address. -/
abbrev Tokens := FiniteMap Pubkey TokenAccount

/-- `token::transfer`. -/
def Tokens.transfer (tokens : Tokens) (source target : Pubkey) (amount : ℕ) :
    Except VaultError Tokens := do
  let payer ← okOrElse tokens[source]? .token
  let payee ← okOrElse tokens[target]? .token
  requireThat (payer.mint = payee.mint) .token
  requireThat (amount ≤ payer.amount) .token
  if source = target then return tokens
  else
    let debited := tokens.insert source { payer with amount := payer.amount - amount }
    return debited.insert target { payee with amount := payee.amount + amount }

/-- The amount has left one account for another, and nothing else has changed.  A payment of an
account to itself changes nothing. -/
structure Tokens.Moves (tokens : Tokens) (source target : Pubkey) (amount : ℕ) (tokens' : Tokens) :
    Prop where
  payer : ∃ account, tokens[source]? = some account ∧ amount ≤ account.amount ∧
    (source ≠ target → tokens'[source]? = some { account with amount := account.amount - amount })
  payee : ∃ account, tokens[target]? = some account ∧
    (source ≠ target → tokens'[target]? = some { account with amount := account.amount + amount })
  others : ∀ address, source = target ∨ address ≠ source ∧ address ≠ target →
    tokens'[address]? = tokens[address]?

/-- **A transfer moves its amount.** -/
theorem Tokens.transfer_moves {tokens tokens' : Tokens} {source target : Pubkey} {amount : ℕ}
    (h : tokens.transfer source target amount = .ok tokens') :
    tokens.Moves source target amount tokens' := by
  obtain ⟨payer, hpayer, h⟩ := bind_eq_ok.1 h
  obtain ⟨payee, hpayee, h⟩ := bind_eq_ok.1 h
  obtain ⟨_, -, h⟩ := bind_eq_ok.1 h
  obtain ⟨_, hle, h⟩ := bind_eq_ok.1 h
  rw [okOrElse_eq_ok] at hpayer hpayee
  rw [requireThat_eq_ok] at hle
  split at h
  · next hself =>
    obtain rfl := Except.ok.inj h
    exact ⟨⟨payer, hpayer, hle, fun hne => (hne hself).elim⟩,
      ⟨payee, hpayee, fun hne => (hne hself).elim⟩, fun _ _ => rfl⟩
  · next hne =>
    obtain rfl := Except.ok.inj h
    refine ⟨⟨payer, hpayer, hle, fun _ => ?_⟩, ⟨payee, hpayee, fun _ =>
      Std.ExtTreeMap.getElem?_insert_self⟩, fun address hother => ?_⟩
    · rw [FiniteMap.lookup_insert, if_neg hne, FiniteMap.lookup_insert, if_pos rfl]
    · obtain ⟨hsource, htarget⟩ := hother.resolve_left hne
      rw [FiniteMap.lookup_insert, if_neg htarget, FiniteMap.lookup_insert, if_neg hsource]

/-- An account with its owner and its balance. -/
structure Tokens.Holds (tokens : Tokens) (address owner : Pubkey) (amount : ℕ) : Prop where
  exists_account : ∃ account, tokens[address]? = some account ∧ account.owner = owner ∧
    account.amount = amount

namespace Tokens.Holds

variable {tokens tokens' : Tokens} {address owner : Pubkey} {balance amount : ℕ}

/-- A payment out of the account, which may be one to the account itself. -/
theorem pay (h : tokens.Holds address owner balance) {target : Pubkey}
    (htransfer : tokens.transfer address target amount = .ok tokens') :
    ∃ balance', tokens'.Holds address owner balance' ∧
      balance' + (if target = address then 0 else amount) = balance := by
  obtain ⟨account, haccount, howner, rfl⟩ := h
  have hmoves := transfer_moves htransfer
  obtain ⟨account', haccount', hle, hafter⟩ := hmoves.payer
  cases haccount.symm.trans haccount'
  by_cases hself : address = target
  · exact ⟨_, ⟨_, (hmoves.others address (.inl hself)).trans haccount, howner, rfl⟩,
      by rw [if_pos hself.symm, Nat.add_zero]⟩
  · refine ⟨_, ⟨_, hafter hself, howner, rfl⟩, ?_⟩
    rw [if_neg (Ne.symm hself)]
    exact Nat.sub_add_cancel hle

/-- A payment from another account into the account. -/
theorem receive (h : tokens.Holds address owner balance) {source : Pubkey} (hne : source ≠ address)
    (htransfer : tokens.transfer source address amount = .ok tokens') :
    tokens'.Holds address owner (balance + amount) := by
  obtain ⟨account, haccount, howner, rfl⟩ := h
  obtain ⟨account', haccount', hafter⟩ := (transfer_moves htransfer).payee
  cases haccount.symm.trans haccount'
  exact ⟨_, hafter hne, howner, rfl⟩

end Tokens.Holds

/-! ### Signatures -/

/-- What the Ed25519 precompile verified. -/
structure Ed25519Check where
  publicKey : Pubkey
  signature : List UInt8
  message : List UInt8
deriving DecidableEq

/-- `verify_ed25519_signature_details`; `none` where the instruction before is not the
precompile's. -/
def verifyEd25519SignatureDetails (check : Option Ed25519Check) (expectedPubkey : Pubkey) :
    Except VaultError Ed25519Check := do
  let check ← okOrElse check .invalidEd25519Instruction
  requireThat (check.publicKey = expectedPubkey) .invalidVaultSigner
  return check

/-! ### Receipts -/

/-- `ParticipantReceiptMessage`. -/
structure ParticipantReceiptMessage where
  participant : Pubkey
  participantKind : ℕ
  recipientAta : Pubkey
  freeBalance : ℕ
  lockedBalance : ℕ
  maxLockExpiresAt : ℤ
  nonce : ℕ
  timestamp : ℤ
  snapshotSeqno : ℕ
  vaultConfig : Pubkey
deriving DecidableEq

namespace ParticipantReceiptMessage

/-- `PARTICIPANT_RECEIPT_MESSAGE_LEN`. -/
def messageLen : ℕ := 145

/-- `build_participant_receipt_message` of the enclave. -/
def build (m : ParticipantReceiptMessage) : List UInt8 :=
  m.participant.bytes ++ ([UInt8.ofNat m.participantKind] ++ (m.recipientAta.bytes ++
    (leBytes 8 m.freeBalance ++ (leBytes 8 m.lockedBalance ++
      (leBytes 8 (i64Bits m.maxLockExpiresAt) ++ (leBytes 8 m.nonce ++
        (leBytes 8 (i64Bits m.timestamp) ++ (leBytes 8 m.snapshotSeqno ++
          m.vaultConfig.bytes))))))))

/-- The key at an offset. -/
def keyAt (message : List UInt8) (offset : ℕ) : Except VaultError Pubkey :=
  okOrElse (Bytes32.ofList? ((message.drop offset).take 32)) .invalidReceiptMessage

/-- The `u64` at an offset. -/
def u64At (message : List UInt8) (offset : ℕ) : ℕ := leNat ((message.drop offset).take 8)

/-- `decode_participant_receipt_message`. -/
def decode (message : List UInt8) : Except VaultError ParticipantReceiptMessage := do
  requireThat (message.length = messageLen) .invalidReceiptMessage
  let participant ← keyAt message 0
  let participantKind := (message.getD 32 0).toNat
  let recipientAta ← keyAt message 33
  let vaultConfig ← keyAt message 113
  return { participant, participantKind, recipientAta
           freeBalance := u64At message 65
           lockedBalance := u64At message 73
           maxLockExpiresAt := i64OfBits (u64At message 81)
           nonce := u64At message 89
           timestamp := i64OfBits (u64At message 97)
           snapshotSeqno := u64At message 105
           vaultConfig }

/-- The fields fit the integers of the format. -/
structure Fits (m : ParticipantReceiptMessage) : Prop where
  participantKind : m.participantKind < 256
  freeBalance : m.freeBalance < 2 ^ 64
  lockedBalance : m.lockedBalance < 2 ^ 64
  maxLockExpiresAt : -2 ^ 63 ≤ m.maxLockExpiresAt ∧ m.maxLockExpiresAt < 2 ^ 63
  nonce : m.nonce < 2 ^ 64
  timestamp : -2 ^ 63 ≤ m.timestamp ∧ m.timestamp < 2 ^ 63
  snapshotSeqno : m.snapshotSeqno < 2 ^ 64

theorem drop_skip (h : a.length = n) (hle : n ≤ offset) :
    (a ++ b).drop offset = b.drop (offset - n) := by
  rw [List.drop_append, List.drop_eq_nil_of_le (by omega), List.nil_append, h]

/-- A `u64` past a first field. -/
theorem u64At_skip (h : a.length = n) (hle : n ≤ offset) :
    u64At (a ++ b) offset = u64At b (offset - n) := by
  rw [u64At, drop_skip h hle, u64At]

/-- A key past a first field. -/
theorem keyAt_skip (h : a.length = n) (hle : n ≤ offset) :
    keyAt (a ++ b) offset = keyAt b (offset - n) := by
  rw [keyAt, drop_skip h hle, keyAt]

theorem u64At_zero (h : n < 2 ^ 64) (b : List UInt8) : u64At (leBytes 8 n ++ b) 0 = n := by
  rw [u64At, List.drop_zero, List.take_left' (length_leBytes 8 n), leNat_leBytes_eight h]

theorem keyAt_zero (key : Pubkey) (b : List UInt8) : keyAt (key.bytes ++ b) 0 = .ok key := by
  rw [keyAt, List.drop_zero, List.take_left' key.length_eq, Bytes32.ofList?_bytes, okOrElse_some]

/-- **A signed receipt decodes to its fields.** -/
theorem decode_build {m : ParticipantReceiptMessage} (h : m.Fits) : decode m.build = .ok m := by
  have hp := m.participant.length_eq
  have hr := m.recipientAta.length_eq
  have hv := m.vaultConfig.length_eq
  have hk : [UInt8.ofNat m.participantKind].length = 1 := rfl
  have hl (n : ℕ) : (leBytes 8 n).length = 8 := length_leBytes 8 n
  have hlen : m.build.length = messageLen := by
    simp [build, messageLen, hp, hr, hv]
  have hkind : (m.build.getD 32 0).toNat = m.participantKind := by
    have hget : m.build.getD 32 0 = UInt8.ofNat m.participantKind := by
      simp [build, List.getD_eq_getElem?_getD, hp]
    rw [hget, UInt8.toNat_ofNat', Nat.mod_eq_of_lt h.participantKind]
  have hlock : m.maxLockExpiresAt = i64OfBits (i64Bits m.maxLockExpiresAt) :=
    (i64OfBits_i64Bits h.maxLockExpiresAt.1 h.maxLockExpiresAt.2).symm
  have htime : m.timestamp = i64OfBits (i64Bits m.timestamp) :=
    (i64OfBits_i64Bits h.timestamp.1 h.timestamp.2).symm
  have hparticipant : keyAt m.build 0 = .ok m.participant := keyAt_zero _ _
  have hrecipient : keyAt m.build 33 = .ok m.recipientAta := by
    rw [build, keyAt_skip hp (by decide), keyAt_skip hk (by decide), keyAt_zero]
  have hvault : keyAt m.build 113 = .ok m.vaultConfig := by
    rw [build, keyAt_skip hp (by decide), keyAt_skip hk (by decide), keyAt_skip hr (by decide)]
    iterate 6 rw [keyAt_skip (hl _) (by decide)]
    simpa using keyAt_zero m.vaultConfig []
  -- the six integers, one after the other
  have hskip (offset : ℕ) (hle : 65 ≤ offset) : u64At m.build offset =
      u64At (leBytes 8 m.freeBalance ++ (leBytes 8 m.lockedBalance ++
        (leBytes 8 (i64Bits m.maxLockExpiresAt) ++ (leBytes 8 m.nonce ++
          (leBytes 8 (i64Bits m.timestamp) ++ (leBytes 8 m.snapshotSeqno ++
            m.vaultConfig.bytes)))))) (offset - 65) := by
    rw [build, u64At_skip hp (by omega), u64At_skip hk (by omega), u64At_skip hr (by omega)]
    congr 1
  have hfree : u64At m.build 65 = m.freeBalance := by
    rw [hskip _ (by decide), Nat.sub_self, u64At_zero h.freeBalance]
  have hlocked : u64At m.build 73 = m.lockedBalance := by
    rw [hskip _ (by decide), u64At_skip (hl _) (by decide)]
    exact u64At_zero h.lockedBalance _
  have hmax : u64At m.build 81 = i64Bits m.maxLockExpiresAt := by
    rw [hskip _ (by decide)]
    iterate 2 rw [u64At_skip (hl _) (by decide)]
    exact u64At_zero (i64Bits_lt _) _
  have hnonce : u64At m.build 89 = m.nonce := by
    rw [hskip _ (by decide)]
    iterate 3 rw [u64At_skip (hl _) (by decide)]
    exact u64At_zero h.nonce _
  have htimestamp : u64At m.build 97 = i64Bits m.timestamp := by
    rw [hskip _ (by decide)]
    iterate 4 rw [u64At_skip (hl _) (by decide)]
    exact u64At_zero (i64Bits_lt _) _
  have hseqno : u64At m.build 105 = m.snapshotSeqno := by
    rw [hskip _ (by decide)]
    iterate 5 rw [u64At_skip (hl _) (by decide)]
    exact u64At_zero h.snapshotSeqno _
  unfold decode
  rw [requireThat, if_pos hlen, hparticipant, hrecipient, hvault, hkind, hfree, hlocked, hmax,
    hnonce, htimestamp, hseqno, ← hlock, ← htime]
  rfl

theorem u64At_lt (message : List UInt8) (offset : ℕ) : u64At message offset < 2 ^ 64 := by
  have hle : ((message.drop offset).take 8).length ≤ 8 := List.length_take_le 8 _
  calc u64At message offset < 256 ^ ((message.drop offset).take 8).length := leNat_lt _
    _ ≤ 256 ^ 8 := Nat.pow_le_pow_right (by decide) hle

/-- A `u64` is written back as it was read. -/
theorem leBytes_u64At (h : offset + 8 ≤ message.length) :
    leBytes 8 (u64At message offset) = (message.drop offset).take 8 := by
  have hlen : ((message.drop offset).take 8).length = 8 := by simp; omega
  have hbytes := leBytes_leNat ((message.drop offset).take 8)
  rwa [hlen] at hbytes

theorem keyAt_eq_ok {key : Pubkey} (h : keyAt message offset = .ok key) :
    key.bytes = (message.drop offset).take 32 :=
  (Bytes32.ofList?_eq_some.1 (okOrElse_eq_ok.1 h)).symm

/-- What a receipt that decodes has shown. -/
theorem decode_eq_ok {m : ParticipantReceiptMessage} (h : decode message = .ok m) :
    message.length = messageLen ∧ keyAt message 0 = .ok m.participant ∧
      keyAt message 33 = .ok m.recipientAta ∧ keyAt message 113 = .ok m.vaultConfig ∧
      m = { m with
        participantKind := (message.getD 32 0).toNat
        freeBalance := u64At message 65
        lockedBalance := u64At message 73
        maxLockExpiresAt := i64OfBits (u64At message 81)
        nonce := u64At message 89
        timestamp := i64OfBits (u64At message 97)
        snapshotSeqno := u64At message 105 } := by
  simp only [decode, bind_eq_ok, requireThat_eq_ok] at h
  obtain ⟨_, hlen, participant, hp, recipientAta, hr, vaultConfig, hv, hout⟩ := h
  cases hout
  exact ⟨hlen, hp, hr, hv, rfl⟩

/-- **Every receipt that decodes is the encoding of its fields.** -/
theorem build_of_decode {m : ParticipantReceiptMessage} (h : decode message = .ok m) :
    m.Fits ∧ m.build = message := by
  obtain ⟨hlen, hp, hr, hv, hm⟩ := decode_eq_ok h
  have hlen : message.length = 145 := hlen
  constructor
  · rw [hm]
    exact ⟨UInt8.toNat_lt _, u64At_lt _ _, u64At_lt _ _, i64OfBits_bounds (u64At_lt _ _),
      u64At_lt _ _, i64OfBits_bounds (u64At_lt _ _), u64At_lt _ _⟩
  have hkind : [UInt8.ofNat (message.getD 32 0).toNat] = (message.drop 32).take 1 := by
    rw [UInt8.ofNat_toNat, List.drop_eq_getElem_cons (by omega), List.getD_eq_getElem _ _ (by omega)]
    rfl
  have hlast : (message.drop 113).take 32 = message.drop 113 :=
    List.take_of_length_le (by simp; omega)
  -- every field is the part of the message it was read from
  unfold build
  rw [keyAt_eq_ok hp, keyAt_eq_ok hr, keyAt_eq_ok hv, hm]
  dsimp only
  rw [hkind, i64Bits_i64OfBits (u64At_lt _ _), i64Bits_i64OfBits (u64At_lt _ _)]
  rw [leBytes_u64At (by omega), leBytes_u64At (by omega), leBytes_u64At (by omega),
    leBytes_u64At (by omega), leBytes_u64At (by omega), leBytes_u64At (by omega), hlast]
  iterate 9 rw [take_drop_append_drop]
  rfl

end ParticipantReceiptMessage

/-! ### A vault to run -/

namespace Exit

/-- A vault. -/
def vault : VaultConfig :=
  { key := .fill 9, status := vaultStatusActive, vaultSignerPubkey := .fill 8
    usdcMint := .fill 6, vaultTokenAccount := .fill 7, exitDeadline := 0, auditorEpoch := 0
    lifetimeDeposited := 10, lifetimeWithdrawn := 0, lifetimeSettled := 0 }

/-- The vault's tokens, and an account of a client. -/
def tokens : Tokens :=
  (∅ : Tokens).insert (.fill 7) ⟨.fill 6, .fill 9, 10⟩ |>.insert (.fill 2) ⟨.fill 6, .fill 1, 0⟩

end Exit

end Chain
end Subly402
