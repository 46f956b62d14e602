/-
# One vault on chain

All that the instructions of `programs/subly402_vault` do on one vault, from
`initialize_vault` on: the accounts of the vault with its token account and the other
token accounts, and a clock that does not go back.  An instruction runs with the
transaction it stands in, since some read it, and one that fails changes nothing.
-/

import Subly402.Chain.Governance
import Subly402.Chain.Withdraw
import Subly402.Chain.Ed25519
import Subly402.Chain.AscCloseClaim
import Subly402.Batch.Settle
import Subly402.Lib.Runs

namespace Subly402
namespace Chain

open Lib

/-! ### The state -/

/-- Why tokens went into the vault's account or out of it. -/
inductive TransferKind where
  | deposited
  | withdrawn
  | settled
  | forceSettled
deriving DecidableEq

/-- A transfer into the vault's account or out of it. -/
structure Transfer where
  kind : TransferKind
  amount : ℕ
  target : Pubkey
deriving DecidableEq

/-- A withdrawal that succeeded, with the signature that allowed it and the time. -/
structure Withdrawal where
  call : WithdrawCall
  check : Option Ed25519Check
  clock : ℤ

/-- The seeds of the account that records the nonce of a withdrawal. -/
def Withdrawal.seeds (w : Withdrawal) : Pubkey × ℕ := (w.call.client, w.call.withdrawNonce)

/-- The accounts of one vault, the token accounts and the clock. -/
structure Site where
  vault : GovernedVault
  tokens : Tokens
  audits : FiniteMap Pubkey AuditRecord
  /-- The seeds of the `UsedWithdrawNonce` accounts. -/
  usedNonces : List (Pubkey × ℕ)
  /-- The `ForceSettleRequest` accounts, by participant and kind. -/
  requests : Pubkey × ℕ → Option ForceSettleRequest
  claims : List AscCloseClaim
  clock : ℤ
  /-- What went into the vault's token account and out of it (ghost). -/
  transfers : List Transfer
  /-- The withdrawals that succeeded (ghost). -/
  withdrawals : List Withdrawal

/-- The transaction that an instruction stands in, and where. -/
structure TxContext where
  instructions : List Instruction
  current : ℕ

namespace Site

/-- What happens: an instruction of the program with its signer, its accounts and arguments, or
something elsewhere. -/
inductive Event where
  | deposit (call : DepositCall)
  | withdraw (tx : TxContext) (call : WithdrawCall)
  | settleVault (tx : TxContext) (accounts : List AccountMeta) (args : ChunkArgs SettlementEntry)
  | recordAudit (tx : TxContext) (accounts : List AccountMeta) (args : ChunkArgs AuditRecordData)
  | ascCloseClaim (tx : TxContext) (channelIdHash requestIdHash : Bytes32)
  | pauseVault (governance : Pubkey)
  | announceMigration (governance successorVault : Pubkey) (exitDeadline : ℤ)
  | retireVault (governance : Pubkey)
  | rotateAuditor (governance : Pubkey) (newAuditorMasterPubkey : Bytes32)
  | forceSettleInit (tx : TxContext) (participant : Pubkey) (participantKind : ℕ) (args : ReceiptArgs)
  | forceSettleChallenge (tx : TxContext) (request : Pubkey × ℕ) (args : ReceiptArgs)
  | forceSettleFinalize (request : Pubkey × ℕ) (vaultTokenAccount recipientTokenAccount : Pubkey)
  | elsewhere (tokens : Tokens)

/-- An event, some seconds after the one before. -/
structure Act where
  wait : ℕ
  event : Event

/-- The event creates or changes accounts that hold no tokens. -/
def Event.records : Event → Bool
  | .recordAudit .. | .ascCloseClaim .. | .forceSettleInit .. | .forceSettleChallenge ..
  | .forceSettleFinalize .. => true
  | _ => false

/-- The vault as `initialize_vault` leaves it. -/
def opened (vault : GovernedVault) (tokens : Tokens) (clock : ℤ) : Site where
  vault
  tokens
  audits := ∅
  usedNonces := []
  requests _ := none
  claims := []
  clock
  transfers := []
  withdrawals := []

variable (rt : Runtime) (verifies : Ed25519Check → Bool) (s : Site)

/-- The vault's address has no key. -/
def signed (signer : Pubkey) : Except VaultError Unit :=
  requireThat (signer ≠ s.vault.key) .constraint

/-- What the precompile verified so far before an instruction. -/
def precompile (tx : TxContext) (offsetFromCurrent : ℕ) : Except VaultError (Option Ed25519Check) := do
  let check := rt.ed25519Check tx.instructions tx.current offsetFromCurrent
  requireThat (∀ c ∈ check, verifies c = true) .invalidEd25519Instruction
  return check

/-- The accounts, as the two instructions of a chunk see them. -/
def accounts : Accounts where
  vaults := (∅ : FiniteMap Pubkey VaultConfig).insert s.vault.key s.vault.toVaultConfig
  tokens := s.tokens
  audits := s.audits
  clock := s.clock

/-- The transfers of a `settle_vault`. -/
def settlements (accounts : List AccountMeta) (entries : List SettlementEntry) : List Transfer :=
  (entries.zip (accounts.drop 5)).map fun (entry, account) => ⟨.settled, entry.amount, account.pubkey⟩

/-- The instruction of an event, at the time it is. -/
def apply : Event → Except VaultError Site
  | .deposit call => do
    s.signed call.client
    let (vault, tokens) ← Chain.deposit s.vault.toVaultConfig call s.tokens
    return { s with
      vault := { s.vault with toVaultConfig := vault }
      tokens
      transfers := s.transfers ++ [⟨.deposited, call.amount, call.vaultTokenAccount⟩] }
  | .withdraw tx call => do
    s.signed call.client
    let check ← precompile rt verifies tx 1
    let (vault, tokens) ← Chain.withdraw s.vault.toVaultConfig check call s.clock s.tokens s.usedNonces
    return { s with
      vault := { s.vault with toVaultConfig := vault }
      tokens
      usedNonces := s.usedNonces ++ [(call.client, call.withdrawNonce)]
      transfers := s.transfers ++ [⟨.withdrawn, call.amount, call.clientTokenAccount⟩]
      withdrawals := s.withdrawals ++ [⟨call, check, s.clock⟩] }
  | .settleVault tx accounts args => do
    let out ← rt.settleVault tx.instructions tx.current accounts args s.accounts
    let vault ← okOrElse out.vaults[s.vault.key]? .constraint
    return { s with
      vault := { s.vault with toVaultConfig := vault }
      tokens := out.tokens
      transfers := s.transfers ++ settlements accounts args.entries }
  | .recordAudit tx accounts args => do
    let out ← rt.recordAudit tx.instructions tx.current accounts args s.accounts
    return { s with audits := out.audits }
  | .ascCloseClaim tx channelIdHash requestIdHash => do
    let voucherCheck ← precompile rt verifies tx 2
    let paymentCheck ← precompile rt verifies tx 1
    let claim ← Chain.ascCloseClaim s.vault.toVaultConfig voucherCheck paymentCheck channelIdHash
      requestIdHash s.clock (s.claims.map (·.seeds))
    return { s with claims := s.claims ++ [claim] }
  | .pauseVault governance => do
    s.signed governance
    let vault ← Chain.pauseVault s.vault governance
    return { s with vault }
  | .announceMigration governance successorVault exitDeadline => do
    s.signed governance
    let vault ← Chain.announceMigration s.vault governance successorVault exitDeadline s.clock
    return { s with vault }
  | .retireVault governance => do
    s.signed governance
    let vault ← Chain.retireVault s.vault governance s.clock
    return { s with vault }
  | .rotateAuditor governance newAuditorMasterPubkey => do
    s.signed governance
    let vault ← Chain.rotateAuditor s.vault governance newAuditorMasterPubkey
    return { s with vault }
  | .forceSettleInit tx participant participantKind args => do
    s.signed participant
    requireThat (s.requests (participant, participantKind) = none) .accountInUse
    let check ← precompile rt verifies tx 1
    let request ← Chain.forceSettleInit s.vault.toVaultConfig check participant participantKind args
      s.clock
    return { s with requests := Function.update s.requests (participant, participantKind) request }
  | .forceSettleChallenge tx address args => do
    let request ← okOrElse (s.requests address) .constraint
    let check ← precompile rt verifies tx 1
    let request ← Chain.forceSettleChallenge s.vault.toVaultConfig check args s.clock request
    return { s with requests := Function.update s.requests address request }
  | .forceSettleFinalize address vaultTokenAccount recipientTokenAccount => do
    let request ← okOrElse (s.requests address) .constraint
    let out ← Chain.forceSettleFinalize s.vault.toVaultConfig vaultTokenAccount
      recipientTokenAccount s.clock s.tokens request
    return { s with
      requests := Function.update s.requests address out.request
      tokens := out.tokens
      transfers := s.transfers ++ (out.paid.map fun (free, locked) =>
        ⟨.forceSettled, free + locked, recipientTokenAccount⟩).toList }
  | .elsewhere tokens => do
    requireThat (tokens[s.vault.vaultTokenAccount]? = s.tokens[s.vault.vaultTokenAccount]?) .token
    return { s with tokens }

/-- Time passes. -/
def after (wait : ℕ) : Site := { s with clock := s.clock + wait }

/-- The site after an act. -/
def next (act : Act) : Site :=
  match (s.after act.wait).apply rt verifies act.event with
  | .ok s' => s'
  | .error _ => s.after act.wait

/-- The site after some acts. -/
def run (acts : List Act) : Site := runSteps (next rt verifies) s acts

/-! ### What an accepted event does -/

variable {rt verifies s}

/-- The change that an accepted event makes. -/
inductive Change (rt : Runtime) (verifies : Ed25519Check → Bool) (s : Site) : Event → Site → Prop where
  | deposit (call : DepositCall) (tokens : Tokens) (active : s.vault.status = vaultStatusActive)
      (signer : call.client ≠ s.vault.key)
      (owner : ∃ a, s.tokens[call.clientTokenAccount]? = some a ∧ a.owner = call.client)
      (transfer : s.tokens.transfer call.clientTokenAccount s.vault.vaultTokenAccount call.amount
        = .ok tokens) :
      Change rt verifies s (.deposit call) { s with
        vault.lifetimeDeposited := s.vault.lifetimeDeposited + call.amount
        tokens
        transfers := s.transfers ++ [⟨.deposited, call.amount, call.vaultTokenAccount⟩] }
  | withdraw (tx : TxContext) (call : WithdrawCall) (check : Ed25519Check) (tokens : Tokens)
      (signer : call.client ≠ s.vault.key)
      (verified : rt.ed25519Check tx.instructions tx.current 1 = some check ∧ verifies check = true)
      (authorised : check.publicKey = s.vault.vaultSignerPubkey ∧
        check.message = withdrawMessage call.client call.clientTokenAccount call.amount
          call.withdrawNonce call.expiresAt s.vault.key ∧ s.clock ≤ call.expiresAt)
      (owner : ∃ a, s.tokens[call.clientTokenAccount]? = some a ∧ a.owner = call.client)
      (unused : (call.client, call.withdrawNonce) ∉ s.usedNonces)
      (transfer : s.tokens.transfer s.vault.vaultTokenAccount call.clientTokenAccount call.amount
        = .ok tokens) :
      Change rt verifies s (.withdraw tx call) { s with
        vault.lifetimeWithdrawn := s.vault.lifetimeWithdrawn + call.amount
        tokens
        usedNonces := s.usedNonces ++ [(call.client, call.withdrawNonce)]
        transfers := s.transfers ++ [⟨.withdrawn, call.amount, call.clientTokenAccount⟩]
        withdrawals := s.withdrawals ++ [⟨call, check, s.clock⟩] }
  | settle (tx : TxContext) (accounts : List AccountMeta) (args : ChunkArgs SettlementEntry)
      (tokens : Tokens) (total : ℕ)
      (paid : Runtime.payEntries s.vault.vaultTokenAccount (args.entries.zip (accounts.drop 5))
        s.tokens 0 = .ok (tokens, total)) :
      Change rt verifies s (.settleVault tx accounts args) { s with
        vault.lifetimeSettled := s.vault.lifetimeSettled + total
        tokens
        transfers := s.transfers ++ settlements accounts args.entries }
  | finalize (address : Pubkey × ℕ) (vaultToken recipient : Pubkey) (amount : ℕ)
      (request : ForceSettleRequest) (tokens : Tokens)
      (transfer : s.tokens.transfer s.vault.vaultTokenAccount recipient amount = .ok tokens) :
      Change rt verifies s (.forceSettleFinalize address vaultToken recipient) { s with
        requests := Function.update s.requests address request
        tokens
        transfers := s.transfers ++ [⟨.forceSettled, amount, recipient⟩] }
  | pause (governance : Pubkey) (active : s.vault.status = vaultStatusActive) :
      Change rt verifies s (.pauseVault governance) { s with vault.status := vaultStatusPaused }
  | announce (governance successorVault : Pubkey) (exitDeadline : ℤ)
      (active : s.vault.status = vaultStatusActive) (ahead : s.clock < exitDeadline) :
      Change rt verifies s (.announceMigration governance successorVault exitDeadline) { s with
        vault.status := vaultStatusMigrating
        vault.successorVault := successorVault
        vault.exitDeadline := exitDeadline }
  | retire (governance : Pubkey) (closing : s.vault.status = vaultStatusPaused ∨
        s.vault.status = vaultStatusMigrating ∧ s.vault.exitDeadline ≤ s.clock) :
      Change rt verifies s (.retireVault governance) { s with vault.status := vaultStatusRetired }
  | rotate (governance : Pubkey) (auditor : Bytes32) :
      Change rt verifies s (.rotateAuditor governance auditor) { s with
        vault.auditorMasterPubkey := auditor
        vault.auditorEpoch := s.vault.auditorEpoch + 1 }
  | elsewhere (tokens : Tokens)
      (kept : tokens[s.vault.vaultTokenAccount]? = s.tokens[s.vault.vaultTokenAccount]?) :
      Change rt verifies s (.elsewhere tokens) { s with tokens }
  | record (event : Event) (records : event.records = true) (audits : FiniteMap Pubkey AuditRecord)
      (requests : Pubkey × ℕ → Option ForceSettleRequest) (claims : List AscCloseClaim) :
      Change rt verifies s event { s with audits, requests, claims }

theorem signed_eq_ok {signer : Pubkey} {u : Unit} :
    s.signed signer = .ok u ↔ signer ≠ s.vault.key := requireThat_eq_ok

theorem precompile_eq_ok {tx : TxContext} {offset : ℕ} {check : Option Ed25519Check} :
    precompile rt verifies tx offset = .ok check ↔
      rt.ed25519Check tx.instructions tx.current offset = check ∧ ∀ c ∈ check, verifies c = true := by
  simp only [precompile, bind_eq_ok, requireThat_eq_ok]
  constructor
  · rintro ⟨_, hverifies, hout⟩
    obtain rfl := Except.ok.inj hout
    exact ⟨rfl, hverifies⟩
  · rintro ⟨rfl, hverifies⟩
    exact ⟨(), hverifies, rfl⟩

/-- The only vault that an instruction of a chunk finds is the vault. -/
theorem accounts_vaults {key : Pubkey} {vault : VaultConfig}
    (h : s.accounts.vaults[key]? = some vault) :
    key = s.vault.key ∧ vault = s.vault.toVaultConfig := by
  rw [accounts, Std.ExtTreeMap.getElem?_insert] at h
  split at h
  · next heq =>
    exact ⟨(Std.LawfulEqOrd.eq_of_compare (by simpa using heq)).symm, (Option.some.inj h).symm⟩
  · simp at h

/-- What a `settle_vault` that succeeds did. -/
theorem settleVault_paid {tx : TxContext} {accounts : List AccountMeta}
    {args : ChunkArgs SettlementEntry} {out : Accounts}
    (h : rt.settleVault tx.instructions tx.current accounts args s.accounts = .ok out) :
    ∃ tokens total, Runtime.payEntries s.vault.vaultTokenAccount
        (args.entries.zip (accounts.drop 5)) s.tokens 0 = .ok (tokens, total) ∧
      out.tokens = tokens ∧ out.vaults[s.vault.key]? = some { s.vault.toVaultConfig with
        lifetimeSettled := s.vault.lifetimeSettled + total } := by
  unfold Runtime.settleVault at h
  split at h
  · next vaultSigner vaultConfig vaultToken sysvar tokenProgram remaining =>
    simp only [bind_eq_ok, Runtime.loadVault, requireThat_eq_ok, okOrElse_eq_ok] at h
    obtain ⟨vault, ⟨_, -, _, hvault, _, -, _, -, hload⟩, _, -, _, -, _, haddress, _, -, _, -, _, -,
      _, -, _, -, _, -, _, -, ⟨tokens, total⟩, hpaid, _, -, hout⟩ := h
    cases hload
    obtain ⟨hkey, rfl⟩ := accounts_vaults hvault
    rw [haddress] at hpaid
    cases hout
    refine ⟨tokens, total, hpaid, rfl, ?_⟩
    rw [hkey, Std.ExtTreeMap.getElem?_insert_self]
  · cases h

/-- **An accepted event changes what `Change` says.** -/
theorem apply_change {event : Event} {s' : Site} (h : s.apply rt verifies event = .ok s') :
    Change rt verifies s event s' := by
  cases event with
  | deposit call =>
    simp only [apply, bind_eq_ok, signed_eq_ok] at h
    obtain ⟨_, hsigner, ⟨vault, tokens⟩, hdeposit, hout⟩ := h
    obtain ⟨hactive, howner, htransfer, rfl⟩ := deposit_ok hdeposit
    cases hout
    exact .deposit call tokens hactive hsigner howner htransfer
  | withdraw tx call =>
    simp only [apply, bind_eq_ok, signed_eq_ok, precompile_eq_ok] at h
    obtain ⟨_, hsigner, check, ⟨hcheck, hverifies⟩, ⟨vault, tokens⟩, hwithdraw, hout⟩ := h
    obtain ⟨htime, -, -, verified, rfl, hkey, hmessage⟩ := withdraw_ok hwithdraw
    obtain ⟨howner, hunused, htransfer, rfl⟩ := withdraw_paid hwithdraw
    cases hout
    exact .withdraw tx call verified tokens hsigner ⟨hcheck, hverifies _ rfl⟩ ⟨hkey, hmessage, htime⟩
      howner hunused htransfer
  | settleVault tx accounts args =>
    simp only [apply, bind_eq_ok, okOrElse_eq_ok] at h
    obtain ⟨out, hsettle, vault, hvault, hout⟩ := h
    obtain ⟨tokens, total, hpaid, rfl, hafter⟩ := settleVault_paid hsettle
    rw [hafter] at hvault
    cases hvault
    cases hout
    exact .settle tx accounts args out.tokens total hpaid
  | recordAudit tx accounts args =>
    simp only [apply, bind_eq_ok] at h
    obtain ⟨out, -, hout⟩ := h
    cases hout
    exact .record _ rfl out.audits s.requests s.claims
  | ascCloseClaim tx channelIdHash requestIdHash =>
    simp only [apply, bind_eq_ok] at h
    obtain ⟨_, -, _, -, claim, -, hout⟩ := h
    cases hout
    exact .record _ rfl s.audits s.requests _
  | pauseVault governance =>
    simp only [apply, bind_eq_ok] at h
    obtain ⟨_, -, vault, hpause, hout⟩ := h
    obtain ⟨hactive, rfl⟩ := pauseVault_ok hpause
    cases hout
    exact .pause governance hactive
  | announceMigration governance successorVault exitDeadline =>
    simp only [apply, bind_eq_ok] at h
    obtain ⟨_, -, vault, hannounce, hout⟩ := h
    obtain ⟨hactive, hahead, rfl⟩ := announceMigration_ok hannounce
    cases hout
    exact .announce governance successorVault exitDeadline hactive hahead
  | retireVault governance =>
    simp only [apply, bind_eq_ok] at h
    obtain ⟨_, -, vault, hretire, hout⟩ := h
    obtain ⟨hclosing, rfl⟩ := retireVault_ok hretire
    cases hout
    exact .retire governance hclosing
  | rotateAuditor governance auditor =>
    simp only [apply, bind_eq_ok] at h
    obtain ⟨_, -, vault, hrotate, hout⟩ := h
    obtain rfl := rotateAuditor_ok hrotate
    cases hout
    exact .rotate governance auditor
  | forceSettleInit tx participant participantKind args =>
    simp only [apply, bind_eq_ok] at h
    obtain ⟨_, -, _, -, _, -, request, -, hout⟩ := h
    cases hout
    exact .record _ rfl s.audits _ s.claims
  | forceSettleChallenge tx address args =>
    simp only [apply, bind_eq_ok] at h
    obtain ⟨_, -, _, -, request, -, hout⟩ := h
    cases hout
    exact .record _ rfl s.audits _ s.claims
  | forceSettleFinalize address vaultToken recipient =>
    simp only [apply, bind_eq_ok] at h
    obtain ⟨request, -, out, hfinalize, hout⟩ := h
    cases hout
    rcases forceSettleFinalize_paid hfinalize with ⟨hpaid, htokens⟩ | ⟨free, locked, hpaid, htransfer⟩
    · rw [hpaid, htokens, Option.map_none, Option.toList_none, List.append_nil]
      exact .record _ rfl s.audits _ s.claims
    · rw [hpaid]
      exact .finalize address vaultToken recipient _ out.request out.tokens htransfer
  | elsewhere tokens =>
    simp only [apply, bind_eq_ok, requireThat_eq_ok] at h
    obtain ⟨_, hkept, hout⟩ := h
    cases hout
    exact .elsewhere tokens hkept

theorem next_of_ok {act : Act} {s' : Site}
    (h : (s.after act.wait).apply rt verifies act.event = .ok s') : s.next rt verifies act = s' := by
  unfold next
  rw [h]

/-- An act lets time pass, and its event changes what `Change` says or nothing. -/
theorem next_cases (s : Site) (act : Act) : s.next rt verifies act = s.after act.wait ∨
    Change rt verifies (s.after act.wait) act.event (s.next rt verifies act) := by
  unfold next
  split
  · next s' h => exact .inr (apply_change h)
  · exact .inl rfl

end Site

/-! ### A vault to run -/

namespace Sample

/-- A program with a hash that nothing here depends on. -/
def rt : Runtime :=
  { programId := .fill 20, tokenProgram := .fill 21, systemProgram := .fill 22
    instructionsSysvar := .fill 23, ed25519Program := .fill 24, sha256 := fun bytes => .fill bytes.sum
    findAuditAddress := fun _ _ index => (.fill (UInt8.ofNat index), 255) }

/-- A precompile that knows signatures of zeros only. -/
def verifies (check : Ed25519Check) : Bool := check.signature = List.replicate 64 0

/-- A client's account with ten tokens. -/
def before : Tokens := (∅ : Tokens).insert (.fill 2) ⟨.fill 6, .fill 1, 10⟩

/-- The vault that `initialize_vault` opens. -/
def vault : GovernedVault :=
  { Exit.vault with
    lifetimeDeposited := 0, governance := .fill 3, auditorMasterPubkey := .fill 4
    successorVault := .fill 0 }

/-- The tokens with the vault's account. -/
def tokens : Tokens := before.insert (.fill 7) ⟨.fill 6, .fill 9, 0⟩

theorem initializeVault_eq : initializeVault (.fill 3) (.fill 9) (.fill 6) (.fill 7) (.fill 8)
    (.fill 4) before = .ok (vault, tokens) := by
  have hfree : before[(.fill 7 : Pubkey)]? = none := by decide +kernel
  rw [initializeVault, hfree]
  rfl

def deposit : DepositCall := ⟨.fill 1, .fill 2, .fill 7, 10⟩

/-- Four tokens, until the time 100. -/
def withdrawal : WithdrawCall := ⟨.fill 1, .fill 2, .fill 7, 4, 0, 100, by decide⟩

/-- The authorisation before the withdrawal. -/
def authorisation : Instruction :=
  { programId := .fill 24, accounts := []
    data := [1, 0, 48, 0, 255, 255, 16, 0, 255, 255, 112, 0, 120, 0, 255, 255]
      ++ (.fill 8 : Pubkey).bytes ++ List.replicate 64 0
      ++ withdrawMessage (.fill 1) (.fill 2) 4 0 100 (.fill 9) }

def withdraw : Site.Event := .withdraw ⟨[authorisation], 1⟩ withdrawal

end Sample

end Chain
end Subly402
