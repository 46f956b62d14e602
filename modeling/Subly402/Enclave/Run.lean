/-
# Runs of the enclave

The operations that change the ledger, as one type, and a run of them from a fresh
enclave.  Any operation may come in any order with any arguments; the environment
decides which appends become durable and which receipts the watchtower takes, so a
statement about every `env` and every list of operations is a statement about every
run.
-/

import Subly402.Enclave.Registration
import Subly402.Enclave.SettleSteps
import Subly402.Enclave.ChannelSteps
import Subly402.Enclave.DetectorSteps

namespace Subly402

open Lib
open Lib.Prog (Leaves)

/-- An operation on the ledger. -/
inductive Op (env : Env) where
  | deposit (event : { e : DepositEvent // e ∈ env.deposits }) (now : ℤ)
  | withdrawal (event : WithdrawEvent) (now : ℤ)
  | registerProvider (req : RegisterProviderRequest)
  | openProvider (payload : Handlers.OpenPayment)
  | verify (req : Handlers.VerifyRequest) (t : Times)
  | settle (verificationId : String) (t : Times)
  | cancel (verificationId reason : String) (t : Times)
  | expireReservation (verificationId : String) (t : Times)
  | withdrawAuth (client recipientAta : Pubkey) (amount : ℕ) (t : Times)
  | expireWithdrawal (withdrawNonce : ℕ) (t : Times)
  | channelOpen (client providerId : String) (initialDeposit : ℕ) (t : Times)
  | channelRequest (channelId requestId : String) (amount : ℕ) (requestHash : String) (t : Times)
  | channelDeliver (req : Handlers.ChannelDeliverRequest) (t : Times)
  | channelFinalize (channelId adaptorSecret : String) (t : Times)
  | channelClaim (channelId : String) (fullSig : AdaptedSignature) (t : Times)
  | channelExpire (channelId : String) (t : Times)
  | channelClose (channelId : String) (t : Times)
  | confirmBatch (settlementIds : List String) (batchId : ℕ) (txSignature : String)
  | clientReceipt (client : Pubkey) (now : ℤ)
  | providerReceipt (providerId : String) (now : ℤ)

variable {env : Env}

/-- The enclave after an operation, whether it succeeded or not. -/
def AppState.next (s : AppState) : Op env → AppState
  | .deposit event now => ((Detector.applyDeposit env event now).run s).2
  | .withdrawal event now => ((Detector.applyWithdrawal env event now).run s).2
  | .registerProvider req => ((Handlers.postRegisterProvider env req).run s).2
  | .openProvider payload => ((Handlers.ensureOpenProviderRegistered env payload).run s).2
  | .verify req t => ((Handlers.postVerify env req t).run s).2
  | .settle verificationId t => ((Handlers.postSettle env verificationId t).run s).2
  | .cancel verificationId reason t => ((Handlers.postCancel env verificationId reason t).run s).2
  | .expireReservation verificationId t =>
    ((Handlers.expireReservedReservation env verificationId t).run s).2
  | .withdrawAuth client recipientAta amount t =>
    ((Handlers.postWithdrawAuth env client recipientAta amount t).run s).2
  | .expireWithdrawal withdrawNonce t => ((Handlers.expirePending env withdrawNonce t).run s).2
  | .channelOpen client providerId initialDeposit t =>
    ((Handlers.postChannelOpen env client providerId initialDeposit t).run s).2
  | .channelRequest channelId requestId amount requestHash t =>
    ((Handlers.postChannelRequest env channelId requestId amount requestHash t).run s).2
  | .channelDeliver req t => ((Handlers.postChannelDeliver env req t).run s).2
  | .channelFinalize channelId adaptorSecret t =>
    ((Handlers.postChannelFinalize env channelId adaptorSecret t).run s).2
  | .channelClaim channelId fullSig t =>
    ((Handlers.recoverChannelClaim env channelId fullSig t).run s).2
  | .channelExpire channelId t => ((Handlers.expireStaleChannelRequest env channelId t).run s).2
  | .channelClose channelId t => ((Handlers.postChannelClose env channelId t).run s).2
  | .confirmBatch settlementIds batchId txSignature =>
    ((Detector.confirmBatch env settlementIds batchId txSignature).run s).2
  | .clientReceipt client now => ((issueClientReceiptLocked env client now).run s).2
  | .providerReceipt providerId now => ((issueProviderReceiptLocked env providerId now).run s).2

/-- The enclave after a run. -/
def run (env : Env) (ops : List (Op env)) : AppState := ops.foldl AppState.next .new

/-- What an operation needs so that the log tells all it did. -/
def Op.Told (s : AppState) : Op env → Prop
  | .settle _ _ => s.vault.ledger.CreditsAlive
  | .verify req _ => 0 < req.amount
  | .withdrawAuth _ _ amount _ => 0 < amount
  | .channelOpen _ _ initialDeposit _ => 0 < initialDeposit
  | .withdrawal event _ => Detector.Genuine s event
  | .registerProvider req => req.ReplaysAsIs env
  | _ => True

/-- **What an operation can do.** -/
theorem step_effect {s : AppState} (hs : AppInv env s) (op : Op env) :
    Effect env (op.Told s) s (s.next op) := by
  cases op with
  | deposit event => exact Logged.effect (Detector.applyDeposit_logged s event.2 ..)
  | withdrawal => exact Detector.applyWithdrawal_effect hs ..
  | registerProvider => exact Handlers.postRegisterProvider_effect s ..
  | openProvider => exact Logged.effect (Handlers.ensureOpenProviderRegistered_logged s ..)
  | verify => exact Handlers.postVerify_effect hs ..
  | settle => exact Handlers.postSettle_effect hs ..
  | cancel => exact Logged.effect (Handlers.postCancel_logged hs ..)
  | expireReservation => exact Logged.effect (Handlers.expireReservedReservation_logged hs ..)
  | withdrawAuth => exact Handlers.postWithdrawAuth_effect hs ..
  | expireWithdrawal => exact Logged.effect (Handlers.expirePending_logged hs ..)
  | channelOpen => exact Handlers.postChannelOpen_effect hs ..
  | channelRequest => exact Logged.effect (Handlers.postChannelRequest_logged hs ..)
  | channelDeliver => exact Logged.effect (Handlers.postChannelDeliver_logged hs ..)
  | channelFinalize => exact Logged.effect (Handlers.postChannelFinalize_logged hs ..)
  | channelClaim => exact Logged.effect (Handlers.recoverChannelClaim_logged hs ..)
  | channelExpire => exact Logged.effect (Handlers.expireStaleChannelRequest_logged hs ..)
  | channelClose => exact Logged.effect (Handlers.postChannelClose_logged hs ..)
  | confirmBatch => exact Logged.effect (Detector.confirmBatch_logged s ..)
  | clientReceipt => exact Logged.effect (leaves_issueClientReceiptLocked env ..)
  | providerReceipt => exact Logged.effect (leaves_issueProviderReceiptLocked env ..)

/-! ### The invariant of every run -/

/-- The books of a fresh vault are empty. -/
theorem VaultState.ledger_new : VaultState.new.ledger =
    { account := fun _ => ⟨0, 0, 0, 0⟩, reservations := ∅, paymentIdIndex := ∅, credits := ∅
      providers := ∅, history := ∅, batches := ∅, pending := ∅, channels := ∅, closed := [] } := by
  refine Ledger.ext ?_ rfl rfl ?_ rfl rfl rfl rfl ?_ rfl
  · funext client
    simp [VaultState.balance, VaultState.new, ClientBalance.account, ClientBalance.zero]
  · exact FiniteMap.ext fun k => by simp [VaultState.new]
  · exact FiniteMap.ext fun k => by simp [VaultState.new]

/-- A fresh enclave. -/
theorem RunInv.new (env : Env) : RunInv env .new where
  shape := by
    rw [AppState.new, VaultState.ledger_new]
    constructor <;> simp
  sums := by
    rw [AppState.new, VaultState.ledger_new]
    constructor <;> simp [Ledger.held, Ledger.paid]
  ids := by
    rw [AppState.new, VaultState.ledger_new]
    constructor <;> simp
  nonces := by simp [AppState.new, VaultState.new]
  onRecord client h := by
    rw [AppState.new, VaultState.ledger_new] at h
    simp [Ledger.Holds] at h
  fits client := by
    rw [AppState.new, VaultState.ledger_new]
    exact Nat.two_pow_pos 64
  exact := rfl
  released w hw := by simp [AppState.new] at hw
  deposits := ⟨∅, by simp, by simp, fun client => by simp [AppState.new, VaultState.ledger_new]⟩

/-- **The invariant holds after every run.** -/
theorem run_inv (ops : List (Op env)) : RunInv env (run env ops) := by
  refine List.foldlRecOn (motive := fun s => RunInv env s) ops _ (.new env) fun s hs op _ => ?_
  exact (step_effect hs.toAppInv op).sound.runInv hs

/-- What every operation keeps holds after every run. -/
theorem run_keep {P : AppState → Prop} (hnew : P .new)
    (hstep : ∀ s (op : Op env), RunInv env s → P s → P (s.next op)) (ops : List (Op env)) :
    P (run env ops) := by
  suffices h : RunInv env (run env ops) ∧ P (run env ops) from h.2
  refine List.foldlRecOn (motive := fun s => RunInv env s ∧ P s) ops _ ⟨.new env, hnew⟩
    fun s hs op _ => ?_
  exact ⟨(step_effect hs.1.toAppInv op).sound.runInv hs.1, hstep s op hs.1 hs.2⟩

/-- What the books keep while they evolve holds of the books after every run. -/
theorem run_books {P : Ledger → Prop} (hnew : P VaultState.new.ledger)
    (hstep : ∀ {supply : Supply} {l l' : Ledger}, Evolves env supply l l' → P l → P l')
    (ops : List (Op env)) : P (run env ops).vault.ledger :=
  run_keep (P := fun s => P s.vault.ledger) hnew
    (fun _ op hinv hs => hstep (step_effect hinv.toAppInv op).sound.evolves hs) ops

/-! ### Conservation -/

/-- A client's money is accounted for: what is locked is held by something, and what was
deposited and not withdrawn is free, locked, or paid to a provider. -/
structure VaultState.Balances (v : VaultState) (client : Pubkey) : Prop where
  locked : (v.balance client).locked
    = FiniteMap.total (Ledger.reservedFor client) v.reservations
      + FiniteMap.total (Ledger.pendingFor client) v.pendingWithdrawals
      + FiniteMap.total (Ledger.channelFor client) v.activeChannels
  total : (v.balance client).free + (v.balance client).locked
      + FiniteMap.total (Ledger.paidFor client) v.reservations
      + (v.closedChannels.map (Ledger.closedFor client)).sum
    = (v.balance client).totalDeposited - (v.balance client).totalWithdrawn
  withdrawn_le : (v.balance client).totalWithdrawn ≤ (v.balance client).totalDeposited

/-- A client's balances follow from the sums of the books. -/
theorem VaultState.balances_of_conserved {v : VaultState} (h : v.ledger.Conserved)
    (client : Pubkey) : v.Balances client := by
  have hlocked := h.locked client
  have htotal := h.total client
  simp only [Ledger.held, Ledger.paid, VaultState.ledger_account, VaultState.ledger_reservations,
    VaultState.ledger_pending, VaultState.ledger_channels, VaultState.ledger_closed,
    FiniteMap.total_map, ClientBalance.account] at hlocked htotal
  exact ⟨hlocked, by omega, by omega⟩

/-- **Conservation.**  After every run, every client's money is accounted for, and no subtraction
from a locked balance was cut off at zero on the way. -/
theorem run_balances (env : Env) (ops : List (Op env)) (client : Pubkey) :
    (run env ops).vault.Balances client ∧ (run env ops).vault.lockedSaturated = false :=
  ⟨VaultState.balances_of_conserved (run_inv ops).sums client, (run_inv ops).exact⟩

namespace Shop

/-- A deposit of five by the key of ones. -/
def deposit : DepositEvent := { signature := "tx", client := .fill 1, amount := 5, slot := 1 }

/-- One deposit fits. -/
theorem deposit_fits : ∑ e ∈ {deposit}, e.amount < u64Bound := by decide +kernel

/-- The chain with that deposit, and a store that takes every record. -/
def world : Env := .plain {deposit} deposit_fits fun _ => none

/-- The deposit is on the chain. -/
theorem deposit_mem : deposit ∈ world.deposits := by decide

/-- A seller who takes payments from anybody. -/
def seller : RegisterProviderRequest :=
  { providerId := "shop", displayName := "Shop", participantPubkey := none
    participantAttestation := none, settlementTokenAccount := hexEncode (Bytes32.fill 2).bytes
    network := "solana", assetMint := hexEncode (Bytes32.fill 3).bytes, allowedOrigins := []
    authMode := "none", apiKeyHash := "", mtlsCertFingerprint := none }

/-- A payment of three to the seller. -/
def payment : Handlers.VerifyRequest :=
  { paymentId := "pay", client := hexEncode (Bytes32.fill 1).bytes, providerId := "shop"
    amount := 3, requestHash := .fill 0, paymentDetailsHash := .fill 0, verifyWindowSec := 60 }

/-- The client deposits, pays the seller, and asks for one back. -/
def ops : List (Op world) :=
  [.deposit ⟨deposit, deposit_mem⟩ 0, .registerProvider seller, .verify payment ⟨1, 1⟩,
    .settle "ver_" ⟨2, 2⟩, .withdrawAuth (.fill 1) (.fill 1) 1 ⟨3, 3⟩]

end Shop

example : ((run Shop.world Shop.ops).vault.balance (.fill 1)).free = 1 := by decide +kernel

end Subly402
