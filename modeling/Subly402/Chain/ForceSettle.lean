/-
# Leaving with a receipt

`force_settle_init`, `force_settle_challenge` and `force_settle_finalize` of
`programs/subly402_vault`: a participant opens a request with a receipt the enclave
signed, anybody may replace it by a newer receipt until the dispute deadline, and
after the deadline anybody may have the amounts paid, the free one at once and the
locked one when its lock has expired.
-/

import Subly402.Chain.Program

namespace Subly402
namespace Chain

open Lib

/-- `DISPUTE_WINDOW_SEC`. -/
def disputeWindowSec : ℤ := 86400

/-- The largest `i64`. -/
def i64Max : ℤ := 2 ^ 63 - 1

/-- `ForceSettleRequest`. -/
structure ForceSettleRequest where
  vault : Pubkey
  participant : Pubkey
  participantKind : ℕ
  recipientAta : Pubkey
  freeBalanceDue : ℕ
  lockedBalanceDue : ℕ
  maxLockExpiresAt : ℤ
  receiptNonce : ℕ
  receiptSignature : List UInt8
  initiatedAt : ℤ
  disputeDeadline : ℤ
  isResolved : Bool
deriving DecidableEq

/-- The arguments that spell a receipt out. -/
structure ReceiptArgs where
  recipientAta : Pubkey
  freeBalance : ℕ
  lockedBalance : ℕ
  maxLockExpiresAt : ℤ
  receiptNonce : ℕ
  receiptSignature : List UInt8
  receiptMessage : List UInt8
deriving DecidableEq

/-- The checks on a receipt: the vault's key signed it, and it says what the arguments say. -/
def checkReceipt (vault : VaultConfig) (check : Option Ed25519Check) (participant : Pubkey)
    (participantKind : ℕ) (args : ReceiptArgs) : Except VaultError Unit := do
  let verified ← verifyEd25519SignatureDetails check vault.vaultSignerPubkey
  requireThat (verified.message = args.receiptMessage) .invalidParticipantReceipt
  requireThat (verified.signature = args.receiptSignature) .invalidParticipantReceipt
  let decoded ← ParticipantReceiptMessage.decode args.receiptMessage
  requireThat (decoded.participant = participant) .invalidReceiptMessage
  requireThat (decoded.participantKind = participantKind) .invalidReceiptMessage
  requireThat (decoded.recipientAta = args.recipientAta) .invalidReceiptMessage
  requireThat (decoded.freeBalance = args.freeBalance) .invalidReceiptMessage
  requireThat (decoded.lockedBalance = args.lockedBalance) .invalidReceiptMessage
  requireThat (decoded.maxLockExpiresAt = args.maxLockExpiresAt) .invalidReceiptMessage
  requireThat (decoded.nonce = args.receiptNonce) .invalidReceiptMessage
  requireThat (decoded.vaultConfig = vault.key) .invalidReceiptMessage

/-- `force_settle_init`, on an account that does not exist yet.  The participant has signed the
transaction. -/
def forceSettleInit (vault : VaultConfig) (check : Option Ed25519Check) (participant : Pubkey)
    (participantKind : ℕ) (args : ReceiptArgs) (clock : ℤ) :
    Except VaultError ForceSettleRequest := do
  checkReceipt vault check participant participantKind args
  requireThat (clock + disputeWindowSec ≤ i64Max) .arithmeticOverflow
  return { vault := vault.key, participant, participantKind, recipientAta := args.recipientAta
           freeBalanceDue := args.freeBalance, lockedBalanceDue := args.lockedBalance
           maxLockExpiresAt := args.maxLockExpiresAt, receiptNonce := args.receiptNonce
           receiptSignature := args.receiptSignature, initiatedAt := clock
           disputeDeadline := clock + disputeWindowSec, isResolved := false }

/-- `force_settle_challenge`. -/
def forceSettleChallenge (vault : VaultConfig) (check : Option Ed25519Check) (args : ReceiptArgs)
    (clock : ℤ) (request : ForceSettleRequest) : Except VaultError ForceSettleRequest := do
  requireThat (request.vault = vault.key) .constraint
  requireThat (request.isResolved = false) .alreadyResolved
  requireThat (clock ≤ request.disputeDeadline) .disputeWindowExpired
  requireThat (request.receiptNonce < args.receiptNonce) .staleReceiptNonce
  checkReceipt vault check request.participant request.participantKind args
  return { request with
    recipientAta := args.recipientAta
    freeBalanceDue := args.freeBalance
    lockedBalanceDue := args.lockedBalance
    maxLockExpiresAt := args.maxLockExpiresAt
    receiptNonce := args.receiptNonce
    receiptSignature := args.receiptSignature }

/-- The locked part of a request that can be paid. -/
def ForceSettleRequest.lockedNow (request : ForceSettleRequest) (clock : ℤ) : ℕ :=
  if request.maxLockExpiresAt ≤ clock then request.lockedBalanceDue else 0

/-- What a call of `force_settle_finalize` did: the request and the tokens after it, and the two
parts of the transfer it made, if any. -/
structure Finalized where
  request : ForceSettleRequest
  tokens : Tokens
  paid : Option (ℕ × ℕ)

/-- `force_settle_finalize`, with the addresses of the two token accounts that the caller names. -/
def forceSettleFinalize (vault : VaultConfig) (vaultTokenAccount recipientTokenAccount : Pubkey)
    (clock : ℤ) (tokens : Tokens) (request : ForceSettleRequest) :
    Except VaultError Finalized := do
  requireThat (request.vault = vault.key) .constraint
  requireThat (request.isResolved = false) .alreadyResolved
  requireThat (vaultTokenAccount = vault.vaultTokenAccount) .constraint
  requireThat (recipientTokenAccount = request.recipientAta) .constraint
  let vaultAccount ← okOrElse tokens[vaultTokenAccount]? .constraint
  let _ ← okOrElse tokens[recipientTokenAccount]? .constraint
  requireThat (request.disputeDeadline < clock) .disputeWindowActive
  let free := request.freeBalanceDue
  let locked := request.lockedNow clock
  requireThat (free + locked < u64Bound) .arithmeticOverflow
  if free + locked = 0 then
    return { request := { request with isResolved := decide (request.lockedBalanceDue = 0) }
             tokens, paid := none }
  else
    requireThat (free + locked ≤ vaultAccount.amount) .vaultInsolvent
    let tokens ← tokens.transfer vaultTokenAccount recipientTokenAccount (free + locked)
    let lockedBalanceDue :=
      if request.maxLockExpiresAt ≤ clock then 0 else request.lockedBalanceDue
    return { request := { request with
               freeBalanceDue := 0
               lockedBalanceDue
               isResolved := decide (lockedBalanceDue = 0) }
             tokens, paid := some (free, locked) }

/-! ### What each instruction does -/

section Instructions

variable {vault : VaultConfig} {check : Option Ed25519Check} {args : ReceiptArgs} {clock : ℤ}
  {request request' : ForceSettleRequest} {tokens : Tokens}

/-- The request with the amounts and the nonce of a receipt. -/
structure ForceSettleRequest.States (request : ForceSettleRequest) (args : ReceiptArgs) : Prop where
  recipientAta : request.recipientAta = args.recipientAta
  maxLockExpiresAt : request.maxLockExpiresAt = args.maxLockExpiresAt
  receiptNonce : request.receiptNonce = args.receiptNonce

/-- An accepted challenge came in time, with a newer receipt, which the request then states. -/
theorem forceSettleChallenge_ok
    (h : forceSettleChallenge vault check args clock request = .ok request') :
    clock ≤ request.disputeDeadline ∧ request.receiptNonce < args.receiptNonce ∧
      request'.States args ∧ request'.freeBalanceDue = args.freeBalance ∧
      request'.lockedBalanceDue = args.lockedBalance ∧
      request'.disputeDeadline = request.disputeDeadline ∧ request'.isResolved = false := by
  simp only [forceSettleChallenge, bind_eq_ok, requireThat_eq_ok, exists_const] at h
  obtain ⟨-, hresolved, htime, hnonce, _, -, ⟨⟩⟩ := h
  exact ⟨htime, hnonce, ⟨rfl, rfl, rfl⟩, rfl, rfl, rfl, hresolved⟩

/-- What a request still owes at a time, and what it owes after that was paid. -/
def ForceSettleRequest.lockedAfter (request : ForceSettleRequest) (clock : ℤ) : ℕ :=
  request.lockedBalanceDue - request.lockedNow clock

/-- A finalize that went through: the deadline had passed, the request had not been resolved, and
what could be paid was paid to the receipt's account. -/
structure Finalized.Of (out : Finalized) (request : ForceSettleRequest) (recipient : Pubkey)
    (clock : ℤ) : Prop where
  unresolved : request.isResolved = false
  deadline : request.disputeDeadline < clock
  recipient : recipient = request.recipientAta
  recipientAta : out.request.recipientAta = request.recipientAta
  maxLockExpiresAt : out.request.maxLockExpiresAt = request.maxLockExpiresAt
  receiptNonce : out.request.receiptNonce = request.receiptNonce
  disputeDeadline : out.request.disputeDeadline = request.disputeDeadline
  paid : out.paid = if request.freeBalanceDue + request.lockedNow clock = 0 then none
    else some (request.freeBalanceDue, request.lockedNow clock)
  free : out.request.freeBalanceDue = 0
  locked : out.request.lockedBalanceDue = request.lockedAfter clock
  resolved : out.request.isResolved = decide (request.lockedAfter clock = 0)

theorem forceSettleFinalize_ok {vaultTokenAccount recipient : Pubkey} {out : Finalized}
    (h : forceSettleFinalize vault vaultTokenAccount recipient clock tokens request = .ok out) :
    out.Of request recipient clock := by
  simp only [forceSettleFinalize, bind_eq_ok, requireThat_eq_ok, exists_const] at h
  obtain ⟨-, hresolved, -, hrecipient, _, -, _, -, htime, -, h⟩ := h
  have hlocked : request.lockedAfter clock
      = if request.maxLockExpiresAt ≤ clock then 0 else request.lockedBalanceDue := by
    unfold ForceSettleRequest.lockedAfter ForceSettleRequest.lockedNow
    split <;> simp
  by_cases hzero : request.freeBalanceDue + request.lockedNow clock = 0
  · simp only [hzero, if_true] at h
    obtain rfl := Except.ok.inj h
    obtain ⟨hfree, hnow⟩ := Nat.add_eq_zero_iff.1 hzero
    have hafter : request.lockedAfter clock = request.lockedBalanceDue := by
      rw [ForceSettleRequest.lockedAfter, hnow, Nat.sub_zero]
    exact ⟨hresolved, htime, hrecipient, rfl, rfl, rfl, rfl, by rw [if_pos hzero], hfree,
      hafter.symm, by rw [hafter]⟩
  · simp only [hzero, if_false] at h
    obtain ⟨_, -, h⟩ := bind_eq_ok.1 h
    obtain ⟨_, -, h⟩ := bind_eq_ok.1 h
    obtain rfl := Except.ok.inj h
    exact ⟨hresolved, htime, hrecipient, rfl, rfl, rfl, rfl, by rw [if_neg hzero], rfl,
      hlocked.symm, by rw [hlocked]⟩

/-- What a `force_settle_finalize` that succeeds did: a transfer, or nothing. -/
theorem forceSettleFinalize_paid {vaultToken recipient : Pubkey} {out : Finalized}
    (h : forceSettleFinalize vault vaultToken recipient clock tokens request = .ok out) :
    (out.paid = none ∧ out.tokens = tokens) ∨
      ∃ free locked, out.paid = some (free, locked) ∧
        tokens.transfer vault.vaultTokenAccount recipient (free + locked) = .ok out.tokens := by
  simp only [forceSettleFinalize, bind_eq_ok, requireThat_eq_ok, okOrElse_eq_ok] at h
  obtain ⟨_, -, _, -, _, haddress, _, -, _, -, _, -, _, -, _, -, h⟩ := h
  split at h
  · cases h
    exact .inl ⟨rfl, rfl⟩
  · simp only [bind_eq_ok] at h
    obtain ⟨_, -, tokens', htransfer, hout⟩ := h
    cases hout
    rw [haddress] at htransfer
    exact .inr ⟨_, _, rfl, htransfer⟩

/-! ### The life of a request -/

/-- A transfer out of the vault: the free and the locked part, to whom and when. -/
structure Payment where
  free : ℕ
  locked : ℕ
  recipient : Pubkey
  time : ℤ
deriving DecidableEq

/-- A request account with the token accounts, the chain's time, the receipt it has accepted
last and those before it, and the payments it has made (the last three are ghosts). -/
structure Session where
  request : ForceSettleRequest
  tokens : Tokens
  now : ℤ
  receipt : ReceiptArgs
  older : List ReceiptArgs
  payments : List Payment

/-- A call on the request account, some seconds after the one before. -/
inductive Call where
  | challenge (vault : VaultConfig) (check : Option Ed25519Check) (args : ReceiptArgs) (wait : ℕ)
  | finalize (vault : VaultConfig) (vaultTokenAccount recipientTokenAccount : Pubkey) (wait : ℕ)
  | transfer (tokens : Tokens) (wait : ℕ)

namespace Session

/-- The session that an accepted `force_settle_init` opens. -/
def opened (request : ForceSettleRequest) (args : ReceiptArgs) (tokens : Tokens) : Session :=
  { request, tokens, now := request.initiatedAt, receipt := args, older := [], payments := [] }

/-- The session after a call.  A call that fails changes nothing.  Between the calls the token
accounts may change in any way (`transfer`). -/
def next (s : Session) : Call → Session
  | .challenge vault check args wait =>
    match forceSettleChallenge vault check args (s.now + wait) s.request with
    | .ok request =>
      { s with request, now := s.now + wait, receipt := args, older := s.older ++ [s.receipt] }
    | .error _ => { s with now := s.now + wait }
  | .finalize vault vaultTokenAccount recipient wait =>
    match forceSettleFinalize vault vaultTokenAccount recipient (s.now + wait) s.tokens s.request with
    | .ok out =>
      { s with
        request := out.request
        tokens := out.tokens
        now := s.now + wait
        payments := s.payments ++ (out.paid.map fun (free, locked) =>
          { free, locked, recipient, time := s.now + wait }).toList }
    | .error _ => { s with now := s.now + wait }
  | .transfer tokens wait => { s with tokens, now := s.now + wait }

/-- The session after some calls. -/
def run (s : Session) (calls : List Call) : Session := calls.foldl next s

def freePaid (s : Session) : ℕ := (s.payments.map (·.free)).sum

def lockedPaid (s : Session) : ℕ := (s.payments.map (·.locked)).sum

/-- Nothing of the receipt remains unpaid. -/
def AllPaid (s : Session) : Prop :=
  s.freePaid = s.receipt.freeBalance ∧ s.lockedPaid = s.receipt.lockedBalance

end Session

/-- One part of a receipt: what is due of it, and what the payments have of it.  It is paid in
one payment. -/
structure Instalment (part : Payment → ℕ) (due total : ℕ) (payments : List Payment) : Prop where
  sum : due + (payments.map part).sum = total
  unpaid : 0 < due → ∀ p ∈ payments, part p = 0
  once : (payments.filter fun p => 0 < part p).length ≤ 1

namespace Instalment

variable {part : Payment → ℕ} {due total : ℕ} {payments : List Payment}

theorem start (part : Payment → ℕ) (total : ℕ) : Instalment part total total [] :=
  ⟨by simp, by simp, by simp⟩

/-- A payment has all that is due of a part, or nothing. -/
theorem pay (h : Instalment part due total payments) {p : Payment}
    (hp : part p = due ∨ part p = 0) :
    Instalment part (due - part p) total (payments ++ [p]) := by
  have hsum := h.sum
  refine ⟨?_, fun hdue q hq => ?_, ?_⟩
  · rw [List.map_append, List.sum_append, List.map_singleton, List.sum_singleton]
    omega
  · have hzero : part p = 0 := by omega
    rcases List.mem_append.1 hq with hq | hq
    · exact h.unpaid (by omega) q hq
    · rwa [List.mem_singleton.1 hq]
  · rw [List.filter_append, List.length_append]
    rcases Nat.eq_zero_or_pos (part p) with hzero | hpos
    · simpa [hzero] using h.once
    · have hnone : payments.filter (fun q => 0 < part q) = [] := by
        refine List.filter_eq_nil_iff.2 fun q hq => ?_
        rw [h.unpaid (by omega) q hq]
        simp
      rw [hnone, List.length_nil, Nat.zero_add]
      exact List.length_filter_le _ [p]

end Instalment

namespace Session

/-- What every call keeps. -/
structure Inv (s : Session) : Prop where
  states : s.request.States s.receipt
  nonces : (s.older ++ [s.receipt]).Pairwise fun r r' => r.receiptNonce < r'.receiptNonce
  free : Instalment (·.free) s.request.freeBalanceDue s.receipt.freeBalance s.payments
  locked : Instalment (·.locked) s.request.lockedBalanceDue s.receipt.lockedBalance s.payments
  late : s.payments ≠ [] → s.request.disputeDeadline < s.now
  recipient : ∀ p ∈ s.payments, p.recipient = s.receipt.recipientAta
  lock : ∀ p ∈ s.payments, 0 < p.locked → s.receipt.maxLockExpiresAt ≤ p.time
  resolved : s.request.isResolved = true →
    s.request.freeBalanceDue = 0 ∧ s.request.lockedBalanceDue = 0

variable {s : Session}

/-- Time passes. -/
theorem Inv.wait (h : s.Inv) (tokens : Tokens) (wait : ℕ) :
    Inv { s with tokens, now := s.now + wait } :=
  ⟨h.states, h.nonces, h.free, h.locked, fun hne => by have := h.late hne; simp only; omega,
    h.recipient, h.lock, h.resolved⟩

theorem Inv.challenge (h : s.Inv) {wait : ℕ}
    (hok : forceSettleChallenge vault check args (s.now + wait) s.request = .ok request') :
    Inv { s with
      request := request', now := s.now + wait, receipt := args, older := s.older ++ [s.receipt] } := by
  obtain ⟨htime, hnonce, hstates, hfree, hlocked, -, hresolved⟩ := forceSettleChallenge_ok hok
  -- a payment would have come after the deadline, and the challenge comes before it
  have hnone : s.payments = [] := by
    by_contra hne
    have := h.late hne
    omega
  refine ⟨hstates, ?_, ?_, ?_, ?_, ?_, ?_, ?_⟩
  · refine List.pairwise_append.2 ⟨h.nonces, List.pairwise_singleton _ _, fun r hr r' hr' => ?_⟩
    rw [List.mem_singleton.1 hr']
    rw [h.states.receiptNonce] at hnonce
    rcases List.mem_append.1 hr with hr | hr
    · have hlt := (List.pairwise_append.1 h.nonces).2.2 r hr s.receipt (List.mem_singleton_self _)
      exact hlt.trans hnonce
    · rwa [List.mem_singleton.1 hr]
  · simp only [hnone, hfree]
    exact .start _ _
  · simp only [hnone, hlocked]
    exact .start _ _
  · simp [hnone]
  · simp [hnone]
  · simp [hnone]
  · simp [hresolved]

/-- The session after a finalize that went through. -/
def finalized (s : Session) (out : Finalized) (recipient : Pubkey) (time : ℤ) : Session :=
  { s with
    request := out.request
    tokens := out.tokens
    now := time
    payments := s.payments ++
      (out.paid.map fun (free, locked) => { free, locked, recipient, time }).toList }

/-- The locked part of a payment is all that is due of it, or nothing. -/
theorem lockedNow_cases (request : ForceSettleRequest) (clock : ℤ) :
    request.lockedNow clock = request.lockedBalanceDue ∨ request.lockedNow clock = 0 := by
  unfold ForceSettleRequest.lockedNow
  split
  · exact .inl rfl
  · exact .inr rfl

theorem Inv.finalize (h : s.Inv) {recipient : Pubkey} {time : ℤ} {out : Finalized}
    (hout : out.Of s.request recipient time) :
    (s.finalized out recipient time).Inv := by
  have hstates : out.request.States s.receipt :=
    ⟨hout.recipientAta.trans h.states.recipientAta,
      hout.maxLockExpiresAt.trans h.states.maxLockExpiresAt,
      hout.receiptNonce.trans h.states.receiptNonce⟩
  have hlate : out.request.disputeDeadline < time := hout.disputeDeadline ▸ hout.deadline
  have hresolved : out.request.isResolved = true →
      out.request.freeBalanceDue = 0 ∧ out.request.lockedBalanceDue = 0 := fun hr =>
    ⟨hout.free, by rw [hout.locked]; simpa [hout.resolved] using hr⟩
  by_cases hzero : s.request.freeBalanceDue + s.request.lockedNow time = 0
  · have hpaid : out.paid = none := by rw [hout.paid, if_pos hzero]
    have hpayments : (s.finalized out recipient time).payments = s.payments := by
      simp [finalized, hpaid]
    have hfree : out.request.freeBalanceDue = s.request.freeBalanceDue := by
      rw [hout.free]; omega
    have hlocked : out.request.lockedBalanceDue = s.request.lockedBalanceDue := by
      rw [hout.locked, ForceSettleRequest.lockedAfter]; omega
    refine ⟨hstates, h.nonces, ?_, ?_, fun _ => hlate, ?_, ?_, hresolved⟩ <;> rw [hpayments]
    · exact hfree ▸ h.free
    · exact hlocked ▸ h.locked
    · exact h.recipient
    · exact h.lock
  · have hpaid : out.paid = some (s.request.freeBalanceDue, s.request.lockedNow time) := by
      rw [hout.paid, if_neg hzero]
    have hpayments : (s.finalized out recipient time).payments = s.payments ++
        [⟨s.request.freeBalanceDue, s.request.lockedNow time, recipient, time⟩] := by
      simp [finalized, hpaid]
    refine ⟨hstates, h.nonces, ?_, ?_, fun _ => hlate, fun p hp => ?_, fun p hp hpos => ?_,
      hresolved⟩
    · have hpay := h.free.pay (p := ⟨s.request.freeBalanceDue, s.request.lockedNow time, recipient,
        time⟩) (.inl rfl)
      rw [Nat.sub_self, ← hout.free, ← hpayments] at hpay
      exact hpay
    · have hpay := h.locked.pay (p := ⟨s.request.freeBalanceDue, s.request.lockedNow time, recipient,
        time⟩) (lockedNow_cases _ _)
      rw [← hpayments] at hpay
      exact hout.locked ▸ hpay
    · rw [hpayments] at hp
      rcases List.mem_append.1 hp with hp | hp
      · exact h.recipient p hp
      · rw [List.mem_singleton.1 hp]
        exact hout.recipient.trans h.states.recipientAta
    · rw [hpayments] at hp
      rcases List.mem_append.1 hp with hp | hp
      · exact h.lock p hp hpos
      · rw [List.mem_singleton.1 hp] at hpos ⊢
        have hlock : s.request.maxLockExpiresAt ≤ time := by
          by_contra hlt
          simp [ForceSettleRequest.lockedNow, hlt] at hpos
        exact h.states.maxLockExpiresAt ▸ hlock

/-- **What a call can do.**  It fails or moves tokens elsewhere, and time passes; or a challenge
is accepted; or a finalize goes through. -/
theorem next_cases (s : Session) (call : Call) :
    (∃ tokens wait, s.next call = { s with tokens, now := s.now + (wait : ℕ) }) ∨
    (∃ vault check args wait request', call = .challenge vault check args wait ∧
      forceSettleChallenge vault check args (s.now + wait) s.request = .ok request' ∧
      s.next call = { s with
        request := request', now := s.now + wait, receipt := args
        older := s.older ++ [s.receipt] }) ∨
    ∃ vault vaultTokenAccount recipient wait out,
      call = .finalize vault vaultTokenAccount recipient wait ∧
      forceSettleFinalize vault vaultTokenAccount recipient (s.now + wait) s.tokens s.request
        = .ok out ∧ s.next call = s.finalized out recipient (s.now + wait) := by
  cases call with
  | challenge vault check args wait =>
    cases hok : forceSettleChallenge vault check args (s.now + wait) s.request with
    | error e => exact .inl ⟨s.tokens, wait, by simp [next, hok]⟩
    | ok request' =>
      exact .inr (.inl ⟨vault, check, args, wait, request', rfl, hok, by simp [next, hok]⟩)
  | finalize vault account recipient wait =>
    cases hok : forceSettleFinalize vault account recipient (s.now + wait) s.tokens s.request with
    | error e => exact .inl ⟨s.tokens, wait, by simp [next, hok]⟩
    | ok out =>
      exact .inr (.inr ⟨vault, account, recipient, wait, out, rfl, hok, by simp [next, hok, finalized]⟩)
  | transfer tokens wait => exact .inl ⟨tokens, wait, rfl⟩

theorem Inv.next (h : s.Inv) (call : Call) : (s.next call).Inv := by
  obtain ⟨tokens, wait, heq⟩ | ⟨_, _, _, wait, _, -, hok, heq⟩ | ⟨_, _, _, wait, _, -, hok, heq⟩ :=
    s.next_cases call
  · rw [heq]; exact h.wait tokens wait
  · rw [heq]; exact h.challenge hok
  · rw [heq]; exact h.finalize (forceSettleFinalize_ok hok)

theorem Inv.run (h : s.Inv) (calls : List Call) : (s.run calls).Inv :=
  List.foldlRecOn calls (motive := Inv) _ h fun _ hs call _ => hs.next call

/-- What a call does to the token accounts, and what payment it makes.  A payment is a transfer of
its two parts from the vault's token account to its recipient. -/
inductive Pays (s s' : Session) : Call → Prop
  | none {call : Call} (hpayments : s'.payments = s.payments) (htokens : s'.tokens = s.tokens) :
      Pays s s' call
  | elsewhere (wait : ℕ) (hpayments : s'.payments = s.payments) : Pays s s' (.transfer s'.tokens wait)
  | payment {vault : VaultConfig} {account : Pubkey} {wait : ℕ} (p : Payment)
      (hvault : s.request.vault = vault.key) (hpayments : s'.payments = s.payments ++ [p])
      (htokens : s.tokens.Moves vault.vaultTokenAccount p.recipient (p.free + p.locked) s'.tokens) :
      Pays s s' (.finalize vault account p.recipient wait)

/-- **What every call pays.** -/
theorem next_pays (s : Session) (call : Call) : Pays s (s.next call) call := by
  cases call with
  | challenge vault check args wait =>
    simp only [next]
    split <;> exact .none rfl rfl
  | finalize vault account recipient wait =>
    cases hok : forceSettleFinalize vault account recipient (s.now + wait) s.tokens s.request with
    | error e => exact .none (by simp [next, hok]) (by simp [next, hok])
    | ok out =>
      obtain ⟨_, hvault, -⟩ := bind_eq_ok.1 hok
      obtain ⟨hpaid, htokens⟩ | ⟨free, locked, hpaid, htransfer⟩ := forceSettleFinalize_paid hok
      · exact .none (by simp [next, hok, hpaid]) (by simp [next, hok, htokens])
      · refine .payment ⟨free, locked, recipient, s.now + wait⟩ (requireThat_eq_ok.1 hvault)
          (by simp [next, hok, hpaid]) ?_
        simp only [next, hok]
        exact Tokens.transfer_moves htransfer
  | transfer tokens wait => exact .elsewhere wait rfl

/-- What the program promises of a request account. -/
structure Settled (s : Session) : Prop where
  recorded : s.request.receiptNonce = s.receipt.receiptNonce
  nonces : (s.older ++ [s.receipt]).Pairwise fun r r' => r.receiptNonce < r'.receiptNonce
  free_le : s.freePaid ≤ s.receipt.freeBalance
  locked_le : s.lockedPaid ≤ s.receipt.lockedBalance
  free_once : (s.payments.filter fun p => 0 < p.free).length ≤ 1
  locked_once : (s.payments.filter fun p => 0 < p.locked).length ≤ 1
  recipient : ∀ p ∈ s.payments, p.recipient = s.receipt.recipientAta
  lock : ∀ p ∈ s.payments, 0 < p.locked → s.receipt.maxLockExpiresAt ≤ p.time
  pays : ∀ call, Pays s (s.next call) call
  unchallenged : s.payments ≠ [] → ∀ vault check args (wait : ℕ),
    ∃ e, forceSettleChallenge vault check args (s.now + wait) s.request = .error e
  final : s.request.isResolved = true → s.AllPaid ∧ ∀ vault account recipient (wait : ℕ),
    ∃ e, forceSettleFinalize vault account recipient (s.now + wait) s.tokens s.request = .error e
  resolves : s.request.isResolved = false → ∀ call, (s.next call).request.isResolved = true ↔
    (∃ vault account recipient wait out, call = .finalize vault account recipient wait ∧
      forceSettleFinalize vault account recipient (s.now + wait) s.tokens s.request = .ok out) ∧
    (s.next call).AllPaid

theorem error_of_not_ok {α : Type} {r : Except VaultError α} (h : ∀ a, r ≠ .ok a) :
    ∃ e, r = .error e := by
  cases r with
  | error e => exact ⟨e, rfl⟩
  | ok a => exact (h a rfl).elim

theorem Inv.allPaid_iff (h : s.Inv) :
    s.AllPaid ↔ s.request.freeBalanceDue = 0 ∧ s.request.lockedBalanceDue = 0 := by
  have hfree : s.request.freeBalanceDue + s.freePaid = s.receipt.freeBalance := h.free.sum
  have hlocked : s.request.lockedBalanceDue + s.lockedPaid = s.receipt.lockedBalance := h.locked.sum
  unfold AllPaid
  omega

/-- A request becomes resolved where a finalize goes through after which nothing is unpaid. -/
theorem Inv.resolves (h : s.Inv) (hopen : s.request.isResolved = false) (call : Call) :
    (s.next call).request.isResolved = true ↔
      (∃ vault account recipient wait out, call = .finalize vault account recipient wait ∧
        forceSettleFinalize vault account recipient (s.now + wait) s.tokens s.request = .ok out) ∧
      (s.next call).AllPaid := by
  have hnext := h.next call
  constructor
  · intro hresolved
    refine ⟨?_, hnext.allPaid_iff.2 (hnext.resolved hresolved)⟩
    obtain ⟨_, _, heq⟩ | ⟨_, _, _, _, _, -, hok, heq⟩ | ⟨v, a, r, w, out, hcall, hok, -⟩ :=
      s.next_cases call
    · rw [heq] at hresolved
      exact absurd (hopen.symm.trans hresolved) Bool.false_ne_true
    · rw [heq] at hresolved
      have hfalse := (forceSettleChallenge_ok hok).2.2.2.2.2.2
      exact absurd (hfalse.symm.trans hresolved) Bool.false_ne_true
    · exact ⟨v, a, r, w, out, hcall, hok⟩
  · rintro ⟨⟨v, a, r, w, out, rfl, hok⟩, hpaid⟩
    have heq : s.next (.finalize v a r w) = s.finalized out r (s.now + w) := by
      simp [Session.next, hok, finalized]
    have hdue := (hnext.allPaid_iff.1 hpaid).2
    have hout := forceSettleFinalize_ok hok
    rw [heq] at hdue ⊢
    change out.request.lockedBalanceDue = 0 at hdue
    change out.request.isResolved = true
    rw [hout.resolved, ← hout.locked, hdue]
    rfl

theorem Inv.settled (h : s.Inv) : s.Settled where
  recorded := h.states.receiptNonce
  nonces := h.nonces
  free_le := h.free.sum ▸ Nat.le_add_left _ _
  locked_le := h.locked.sum ▸ Nat.le_add_left _ _
  free_once := h.free.once
  locked_once := h.locked.once
  recipient := h.recipient
  lock := h.lock
  pays := s.next_pays
  unchallenged hne vault check args wait := by
    refine error_of_not_ok fun request' hok => ?_
    have hlate := h.late hne
    have htime := (forceSettleChallenge_ok hok).1
    omega
  final hresolved := by
    refine ⟨h.allPaid_iff.2 (h.resolved hresolved), fun vault account recipient wait => ?_⟩
    refine error_of_not_ok fun out hok => ?_
    exact absurd ((forceSettleFinalize_ok hok).unresolved.symm.trans hresolved) Bool.false_ne_true
  resolves hopen call := h.resolves hopen call

theorem Inv.opened {participant : Pubkey} {participantKind : ℕ}
    (h : forceSettleInit vault check participant participantKind args clock = .ok request)
    (tokens : Tokens) : (opened request args tokens).Inv := by
  obtain ⟨_, -, h⟩ := bind_eq_ok.1 h
  obtain ⟨_, -, h⟩ := bind_eq_ok.1 h
  obtain rfl := Except.ok.inj h
  exact ⟨⟨rfl, rfl, rfl⟩, List.pairwise_singleton _ _, .start _ _, .start _ _, by simp [Session.opened],
    by simp [Session.opened], by simp [Session.opened], by simp [Session.opened]⟩

/-- **Every request account pays its newest receipt, once.**  Whoever calls, with whatever
receipts and accounts and at whatever times. -/
theorem run_settled (vault : VaultConfig) (check : Option Ed25519Check) (participant : Pubkey)
    (participantKind : ℕ) (args : ReceiptArgs) (clock : ℤ) (request : ForceSettleRequest)
    (hinit : forceSettleInit vault check participant participantKind args clock = .ok request)
    (tokens : Tokens) (calls : List Call) : ((opened request args tokens).run calls).Settled :=
  ((Inv.opened hinit tokens).run calls).settled

end Session

end Instructions

namespace Exit

/-- A receipt over three free and two locked until the time 100000. -/
def message : ParticipantReceiptMessage :=
  { participant := .fill 1, participantKind := 0, recipientAta := .fill 2, freeBalance := 3
    lockedBalance := 2, maxLockExpiresAt := 100000, nonce := 1, timestamp := 0, snapshotSeqno := 0
    vaultConfig := .fill 9 }

def args : ReceiptArgs :=
  { recipientAta := .fill 2, freeBalance := 3, lockedBalance := 2, maxLockExpiresAt := 100000
    receiptNonce := 1, receiptSignature := [], receiptMessage := message.build }

/-- The precompile has verified the vault's signature over it. -/
def check : Ed25519Check :=
  { publicKey := .fill 8, signature := [], message := message.build }

def request : ForceSettleRequest :=
  { vault := .fill 9, participant := .fill 1, participantKind := 0, recipientAta := .fill 2
    freeBalanceDue := 3, lockedBalanceDue := 2, maxLockExpiresAt := 100000, receiptNonce := 1
    receiptSignature := [], initiatedAt := 0, disputeDeadline := 86400, isResolved := false }

end Exit

/-- A request finalized before and after its lock expires. -/
def Exit.finished : Session :=
  (Session.opened Exit.request Exit.args Exit.tokens).run
    [.finalize Exit.vault (.fill 7) (.fill 2) 90000, .finalize Exit.vault (.fill 7) (.fill 2) 20000]

/-- An exit paid in two parts. -/
theorem Session.run_settled_exit :
    forceSettleInit Exit.vault (some Exit.check) (.fill 1) 0 Exit.args 0 = .ok Exit.request ∧
      Exit.finished.payments = [⟨3, 0, .fill 2, 90000⟩, ⟨0, 2, .fill 2, 110000⟩] ∧
      (Exit.finished.tokens[Bytes32.fill 2]?).map (·.amount)
        = (Exit.tokens[Bytes32.fill 2]?).map (·.amount + 5) ∧ Exit.finished.Settled := by
  have hinit : forceSettleInit Exit.vault (some Exit.check) (.fill 1) 0 Exit.args 0
      = .ok Exit.request := by decide +kernel
  exact ⟨hinit, by decide +kernel, by decide +kernel,
    Session.run_settled _ _ _ _ _ _ _ hinit Exit.tokens _⟩

end Chain
end Subly402
