/-
# The receipt the client keeps

The client of the SDK keeps one receipt, `latestClientReceipt`, for the day the enclave
does not answer: `forceSettle` without an argument submits it.  Three calls write it:
`getReceipt` when its answer arrives, `rememberClientReceipt`, and `forceSettle` with the
receipt it is given.  Each write compares the wallet and the vault, and nothing else: a
receipt that is older than the one kept takes its place, and so does a receipt of a
provider.
-/

import Mathlib.Data.Int.Notation
import Subly402.Lib.Result
import Subly402.Lib.Runs

namespace Subly402
namespace Sdk
namespace Receipts

open Lib

/-- `ParticipantReceiptResponse`, with the fields that the calls here read. -/
structure ParticipantReceiptResponse where
  participant : String
  participantKind : ℕ
  recipientAta : String
  freeBalance : ℕ
  lockedBalance : ℕ
  maxLockExpiresAt : ℤ
  nonce : ℕ
  vaultConfig : String
  signature : String
  message : String
deriving DecidableEq

/-- The receipts of a client are of this kind, those of a provider of the other. -/
def participantKindClient : ℕ := 0

/-- What the client of a wallet and a vault compares receipts with. -/
structure VaultClient where
  wallet : String
  vaultAddress : String

/-- The arguments of `force_settle_init`. -/
structure ForceSettleInit where
  participantKind : ℕ
  recipientAta : String
  freeBalance : ℕ
  lockedBalance : ℕ
  maxLockExpiresAt : ℤ
  nonce : ℕ
  signature : String
  message : String
deriving DecidableEq

namespace VaultClient

variable (client : VaultClient)

/-- `rememberClientReceipt`: the receipt that is kept from now on. -/
def rememberClientReceipt (receipt : ParticipantReceiptResponse) :
    Except String ParticipantReceiptResponse := do
  refuseIf (receipt.participant ≠ client.wallet)
    "Receipt participant does not match the current wallet"
  refuseIf (receipt.vaultConfig ≠ client.vaultAddress)
    "Receipt vaultConfig does not match this client vault"
  return receipt

/-- The beginning of `forceSettle` and of `finalizeForceSettle`: the receipt they use, which is also
kept. -/
def resolveReceipt (receipt latest : Option ParticipantReceiptResponse) :
    Except String ParticipantReceiptResponse := do
  let resolved ← okOrElse (receipt <|> latest)
    "No cached client receipt is available for force-settle"
  client.rememberClientReceipt resolved

/-- What `forceSettle` submits. -/
def forceSettle (receipt latest : Option ParticipantReceiptResponse) :
    Except String ForceSettleInit := do
  let resolved ← client.resolveReceipt receipt latest
  return { participantKind := resolved.participantKind, recipientAta := resolved.recipientAta
           freeBalance := resolved.freeBalance, lockedBalance := resolved.lockedBalance
           maxLockExpiresAt := resolved.maxLockExpiresAt, nonce := resolved.nonce
           signature := resolved.signature, message := resolved.message }

end VaultClient

/-! ### Runs -/

/-- The receipt that is kept, the answers to `getReceipt` that have not arrived, and for the proofs
every receipt that was kept so far. -/
structure Session where
  latestClientReceipt : Option ParticipantReceiptResponse
  inFlight : List (Except String ParticipantReceiptResponse)
  seen : List ParticipantReceiptResponse

/-- What happens to the client.  The enclave answers a call of `getReceipt`, with a receipt or an
error, and some answer arrives; the application makes one of the other calls. -/
inductive Call where
  | answer (reply : Except String ParticipantReceiptResponse)
  | arrive (i : ℕ)
  | rememberClientReceipt (receipt : ParticipantReceiptResponse)
  | forceSettle (receipt : Option ParticipantReceiptResponse)
  | finalizeForceSettle (receipt : Option ParticipantReceiptResponse)

namespace Session

/-- The client at the start. -/
def new : Session := ⟨none, [], []⟩

variable (client : VaultClient) (s : Session)

/-- The receipt that a call leaves in the place of the one that was kept; none where it throws. -/
def taken : Call → Option ParticipantReceiptResponse
  | .answer _ => none
  | .arrive i => do
    let reply ← s.inFlight[i]?
    let receipt ← reply.toOption
    (client.rememberClientReceipt receipt).toOption
  | .rememberClientReceipt receipt => (client.rememberClientReceipt receipt).toOption
  | .forceSettle receipt | .finalizeForceSettle receipt =>
    (client.resolveReceipt receipt s.latestClientReceipt).toOption

/-- The answers that are on their way after a call. -/
def flying : Call → List (Except String ParticipantReceiptResponse)
  | .answer reply => s.inFlight ++ [reply]
  | .arrive i => s.inFlight.eraseIdx i
  | _ => s.inFlight

/-- The client after a call. -/
def next (call : Call) : Session :=
  match s.taken client call with
  | some receipt => ⟨some receipt, s.flying call, receipt :: s.seen⟩
  | none => { s with inFlight := s.flying call }

/-- A receipt that may take the place of the one that is kept. -/
def NotBack (call : Call) : Prop :=
  ∀ receipt, s.taken client call = some receipt →
    receipt.participantKind = participantKindClient ∧
    ∀ latest, s.latestClientReceipt = some latest → latest.nonce ≤ receipt.nonce

instance (call : Call) : Decidable (s.NotBack client call) :=
  decidable_of_iff (∀ receipt ∈ s.taken client call,
      receipt.participantKind = participantKindClient ∧
      ∀ latest ∈ s.latestClientReceipt, latest.nonce ≤ receipt.nonce) Iff.rfl

end Session

/-- A run whose kept receipt is a client's at every moment and never goes back, so that what
`forceSettle` submits without an argument is not older than any receipt kept before. -/
structure NeverBack (client : VaultClient) (calls : List Call) : Prop where
  kind : ∀ n latest,
    (runSteps (Session.next client) .new (calls.take n)).latestClientReceipt = some latest →
    latest.participantKind = participantKindClient
  forward : ∀ k n, k ≤ n → ∀ earlier,
    (runSteps (Session.next client) .new (calls.take k)).latestClientReceipt = some earlier →
    ∃ latest, (runSteps (Session.next client) .new (calls.take n)).latestClientReceipt = some latest ∧
      earlier.nonce ≤ latest.nonce
  submits : ∀ n init,
    client.forceSettle none
      (runSteps (Session.next client) .new (calls.take n)).latestClientReceipt = .ok init →
    ∀ receipt ∈ (runSteps (Session.next client) .new (calls.take n)).seen,
      receipt.nonce ≤ init.nonce

/-! ### What one call does -/

namespace Session

variable {client : VaultClient} {s : Session} {call : Call}

theorem next_of_taken {receipt : ParticipantReceiptResponse}
    (h : s.taken client call = some receipt) :
    s.next client call = ⟨some receipt, s.flying call, receipt :: s.seen⟩ := by
  simp only [next, h]

theorem next_of_none (h : s.taken client call = none) :
    s.next client call = { s with inFlight := s.flying call } := by
  simp only [next, h]

/-- The receipt that is kept is a client's and none that was kept before is newer. -/
structure Newest (s : Session) : Prop where
  kind : ∀ latest, s.latestClientReceipt = some latest →
    latest.participantKind = participantKindClient
  newest : ∀ receipt ∈ s.seen, ∃ latest, s.latestClientReceipt = some latest ∧
    receipt.nonce ≤ latest.nonce

theorem Newest.next (h : s.Newest) (hcall : s.NotBack client call) :
    (s.next client call).Newest := by
  cases htaken : s.taken client call with
  | none =>
    rw [next_of_none htaken]
    exact ⟨h.kind, h.newest⟩
  | some receipt =>
    obtain ⟨hkind, hnonce⟩ := hcall receipt htaken
    rw [next_of_taken htaken]
    refine ⟨?_, ?_⟩
    · rintro _ ⟨⟩
      exact hkind
    · intro earlier hearlier
      refine ⟨receipt, rfl, ?_⟩
      rcases List.mem_cons.1 hearlier with rfl | hseen
      · exact Nat.le_refl _
      · obtain ⟨latest, hlatest, hle⟩ := h.newest earlier hseen
        exact Nat.le_trans hle (hnonce latest hlatest)

/-- A receipt that is kept is followed by one that is not older. -/
theorem forward_next (hcall : s.NotBack client call) {nonce : ℕ}
    (h : ∃ latest, s.latestClientReceipt = some latest ∧ nonce ≤ latest.nonce) :
    ∃ latest, (s.next client call).latestClientReceipt = some latest ∧ nonce ≤ latest.nonce := by
  obtain ⟨latest, hlatest, hle⟩ := h
  cases htaken : s.taken client call with
  | none =>
    rw [next_of_none htaken]
    exact ⟨latest, hlatest, hle⟩
  | some receipt =>
    rw [next_of_taken htaken]
    exact ⟨receipt, rfl, Nat.le_trans hle ((hcall receipt htaken).2 latest hlatest)⟩

end Session

/-- Without an argument, `forceSettle` submits the receipt that is kept. -/
theorem VaultClient.forceSettle_none {client : VaultClient}
    {latest : Option ParticipantReceiptResponse} {init : ForceSettleInit}
    (h : client.forceSettle none latest = .ok init) :
    ∃ receipt, latest = some receipt ∧ init.nonce = receipt.nonce := by
  simp only [VaultClient.forceSettle, VaultClient.resolveReceipt, VaultClient.rememberClientReceipt,
    bind_eq_ok, okOrElse_eq_ok] at h
  obtain ⟨_, ⟨receipt, hlatest, _, -, _, -, hkept⟩, hout⟩ := h
  cases hkept
  cases hout
  exact ⟨_, hlatest, rfl⟩

/-- **The receipt that is kept never goes back** exactly in the runs in which each receipt that is
taken is a client's and not older than the one it replaces. -/
theorem receipt_cache_iff (client : VaultClient) (calls : List Call) :
    NeverBack client calls ↔
      AllSteps (Session.next client) (Session.NotBack client) .new calls := by
  constructor
  · intro h
    refine .of_at fun n call hcall receipt htaken => ?_
    -- after the call, the receipt is the one that is kept
    have hnext : (runSteps (Session.next client) .new (calls.take (n + 1))).latestClientReceipt
        = some receipt := by
      rw [runSteps_take_succ hcall, Session.next_of_taken htaken]
    refine ⟨h.kind (n + 1) receipt hnext, fun earlier hearlier => ?_⟩
    obtain ⟨latest, hlatest, hle⟩ := h.forward n (n + 1) (Nat.le_succ n) earlier hearlier
    rw [hnext] at hlatest
    cases hlatest
    exact hle
  · intro h
    have hstep : ∀ m call, calls[m]? = some call →
        (runSteps (Session.next client) .new (calls.take m)).NotBack client call :=
      fun m call hcall => h.at hcall
    have hnew : Session.new.Newest :=
      ⟨fun _ hlatest => (nomatch hlatest), fun _ hseen => absurd hseen List.not_mem_nil⟩
    have hnewest : ∀ n, (runSteps (Session.next client) .new (calls.take n)).Newest := fun n =>
      runSteps_keep_from (P := Session.Newest) (k := 0) hnew
        (fun m call hcall hm => hm.next (hstep m call hcall)) (Nat.zero_le n)
    refine ⟨fun n => (hnewest n).kind, ?_, ?_⟩
    · intro k n hkn earlier hearlier
      exact runSteps_keep_from
        (P := fun s : Session => ∃ latest, s.latestClientReceipt = some latest ∧
          earlier.nonce ≤ latest.nonce)
        ⟨earlier, hearlier, Nat.le_refl _⟩
        (fun m call hcall hm => Session.forward_next (hstep m call hcall) hm) hkn
    · intro n init hinit receipt hseen
      obtain ⟨kept, hkept, hnonce⟩ := VaultClient.forceSettle_none hinit
      obtain ⟨latest, hlatest, hle⟩ := (hnewest n).newest receipt hseen
      rw [hkept] at hlatest
      cases hlatest
      rw [hnonce]
      exact hle

/-- A receipt for the wallet and the vault of the runs below. -/
def sampleReceipt (participantKind nonce : ℕ) : ParticipantReceiptResponse :=
  { participant := "client", participantKind, recipientAta := "ata", freeBalance := 5
    lockedBalance := 0, maxLockExpiresAt := 0, nonce, vaultConfig := "vault", signature := ""
    message := "" }

/-- Two receipts in order. -/
theorem receipt_cache_two :
    NeverBack ⟨"client", "vault"⟩ [.answer (.ok (sampleReceipt 0 1)),
      .answer (.ok (sampleReceipt 0 2)), .arrive 0, .arrive 0, .forceSettle none] :=
  (receipt_cache_iff _ _).2 (by decide +kernel)

/-- **Two answers overtake each other**: the receipt that is kept goes from nonce 2 back to nonce 1,
and that is what `forceSettle` then submits. -/
theorem overtaken_receipt :
    let client : VaultClient := ⟨"client", "vault"⟩
    let calls : List Call := [.answer (.ok (sampleReceipt 0 1)), .answer (.ok (sampleReceipt 0 2)),
      .arrive 1, .arrive 0]
    (runSteps (Session.next client) .new (calls.take 3)).latestClientReceipt
        = some (sampleReceipt 0 2) ∧
      (runSteps (Session.next client) .new calls).latestClientReceipt
        = some (sampleReceipt 0 1) ∧
      ((client.forceSettle none
        (runSteps (Session.next client) .new calls).latestClientReceipt).toOption.map
          ForceSettleInit.nonce) = some 1 ∧
      -- and a provider's receipt is kept as well
      (runSteps (Session.next client) .new
        [.rememberClientReceipt (sampleReceipt 1 3)]).latestClientReceipt
        = some (sampleReceipt 1 3) := by
  decide +kernel

end Receipts
end Sdk
end Subly402
