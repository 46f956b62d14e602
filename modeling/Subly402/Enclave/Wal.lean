/-
# The write-ahead log of a running enclave

`WalEntry` of `enclave/src/wal.rs`, every variant with every field, and
`Wal::append` as the handlers see it: the counter goes up, and then the record is
durable or the append reports an error.  How the records are stored is left out.
-/

import Subly402.Enclave.Env

namespace Subly402

open Lib

/-- `WalEntry`. -/
inductive WalEntry where
  | depositApplied (client : String) (amount slot : ℕ) (txSignature : String)
  | withdrawAuthorized (client recipientAta : String) (amount withdrawNonce : ℕ)
      (issuedAt expiresAt : ℤ)
  | withdrawApplied (client recipientAta : String) (amount withdrawNonce : ℕ) (expiresAt : ℤ)
      (slot : ℕ) (txSignature : String)
  | withdrawExpired (client : String) (withdrawNonce : ℕ)
  | reservationCreated (verificationId : String) (reservationId : Option String)
      (paymentId client providerId : String) (amount : ℕ)
      (requestHash paymentDetailsHash : Option String) (createdAt expiresAt : Option ℤ)
  | reservationCancelled (verificationId reason : String)
  | reservationExpired (verificationId : String)
  | settlementCommitted (settlementId verificationId providerId : String) (amount : ℕ)
      (settledAt : Option ℤ)
  | participantReceiptIssued (participant : String) (participantKind nonce : ℕ)
  | participantReceiptMirrored (participant : String) (participantKind nonce : ℕ)
  | providerRegistered (providerId displayName : String) (participantPubkey : Option String)
      (participantAttestationPolicyHash : Option String)
      (participantAttestationVerifiedAtMs : Option ℤ) (participantAttestationMode : Option String)
      (settlementTokenAccount network assetMint : String) (allowedOrigins : List String)
      (authMode : String) (apiKeyHash mtlsCertFingerprint : Option String)
  | clientBalanceSeeded (client : String) (free locked : ℕ) (maxLockExpiresAt : ℤ)
      (totalDeposited totalWithdrawn : ℕ)
  | batchSubmitted (batchId providerCount totalAmount : ℕ)
  | batchConfirmed (batchId : ℕ) (txSignature : String) (settlementIds : List String)
  | channelOpened (channelId client providerId : String) (initialDeposit : ℕ)
  | channelRequestSubmitted (channelId requestId : String) (amount : ℕ)
      (requestHash : Option String)
  | channelRequestExpired (channelId requestId : String) (amount : ℕ)
  | channelAdaptorDelivered (channelId requestId : String)
      (adaptorPoint preSigRPrime preSigSPrime encryptedResult resultHash providerPubkey :
        Option String)
  | channelFinalized (channelId requestId : String) (amountPaid : ℕ)
  | channelClosed (channelId : String) (returnedToClient providerEarned : ℕ)
      (settlementId : Option String)
deriving DecidableEq

/-- `WalRecord`, without its timestamp, which nothing reads. -/
structure WalRecord where
  seqno : ℕ
  entry : WalEntry
deriving DecidableEq

/-- The log of a running enclave: the counter, and the durable records. -/
@[ext]
structure Wal where
  seqno : ℕ
  records : List WalRecord

namespace Wal

/-- The append becomes durable. -/
@[simps]
def store (wal : Wal) (entry : WalEntry) : Wal :=
  { seqno := wal.seqno + 1, records := wal.records ++ [{ seqno := wal.seqno, entry }] }

/-- The append fails after it has taken its number. -/
@[simps]
def skip (wal : Wal) : Wal := { wal with seqno := wal.seqno + 1 }

/-- The log goes from one state to another by appends, of which `es` became durable. -/
inductive Appends : Wal → List WalEntry → Wal → Prop
  | nil (w : Wal) : Appends w [] w
  | store {w w' : Wal} {es : List WalEntry} (h : Appends w es w') (e : WalEntry) :
      Appends w (es ++ [e]) (w'.store e)
  | skip {w w' : Wal} {es : List WalEntry} (h : Appends w es w') : Appends w es w'.skip

namespace Appends

variable {w w' w'' : Wal} {es es' : List WalEntry}

/-- One log after another. -/
theorem trans (h : Appends w es w') (h' : Appends w' es' w'') : Appends w (es ++ es') w'' := by
  induction h' with
  | nil => simpa using h
  | store _ e ih =>
    rw [← List.append_assoc]
    exact ih.store e
  | skip _ ih => exact ih.skip

/-- The durable entries are those there were and the new ones. -/
theorem entries (h : Appends w es w') :
    w'.records.map (·.entry) = w.records.map (·.entry) ++ es := by
  induction h with
  | nil => simp
  | store _ e ih => simp [ih]
  | skip _ ih => exact ih

/-- Sequence numbers only grow. -/
theorem seqno_le (h : Appends w es w') : w.seqno ≤ w'.seqno := by
  induction h with
  | nil => exact le_rfl
  | store _ _ ih | skip _ ih => simp; omega

/-- The records there were stay in front. -/
theorem records (h : Appends w es w') :
    ∃ rs, w'.records = w.records ++ rs ∧ rs.map (·.entry) = es ∧ ∀ r ∈ rs, w.seqno ≤ r.seqno := by
  induction h with
  | nil => exact ⟨[], by simp⟩
  | @store w₁ _ h e ih =>
    obtain ⟨rs, hrs, hentries, hge⟩ := ih
    refine ⟨rs ++ [⟨w₁.seqno, e⟩], by simp [hrs], by simp [hentries], fun r hr => ?_⟩
    rcases List.mem_append.1 hr with hr | hr
    · exact hge r hr
    · rw [List.mem_singleton.1 hr]
      exact h.seqno_le
  | skip _ ih => exact ih

end Appends

/-- The records stand in the order of their numbers, all below the counter. -/
def Ordered (wal : Wal) : Prop :=
  wal.records.Pairwise (fun r r' => r.seqno < r'.seqno) ∧ ∀ r ∈ wal.records, r.seqno < wal.seqno

/-- Appends keep the order. -/
theorem Ordered.appends {w w' : Wal} {es : List WalEntry} (hw : w.Ordered)
    (h : Appends w es w') : w'.Ordered := by
  induction h with
  | nil => exact hw
  | store _ e ih =>
    obtain ⟨hpair, hlt⟩ := ih
    refine ⟨List.pairwise_append.2 ⟨hpair, List.pairwise_singleton _ _, ?_⟩, ?_⟩
    · simpa using hlt
    · intro r hr
      rcases List.mem_append.1 hr with hr | hr
      · exact (hlt r hr).trans (Nat.lt_succ_self _)
      · rw [List.mem_singleton.1 hr]
        exact Nat.lt_succ_self _
  | skip _ ih => exact ⟨ih.1, fun r hr => (ih.2 r hr).trans (Nat.lt_succ_self _)⟩

end Wal

end Subly402
