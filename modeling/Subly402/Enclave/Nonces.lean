/-
# Nonces that left the enclave are in its log

A receipt leaves the enclave, and a withdrawal authorisation is handed out, only after
the entry with its nonce is durable.  `NoncesUsed` is what follows: what left is in the
log, the counters are above every nonce in the log, and so no nonce leaves twice.
-/

import Subly402.Enclave.Lifecycle

namespace Subly402

open Lib

namespace WalEntry

/-- The nonce of a receipt that was issued. -/
def issuedNonce? : WalEntry → Option ℕ
  | .participantReceiptIssued _ _ nonce => some nonce
  | _ => none

/-- The nonce of a withdrawal that was authorised. -/
def authorizedNonce? : WalEntry → Option ℕ
  | .withdrawAuthorized _ _ _ withdrawNonce _ _ => some withdrawNonce
  | _ => none

/-- A plain entry hands out no nonce. -/
theorem nonces_of_isPlain {e : WalEntry} (he : e.isPlain) :
    e.issuedNonce? = none ∧ e.authorizedNonce? = none := by
  cases e <;> first | exact ⟨rfl, rfl⟩ | simp [isPlain] at he

/-- A booking hands out no nonce. -/
theorem nonces_of_created? {env : Env} {e : WalEntry} {r : Reservation}
    (he : e.created? env = some r) : e.issuedNonce? = none ∧ e.authorizedNonce? = none := by
  cases e <;> first | exact ⟨rfl, rfl⟩ | simp [created?] at he

/-- A closing hands out no nonce. -/
theorem nonces_of_closes {e : WalEntry} {key : String} {r r' : Reservation}
    (he : e.Closes key r r') : e.issuedNonce? = none ∧ e.authorizedNonce? = none := by
  cases he <;> exact ⟨rfl, rfl⟩

end WalEntry

/-- The entry is in the log. -/
def Wal.Has (wal : Wal) (e : WalEntry) : Prop := ∃ record ∈ wal.records, record.entry = e

/-- What is in the log stays there. -/
theorem Wal.Has.appends {w w' : Wal} {e : WalEntry} (h : w.Has e) {es : List WalEntry}
    (happends : w.Appends es w') : w'.Has e := by
  obtain ⟨record, hmem, he⟩ := h
  obtain ⟨rs, hrs, -⟩ := happends.records
  exact ⟨record, hrs ▸ List.mem_append_left _ hmem, he⟩

/-- An entry of a log that was appended to was there, or is one of the new ones. -/
theorem Wal.Appends.has {w w' : Wal} {es : List WalEntry} (happends : w.Appends es w')
    {e : WalEntry} (h : w'.Has e) : w.Has e ∨ e ∈ es := by
  obtain ⟨record, hmem, he⟩ := h
  obtain ⟨rs, hrs, hentries, -⟩ := happends.records
  rw [hrs] at hmem
  rcases List.mem_append.1 hmem with hmem | hmem
  · exact .inl ⟨record, hmem, he⟩
  · exact .inr (hentries ▸ he ▸ List.mem_map_of_mem hmem)

/-- What left the enclave is in the log, and the counters are above what is in the log. -/
structure NoncesUsed (env : Env) (s : AppState) : Prop where
  issued : ∀ e, s.wal.Has e → ∀ n, e.issuedNonce? = some n → n < s.vault.receiptNonce
  authorized : ∀ e, s.wal.Has e → ∀ n, e.authorizedNonce? = some n → n < s.vault.withdrawNonce
  authorizedOnce : ∀ e e', s.wal.Has e → s.wal.Has e' → ∀ n, e.authorizedNonce? = some n →
    e'.authorizedNonce? = some n → e = e'
  sent : ∀ r ∈ s.sent, s.wal.Has (r.entry env)
  sentOnce : s.sent.Pairwise fun r r' => r.nonce ≠ r'.nonce
  released : ∀ w ∈ s.released, s.wal.Has (w.entry env)

namespace NoncesUsed

variable {env : Env} {rules : Rules} {s t : AppState}

/-- Nothing was handed out yet. -/
theorem new (env : Env) : NoncesUsed env .new where
  issued _ h := by simp [AppState.new, Wal.Has] at h
  authorized _ h := by simp [AppState.new, Wal.Has] at h
  authorizedOnce _ _ h := by simp [AppState.new, Wal.Has] at h
  sent := by simp [AppState.new]
  sentOnce := by simp [AppState.new]
  released := by simp [AppState.new]

/-- **No two receipts that left the enclave share a nonce, and no two authorisations do.** -/
theorem unique (h : NoncesUsed env s) :
    s.sent.Pairwise (fun r r' => r.nonce ≠ r'.nonce) ∧
      ∀ w ∈ s.released, ∀ w' ∈ s.released, w.withdrawNonce = w'.withdrawNonce → w = w' := by
  refine ⟨h.sentOnce, fun w hw w' hw' hnonce => ?_⟩
  have hentry : w.entry env = w'.entry env :=
    h.authorizedOnce _ _ (h.released w hw) (h.released w' hw') w.withdrawNonce rfl
      (by rw [hnonce]; rfl)
  simp only [PendingWithdrawal.entry, WalEntry.withdrawAuthorized.injEq] at hentry
  obtain ⟨hclient, hata, hamount, -, hissued, hexpires⟩ := hentry
  replace hclient := env.pubkeyToString_injective hclient
  replace hata := env.pubkeyToString_injective hata
  cases w
  cases w'
  simp only at hclient hata hamount hissued hexpires hnonce
  subst hclient hata hamount hissued hexpires hnonce
  rfl

/-- A step whose entries carry no nonce that is handed out. -/
theorem quiet (h : NoncesUsed env s) {es : List WalEntry} (hwal : s.wal.Appends es t.wal)
    (hes : ∀ e ∈ es, e.issuedNonce? = none ∧ e.authorizedNonce? = none)
    (hreceipt : s.vault.receiptNonce ≤ t.vault.receiptNonce)
    (hwithdraw : s.vault.withdrawNonce ≤ t.vault.withdrawNonce) (hsent : t.sent = s.sent)
    (hreleased : t.released = s.released) : NoncesUsed env t where
  issued e he n hn := by
    rcases hwal.has he with he | he
    · exact (h.issued e he n hn).trans_le hreceipt
    · cases ((hes e he).1.symm.trans hn)
  authorized e he n hn := by
    rcases hwal.has he with he | he
    · exact (h.authorized e he n hn).trans_le hwithdraw
    · cases ((hes e he).2.symm.trans hn)
  authorizedOnce e e' he he' n hn hn' := by
    rcases hwal.has he with he | he
    · rcases hwal.has he' with he' | he'
      · exact h.authorizedOnce e e' he he' n hn hn'
      · cases ((hes e' he').2.symm.trans hn')
    · cases ((hes e he).2.symm.trans hn)
  sent r hr := (h.sent r (hsent ▸ hr)).appends hwal
  sentOnce := hsent ▸ h.sentOnce
  released w hw := (h.released w (hreleased ▸ hw)).appends hwal

/-- A move keeps the counters or raises them. -/
theorem of_bookings {v v' : VaultState} (h : v'.bookings = v.bookings) :
    v.receiptNonce ≤ v'.receiptNonce ∧ v.withdrawNonce ≤ v'.withdrawNonce :=
  ⟨(congrArg Bookings.receiptNonce h).ge, (congrArg Bookings.withdrawNonce h).ge⟩

/-- An authorisation under the next nonce. -/
theorem authorize (h : NoncesUsed env s) {v : VaultState} {w : PendingWithdrawal}
    (hreceipt : s.vault.receiptNonce ≤ v.receiptNonce)
    (hwithdraw : v.withdrawNonce = s.vault.withdrawNonce + 1)
    (hw : w.withdrawNonce = s.vault.withdrawNonce) :
    NoncesUsed env ((s.setVault v).setWal (s.wal.store (w.entry env))) := by
  have hwal : s.wal.Appends [w.entry env] (s.wal.store (w.entry env)) := .store (.nil _) _
  have hfresh : ∀ e, s.wal.Has e → ∀ n, e.authorizedNonce? = some n → n ≠ w.withdrawNonce :=
    fun e he n hn => hw ▸ (h.authorized e he n hn).ne
  have hnew : ∀ {e n}, e ∈ [w.entry env] → e.authorizedNonce? = some n → n = w.withdrawNonce := by
    intro e n he hn
    rw [List.mem_singleton.1 he] at hn
    exact (Option.some.inj hn).symm
  constructor
  · intro e he n hn
    rcases hwal.has he with he | he
    · exact (h.issued e he n hn).trans_le hreceipt
    · rw [List.mem_singleton.1 he] at hn
      cases hn
  · intro e he n hn
    simp only [AppState.setWal_vault, AppState.setVault_vault, hwithdraw]
    rcases hwal.has he with he | he
    · exact (h.authorized e he n hn).trans (Nat.lt_succ_self _)
    · rw [hnew he hn, hw]
      exact Nat.lt_succ_self _
  · intro e e' he he' n hn hn'
    rcases hwal.has he with he | he <;> rcases hwal.has he' with he' | he'
    · exact h.authorizedOnce e e' he he' n hn hn'
    · exact (hfresh e he n hn (hnew he' hn')).elim
    · exact (hfresh e' he' n hn' (hnew he hn)).elim
    · rw [List.mem_singleton.1 he, List.mem_singleton.1 he']
  · exact fun r hr => (h.sent r hr).appends hwal
  · exact h.sentOnce
  · exact fun w hw => (h.released w hw).appends hwal

/-- A receipt under the next nonce. -/
theorem issue (h : NoncesUsed env s) {r : SignedReceipt}
    (hr : r.receipt.nonce = s.vault.receiptNonce) :
    NoncesUsed env
      (((s.sign r).setWal (s.wal.store (r.receipt.entry env))).pushSent r.receipt) := by
  have hwal : s.wal.Appends [r.receipt.entry env] (s.wal.store (r.receipt.entry env)) :=
    .store (.nil _) _
  have hold : ∀ e, e ∈ [r.receipt.entry env] → e.authorizedNonce? = none := fun e he => by
    rw [List.mem_singleton.1 he]
    rfl
  constructor
  · intro e he n hn
    change n < s.vault.receiptNonce + 1
    rcases hwal.has he with he | he
    · exact (h.issued e he n hn).trans (Nat.lt_succ_self _)
    · rw [List.mem_singleton.1 he] at hn
      rw [← Option.some.inj hn, hr]
      exact Nat.lt_succ_self _
  · intro e he n hn
    rcases hwal.has he with he | he
    · exact h.authorized e he n hn
    · cases (hold e he).symm.trans hn
  · intro e e' he he' n hn hn'
    rcases hwal.has he with he | he
    · rcases hwal.has he' with he' | he'
      · exact h.authorizedOnce e e' he he' n hn hn'
      · cases (hold e' he').symm.trans hn'
    · cases (hold e he).symm.trans hn
  · intro r' hr'
    rcases List.mem_append.1 hr' with hr' | hr'
    · exact (h.sent r' hr').appends hwal
    · rw [List.mem_singleton.1 hr']
      exact ⟨⟨s.wal.seqno, r.receipt.entry env⟩, by simp, rfl⟩
  · refine List.pairwise_append.2 ⟨h.sentOnce, List.pairwise_singleton _ _, fun r₁ hr₁ r₂ hr₂ => ?_⟩
    rw [List.mem_singleton.1 hr₂, hr]
    exact (h.issued _ (h.sent r₁ hr₁) r₁.nonce rfl).ne
  · exact fun w hw => (h.released w hw).appends hwal

/-- One move hands out the next nonce or none. -/
theorem move (h : NoncesUsed env s) (hmove : Move env rules s t) : NoncesUsed env t := by
  cases hmove with
  | draw | remember => exact h.quiet (.nil _) (by simp) le_rfl le_rfl rfl rfl
  | skip => exact h.quiet (.skip (.nil _)) (by simp) le_rfl le_rfl rfl rfl
  | log he =>
    exact h.quiet (.store (.nil _) _) (by simpa using WalEntry.nonces_of_isPlain he) le_rfl le_rfl
      rfl rfl
  | vault hv =>
    exact h.quiet (.nil _) (by simp) (of_bookings hv).1 (of_bookings hv).2 rfl rfl
  | takeNonce => exact h.quiet (.nil _) (by simp) le_rfl (Nat.le_succ _) rfl rfl
  | @authorize v w hv hw =>
    exact h.authorize (congrArg Bookings.receiptNonce hv).ge (congrArg Bookings.withdrawNonce hv) hw
  | @release w hw =>
    refine ⟨h.issued, h.authorized, h.authorizedOnce, h.sent, h.sentOnce, fun w' hw' => ?_⟩
    rcases List.mem_append.1 hw' with hw' | hw'
    · exact h.released w' hw'
    · rw [List.mem_singleton.1 hw']
      exact hw
  | sign => exact h.quiet (.skip (.nil _)) (by simp) (Nat.le_succ _) le_rfl rfl rfl
  | issue hr => exact h.issue hr
  | book _ _ _ he =>
    exact h.quiet (.store (.nil _) _) (by simpa using WalEntry.nonces_of_created? he) le_rfl le_rfl
      rfl rfl
  | close _ he _ hv =>
    exact h.quiet (.store (.nil _) _) (by simpa using WalEntry.nonces_of_closes he)
      (of_bookings hv).1 (of_bookings hv).2 rfl rfl
  | confirm settlementIds batchId txSignature =>
    have hconfirm := applyBatchConfirmation_bookings settlementIds batchId txSignature s.vault
    exact h.quiet (.store (.nil _) _) (by simp [WalEntry.issuedNonce?, WalEntry.authorizedNonce?])
      (congrArg Bookings.receiptNonce hconfirm).ge (congrArg Bookings.withdrawNonce hconfirm).ge
      rfl rfl

end NoncesUsed

/-- **Every handler keeps it.** -/
theorem Moves.noncesUsed {env : Env} {rules : Rules} {s t : AppState}
    (hmoves : Moves env rules s t) (h : NoncesUsed env s) : NoncesUsed env t :=
  Moves.keep (P := NoncesUsed env) hmoves h fun _ _ hmove hs => hs.move hmove

end Subly402
