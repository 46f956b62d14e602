/-
# Pieces that the handlers share

Drawing an id, appending a note, refreshing a client's lock expiry and issuing a
receipt move nothing in the books.  Each is a `Logged` step from wherever it starts,
so a handler's proof ends at the write that its log entry stands for, and the rest
of the handler is `Logged.then_…`.
-/

import Subly402.Enclave.Frame

namespace Subly402

open Lib
open Lib.Prog (okOr failIf Leaves Along Same)

variable {env : Env} {s t : AppState}

/-! ### Steps that move nothing -/

/-- Nothing moved. -/
theorem Logged.refl (env : Env) (s : AppState) : Logged env s s :=
  .quiet (.refl s) rfl (fun _ h => .inl h) rfl rfl (.nil _) (by simp)

/-- An id was drawn. -/
theorem Logged.draw (env : Env) (s : AppState) : Logged env s s.draw :=
  .quiet (.of_vault (fun _ h => h) rfl (Nat.le_succ _) le_rfl rfl rfl) rfl (fun _ h => .inl h) rfl rfl
    (.nil _) (by simp)

/-- An append failed. -/
theorem Logged.skip (env : Env) (s : AppState) : Logged env s (s.setWal s.wal.skip) :=
  .quiet (.of_vault (fun _ h => h) rfl le_rfl le_rfl rfl rfl) rfl (fun _ h => .inl h) rfl rfl
    (.skip (.nil _)) (by simp)

/-- An entry that tells no event. -/
theorem Logged.note (env : Env) (s : AppState) {e : WalEntry} (he : e.isNote) :
    Logged env s (s.setWal (s.wal.store e)) :=
  .quiet (.of_vault (fun _ h => h) rfl le_rfl le_rfl rfl rfl) rfl (fun _ h => .inl h) rfl rfl
    (.store (.nil _) e) (by simpa using he)

/-- A note, and the rest of the handler. -/
theorem Lib.Prog.Leaves.note_bind {β : Type} {e : WalEntry} {k : Unit → AppM β} (he : e.isNote)
    (hk : ∀ t, (k ()).Leaves t (Logged env t)) : (append env e >>= k).Leaves s (Logged env s) :=
  .append_bind rfl (Logged.skip env s) ((hk _).mono fun _ h => (Logged.note env s he).trans h)

/-- A piece of a handler that moves nothing, and the rest of it. -/
theorem Lib.Prog.Leaves.logged_bind {α β : Type} {p : AppM α} {k : α → AppM β}
    (hp : p.Leaves s (Logged env s)) (hk : ∀ a t, (k a).Leaves t (Logged env t)) :
    (p >>= k).Leaves s (Logged env s) :=
  hp.bind (fun _ h => h) fun a t ht => (hk a t).mono fun _ h => ht.trans h

/-- The rest of a handler, from where its entry was logged. -/
theorem Logged.then {α : Type} {p : AppM α} (h : Logged env s t)
    (hp : ∀ t, p.Leaves t (Logged env t)) : p.Leaves t (Logged env s) :=
  (hp t).mono fun _ ht => h.trans ht

/-- The rest of a handler whose entry may not tell all. -/
theorem Effect.then {α : Type} {P : Prop} {p : AppM α} (h : Effect env P s t)
    (hp : ∀ t, p.Leaves t (Logged env t)) : p.Leaves t (Effect env P s) :=
  (hp t).mono fun _ ht => h.trans_logged ht

/-! ### Refreshing -/

/-- The lock expiry is not in the books. -/
theorem leaves_refresh (env : Env) (client : Pubkey) (s : AppState) :
    (onVault (refreshClientMaxLockExpiresAt client)).Leaves s (Logged env s) := by
  obtain ⟨e, he⟩ | ⟨a, v, hv, balance, hb, rfl⟩ :=
    refreshClientMaxLockExpiresAt_clean client s.vault
  · refine .of_run (by rw [run_onVault, he]) ?_
    exact .refl env s
  · refine .of_run (by rw [run_onVault, hv]) ?_
    exact .quiet (.of_vault (fun _ h => VaultState.known_setBalance _ h) rfl le_rfl le_rfl rfl rfl)
      (VaultState.ledger_setBalance_same hb rfl) (fun _ h => .inl h) rfl rfl (.nil _) (by simp)

/-- Wherever it starts, also where it fails. -/
theorem refreshClientMaxLockExpiresAt_ledger (client : Pubkey) :
    (onVault (refreshClientMaxLockExpiresAt client)).Along (Same fun s => s.vault.ledger) := by
  intro s
  obtain ⟨e, he⟩ | ⟨a, v, hv, balance, hb, rfl⟩ :=
    refreshClientMaxLockExpiresAt_clean client s.vault
  · refine .of_run (by rw [run_onVault, he]) ?_
    rfl
  · refine .of_run (by rw [run_onVault, hv]) ?_
    exact VaultState.ledger_setBalance_same hb rfl

/-! ### Receipts -/

/-- Signing a receipt under the next nonce. -/
theorem Logged.sign (env : Env) (s : AppState) (r : SignedReceipt)
    (hnonce : r.receipt.nonce = s.vault.receiptNonce) (hbooks : r.vault.ledger = s.vault.ledger) :
    Logged env s
      ((s.setVault (s.vault.setReceiptNonce (s.vault.receiptNonce + 1))).pushSigned r) := by
  refine .quiet ⟨fun _ h => h, rfl, le_rfl, le_rfl, fun ⟨hpair, hlt⟩ => ⟨?_, ?_⟩⟩ rfl
    (fun r' hr' => ?_) rfl rfl (.nil _) (by simp)
  · refine List.pairwise_append.2 ⟨hpair, List.pairwise_singleton _ _, fun r' hr' r'' hr'' => ?_⟩
    rw [List.mem_singleton.1 hr'', hnonce]
    exact hlt r' hr'
  · intro r' hr'
    rcases List.mem_append.1 hr' with hr' | hr'
    · exact (hlt r' hr').trans (Nat.lt_succ_self _)
    · rw [List.mem_singleton.1 hr', hnonce]
      exact Nat.lt_succ_self _
  · rcases List.mem_append.1 hr' with hr' | hr'
    · exact .inl hr'
    · exact .inr (List.mem_singleton.1 hr' ▸ hbooks)

/-- The receipt counts as sent whatever the watchtower answers. -/
theorem replicateReceiptToWatchtower_run (receipt : ParticipantReceipt) (s : AppState) :
    ((replicateReceiptToWatchtower env receipt).run s).2 = s.pushSent receipt := by
  simp only [replicateReceiptToWatchtower, Prog.run_bind, Prog.run_modify]
  split <;> rfl

/-- What was sent is not in the books. -/
theorem leaves_replicateReceiptToWatchtower (env : Env) (receipt : ParticipantReceipt)
    (s : AppState) : (replicateReceiptToWatchtower env receipt).Leaves s (Logged env s) := by
  have hsent : Logged env s (s.pushSent receipt) :=
    .quiet (.of_vault (fun _ h => h) rfl le_rfl le_rfl rfl rfl) rfl (fun _ h => .inl h) rfl rfl
      (.nil _) (by simp)
  refine .modify_bind ?_
  split
  · exact .pure hsent
  · exact .throw hsent

/-- A receipt is two notes in the log, or fewer where it fails. -/
theorem leaves_issueParticipantReceiptLocked (env : Env) (holder : Holder) (participant : Pubkey)
    (kind : ℕ) (recipientAta : Pubkey) (free locked : ℕ) (maxLock now : ℤ) (s : AppState) :
    (issueParticipantReceiptLocked env holder participant kind recipientAta free locked maxLock
      now).Leaves s (Logged env s) := by
  refine .run_bind (run_onVault nextReceiptNonce s) (.get_bind (.set_bind ?_))
  refine (Logged.sign env s _ rfl rfl).then fun t => .note_bind rfl fun t => ?_
  exact .logged_bind (leaves_replicateReceiptToWatchtower env _ t) fun _ t =>
    .note_bind rfl fun t => .pure (.refl env t)

/-- A client's receipt is logged. -/
theorem leaves_issueClientReceiptLocked (env : Env) (client : Pubkey) (now : ℤ) (s : AppState) :
    (issueClientReceiptLocked env client now).Leaves s (Logged env s) :=
  .get_bind <| .okOr_bind (.refl env s) fun _ _ => leaves_issueParticipantReceiptLocked ..

/-- A provider's receipt is logged. -/
theorem leaves_issueProviderReceiptLocked (env : Env) (providerId : String) (now : ℤ)
    (s : AppState) : (issueProviderReceiptLocked env providerId now).Leaves s (Logged env s) :=
  .get_bind <| .okOr_bind (.refl env s) fun _ _ => .get_bind <|
    leaves_issueParticipantReceiptLocked ..

/-- Of the vault, a receipt changes the counter of nonces only. -/
theorem issueParticipantReceiptLocked_vault (holder : Holder) (participant : Pubkey) (kind : ℕ)
    (recipientAta : Pubkey) (free locked : ℕ) (maxLock now : ℤ) :
    (issueParticipantReceiptLocked env holder participant kind recipientAta free locked maxLock
      now).Along (Same fun s => s.vault.setReceiptNonce 0) := by
  intro s
  refine .run_bind (run_onVault nextReceiptNonce s) (.get_bind (.set_bind (.append_bind rfl rfl ?_)))
  refine .bind (P := fun t : AppState => t.vault.setReceiptNonce 0 = s.vault.setReceiptNonce 0) ?_
    (fun _ h => h) fun _ t ht => .append_bind rfl ht ht
  rw [Leaves, replicateReceiptToWatchtower_run]
  rfl

/-- A client's receipt takes a nonce and nothing else of the vault. -/
theorem issueClientReceiptLocked_vault (client : Pubkey) (now : ℤ) :
    (issueClientReceiptLocked env client now).Along (Same fun s => s.vault.setReceiptNonce 0) :=
  .get_bind fun _ => .okOr_bind fun _ _ => issueParticipantReceiptLocked_vault _ _ _ _ _ _ _ _

/-- A provider's receipt takes a nonce and nothing else of the vault. -/
theorem issueProviderReceiptLocked_vault (providerId : String) (now : ℤ) :
    (issueProviderReceiptLocked env providerId now).Along
      (Same fun s => s.vault.setReceiptNonce 0) :=
  .get_bind fun _ => .okOr_bind fun _ _ => .get_bind fun _ =>
    issueParticipantReceiptLocked_vault _ _ _ _ _ _ _ _

/-- The end of most handlers: the client's lock expiry, and a receipt. -/
theorem leaves_refresh_receipt {α : Type} (env : Env) (client : Pubkey) (now : ℤ) {k : AppM α}
    (hk : ∀ t, k.Leaves t (Logged env t)) (s : AppState) :
    (onVault (refreshClientMaxLockExpiresAt client) >>= fun _ =>
      issueClientReceiptLocked env client now >>= fun _ => k).Leaves s (Logged env s) :=
  .logged_bind (leaves_refresh env client s) fun _ t =>
    .logged_bind (leaves_issueClientReceiptLocked env client now t) fun _ t => hk t

/-! ### Notes -/

/-- Only notes were logged, and the books stayed. -/
def Noted (s u : AppState) : Prop :=
  u.vault.ledger = s.vault.ledger ∧ ∃ es, s.wal.Appends es u.wal ∧ ∀ e ∈ es, e.isNote

/-- Nothing was logged. -/
theorem Noted.of_wal {u : AppState} (hbooks : u.vault.ledger = s.vault.ledger)
    (hwal : u.wal = s.wal) : Noted s u :=
  ⟨hbooks, [], hwal ▸ .nil _, by simp⟩

/-- An append failed. -/
theorem Noted.skip (s : AppState) : Noted s (s.setWal s.wal.skip) :=
  ⟨rfl, [], .skip (.nil _), by simp⟩

/-- A note was logged. -/
theorem Noted.store (s : AppState) {e : WalEntry} (he : e.isNote) :
    Noted s (s.setWal (s.wal.store e)) :=
  ⟨rfl, [e], .store (.nil _) e, by simpa using he⟩

instance : IsPreorder AppState Noted where
  refl _ := .of_wal rfl rfl
  trans s₁ s₂ s₃ := by
    rintro ⟨hbooks, es, hes, hnotes⟩ ⟨hbooks', es', hes', hnotes'⟩
    refine ⟨hbooks'.trans hbooks, es ++ es', hes.trans hes', fun e he => ?_⟩
    rcases List.mem_append.1 he with he | he
    · exact hnotes e he
    · exact hnotes' e he

/-- Appending a note. -/
theorem append_noted {e : WalEntry} (he : e.isNote) : (append env e).Along Noted := fun s =>
  leaves_append rfl (.skip s) (.store s he)

/-- The refresh logs nothing. -/
theorem refreshClientMaxLockExpiresAt_noted (client : Pubkey) :
    (onVault (refreshClientMaxLockExpiresAt client)).Along Noted := fun s =>
  .of_wal (refreshClientMaxLockExpiresAt_ledger client s) rfl

/-- A receipt logs notes only. -/
theorem issueParticipantReceiptLocked_noted (holder : Holder) (participant : Pubkey) (kind : ℕ)
    (recipientAta : Pubkey) (free locked : ℕ) (maxLock now : ℤ) :
    (issueParticipantReceiptLocked env holder participant kind recipientAta free locked maxLock
      now).Along Noted := by
  intro s
  refine .run_bind (run_onVault nextReceiptNonce s) (.get_bind (.set_bind ?_))
  refine Along.leaves (r := Noted) (.bind (append_noted rfl) fun _ => .bind (fun t => ?_)
    fun _ => .bind (append_noted rfl) fun _ => .pure _) (.of_wal rfl rfl)
  rw [Leaves, replicateReceiptToWatchtower_run]
  exact .of_wal rfl rfl

/-- A client's receipt logs notes only. -/
theorem issueClientReceiptLocked_noted (client : Pubkey) (now : ℤ) :
    (issueClientReceiptLocked env client now).Along Noted :=
  .get_bind fun _ => .okOr_bind fun _ _ => issueParticipantReceiptLocked_noted _ _ _ _ _ _ _ _

/-- A provider's receipt logs notes only. -/
theorem issueProviderReceiptLocked_noted (providerId : String) (now : ℤ) :
    (issueProviderReceiptLocked env providerId now).Along Noted :=
  .get_bind fun _ => .okOr_bind fun _ _ => .get_bind fun _ =>
    issueParticipantReceiptLocked_noted _ _ _ _ _ _ _ _

/-- The end of most handlers. -/
theorem refresh_receipt_noted {α : Type} (client : Pubkey) (now : ℤ) {k : AppM α}
    (hk : k.Along Noted) :
    (onVault (refreshClientMaxLockExpiresAt client) >>= fun _ =>
      issueClientReceiptLocked env client now >>= fun _ => k).Along Noted :=
  .bind (refreshClientMaxLockExpiresAt_noted client) fun _ =>
    .bind (issueClientReceiptLocked_noted client now) fun _ => hk

end Subly402
