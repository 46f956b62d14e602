/-
# What an error tells the caller

A request that is answered with an error should have done nothing.  `NoEffect` is what
that means: no entry by which the request commits is durable, and the books are as they
were, or differ by an expiry that the request came too late for.  `Honest` says that every
error of a handler is such an error.
-/

import Subly402.Enclave.Rollbacks

namespace Subly402

open Lib
open Lib.Prog (okOr failIf Leaves Along Same)

variable {u : AppState} {e : EnclaveError} {providerId : String} {v : VaultState} {t : Times}
  {expiry : LedgerEvent → Prop}

/-! ### Entries that commit -/

/-- The entry is what a request is made durable by: no note about a receipt, and no expiry. -/
def WalEntry.commits : WalEntry → Bool
  | .reservationExpired .. | .channelRequestExpired .. => false
  | e => !e.isNote

/-- A note commits nothing. -/
theorem WalEntry.commits_of_isNote {e : WalEntry} (h : e.isNote) : e.commits = false := by
  cases e <;> simp_all [WalEntry.commits, WalEntry.isNote]

/-- The entries that became durable between two states. -/
def AppState.newEntries (s u : AppState) : List WalEntry :=
  (u.wal.records.map (·.entry)).drop s.wal.records.length

/-- What was appended is what is new. -/
theorem Wal.Appends.newEntries {s : AppState} {es : List WalEntry} (h : s.wal.Appends es u.wal) :
    s.newEntries u = es := by
  rw [AppState.newEntries, h.entries]
  exact List.drop_left' (List.length_map _)

/-! ### Receipts -/

/-- The store and the watchtower take the next `k` receipts. -/
def Env.Serves (env : Env) (seqno nonce : ℕ) : ℕ → Prop
  | 0 => True
  | k + 1 => env.appendError seqno = none ∧ env.watchtowerError nonce = none ∧
      env.appendError (seqno + 1) = none ∧ env.Serves (seqno + 2) (nonce + 1) k

/-- The program succeeds. -/
def Succeeds {α : Type} (p : AppM α) (s : AppState) : Prop := ∃ a u, p.run s = (.ok a, u)

namespace Succeeds

variable {α β : Type} {s u : AppState}

/-- `pure` succeeds. -/
theorem pure (a : α) (s : AppState) : Succeeds (Pure.pure a) s := ⟨a, s, rfl⟩

/-- Past a part that succeeds. -/
theorem run_bind {p : AppM α} {k : α → AppM β} {a : α} (h : p.run s = (.ok a, u)) :
    Succeeds (p >>= k) s ↔ Succeeds (k a) u := by
  rw [Succeeds, Succeeds, Prog.run_bind, h]

/-- Rule for `get`. -/
theorem get_bind {k : AppState → AppM β} : Succeeds (get >>= k) s ↔ Succeeds (k s) s := .rfl

/-- Rule for `okOr` of a value. -/
theorem okOr_bind {o : Option α} {k : α → AppM β} {a : α} (h : o = some a) :
    Succeeds (okOr o e >>= k) s ↔ Succeeds (k a) s :=
  run_bind (by rw [h]; rfl)

/-- Rule for `modify`. -/
theorem modify_bind {f : AppState → AppState} {k : PUnit → AppM β} :
    Succeeds (modify f >>= k) s ↔ Succeeds (k ()) (f s) := .rfl

/-- Past a part that fails. -/
theorem not_bind {p : AppM α} {k : α → AppM β} (h : p.run s = (.error e, u)) :
    ¬ Succeeds (p >>= k) s := by
  rw [Succeeds, Prog.run_bind, h]
  rintro ⟨_, _, ⟨⟩⟩

end Succeeds

variable {env : Env} {s s₁ : AppState}

/-- One receipt, then the rest. -/
theorem Env.serves_succ {seqno nonce k : ℕ} :
    env.Serves seqno nonce (k + 1) ↔
      env.Serves seqno nonce 1 ∧ env.Serves (seqno + 2) (nonce + 1) k := by
  simp [Env.Serves, and_assoc]

/-- The program issues a receipt: it succeeds where both appends and the watchtower do, and has
then taken two sequence numbers and a nonce. -/
def Issues (env : Env) (p : AppM ParticipantReceipt) (s : AppState) : Prop :=
  (env.Serves s.wal.seqno s.vault.receiptNonce 1 ∧
    ∃ r u, p.run s = (.ok r, u) ∧ u.wal.seqno = s.wal.seqno + 2 ∧
      u.vault = s.vault.setReceiptNonce (s.vault.receiptNonce + 1)) ∨
  (¬ env.Serves s.wal.seqno s.vault.receiptNonce 1 ∧ ∃ e u, p.run s = (.error e, u))

/-- A receipt, and what comes after it. -/
theorem Issues.succeeds_bind {α : Type} {p : AppM ParticipantReceipt}
    {f : ParticipantReceipt → AppM α} {n : ℕ} (hp : Issues env p s)
    (hf : ∀ r u, u.wal.seqno = s.wal.seqno + 2 →
      u.vault = s.vault.setReceiptNonce (s.vault.receiptNonce + 1) →
      (Succeeds (f r) u ↔ env.Serves u.wal.seqno u.vault.receiptNonce n)) :
    Succeeds (p >>= f) s ↔ env.Serves s.wal.seqno s.vault.receiptNonce (n + 1) := by
  obtain ⟨hserves, r, u, hrun, hseqno, hvault⟩ | ⟨hserves, e, u, hrun⟩ := hp
  · rw [Succeeds.run_bind hrun, hf r u hseqno hvault, hseqno, hvault, Env.serves_succ (k := n)]
    simp [hserves]
  · rw [Env.serves_succ]
    exact iff_of_false (Succeeds.not_bind hrun) fun h => hserves h.1

/-- A receipt succeeds exactly when it is served. -/
theorem issueParticipantReceiptLocked_issues (holder : Holder) (participant : Pubkey) (kind : ℕ)
    (recipientAta : Pubkey) (free locked : ℕ) (maxLock now : ℤ) (s : AppState) :
    Issues env (issueParticipantReceiptLocked env holder participant kind recipientAta free locked
      maxLock now) s := by
  rw [Issues]
  simp only [issueParticipantReceiptLocked, Prog.run_bind, run_onVault, run_nextReceiptNonce,
    Prog.run_get, Prog.run_set]
  cases h₁ : env.appendError s.wal.seqno with
  | some error =>
    rw [run_appendAs_error (by exact h₁)]
    exact .inr ⟨by simp [Env.Serves, h₁], _, _, rfl⟩
  | none =>
    rw [run_appendAs_ok (by exact h₁)]
    simp only [replicateReceiptToWatchtower, Prog.run_bind, Prog.run_modify]
    cases h₂ : env.watchtowerError s.vault.receiptNonce with
    | some error => exact .inr ⟨by simp [Env.Serves, h₂], _, _, rfl⟩
    | none =>
      simp only [Prog.run_pure]
      cases h₃ : env.appendError (s.wal.seqno + 1) with
      | some error =>
        rw [run_appendAs_error (by exact h₃)]
        exact .inr ⟨by simp [Env.Serves, h₃], _, _, rfl⟩
      | none =>
        rw [run_appendAs_ok (by exact h₃)]
        exact .inl ⟨by simp [Env.Serves, h₁, h₂, h₃], _, _, rfl, rfl, rfl⟩

/-- A known client's receipt succeeds when served. -/
theorem issueClientReceiptLocked_issues {client : Pubkey} (h : s.vault.Known client) (now : ℤ) :
    Issues env (issueClientReceiptLocked env client now) s := by
  obtain ⟨balance, hb⟩ := h
  have hrun : (issueClientReceiptLocked env client now).run s
      = (issueParticipantReceiptLocked env (.client client) client participantKindClient
          (env.associatedTokenAddress client) balance.free balance.locked balance.maxLockExpiresAt
          now).run s := by
    simp [issueClientReceiptLocked, hb]
  rw [Issues, hrun]
  exact issueParticipantReceiptLocked_issues ..

/-- A known provider's receipt succeeds when served. -/
theorem issueProviderReceiptLocked_issues
    (h : ∃ provider, s.vault.providers[providerId]? = some provider) (now : ℤ) :
    Issues env (issueProviderReceiptLocked env providerId now) s := by
  obtain ⟨provider, h⟩ := h
  have hrun : (issueProviderReceiptLocked env providerId now).run s
      = (issueParticipantReceiptLocked env (.provider providerId)
          (provider.participantPubkey.getD provider.settlementTokenAccount) participantKindProvider
          provider.settlementTokenAccount
          (((s.vault.providerCredits[providerId]?).map (·.creditedAmount)).getD 0) 0 0 now).run s := by
    simp [issueProviderReceiptLocked, h]
  rw [Issues, hrun]
  exact issueParticipantReceiptLocked_issues ..

/-- The end of most handlers: the client's lock expiry, a receipt, and what comes after it. -/
theorem succeeds_refresh_receipt {α : Type} {client : Pubkey} (h : s.vault.Known client) (now : ℤ)
    {k : AppM α} {n : ℕ}
    (hk : ∀ balance u, u.wal.seqno = s.wal.seqno + 2 →
      u.vault = (s.vault.setBalance client balance).setReceiptNonce (s.vault.receiptNonce + 1) →
      (Succeeds k u ↔ env.Serves u.wal.seqno u.vault.receiptNonce n)) :
    Succeeds (onVault (refreshClientMaxLockExpiresAt client) >>= fun _ =>
        issueClientReceiptLocked env client now >>= fun _ => k) s
      ↔ env.Serves s.wal.seqno s.vault.receiptNonce (n + 1) := by
  obtain ⟨balance, hb⟩ := h
  have hrefresh : (onVault (refreshClientMaxLockExpiresAt client)).run s
      = (.ok (s.vault.latestLockExpiry client), s.setVault (s.vault.setBalance client
          { balance with maxLockExpiresAt := s.vault.latestLockExpiry client })) := by
    rw [run_onVault, run_refreshClientMaxLockExpiresAt hb]
  rw [Succeeds.run_bind hrefresh]
  exact Issues.succeeds_bind
    (issueClientReceiptLocked_issues (VaultState.known_setBalance_self client _) now)
    fun _ u hseqno hvault => hk _ u hseqno hvault

/-! ### Logs that grow -/

/-- The log only grew. -/
def Grown (s u : AppState) : Prop := ∃ es, s.wal.Appends es u.wal

/-- An unchanged log has grown. -/
theorem Grown.of_wal (h : u.wal = s.wal) : Grown s u := ⟨[], h ▸ .nil _⟩

/-- Notes only grow the log. -/
theorem Noted.grown (s u : AppState) (h : Noted s u) : Grown s u := h.2.imp fun _ h => h.1

instance : IsPreorder AppState Grown where
  refl _ := .of_wal rfl
  trans _ _ _ := fun ⟨es, hes⟩ ⟨es', hes'⟩ => ⟨es ++ es', hes.trans hes'⟩

/-- A refresh and a receipt only grow the log. -/
theorem refresh_receipt_grown {α : Type} (client : Pubkey) (now : ℤ) {k : AppM α}
    (hk : k.Along Grown) :
    (onVault (refreshClientMaxLockExpiresAt client) >>= fun _ =>
      issueClientReceiptLocked env client now >>= fun _ => k).Along Grown :=
  .bind ((refreshClientMaxLockExpiresAt_noted client).mono Noted.grown) fun _ =>
    .bind ((issueClientReceiptLocked_noted client now).mono Noted.grown) fun _ => hk

/-- A write beside the log. -/
theorem modify_grown {α : Type} {f : AppState → AppState} {k : PUnit → AppM α}
    (hf : ∀ s, (f s).wal = s.wal) (hk : (k ()).Along Grown) : (modify f >>= k).Along Grown :=
  .bind (.modify fun s => .of_wal (hf s)) fun _ => hk

/-! ### Honest handlers -/

/-- The request did nothing: no entry commits it, and the books are as before, but for an
expiry. -/
structure NoEffect (expiry : LedgerEvent → Prop) (s u : AppState) : Prop where
  entries : ∀ e ∈ s.newEntries u, e.commits = false
  books : u.vault.ledger = s.vault.ledger ∨
    ∃ ev, expiry ev ∧ u.vault.ledger = s.vault.ledger.apply ev

/-- From `s₁`, which a handler reached from `s`, every error is one of a request that did
nothing. -/
def Honest {α : Type} (expiry : LedgerEvent → Prop) (s : AppState) (p : AppM α) (s₁ : AppState) :
    Prop :=
  ∀ e u, p.run s₁ = (.error e, u) → NoEffect expiry s u

section Honest

variable {α β : Type} {expiry : LedgerEvent → Prop}

/-- Notes only, and the books as before. -/
theorem NoEffect.of_noted (h : Noted s u) : NoEffect expiry s u := by
  obtain ⟨hbooks, es, hes, hnotes⟩ := h
  refine ⟨fun e he => ?_, .inl hbooks⟩
  rw [hes.newEntries] at he
  exact WalEntry.commits_of_isNote (hnotes e he)

/-- Nothing was logged. -/
theorem NoEffect.of_wal (hwal : u.wal = s.wal) (hbooks : u.vault.ledger = s.vault.ledger) :
    NoEffect expiry s u :=
  .of_noted (.of_wal hbooks hwal)

/-- After writes that touch neither the log nor the books. -/
theorem NoEffect.after (h : NoEffect expiry s₁ u) (hwal : s₁.wal = s.wal)
    (hbooks : s₁.vault.ledger = s.vault.ledger) : NoEffect expiry s u := by
  obtain ⟨hentries, hledger⟩ := h
  rw [AppState.newEntries, hwal] at hentries
  rw [hbooks] at hledger
  exact ⟨hentries, hledger⟩

/-- An expiry that the request came too late for, and notes. -/
theorem NoEffect.expired {v : AppState} {ev : LedgerEvent} {entry : WalEntry} (hev : expiry ev)
    (hentry : entry.commits = false) (hwal : v.wal = s.wal.store entry)
    (hbooks : v.vault.ledger = s.vault.ledger.apply ev) (hrest : Noted v u) :
    NoEffect expiry s u := by
  obtain ⟨hsame, es, hes, hnotes⟩ := hrest
  rw [hwal] at hes
  have hall : s.wal.Appends ([entry] ++ es) u.wal := ((Wal.Appends.nil s.wal).store entry).trans hes
  refine ⟨fun e he => ?_, .inr ⟨ev, hev, hsame.trans hbooks⟩⟩
  rw [hall.newEntries] at he
  rcases List.mem_append.1 he with he | he
  · rw [List.mem_singleton.1 he]
    exact hentry
  · exact WalEntry.commits_of_isNote (hnotes e he)

/-- Nothing done. -/
theorem NoEffect.refl (expiry : LedgerEvent → Prop) (s : AppState) : NoEffect expiry s s :=
  .of_wal rfl rfl

/-- A failed append after which the books are as before. -/
theorem NoEffect.skipped (hwal : s₁.wal = s.wal) (hbooks : v.ledger = s.vault.ledger) :
    NoEffect expiry s ((s₁.setWal s₁.wal.skip).setVault v) := by
  refine .of_noted ⟨hbooks, [], ?_, by simp⟩
  rw [← hwal]
  exact .skip (.nil _)

/-- A failed append whose rollback restores the books. -/
theorem NoEffect.of_rollback {rollback : VaultM α} {r : Except EnclaveError α}
    (hwal : s₁.wal = s.wal) (hroll : rollback.run s₁.vault = (r, v))
    (hbooks : v.ledger = s.vault.ledger) :
    NoEffect expiry s ((s₁.setWal s₁.wal.skip).setVault (rollback.run s₁.vault).2) := by
  rw [hroll]
  exact .skipped hwal hbooks

/-- No effect at all is honest. -/
theorem Honest.of_leaves {p : AppM α} (h : p.Leaves s₁ (NoEffect expiry s)) :
    Honest expiry s p s₁ := fun e u hrun => by
  rw [Leaves, hrun] at h
  exact h

/-- Past a part that succeeds. -/
theorem Honest.run_bind {p : AppM α} {k : α → AppM β} {a : α} {s₂ : AppState}
    (h : p.run s₁ = (.ok a, s₂)) : Honest expiry s (p >>= k) s₁ ↔ Honest expiry s (k a) s₂ := by
  rw [Honest, Honest, Prog.run_bind, h]

/-- Rule for `get`. -/
theorem Honest.get_bind {k : AppState → AppM β} :
    Honest expiry s (get >>= k) s₁ ↔ Honest expiry s (k s₁) s₁ := .rfl

/-- Rule for `okOr` of a value. -/
theorem Honest.okOr_bind {o : Option α} {k : α → AppM β} {a : α} (h : o = some a) :
    Honest expiry s (okOr o e >>= k) s₁ ↔ Honest expiry s (k a) s₁ :=
  Honest.run_bind (by rw [h]; rfl)

/-- Rule for a check that passes. -/
theorem Honest.failIf_bind {c : Prop} [Decidable c] {k : Unit → AppM β} (h : ¬ c) :
    Honest expiry s (failIf c e >>= k) s₁ ↔ Honest expiry s (k ()) s₁ :=
  Honest.run_bind (by rw [Prog.run_failIf, if_neg h])

/-- Rule for a vault step. -/
theorem Honest.onVault_bind {p : VaultM α} {k : α → AppM β} {a : α}
    (h : p.run s₁.vault = (.ok a, v)) :
    Honest expiry s (onVault p >>= k) s₁ ↔ Honest expiry s (k a) (s₁.setVault v) :=
  Honest.run_bind (by rw [run_onVault, h])

/-- Past a part that fails without a write or succeeds. -/
theorem Honest.past {p : AppM α} {P : α → AppState → Prop} {k : α → AppM β} (hp : p.Clean s₁ P)
    (hfail : NoEffect expiry s s₁) (h : ∀ a s₂, P a s₂ → Honest expiry s (k a) s₂) :
    Honest expiry s (p >>= k) s₁ := by
  obtain ⟨e, he⟩ | ⟨a, s₂, ha, hP⟩ := hp
  · exact .of_leaves (.of_run (by rw [Prog.run_bind, he]) hfail)
  · exact (Honest.run_bind ha).2 (h a s₂ hP)

/-- Past an `okOr` that may fail. -/
theorem Honest.past_okOr {o : Option α} {k : α → AppM β} (hfail : NoEffect expiry s s₁)
    (h : ∀ a, o = some a → Honest expiry s (k a) s₁) :
    Honest expiry s (okOr o e >>= k) s₁ := by
  cases o with
  | none => exact .of_leaves (.of_run rfl hfail)
  | some a => exact h a rfl

/-- Past a check that may fail. -/
theorem Honest.past_failIf {c : Prop} [Decidable c] {k : Unit → AppM β}
    (hfail : NoEffect expiry s s₁) (h : ¬ c → Honest expiry s (k ()) s₁) :
    Honest expiry s (failIf c e >>= k) s₁ := by
  by_cases hc : c
  · exact .of_leaves (.of_run (by rw [Prog.run_bind, Prog.run_failIf, if_pos hc]) hfail)
  · exact (Honest.failIf_bind hc).2 (h hc)

/-- **A handler that comes to its append is honest where everything after the append succeeds, and
where the rollback restores the books.** -/
theorem Honest.append_iff {entry : WalEntry} {rollback : VaultM α} {k : Unit → AppM β}
    {served restored : Prop} (hwal : s₁.wal = s.wal) (hentry : entry.commits = true)
    (hgrown : (k ()).Along Grown)
    (hk : Succeeds (k ()) (s₁.setWal (s₁.wal.store entry)) ↔ served)
    (hback : NoEffect expiry s ((s₁.setWal s₁.wal.skip).setVault (rollback.run s₁.vault).2)
      ↔ restored) :
    Honest expiry s (appendOr env entry rollback >>= k) s₁ ↔
      (env.appendError s.wal.seqno = none → served) ∧
        (env.appendError s.wal.seqno ≠ none → restored) := by
  cases h : env.appendError s.wal.seqno with
  | none =>
    rw [← hwal] at h
    rw [Honest.run_bind (run_appendAs_ok h), ← hk]
    simp only [forall_const, ne_eq, not_true_eq_false, IsEmpty.forall_iff, and_true]
    constructor
    · intro hhonest
      have hleft := hgrown (s₁.setWal (s₁.wal.store entry))
      rw [Leaves] at hleft
      rcases hrun : (k ()).run (s₁.setWal (s₁.wal.store entry)) with ⟨e | b, u⟩
      · -- an error after the entry became durable
        rw [hrun, Grown, AppState.setWal_wal, hwal] at hleft
        obtain ⟨es, hes⟩ := hleft
        have hall : s.wal.Appends ([entry] ++ es) u.wal :=
          ((Wal.Appends.nil s.wal).store entry).trans hes
        have hlie := (hhonest e u hrun).entries entry (by simp [hall.newEntries])
        rw [hentry] at hlie
        cases hlie
      · exact ⟨b, u, hrun⟩
    · rintro ⟨b, u, hrun⟩ e u' herr
      rw [hrun] at herr
      cases herr
  | some error =>
    rw [← hwal] at h
    have hrun : (appendOr env entry rollback >>= k).run s₁ = (.error (walAppendFailed error),
        (s₁.setWal s₁.wal.skip).setVault (rollback.run s₁.vault).2) := by
      rw [Prog.run_bind, run_appendAs_error h]
    simp only [reduceCtorEq, IsEmpty.forall_iff, ne_eq, not_false_eq_true, forall_const, true_and,
      ← hback]
    constructor
    · exact fun hhonest => hhonest _ _ hrun
    · intro hnone e u herr
      rw [hrun] at herr
      cases herr
      exact hnone

end Honest

/-! ### Requests -/

/-- The requests that move the books. -/
inductive LedgerRequest where
  | verify (req : Handlers.VerifyRequest)
  | settle (verificationId : String)
  | cancel (verificationId reason : String)
  | withdrawAuth (client recipientAta : Pubkey) (amount : ℕ)
  | channelOpen (client providerId : String) (initialDeposit : ℕ)
  | channelRequest (channelId requestId : String) (amount : ℕ) (requestHash : String)
  | channelDeliver (req : Handlers.ChannelDeliverRequest)
  | channelFinalize (channelId adaptorSecret : String)
  | channelClose (channelId : String)

namespace LedgerRequest

/-- The handler of a request. -/
def handle (env : Env) (t : Times) : LedgerRequest → AppM Unit
  | .verify req => do let _ ← Handlers.postVerify env req t
  | .settle verificationId => do let _ ← Handlers.postSettle env verificationId t
  | .cancel verificationId reason => Handlers.postCancel env verificationId reason t
  | .withdrawAuth client recipientAta amount =>
    Handlers.postWithdrawAuth env client recipientAta amount t
  | .channelOpen client providerId initialDeposit =>
    Handlers.postChannelOpen env client providerId initialDeposit t
  | .channelRequest channelId requestId amount requestHash =>
    Handlers.postChannelRequest env channelId requestId amount requestHash t
  | .channelDeliver req => Handlers.postChannelDeliver env req t
  | .channelFinalize channelId adaptorSecret =>
    Handlers.postChannelFinalize env channelId adaptorSecret t
  | .channelClose channelId => Handlers.postChannelClose env channelId t

/-- The expiry that a request comes too late for. -/
def Expires (s : AppState) (t : Times) : LedgerRequest → LedgerEvent → Prop
  | .settle verificationId, ev => ev = .release verificationId .expired ∧
      ∃ r, s.vault.reservations[verificationId]? = some r ∧ r.expiresAt < t.now
  | .channelDeliver req, ev => ev = .expireRequest req.channelId ∧
      ∃ channel request, s.vault.activeChannels[req.channelId]? = some channel ∧
        channel.activeRequest = some request ∧ request.expiresAt < t.later
  | _, _ => False

/-- The checks of the handler pass, and it comes to its append. -/
def Accepted (env : Env) (s : AppState) (t : Times) : LedgerRequest → Prop
  | .verify req =>
    (∃ client balance, env.pubkeyFromStr req.client = some client ∧
      s.vault.clientBalances[client]? = some balance ∧ req.amount ≤ balance.free) ∧
    (∃ provider, s.vault.providers[req.providerId]? = some provider) ∧
    Handlers.existingReservation s.vault req.paymentId = none ∧
    t.now + req.verifyWindowSec ≤ Handlers.i64Max
  | .settle verificationId => ∃ r, s.vault.reservations[verificationId]? = some r ∧
      r.status = .reserved ∧ t.now ≤ r.expiresAt
  | .cancel verificationId _ => ∃ r, s.vault.reservations[verificationId]? = some r ∧
      r.status = .reserved
  | .withdrawAuth client _ amount => ∃ balance, s.vault.clientBalances[client]? = some balance ∧
      amount ≤ balance.free
  | .channelOpen clientText providerId initialDeposit =>
    ∃ client balance provider key, env.pubkeyFromStr clientText = some client ∧
      s.vault.clientBalances[client]? = some balance ∧ initialDeposit ≤ balance.free ∧
      s.vault.providers[providerId]? = some provider ∧ provider.participantPubkey = some key
  | .channelRequest channelId requestId amount requestHashText =>
    (∃ requestHash, hexDecode32 requestHashText = some requestHash) ∧
    ∃ channel, s.vault.activeChannels[channelId]? = some channel ∧ channel.status = .open ∧
      requestId ∉ channel.usedRequestIds ∧ amount ≤ channel.balance.clientFree
  | .channelDeliver _ => True
  | .channelFinalize channelId adaptorSecretText => ∃ adaptorSecret outcome v,
      hexDecode32 adaptorSecretText = some adaptorSecret ∧
      (finalizeOffchain env.curve channelId adaptorSecret t.now).run s.vault = (.ok outcome, v)
  | .channelClose channelId => ∃ channel, s.vault.activeChannels[channelId]? = some channel ∧
      channel.status = .open

/-- How many receipts the handler issues after its append. -/
def receipts (s : AppState) : LedgerRequest → ℕ
  | .settle _ => 2
  | .channelDeliver _ => 0
  | .channelClose channelId =>
    if ∃ channel ∈ s.vault.activeChannels[channelId]?, 0 < channel.balance.providerEarned then 2
    else 1
  | _ => 1

/-- What the rollback of the request needs. -/
def Reversible (s : AppState) : LedgerRequest → Prop
  | .settle verificationId => ∀ r ∈ s.vault.reservations[verificationId]?,
      s.vault.hasSpentCredit r.providerId = false
  | _ => True

/-- **What an honest answer needs.**  Where a request comes to its append and the append succeeds,
that the store and the watchtower take all its receipts; where the append fails, that it can be
taken back. -/
def Covered (env : Env) (s : AppState) (t : Times) (req : LedgerRequest) : Prop :=
  req.Accepted env s t →
    (env.appendError s.wal.seqno = none →
      env.Serves (s.wal.seqno + 1) s.vault.receiptNonce (req.receipts s)) ∧
    (env.appendError s.wal.seqno ≠ none → req.Reversible s)

end LedgerRequest

/-- A handler is followed twice: where its request comes to its append, and where it does not. -/
theorem Honest.covered {α : Type} {req : LedgerRequest} {p : AppM α}
    (hyes : req.Accepted env s t → (Honest (req.Expires s t) s p s ↔
      (env.appendError s.wal.seqno = none →
        env.Serves (s.wal.seqno + 1) s.vault.receiptNonce (req.receipts s)) ∧
      (env.appendError s.wal.seqno ≠ none → req.Reversible s)))
    (hno : ¬ req.Accepted env s t → p.Leaves s (NoEffect (req.Expires s t) s)) :
    Honest (req.Expires s t) s p s ↔ req.Covered env s t := by
  by_cases hacc : req.Accepted env s t
  · exact (hyes hacc).trans ⟨fun h _ => h, fun h => h hacc⟩
  · exact iff_of_true (.of_leaves (hno hacc)) fun h => (hacc h).elim

/-- A close leaves the providers. -/
theorem VaultState.afterClose_providers (v : VaultState) (channelId : String)
    (channel : ChannelState) (balance : ClientBalance) (provider : ProviderRegistration)
    (settlementId : String) (now : ℤ) :
    (v.afterClose channelId channel balance provider settlementId now).providers = v.providers := by
  rw [VaultState.afterClose]
  split <;> rfl

namespace Handlers

/-! ### Payments -/

/-- Reservations: honest exactly when covered. -/
theorem postVerify_honest (req : VerifyRequest) (t : Times) (s : AppState) :
    Honest ((LedgerRequest.verify req).Expires s t) s (postVerify env req t) s ↔
      (LedgerRequest.verify req).Covered env s t := by
  refine Honest.covered (fun ⟨⟨client, balance, hclient, hb, hle⟩, ⟨provider, hp⟩, hnew, hwindow⟩ => ?_)
    fun hacc => ?_
  · refine .trans (Honest.okOr_bind hclient) <| .trans Honest.get_bind <| .trans (Honest.okOr_bind hp) <|
      .trans Honest.get_bind ?_
    rw [hnew]
    refine .trans (Honest.run_bind (run_newId ..)) <| .trans (Honest.run_bind (run_newId ..)) <|
      .trans (Honest.failIf_bind (not_lt.2 hwindow)) <|
      .trans (Honest.onVault_bind (run_reserveBalance hb hle)) ?_
    refine Honest.append_iff rfl rfl ?_ ?_ (iff_of_true
      (.of_rollback rfl (run_releaseBalance_reserved hb hle) rfl) trivial)
    · exact modify_grown (fun _ => rfl) (refresh_receipt_grown client t.later
        (.get_bind fun _ => .okOr_bind fun _ _ => .pure _))
    · refine Succeeds.modify_bind.trans (succeeds_refresh_receipt
        (VaultState.known_setBalance_self client _) t.later fun _ u _ hu => iff_of_true ?_ trivial)
      obtain ⟨r, hr⟩ : ∃ r, u.vault.reservations[env.freshId .verification s.drawn]? = some r := by
        simp [hu]
      exact Succeeds.get_bind.2 ((Succeeds.okOr_bind hr).2 (.pure _ _))
  · refine .okOr_bind (.refl _ s) fun client hclient => .get_bind <| .okOr_bind (.refl _ s)
      fun provider hp => .get_bind ?_
    split
    · split
      · exact .pure (.refl _ s)
      · exact .throw (.refl _ s)
    · next hnew =>
      refine .run_bind (run_newId ..) (.run_bind (run_newId ..)
        (.failIf_bind (fun _ => .of_wal rfl rfl) fun hwindow => ?_))
      refine .onVault_bind (reserveBalance_clean client req.amount s.vault) (.of_wal rfl rfl)
        fun _ v ⟨balance, hb, hle, _⟩ => ?_
      exact (hacc ⟨⟨client, balance, hclient, hb, hle⟩, ⟨provider, hp⟩, hnew,
        not_lt.1 hwindow⟩).elim

/-- An expiry is no effect of the request that came too late. -/
theorem expireReservedReservation_noEffect (hs : AppInv env s) {verificationId : String}
    (hexp : ∀ r, s.vault.reservations[verificationId]? = some r → r.expiresAt < t.now →
      expiry (.release verificationId .expired)) :
    (expireReservedReservation env verificationId t).Leaves s (NoEffect expiry s) := by
  refine .get_bind <| .okOr_bind (.refl _ s) fun r hr => ?_
  split
  · exact .pure (.refl _ s)
  · next hcond =>
    obtain ⟨hst, hlate⟩ := not_or.1 hcond
    rw [not_not] at hst
    obtain ⟨balance, hb, hle⟩ := hs.reserved hr hst
    refine .append_bind rfl (.of_noted (.skip s)) (.get_bind (.okOr_some_bind hr ?_))
    rw [expireReservedReservation.expireStored, if_neg (not_not.2 hst)]
    refine .modify_bind (.onVault_run_bind (run_releaseBalance hb) ?_)
    rw [VaultState.noteLockedSub_of_le hle]
    refine (refresh_receipt_noted r.client t.later (.pure true) _).mono fun u hu =>
      .expired (hexp r hr (not_le.1 hlate)) rfl rfl ?_ hu
    simp [Ledger.apply, hr, VaultState.balance_eq hb]
    rfl

/-- The books miss a credit that a rollback dropped. -/
theorem ledger_dropCredit_ne (h : v.hasSpentCredit providerId = true) :
    (v.dropCredit providerId).ledger ≠ v.ledger := by
  intro heq
  obtain ⟨c, hc, -⟩ := (Option.any_eq_true _ _).1 h
  have hlookup : (v.dropCredit providerId).ledger.credits[providerId]?
      = v.ledger.credits[providerId]? := by rw [heq]
  simp [hc] at hlookup

/-- The same of settlements. -/
theorem postSettle_honest (hs : AppInv env s) (verificationId : String) (t : Times) :
    Honest ((LedgerRequest.settle verificationId).Expires s t) s (postSettle env verificationId t) s ↔
      (LedgerRequest.settle verificationId).Covered env s t := by
  have hdraw := Logged.draw env s
  refine Honest.covered (fun ⟨r, hr, hst, hnow⟩ => ?_) fun hacc => ?_
  · obtain ⟨balance, hb, hle⟩ := hs.reserved hr hst
    obtain ⟨provider, hp⟩ := hs.shape.reservation_provider _ _ hr
    have hfresh : s.vault.ledger.FreshSettlement (env.freshId .settlement s.drawn) :=
      hs.ids.fresh (Env.not_drawn_freshId _ le_rfl)
    refine .trans Honest.get_bind <| .trans (Honest.okOr_bind hr) <|
      .trans (Honest.run_bind (run_newId ..)) <|
      .trans (Honest.run_bind (run_settleBegin (s := s.draw) hr hst hnow hb hle hp)) ?_
    refine Honest.append_iff rfl rfl ?_ ?_ ?_
    · exact .get_bind fun _ => .okOr_bind fun _ _ => modify_grown (fun _ => rfl) <|
        refresh_receipt_grown r.client t.later <|
          .bind ((issueProviderReceiptLocked_noted r.providerId t.later).mono Noted.grown)
            fun _ => .pure _
    · refine .trans Succeeds.get_bind <| .trans (Succeeds.okOr_bind hr) <|
        .trans Succeeds.modify_bind ?_
      refine succeeds_refresh_receipt (VaultState.known_setBalance_self _ _) t.later
        fun _ u _ hu => Issues.succeeds_bind (issueProviderReceiptLocked_issues
          ⟨provider, by rw [hu]; exact hp⟩ t.later) fun _ _ _ _ => iff_of_true (.pure _ _) trivial
    · have hroll := @run_rollbackSettle r verificationId (env.freshId .settlement s.drawn) balance
        provider s.vault t.now hb hle hfresh.history fun c hc =>
          hfresh.credits r.providerId c.untimed (by simp [hc])
      by_cases hspent : s.vault.hasSpentCredit r.providerId
      · rw [if_pos hspent] at hroll
        refine iff_of_false (fun hnone => ?_) fun hrev => ?_
        · rcases hnone.books with hbooks | ⟨ev, ⟨-, r', hr', hlate⟩, -⟩
          · refine ledger_dropCredit_ne hspent (Eq.trans ?_ hbooks)
            exact congrArg (fun out => out.2.ledger) hroll.symm
          · obtain rfl : r = r' := Option.some.inj (hr.symm.trans hr')
            exact (not_lt.2 hnow hlate).elim
        · exact Bool.false_ne_true ((hrev r hr).symm.trans hspent)
      · rw [if_neg hspent] at hroll
        refine iff_of_true (.of_rollback rfl hroll rfl) fun r' hr' => ?_
        obtain rfl : r = r' := Option.some.inj (hr.symm.trans hr')
        simpa using hspent
  · refine .get_bind <| .okOr_bind (.refl _ s) fun r hr => .run_bind (run_newId ..) ?_
    obtain ⟨e, -, hrun⟩ | ⟨e, hlate, hrun⟩ | ⟨-, hrun⟩ | ⟨_, _, _, _, _, hst, hnow, _⟩ :=
      settleBegin_cases (hdraw.inv hs hs.fits) hr (env.freshId .settlement s.drawn) t
    · refine .of_run (by rw [Prog.run_bind, hrun]) ?_
      exact .of_wal rfl rfl
    · refine .of_run (by rw [Prog.run_bind, hrun]) ?_
      have hexpire : (expireReservedReservation env verificationId t).Leaves s.draw
          (NoEffect ((LedgerRequest.settle verificationId).Expires s t) s.draw) :=
        expireReservedReservation_noEffect (hdraw.inv hs hs.fits) fun r' hr' hlate' =>
          ⟨rfl, r', hr', hlate'⟩
      exact NoEffect.after hexpire rfl rfl
    · refine .run_bind hrun ?_
      exact (Along.bind (issueProviderReceiptLocked_noted r.providerId t.later)
        fun _ => .pure _ : Along (r := Noted) _) s.draw |>.mono fun _ h => .of_noted h
    · exact (hacc ⟨r, hr, hst, hnow⟩).elim

/-- The same of cancellations. -/
theorem postCancel_honest (hs : AppInv env s) (verificationId reason : String) (t : Times) :
    Honest ((LedgerRequest.cancel verificationId reason).Expires s t) s
        (postCancel env verificationId reason t) s ↔
      (LedgerRequest.cancel verificationId reason).Covered env s t := by
  refine Honest.covered (fun ⟨r, hr, hst⟩ => ?_) fun hacc => ?_
  · obtain ⟨balance, hb, hle⟩ := hs.reserved hr hst
    have hrelease : (releaseBalance r.client r.amount).run s.vault = _ := run_releaseBalance hb
    rw [VaultState.noteLockedSub_of_le hle] at hrelease
    refine .trans Honest.get_bind <| .trans (Honest.okOr_bind hr) ?_
    rw [if_neg (by simp [hst])]
    refine .trans (Honest.failIf_bind (not_not.2 hst)) <| .trans (Honest.onVault_bind hrelease) ?_
    refine Honest.append_iff rfl rfl ?_ ?_
      (iff_of_true (.of_rollback rfl (run_reserveBalance_released hb hle) rfl) trivial)
    · exact .get_bind fun _ => .okOr_bind fun _ _ => modify_grown (fun _ => rfl) <|
        refresh_receipt_grown r.client t.later (.pure _)
    · refine .trans Succeeds.get_bind <| .trans (Succeeds.okOr_bind hr) <|
        .trans Succeeds.modify_bind ?_
      exact succeeds_refresh_receipt (VaultState.known_setBalance_self _ _) t.later
        fun _ _ _ _ => iff_of_true (.pure _ _) trivial
  · refine .get_bind <| .okOr_bind (.refl _ s) fun r hr => ?_
    split
    · exact .pure (.refl _ s)
    · exact .failIf_bind (fun _ => .refl _ s) fun hst => (hacc ⟨r, hr, not_not.1 hst⟩).elim

/-! ### Withdrawals -/

/-- The same of withdrawal authorizations. -/
theorem postWithdrawAuth_honest (hs : AppInv env s) (client recipientAta : Pubkey) (amount : ℕ)
    (t : Times) :
    Honest ((LedgerRequest.withdrawAuth client recipientAta amount).Expires s t) s
        (postWithdrawAuth env client recipientAta amount t) s ↔
      (LedgerRequest.withdrawAuth client recipientAta amount).Covered env s t := by
  let v := s.vault.setWithdrawNonce (s.vault.withdrawNonce + 1)
  let w := newWithdrawal client recipientAta amount s.vault.withdrawNonce t.now
  refine Honest.covered (fun ⟨balance, hb, hle⟩ => ?_) fun hacc => ?_
  · have hauthorize : (authorizeWithdrawal w).run v = _ := run_authorizeWithdrawal hb hle
    refine .trans (Honest.onVault_bind (run_nextWithdrawNonce s.vault)) <|
      .trans (Honest.onVault_bind hauthorize) ?_
    refine Honest.append_iff rfl rfl ?_ ?_ (iff_of_true (.of_rollback rfl
      (@run_rollbackAuthorizedWithdrawal balance v w hb hle hs.no_pending) rfl) trivial)
    · exact refresh_receipt_grown client t.later (.modify fun s => .of_wal rfl)
    · exact succeeds_refresh_receipt (VaultState.known_setBalance_self _ _) t.later
        fun _ _ _ _ => iff_of_true ⟨_, _, rfl⟩ trivial
  · refine .onVault_run_bind (run_nextWithdrawNonce s.vault) (.onVault_bind
      (authorizeWithdrawal_clean w v) (.of_wal rfl rfl) fun _ _ ⟨balance, hb, hle, _⟩ => ?_)
    exact (hacc ⟨balance, hb, hle⟩).elim

/-! ### Channels -/

/-- The key of a provider that has one. -/
theorem run_registeredProviderParticipantPubkey {provider : ProviderRegistration} {key : Pubkey}
    (hp : s.vault.providers[providerId]? = some provider)
    (hkey : provider.participantPubkey = some key) :
    (registeredProviderParticipantPubkey providerId).run s = (.ok key, s) := by
  simp [registeredProviderParticipantPubkey, hp, hkey]

/-- Hex that decodes is read. -/
theorem run_decodeHex32 {value : String} {badHex badLength : EnclaveError} {b : Bytes32}
    (h : hexDecode32 value = some b) :
    (decodeHex32 value badHex badLength).run s = (.ok b, s) := by
  obtain ⟨bytes, hbytes, hb⟩ := Option.bind_eq_some_iff.1 h
  simp [decodeHex32, hbytes, hb]

/-- The same of channel openings. -/
theorem postChannelOpen_honest (hs : AppInv env s) (clientText providerId : String)
    (initialDeposit : ℕ) (t : Times) :
    Honest ((LedgerRequest.channelOpen clientText providerId initialDeposit).Expires s t) s
        (postChannelOpen env clientText providerId initialDeposit t) s ↔
      (LedgerRequest.channelOpen clientText providerId initialDeposit).Covered env s t := by
  refine Honest.covered (fun ⟨client, balance, provider, key, hclient, hb, hle, hp, hkey⟩ => ?_)
    fun hacc => ?_
  · refine .trans (Honest.okOr_bind hclient) <|
      .trans (Honest.run_bind (run_registeredProviderParticipantPubkey hp hkey)) <|
      .trans (Honest.run_bind (run_newId ..)) <|
      .trans (Honest.onVault_bind (run_openChannelWithId hb hp hle)) ?_
    refine Honest.append_iff rfl rfl ?_ ?_ (iff_of_true (.of_rollback rfl
      (run_rollbackOpenChannel hb hle (hs.no_channel le_rfl .channel)) rfl) trivial)
    · exact .bind ((issueClientReceiptLocked_noted client t.later).mono Noted.grown)
        fun _ => .pure _
    · exact Issues.succeeds_bind (issueClientReceiptLocked_issues
        (VaultState.known_setBalance_self client _) t.later)
        fun _ _ _ _ => iff_of_true (.pure _ _) trivial
  · refine .okOr_bind (.refl _ s) fun client hclient => ?_
    refine .clean_bind (registeredProviderParticipantPubkey_clean providerId s) (.refl _ s)
      fun key s' ⟨⟨provider, hp, hkey⟩, hs'⟩ => ?_
    subst hs'
    refine .run_bind (run_newId ..) (.onVault_bind (openChannelWithId_clean ..)
      (.of_wal rfl rfl) fun _ _ ⟨balance, _, hb, _, hle, _⟩ => ?_)
    exact (hacc ⟨client, balance, provider, key, hclient, hb, hle, hp, hkey⟩).elim

/-- The same of channel requests. -/
theorem postChannelRequest_honest (hs : AppInv env s) (channelId requestId : String) (amount : ℕ)
    (requestHashText : String) (t : Times) :
    Honest ((LedgerRequest.channelRequest channelId requestId amount requestHashText).Expires s t) s
        (postChannelRequest env channelId requestId amount requestHashText t) s ↔
      (LedgerRequest.channelRequest channelId requestId amount requestHashText).Covered env s t := by
  refine Honest.covered (fun ⟨⟨requestHash, hhash⟩, channel, hch, hst, hused, hle⟩ => ?_) fun hacc => ?_
  · obtain ⟨hok, -, ⟨balance, hb, -⟩, -⟩ := hs.channel hch
    refine .trans (Honest.okOr_bind hhash) <|
      .trans (Honest.onVault_bind (run_submitRequest hch hst hused hle)) ?_
    refine Honest.append_iff rfl rfl ?_ ?_ (iff_of_true (.of_rollback rfl
      (run_rollbackSubmitRequest hst (hok.idle hst).1 hused hle)
      (VaultState.ledger_setChannel_touch _ hch)) trivial)
    · exact .get_bind fun _ => .okOr_bind fun channel _ =>
        refresh_receipt_grown channel.client t.later (.pure _)
    · refine .trans Succeeds.get_bind <| .trans (Succeeds.okOr_bind
        (a := channel.lockRequest requestId amount requestHash t.now) (by simp)) ?_
      refine succeeds_refresh_receipt ?_ t.later fun _ _ _ _ => iff_of_true (.pure _ _) trivial
      exact ⟨balance, hb⟩
  · refine .okOr_bind (.refl _ s) fun requestHash hhash => .onVault_bind (submitRequest_clean ..)
      (.refl _ s) fun _ _ ⟨channel, hch, hst, hused, hle, _⟩ => ?_
    exact (hacc ⟨⟨requestHash, hhash⟩, channel, hch, hst, hused, hle⟩).elim

/-- An expiry is no effect of the delivery that came too late. -/
theorem expireStaleChannelRequest_noEffect (hs : AppInv env s) {channelId : String}
    (hexp : ∀ channel request, s.vault.activeChannels[channelId]? = some channel →
      channel.activeRequest = some request → request.expiresAt < t.now →
      expiry (.expireRequest channelId)) :
    (expireStaleChannelRequest env channelId t).Leaves s (NoEffect expiry s) := by
  refine .onVault_bind (expireRequest_clean channelId t.now s.vault) (.refl _ s)
    fun outcome v hv => ?_
  obtain ⟨rfl, rfl⟩ | ⟨channel, request, hch, hst, hr, hlate, rfl, rfl⟩ := hv
  · exact .pure (.refl _ s)
  · obtain ⟨hok, hid, -, -⟩ := hs.channel hch
    refine .append_bind (run_rollbackExpireRequest hid hr (hok.clientLocked_eq hst hr).ge)
      (.skipped rfl (VaultState.ledger_setChannel_touch _ hch)) ?_
    refine (refresh_receipt_noted channel.client t.later (.pure true) _).mono fun u hu =>
      .expired (hexp channel request hch hr hlate) rfl rfl ?_ hu
    exact VaultState.ledger_setChannel_update hch (by simp [Ledger.activeAmount, hr]; rfl)

/-- A delivery issues no receipt, and its answer is always honest. -/
theorem postChannelDeliver_honest (hs : AppInv env s) (req : ChannelDeliverRequest) (t : Times) :
    Honest ((LedgerRequest.channelDeliver req).Expires s t) s (postChannelDeliver env req t) s := by
  refine .past req.decode_clean (.refl _ s) fun delivery s₁ ⟨_, hs₁⟩ => ?_
  subst hs₁
  refine Honest.get_bind.2 (.past_okOr (.refl _ s₁) fun channel hch => ?_)
  refine .past (registeredProviderParticipantPubkey_clean channel.providerId s₁) (.refl _ s₁)
    fun _ s₂ ⟨_, hs₂⟩ => ?_
  subst hs₂
  refine .past_failIf (.refl _ s₂) fun _ => .past_okOr (.refl _ s₂) fun request hr => ?_
  obtain ⟨hok, -, -, -⟩ := hs.channel hch
  obtain ⟨e, he⟩ | ⟨_, v, hv, hdel⟩ :=
    deliverAdaptor_clean env.curve req.channelId delivery t.now s₂.vault
  · refine .of_leaves ?_
    obtain ⟨e', hrun | hrun⟩ := deliverOrExpire_error he
    · exact .of_run (by rw [Prog.run_bind, hrun]) (.refl _ s₂)
    · exact .of_run (by rw [Prog.run_bind, hrun]) (expireStaleChannelRequest_noEffect hs
        fun channel request hch hr hlate => ⟨rfl, channel, request, hch, hr, hlate⟩)
  · obtain ⟨channel', request', hch', hst, hr', -, -, rfl⟩ := hdel
    obtain rfl : channel = channel' := Option.some.inj (hch.symm.trans hch')
    obtain rfl : request = request' := Option.some.inj (hr.symm.trans hr')
    refine (Honest.run_bind (run_deliverOrExpire hv)).2 fun e u hrun => ?_
    cases happend : env.appendError s₂.wal.seqno with
    | none =>
      rw [run_appendAs_ok (by exact happend)] at hrun
      cases hrun
    | some error =>
      rw [run_appendAs_error (by exact happend)] at hrun
      cases hrun
      exact .of_rollback rfl (run_rollbackDeliverAdaptor hst hr (hok.undelivered hst request hr))
        (VaultState.ledger_setChannel_touch t.later hch)

/-- The same of channel finalizations. -/
theorem postChannelFinalize_honest (hs : AppInv env s) (channelId adaptorSecretText : String)
    (t : Times) :
    Honest ((LedgerRequest.channelFinalize channelId adaptorSecretText).Expires s t) s
        (postChannelFinalize env channelId adaptorSecretText t) s ↔
      (LedgerRequest.channelFinalize channelId adaptorSecretText).Covered env s t := by
  refine Honest.covered (fun ⟨secret, outcome, v, hsecret, hrun⟩ => ?_) fun hacc => ?_
  · obtain ⟨channel, request, hch, hst, hr, hid, hamount, hrequest, rfl⟩ :=
      (finalizeOffchain_clean ..).post hrun
    obtain ⟨hok, -, ⟨balance, hb, -⟩, -⟩ := hs.channel hch
    refine .trans (Honest.run_bind (run_decodeHex32 hsecret)) <|
      .trans (Honest.onVault_bind hrun) ?_
    rw [logFinalized, hrequest]
    refine Honest.append_iff rfl rfl ?_ ?_ (iff_of_true (.of_rollback rfl
      (run_rollbackFinalizeOffchain hst hr (hok.clientLocked_eq (.inr hst) hr).ge)
      (VaultState.ledger_setChannel_touch _ hch)) trivial)
    · exact .get_bind fun _ => .okOr_bind fun channel _ =>
        refresh_receipt_grown channel.client t.later (.pure _)
    · refine .trans Succeeds.get_bind <| .trans (Succeeds.okOr_bind
        (a := channel.payProvider request.amount t.now) (by simp)) ?_
      refine succeeds_refresh_receipt ?_ t.later fun _ _ _ _ => iff_of_true (.pure _ _) trivial
      exact ⟨balance, hb⟩
  · refine .clean_bind decodeHex32_clean (.refl _ s) ?_
    rintro secret s₁ ⟨hsecret, rfl⟩
    rcases hrun : (finalizeOffchain env.curve channelId secret t.now).run s₁.vault with ⟨e | outcome, v⟩
    · obtain ⟨e', he⟩ | ⟨_, _, hok, _⟩ :=
        finalizeOffchain_clean env.curve channelId secret t.now s₁.vault
      · exact .of_run (by rw [Prog.run_bind, run_onVault, he]; rfl) (.refl _ s₁)
      · rw [hrun] at hok
        cases hok
    · exact (hacc ⟨secret, outcome, v, hsecret, hrun⟩).elim

/-- The same of channel closings. -/
theorem postChannelClose_honest (hs : AppInv env s) (channelId : String) (t : Times) :
    Honest ((LedgerRequest.channelClose channelId).Expires s t) s (postChannelClose env channelId t) s
      ↔ (LedgerRequest.channelClose channelId).Covered env s t := by
  refine Honest.covered (fun ⟨channel, hch, hst⟩ => ?_) fun hacc => ?_
  · obtain ⟨-, hid, ⟨balance, hb, hle⟩, provider, hp⟩ := hs.channel hch
    rw [ChannelBalance.sum] at hle
    refine .trans (Honest.run_bind (run_newId ..)) <| .trans (Honest.onVault_bind
      (run_closeChannelWithSettlementId none _ t.now hch hst hb hp)) ?_
    refine Honest.append_iff rfl rfl ?_ ?_ (iff_of_true (.of_rollback rfl
      (run_rollbackCloseChannel hch hid hb (by omega)) rfl) trivial)
    · refine refresh_receipt_grown _ t.later (.ite (fun _ => ?_) fun _ => .pure _)
      exact .bind ((issueProviderReceiptLocked_noted _ t.later).mono Noted.grown) fun _ => .pure _
    · have hle' : channel.balance.clientFree + channel.balance.providerEarned ≤ balance.locked := by
        omega
      obtain ⟨hknown, -, -, hreceipt⟩ := VaultState.afterClose_frame s.vault channelId provider
        (env.freshId .channelSettlement s.drawn) t.now hle'
      have hclient := hknown channel.client ⟨balance, hb⟩
      rw [← hreceipt]
      by_cases hearned : 0 < channel.balance.providerEarned
      · rw [show (LedgerRequest.channelClose channelId).receipts s = 1 + 1 by
          simp [LedgerRequest.receipts, hch, hearned]]
        refine succeeds_refresh_receipt hclient t.later fun _ u _ hu => ?_
        rw [if_pos (by exact hearned)]
        refine Issues.succeeds_bind (issueProviderReceiptLocked_issues ⟨provider, ?_⟩ t.later)
          fun _ _ _ _ => iff_of_true (.pure _ _) trivial
        rw [hu]
        exact (congrArg (·[channel.providerId]?)
          (VaultState.afterClose_providers s.vault channelId channel balance provider _ t.now)).trans hp
      · rw [show (LedgerRequest.channelClose channelId).receipts s = 0 + 1 by
          simp [LedgerRequest.receipts, hch, hearned]]
        refine succeeds_refresh_receipt hclient t.later fun _ u _ hu => ?_
        rw [if_neg (by exact hearned)]
        exact iff_of_true (.pure _ _) trivial
  · refine .run_bind (run_newId ..) (.onVault_bind (closeChannelWithSettlementId_clean _ _ _ _ _
      fun channel hch => ?_) (.of_wal rfl rfl) ?_)
    · obtain ⟨-, -, ⟨balance, hb, -⟩, hp⟩ := hs.channel hch
      exact ⟨⟨balance, hb⟩, hp⟩
    · rintro _ _ ⟨channel, _, _, hch, hst, -⟩
      exact (hacc ⟨channel, hch, hst⟩).elim

end Handlers

/-! ### Runs -/

/-- Dropping the answer changes nothing. -/
theorem Honest.discard {α : Type} {p : AppM α} :
    Honest expiry s (do let _ ← p) s₁ ↔ Honest expiry s p s₁ := by
  refine forall_congr' fun e => forall_congr' fun u => ?_
  rw [Prog.run_bind]
  rcases p.run s₁ with ⟨e' | a, s'⟩
  · simp
  · simp

/-- Every request is honest exactly when its receipts are covered. -/
theorem LedgerRequest.honest_iff (hs : AppInv env s) (req : LedgerRequest) (t : Times) :
    Honest (req.Expires s t) s (req.handle env t) s ↔ req.Covered env s t := by
  cases req with
  | verify => exact Honest.discard.trans (Handlers.postVerify_honest ..)
  | settle => exact Honest.discard.trans (Handlers.postSettle_honest hs ..)
  | cancel => exact Handlers.postCancel_honest hs ..
  | withdrawAuth => exact Handlers.postWithdrawAuth_honest hs ..
  | channelOpen => exact Handlers.postChannelOpen_honest hs ..
  | channelRequest => exact Handlers.postChannelRequest_honest hs ..
  | channelDeliver req =>
    exact iff_of_true (Handlers.postChannelDeliver_honest hs req t)
      fun _ => ⟨fun _ => trivial, fun _ => trivial⟩
  | channelFinalize => exact Handlers.postChannelFinalize_honest hs ..
  | channelClose => exact Handlers.postChannelClose_honest hs ..

end Subly402
