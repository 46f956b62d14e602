/-
# What a step of the enclave can do

Every handler leaves the enclave in one of two ways: the books moved and the log says
how (`Logged`), or the books moved by allowed events that the log may not tell
(`Sound`).  Both say what else a step keeps; both compose, so a handler is followed
from its first check to its last receipt one piece at a time.
-/

import Subly402.Ledger.Log
import Subly402.Ledger.Refine
import Subly402.Enclave.App

namespace Subly402

open Lib

/-! ### The invariant between two handlers -/

/-- The client has money in a reservation, a pending withdrawal or a channel. -/
def Ledger.Holds (l : Ledger) (client : Pubkey) : Prop :=
  (∃ (key : String) (r : Reservation), l.reservations[key]? = some r ∧ r.client = client) ∨
  (∃ (key : ℕ) (w : PendingWithdrawal), l.pending[key]? = some w ∧ w.client = client) ∨
  ∃ (key : String) (ch : ChannelState), l.channels[key]? = some ch ∧ ch.client = client

/-- Receipts were signed in the order of their nonces, all below the counter. -/
def AppState.ReceiptsOrdered (s : AppState) : Prop :=
  s.signed.Pairwise (fun r r' => r.receipt.nonce < r'.receipt.nonce) ∧
    ∀ r ∈ s.signed, r.receipt.nonce < s.vault.receiptNonce

/-- Of the released authorisations, those still pending are pending as released. -/
def AppState.ReleasedPending (s : AppState) : Prop :=
  ∀ w ∈ s.released, w.withdrawNonce < s.vault.withdrawNonce ∧
    ∀ w', s.vault.pendingWithdrawals[w.withdrawNonce]? = some w' → w' = w

/-- The deposits in the books are deposits of the chain, each counted once. -/
def AppState.DepositsFrom (env : Env) (s : AppState) : Prop :=
  ∃ applied ⊆ env.deposits, (∀ e ∈ applied, e.signature ∈ s.processedSignatures) ∧
    ∀ client, (s.vault.ledger.account client).deposited
      = ∑ e ∈ applied with e.client = client, e.amount

/-- No client's deposits reach the bound of a `u64`. -/
theorem AppState.DepositsFrom.fits {env : Env} {s : AppState} (h : s.DepositsFrom env)
    (client : Pubkey) : (s.vault.ledger.account client).deposited < u64Bound := by
  obtain ⟨applied, hsub, -, hsum⟩ := h
  rw [hsum client]
  refine lt_of_le_of_lt (Finset.sum_le_sum_of_subset ?_) env.deposits_fit
  exact (Finset.filter_subset _ _).trans hsub

/-- What holds of the books between two handlers. -/
structure AppInv (env : Env) (s : AppState) : Prop where
  shape : s.vault.ledger.WellFormed
  sums : s.vault.ledger.Conserved
  ids : s.vault.ledger.IdsIn (env.Drawn s.drawn)
  nonces : ∀ n w, s.vault.pendingWithdrawals[n]? = some w → n < s.vault.withdrawNonce
  onRecord : ∀ client, s.vault.ledger.Holds client → s.vault.Known client
  fits : ∀ client, (s.vault.ledger.account client).deposited < u64Bound

/-- What holds of the enclave between two handlers. -/
structure RunInv (env : Env) (s : AppState) : Prop extends AppInv env s where
  exact : s.vault.lockedSaturated = false
  released : s.ReleasedPending
  deposits : s.DepositsFrom env

/-! ### Steps -/

/-- What a step keeps besides the books and the log. -/
structure Still (s s' : AppState) : Prop where
  known : ∀ client, s.vault.Known client → s'.vault.Known client
  exact : s'.vault.lockedSaturated = s.vault.lockedSaturated
  drawn : s.drawn ≤ s'.drawn
  withdrawNonce : s.vault.withdrawNonce ≤ s'.vault.withdrawNonce
  receipts : s.ReceiptsOrdered → s'.ReceiptsOrdered

namespace Still

variable {s s' s'' : AppState}

/-- Nothing moved. -/
theorem refl (s : AppState) : Still s s := ⟨fun _ h => h, rfl, le_rfl, le_rfl, id⟩

/-- One step after another. -/
theorem trans (h : Still s s') (h' : Still s' s'') : Still s s'' :=
  ⟨fun c hc => h'.known c (h.known c hc), h'.exact.trans h.exact, h.drawn.trans h'.drawn,
    h.withdrawNonce.trans h'.withdrawNonce, fun hs => h'.receipts (h.receipts hs)⟩

/-- A step that issues no receipt. -/
theorem of_vault (hknown : ∀ client, s.vault.Known client → s'.vault.Known client)
    (hexact : s'.vault.lockedSaturated = s.vault.lockedSaturated) (hdrawn : s.drawn ≤ s'.drawn)
    (hnonce : s.vault.withdrawNonce ≤ s'.vault.withdrawNonce)
    (hreceipt : s'.vault.receiptNonce = s.vault.receiptNonce) (hsigned : s'.signed = s.signed) :
    Still s s' :=
  ⟨hknown, hexact, hdrawn, hnonce, fun h => by
    rw [AppState.ReceiptsOrdered, hsigned, hreceipt]
    exact h⟩

end Still

/-- The supplies drawn in a step. -/
@[simps]
def AppState.supply (s s' : AppState) : Supply :=
  { since := s.drawn, ids := s'.drawn, lo := s.vault.withdrawNonce, hi := s'.vault.withdrawNonce }

/-- A step whose books move by allowed events, and whose receipts are signed on books that they
moved to. -/
structure Sound (env : Env) (s s' : AppState) : Prop where
  still : Still s s'
  evolves : Evolves env (s.supply s') s.vault.ledger s'.vault.ledger
  signed : ∀ r ∈ s'.signed, r ∈ s.signed ∨ Evolves env (s.supply s') s.vault.ledger r.vault.ledger
  onRecord : (∀ client, s.vault.ledger.Holds client → s.vault.Known client) →
    ∀ client, s'.vault.ledger.Holds client → s'.vault.Known client
  released : s.ReleasedPending → s'.ReleasedPending
  deposits : s.DepositsFrom env → s'.DepositsFrom env

/-- A step whose books move as its log entries say. -/
structure Logged (env : Env) (s s' : AppState) : Prop extends Sound env s s' where
  log : ∃ es, s.wal.Appends es s'.wal ∧
    s'.processedSignatures = s.processedSignatures ∪ (es.filterMap WalEntry.txSignature?).toFinset ∧
    Explains env (s.supply s') s.vault.ledger es s'.vault.ledger

variable {env : Env} {s s' s'' : AppState}

/-- The supply of a step covers that of its first part. -/
theorem AppState.supply_covers_left (h : Still s' s'') :
    (s.supply s'').Covers (s.supply s') :=
  ⟨le_rfl, h.drawn, le_rfl, h.withdrawNonce⟩

/-- The supply of a step covers that of its second part. -/
theorem AppState.supply_covers_right (h : Still s s') :
    (s.supply s'').Covers (s'.supply s'') :=
  ⟨h.drawn, le_rfl, h.withdrawNonce, le_rfl⟩

/-- One sound step after another. -/
theorem Sound.trans (h : Sound env s s') (h' : Sound env s' s'') : Sound env s s'' where
  still := h.still.trans h'.still
  evolves := (h.evolves.mono (AppState.supply_covers_left h'.still)).trans
    (h'.evolves.mono (AppState.supply_covers_right h.still))
  signed r hr := by
    rcases h'.signed r hr with hr | hbooks
    · exact (h.signed r hr).imp_right fun hbooks =>
        hbooks.mono (AppState.supply_covers_left h'.still)
    · exact .inr ((h.evolves.mono (AppState.supply_covers_left h'.still)).trans
        (hbooks.mono (AppState.supply_covers_right h.still)))
  onRecord hs := h'.onRecord (h.onRecord hs)
  released hs := h'.released (h.released hs)
  deposits hs := h'.deposits (h.deposits hs)

/-- One logged step after another. -/
theorem Logged.trans (h : Logged env s s') (h' : Logged env s' s'') : Logged env s s'' where
  toSound := h.toSound.trans h'.toSound
  log := by
    obtain ⟨es, happ, hproc, hexp⟩ := h.log
    obtain ⟨es', happ', hproc', hexp'⟩ := h'.log
    refine ⟨es ++ es', happ.trans happ', ?_,
      (hexp.mono (AppState.supply_covers_left h'.still)).trans
        (hexp'.mono (AppState.supply_covers_right h.still))⟩
    rw [hproc', hproc, List.filterMap_append, List.toFinset_append, Finset.union_assoc]

/-- **A sound step keeps the books in order.** -/
theorem Sound.inv (h : Sound env s s') (hs : AppInv env s)
    (hfits : ∀ client, (s'.vault.ledger.account client).deposited < u64Bound) : AppInv env s' where
  shape := h.evolves.wellFormed hs.shape
  sums := h.evolves.conserved hs.shape hs.sums
  ids := h.evolves.ids hs.ids h.still.drawn
  nonces := h.evolves.nonces h.still.withdrawNonce hs.nonces
  onRecord := h.onRecord hs.onRecord
  fits := hfits

/-- **A sound step keeps the invariant.** -/
theorem Sound.runInv (h : Sound env s s') (hs : RunInv env s) : RunInv env s' where
  toAppInv := h.inv hs.toAppInv (h.deposits hs.deposits).fits
  exact := h.still.exact.trans hs.exact
  released := h.released hs.released
  deposits := h.deposits hs.deposits

/-- A step that is sound, and logged where `P` holds. -/
structure Effect (env : Env) (P : Prop) (s s' : AppState) : Prop where
  sound : Sound env s s'
  logged : P → Logged env s s'

/-- A logged step is logged under any condition. -/
theorem Logged.effect {P : Prop} (h : Logged env s s') : Effect env P s s' :=
  ⟨h.toSound, fun _ => h⟩

/-- A logged step after one that may not be. -/
theorem Effect.trans_logged {P : Prop} (h : Effect env P s s') (h' : Logged env s' s'') :
    Effect env P s s'' :=
  ⟨h.sound.trans h'.toSound, fun hP => (h.logged hP).trans h'⟩

/-- A step that may not be logged after one that is. -/
theorem Logged.trans_effect {P : Prop} (h : Logged env s s') (h' : Effect env P s' s'') :
    Effect env P s s'' :=
  ⟨h.toSound.trans h'.sound, fun hP => h.trans (h'.logged hP)⟩

/-! ### Building steps -/

/-- A step that deposits nothing. -/
theorem AppState.DepositsFrom.keep (h : s.DepositsFrom env)
    (hproc : s.processedSignatures ⊆ s'.processedSignatures)
    (hsame : ∀ client, (s'.vault.ledger.account client).deposited
      = (s.vault.ledger.account client).deposited) : s'.DepositsFrom env := by
  obtain ⟨applied, hsub, hseen, hsum⟩ := h
  exact ⟨applied, hsub, fun e he => hproc (hseen e he), fun client =>
    (hsame client).trans (hsum client)⟩

/-- A step that applies a deposit of the chain, and remembers it. -/
theorem AppState.DepositsFrom.deposit (h : s.DepositsFrom env) {e : DepositEvent}
    (hmem : e ∈ env.deposits) (hnew : e.signature ∉ s.processedSignatures)
    (hproc : s'.processedSignatures = insert e.signature s.processedSignatures)
    (hbooks : s'.vault.ledger = s.vault.ledger.apply (.deposit e.client e.amount)) :
    s'.DepositsFrom env := by
  obtain ⟨applied, hsub, hseen, hsum⟩ := h
  have hfresh : e ∉ applied := fun he => hnew (hseen e he)
  refine ⟨insert e applied, Finset.insert_subset hmem hsub, fun e' he' => ?_, fun client => ?_⟩
  · rw [hproc]
    rcases Finset.mem_insert.1 he' with rfl | he'
    · exact Finset.mem_insert_self _ _
    · exact Finset.mem_insert_of_mem (hseen e' he')
  · rw [hbooks, Ledger.apply, Ledger.setAccount_account, Function.update_apply, Finset.filter_insert]
    split
    · next hc =>
      subst hc
      rw [if_pos rfl, Finset.sum_insert (by simp [hfresh]), ← hsum e.client]
      exact add_comm _ _
    · next hc => rw [if_neg (Ne.symm hc), hsum client]

/-- The books stayed, and so did the released authorisations. -/
theorem Logged.quiet {es : List WalEntry} (hstill : Still s s')
    (hbooks : s'.vault.ledger = s.vault.ledger)
    (hsigned : ∀ r ∈ s'.signed, r ∈ s.signed ∨ r.vault.ledger = s.vault.ledger)
    (hreleased : s'.released = s.released)
    (hproc : s'.processedSignatures = s.processedSignatures) (hwal : s.wal.Appends es s'.wal)
    (hnotes : ∀ e ∈ es, e.isNote) : Logged env s s' where
  still := hstill
  evolves := hbooks ▸ .refl _
  signed r hr := by
    rcases hsigned r hr with hr | hbooks
    · exact .inl hr
    · exact .inr (hbooks ▸ .refl _)
  onRecord hs client hc := hstill.known client (hs client (hbooks ▸ hc))
  released hs w hw := by
    rw [hreleased] at hw
    refine ⟨(hs w hw).1.trans_le hstill.withdrawNonce, fun w' hw' => (hs w hw).2 w' ?_⟩
    rwa [← VaultState.ledger_pending, ← hbooks]
  deposits hs := hs.keep hproc.ge fun client => by rw [hbooks]
  log := by
    refine ⟨es, hwal, ?_, ?_⟩
    · have hnone : es.filterMap WalEntry.txSignature? = [] := by
        refine List.filterMap_eq_nil_iff.2 fun e he => ?_
        have := hnotes e he
        cases e <;> simp_all [WalEntry.isNote, WalEntry.txSignature?]
      rw [hproc, hnone]
      simp
    · rw [hbooks]
      clear hwal
      induction es using List.reverseRecOn with
      | nil => exact .nil _
      | append_singleton es e ih =>
        exact (ih fun e' he' => hnotes e' (by simp [he'])).note (hnotes e (by simp))

/-- The client an event makes a holder. -/
def LedgerEvent.newHolder : LedgerEvent → Option Pubkey
  | .authorize withdrawal => some withdrawal.client
  | .reserve reservation => some reservation.client
  | .openChannel _ client _ _ => some client
  | _ => none

/-- A channel that an event leaves is one of a client that had it before, or that opens it. -/
theorem Ledger.channel_client_apply {l : Ledger} {ev : LedgerEvent} {key : String}
    {channel : ChannelState} (h : (l.apply ev).channels[key]? = some channel) :
    (∃ channel₀, l.channels[key]? = some channel₀ ∧ channel₀.client = channel.client) ∨
      ev.newHolder = some channel.client := by
  cases ev with
  | openChannel =>
    obtain ⟨rfl, rfl⟩ | h := FiniteMap.lookup_insert_cases h
    · exact .inr rfl
    · exact .inl ⟨channel, h, rfl⟩
  | submit | deliver | finalize | expireRequest =>
    obtain h | ⟨channel₀, hch₀, -, rfl⟩ := channel_updateChannel h
    · exact .inl ⟨channel, h, rfl⟩
    · refine .inl ⟨channel₀, hch₀, ?_⟩
      first
        | rfl
        | split <;> rfl
  | confirm ids b tx => exact .inl ⟨channel, confirm_channels l ids b tx ▸ h, rfl⟩
  | _ =>
    simp only [apply, settle, close] at h
    repeat' split at h
    all_goals first
      | exact .inl ⟨channel, h, rfl⟩
      | exact .inl ⟨channel, FiniteMap.lookup_of_erase h, rfl⟩

/-- **Whoever holds money after an event held some before, or is whom the event is about.** -/
theorem Ledger.Holds.of_apply {l : Ledger} {client : Pubkey} {ev : LedgerEvent}
    (h : (l.apply ev).Holds client) : l.Holds client ∨ ev.newHolder = some client := by
  obtain ⟨key, r, hr, rfl⟩ | ⟨key, w, hw, rfl⟩ | ⟨key, channel, hch, rfl⟩ := h
  · obtain ⟨r₀, hr₀, hclient, -⟩ | rfl := reservation_apply hr
    · exact .inl (.inl ⟨key, r₀, hr₀, hclient.symm⟩)
    · exact .inr rfl
  · obtain hw | ⟨rfl, -⟩ := pending_apply hw
    · exact .inl (.inr (.inl ⟨key, w, hw, rfl⟩))
    · exact .inr rfl
  · exact (channel_client_apply hch).imp_left fun ⟨channel₀, hch₀, hclient⟩ =>
      .inr (.inr ⟨key, channel₀, hch₀, hclient⟩)

/-- A step that moved the books by one allowed event. -/
structure Commits (env : Env) (ev : LedgerEvent) (s s' : AppState) : Prop where
  still : Still s s'
  books : s'.vault.ledger = s.vault.ledger.apply ev
  enabled : s.vault.ledger.Enabled env.curve ev
  supplied : ev.From env (s.supply s')
  holder : ∀ client, ev.newHolder = some client → s'.vault.Known client
  signed : s'.signed = s.signed
  released : s'.released = s.released

/-- A step that logged one entry and left the vault `v`. -/
theorem Commits.of_vault (ev : LedgerEvent) {entry : WalEntry} {v : VaultState}
    (hknown : ∀ client, s.vault.Known client → v.Known client)
    (hexact : v.lockedSaturated = s.vault.lockedSaturated)
    (hnonce : s.vault.withdrawNonce ≤ v.withdrawNonce)
    (hreceipt : v.receiptNonce = s.vault.receiptNonce)
    (hbooks : v.ledger = s.vault.ledger.apply ev)
    (he : s.vault.ledger.Enabled env.curve ev) (hfrom : ev.From env (s.supply (s.setVault v)))
    (hholder : ∀ client, ev.newHolder = some client → v.Known client) :
    Commits env ev s ((s.setWal (s.wal.store entry)).setVault v) :=
  ⟨.of_vault hknown hexact le_rfl hnonce hreceipt rfl, hbooks, he, hfrom, hholder, rfl, rfl⟩

/-- The books moved by one allowed event. -/
theorem Sound.commit (ev : LedgerEvent) (h : Commits env ev s s')
    (hdeposits : s.DepositsFrom env → s'.DepositsFrom env) : Sound env s s' := by
  have hev : Evolves env (s.supply s') s.vault.ledger s'.vault.ledger :=
    h.books ▸ (Evolves.refl _).event h.enabled h.supplied
  refine ⟨h.still, hev, fun r hr => .inl (h.signed ▸ hr), fun hs client hc => ?_, fun hs w hw => ?_,
    hdeposits⟩
  · rw [h.books] at hc
    obtain hc | hc := hc.of_apply
    · exact h.still.known client (hs client hc)
    · exact h.holder client hc
  · rw [h.released] at hw
    exact ⟨(hs w hw).1.trans_le h.still.withdrawNonce, fun w' hw' =>
      (hs w hw).2 w' (hev.pending_of_lt (hs w hw).1 hw')⟩

/-- The books moved by one event, and its entry is in the log. -/
theorem Logged.commit {entry : WalEntry} (ev : LedgerEvent) (h : Commits env ev s s')
    (hmeans : Means env s.vault.ledger entry ev) (hwal : s'.wal = s.wal.store entry)
    (hproc : s'.processedSignatures
      = s.processedSignatures ∪ ([entry].filterMap WalEntry.txSignature?).toFinset)
    (hdeposits : s.DepositsFrom env → s'.DepositsFrom env) :
    Logged env s s' where
  toSound := .commit ev h hdeposits
  log := by
    refine ⟨[entry], hwal ▸ (Wal.Appends.nil s.wal).store entry, hproc, ?_⟩
    exact h.books ▸ (Explains.nil s.vault.ledger).event h.enabled h.supplied hmeans

/-- A handler moved the books by one event, and logged one entry, which tells the event where `P`
holds. -/
theorem Effect.commit {P : Prop} {entry : WalEntry} (ev : LedgerEvent) (h : Commits env ev s s')
    (hev : ∀ c a, ev ≠ .deposit c a)
    (hmeans : P → Means env s.vault.ledger entry ev) (hwal : s'.wal = s.wal.store entry)
    (hproc : s'.processedSignatures = s.processedSignatures) (htx : entry.txSignature? = none) :
    Effect env P s s' := by
  have hdeposits : s.DepositsFrom env → s'.DepositsFrom env := fun hs =>
    hs.keep hproc.ge fun client => by rw [h.books, Ledger.deposited_apply hev]
  exact ⟨.commit ev h hdeposits, fun hP =>
    .commit ev h (hmeans hP) hwal (by simp [htx, hproc]) hdeposits⟩

/-- The same, where the entry tells the event. -/
theorem Logged.commit_vault {entry : WalEntry} {ev : LedgerEvent} {v : VaultState}
    (h : Commits env ev s ((s.setWal (s.wal.store entry)).setVault v))
    (hmeans : Means env s.vault.ledger entry ev) (htx : entry.txSignature? = none) :
    Logged env s ((s.setWal (s.wal.store entry)).setVault v) := by
  have hev : ∀ c a, ev ≠ .deposit c a := by
    rintro c a rfl
    cases hmeans
    cases htx
  exact (Effect.commit (P := True) ev h hev (fun _ => hmeans) rfl rfl htx).logged trivial

/-- An event that draws nothing. -/
theorem LedgerEvent.From.of_none {supply : Supply} {ev : LedgerEvent} (hids : ev.newIds = [])
    (hnonce : ev.newNonce = none) : ev.From env supply := by
  refine ⟨by simp [hids], by simp [hnonce], fun id hid => ?_⟩
  cases ev <;> cases hid
  cases hids

end Subly402
