/-
# Replay follows the books

Replay and the handlers change the vault by different code.  Both are compared with
the books: where a log explains how the books moved (`Explains`), replaying it
succeeds and moves the books of the replayed vault the same way
(`Explains.replays`).  One lemma per kind of entry says so for one record
(`replayEntry_event`).
-/

import Subly402.Enclave.Replay
import Subly402.Enclave.Frame

namespace Subly402

open Lib
open Lib.Prog (okOr failIf orReturn Reaches)

/-- The clock moves less than the life of a channel request while replay runs. -/
def SteadyClock (clock : ℕ → ℤ) : Prop := ∀ i j, i ≤ j → clock j ≤ clock i + requestExpirySec

/-- The channel's request is in time for every record from the `i`-th on. -/
def ChannelState.InTime (clock : ℕ → ℤ) (i : ℕ) (channel : ChannelState) : Prop :=
  ∀ request, channel.activeRequest = some request → ∀ j, i ≤ j → clock j ≤ request.expiresAt

/-- The requests of all channels are. -/
def AppState.InTime (clock : ℕ → ℤ) (i : ℕ) (r : AppState) : Prop :=
  ∀ (key : String) (channel : ChannelState),
    r.vault.activeChannels[key]? = some channel → channel.InTime clock i

/-- Replay has rebuilt the books `l`. -/
structure Follows (l : Ledger) (r : AppState) : Prop where
  books : r.vault.ledger = l
  onRecord : ∀ client, l.Holds client → r.vault.Known client
  nonces : ∀ n w, l.pending[n]? = some w → n < r.vault.withdrawNonce

/-- It has after its `i`-th record, which it read in the state `r`. -/
structure Next (clock : ℕ → ℤ) (i : ℕ) (l : Ledger) (r r' : AppState) : Prop extends
    Follows l r' where
  inTime : SteadyClock clock → r.InTime clock i → r'.InTime clock (i + 1)

/-- The withdrawal nonce that an entry raises the counter past. -/
def WalEntry.raisedWithdrawNonce? : WalEntry → Option ℕ
  | .withdrawAuthorized _ _ _ withdrawNonce _ _ => some withdrawNonce
  | .withdrawApplied _ _ _ withdrawNonce _ _ _ => some withdrawNonce
  | _ => none

/-- The receipt nonce in an entry. -/
def WalEntry.receiptNonce? : WalEntry → Option ℕ
  | .participantReceiptIssued _ _ nonce => some nonce
  | .participantReceiptMirrored _ _ nonce => some nonce
  | _ => none

/-- What replaying an entry leaves in the detector's memory and in the counters. -/
structure Marks (e : WalEntry) (r r' : AppState) : Prop where
  processed : r'.processedSignatures = r.processedSignatures ∪ e.txSignature?.toFinset
  withdrawNonce : r'.vault.withdrawNonce
    = max r.vault.withdrawNonce (e.raisedWithdrawNonce?.elim 0 (· + 1))
  receiptNonce : r'.vault.receiptNonce = max r.vault.receiptNonce (e.receiptNonce?.elim 0 (· + 1))

/-- An entry that leaves the detector and the counters alone. -/
theorem Marks.none {e : WalEntry} {r r' : AppState} (htx : e.txSignature? = none)
    (hwithdraw : e.raisedWithdrawNonce? = none) (hreceipt : e.receiptNonce? = none)
    (hprocessed : r'.processedSignatures = r.processedSignatures)
    (hwithdrawNonce : r'.vault.withdrawNonce = r.vault.withdrawNonce)
    (hreceiptNonce : r'.vault.receiptNonce = r.vault.receiptNonce) : Marks e r r' :=
  ⟨by simp [htx, hprocessed], by simp [hwithdraw, hwithdrawNonce],
    by simp [hreceipt, hreceiptNonce]⟩

theorem run_replaying {α : Type} {p : VaultM α} {r : AppState} {a : α} {v : VaultState}
    (h : p.run r.vault = (.ok a, v)) : (replaying p).run r = (.ok a, r.setVault v) := by
  simp [replaying, h, Except.mapError]

/-- What a success of the operation says. -/
theorem returns_replaying {α : Type} {p : VaultM α} {r : AppState} {Q : α → VaultState → Prop}
    (hp : p.Clean r.vault Q) : (replaying p).Returns r fun a _ => ∃ v, Q a v := by
  obtain ⟨e, he⟩ | ⟨a, v, hv, hQ⟩ := hp
  · intro _ _ hrun
    simp [replaying, he, Except.mapError] at hrun
  · exact .of_run (run_replaying hv) ⟨v, hQ⟩

theorem run_refresh {client : Pubkey} {r : AppState} {balance : ClientBalance}
    (hb : r.vault.clientBalances[client]? = some balance) :
    (replaying (refreshClientMaxLockExpiresAt client)).run r
      = (.ok (r.vault.latestLockExpiry client), r.setVault (r.vault.setBalance client
          { balance with maxLockExpiresAt := r.vault.latestLockExpiry client })) :=
  run_replaying (run_refreshClientMaxLockExpiresAt hb)

namespace Follows

variable {env : Env} {clock : ℕ → ℤ} {i : ℕ} {l : Ledger} {r r' : AppState}

section State

variable (h : Follows l r)
include h

theorem account (client : Pubkey) :
    (r.vault.balance client).account = l.account client := by
  rw [← h.books, VaultState.ledger_account]

/-- A client with money free has a record. -/
theorem free {client : Pubkey} {amount : ℕ} (hpos : 0 < amount)
    (hle : amount ≤ (l.account client).free) :
    ∃ balance, r.vault.clientBalances[client]? = some balance ∧ amount ≤ balance.free := by
  rw [← h.account, VaultState.balance] at hle
  cases hb : r.vault.clientBalances[client]? with
  | none =>
    rw [hb] at hle
    simp [ClientBalance.account, ClientBalance.zero] at hle
    omega
  | some balance =>
    rw [hb] at hle
    exact ⟨balance, rfl, hle⟩

/-- A client who holds something has a record. -/
theorem record {client : Pubkey} (hholds : l.Holds client) :
    ∃ balance, r.vault.clientBalances[client]? = some balance ∧
      l.account client = balance.account := by
  obtain ⟨balance, hb⟩ := h.onRecord client hholds
  exact ⟨balance, hb, by rw [← h.books, VaultState.Known.account hb]⟩

/-- A channel of the books is a channel of the vault, but for its times. -/
theorem channel {key : String} {channel : ChannelState}
    (hch : l.channels[key]? = some channel) :
    ∃ ch, r.vault.activeChannels[key]? = some ch ∧ channel = ch.untimed := by
  rw [← h.books, VaultState.ledger_channels_lookup] at hch
  obtain ⟨ch, hlookup, rfl⟩ := Option.map_eq_some_iff.1 hch
  exact ⟨ch, hlookup, rfl⟩

/-- A record that made the event. -/
theorem event (ev : LedgerEvent)
    (hbooks : r'.vault.ledger = r.vault.ledger.apply ev)
    (hknown : ∀ client, r.vault.Known client → r'.vault.Known client)
    (hholder : ∀ client, ev.newHolder = some client → r'.vault.Known client)
    (hinTime : ∀ (key : String) (channel : ChannelState),
      r'.vault.activeChannels[key]? = some channel →
      r.vault.activeChannels[key]? = some channel ∨
        (SteadyClock clock → r.InTime clock i → channel.InTime clock (i + 1)))
    (hnonce : r.vault.withdrawNonce ≤ r'.vault.withdrawNonce)
    (hnew : ∀ n, ev.newNonce = some n → n < r'.vault.withdrawNonce) :
    Next clock i (l.apply ev) r r' where
  books := by rw [hbooks, h.books]
  onRecord client hc := by
    obtain hc | hc := hc.of_apply
    · exact hknown client (h.onRecord client hc)
    · exact hholder client hc
  inTime hclock htime key channel hch := by
    obtain hch | hch := hinTime key channel hch
    · exact fun request hr j hj => htime key channel hch request hr j (by omega)
    · exact hch hclock htime
  nonces n w hw := by
    obtain hw | ⟨rfl, rfl⟩ := Ledger.pending_apply hw
    · exact (h.nonces n w hw).trans_le hnonce
    · exact hnew _ rfl

/-- A record that made an event which touches no channel and no counter. -/
theorem event_vault (ev : LedgerEvent)
    (hbooks : r'.vault.ledger = r.vault.ledger.apply ev)
    (hknown : ∀ client, r.vault.Known client → r'.vault.Known client)
    (hchannels : r'.vault.activeChannels = r.vault.activeChannels)
    (hnonce : r'.vault.withdrawNonce = r.vault.withdrawNonce)
    (hholder : ∀ client, ev.newHolder = some client → r'.vault.Known client)
    (hnew : ev.newNonce = none) : Next clock i (l.apply ev) r r' :=
  h.event ev hbooks hknown hholder (fun _ _ hch => .inl (hchannels ▸ hch)) hnonce.ge
    (by simp [hnew])

/-- Refreshing a client's lock expiry is no event. -/
theorem refresh {client : Pubkey} {balance : ClientBalance}
    (hb : r.vault.clientBalances[client]? = some balance) (t : ℤ) :
    Follows l
      (r.setVault (r.vault.setBalance client { balance with maxLockExpiresAt := t })) where
  books := by
    have hsame : (r.vault.setBalance client { balance with maxLockExpiresAt := t }).ledger
        = r.vault.ledger := VaultState.ledger_setBalance_same hb rfl
    exact hsame.trans h.books
  onRecord c hc := VaultState.known_setBalance _ (h.onRecord c hc)
  nonces := h.nonces

end State

end Follows

/-- A record that was replayed. -/
def Replays (env : Env) (clock : ℕ → ℤ) (i : ℕ) (e : WalEntry) (l : Ledger) (r : AppState) : Prop :=
  (replayEntry env (clock i) e).Reaches r fun r' => Next clock i l r r' ∧ Marks e r r'

section Events

variable {env : Env} {clock : ℕ → ℤ} {i : ℕ} {l : Ledger} {r : AppState} {e : WalEntry}
  (h : Follows l r)
include h

theorem replays_deposit {client : Pubkey} {amount : ℕ}
    (hmeans : Means env l e (.deposit client amount)) :
    Replays env clock i e (l.apply (.deposit client amount)) r := by
  cases hmeans with
  | deposit _ slot tx hclient =>
    refine .orReturn_bind (parsePubkey_ok hclient) (.run_bind (run_replaying (run_applyDeposit ..))
      (.of_run rfl ⟨?_, ?_⟩))
    · refine h.event_vault (.deposit client amount) ?_
        (fun _ hk => VaultState.known_setBalance _ hk) rfl rfl (by rintro _ ⟨⟩) rfl
      simp [Ledger.apply]
    · exact ⟨by simp [WalEntry.txSignature?], by simp [WalEntry.raisedWithdrawNonce?],
        by simp [WalEntry.receiptNonce?]⟩

omit h in
/-- Replay ends many records by refreshing a client's lock expiry. -/
theorem Next.reaches_refresh {r' : AppState} (h : Next clock i l r r')
    (hmarks : Marks e r r') {client : Pubkey} (hknown : r'.vault.Known client) :
    (replaying (refreshClientMaxLockExpiresAt client) >>= fun _ => pure ()).Reaches r'
      fun r' => Next clock i l r r' ∧ Marks e r r' := by
  obtain ⟨balance, hb⟩ := hknown
  exact .run_bind (run_refresh hb) (.of_run rfl
    ⟨⟨h.toFollows.refresh hb _, h.inTime⟩, hmarks.1, hmarks.2, hmarks.3⟩)

/-! ### Withdrawals -/

theorem replays_authorize {w : PendingWithdrawal}
    (hmeans : Means env l e (.authorize w)) (he : l.Enabled env.curve (.authorize w)) :
    Replays env clock i e (l.apply (.authorize w)) r := by
  cases hmeans with
  | authorize hclient hrecipient hpos =>
    obtain ⟨balance, hb, hle⟩ := h.free hpos he.1
    have hrun : (authorizeWithdrawal w).run r.vault = _ := run_authorizeWithdrawal hb hle
    refine .orReturn_bind (parsePubkey_ok hclient) (.orReturn_bind (parsePubkey_ok hrecipient)
      (.run_bind (run_replaying hrun) (.modify_bind ?_)))
    refine Next.reaches_refresh ?_ ?_ ?_
    · refine h.event (.authorize w) ?_ (fun _ hk => VaultState.known_setBalance _ hk) ?_
        (fun _ _ hch => .inl hch) (le_max_left _ _) ?_
      · simp [Ledger.apply, VaultState.balance_eq hb]
      · rintro _ ⟨⟩
        exact VaultState.known_setBalance_self _ _
      · rintro _ ⟨⟩
        exact Nat.lt_of_succ_le (le_max_right _ _)
    · exact ⟨by simp [WalEntry.txSignature?], by simp [WalEntry.raisedWithdrawNonce?],
        by simp [WalEntry.receiptNonce?]⟩
    · exact VaultState.known_setBalance_self _ _

theorem replays_withdraw (hsums : l.Conserved)
    (hfit : ∀ c, (l.account c).deposited < u64Bound) {n : ℕ}
    (hmeans : Means env l e (.withdraw n)) : Replays env clock i e (l.apply (.withdraw n)) r := by
  cases hmeans with
  | @withdraw w _ _ _ slot tx hw hclient hrecipient =>
    obtain ⟨balance, hb, hacc⟩ := h.record (.inr (.inl ⟨n, w, hw, rfl⟩))
    have hlocked := hsums.pending_le hw
    have htotal := hsums.total w.client
    have hlt := hfit w.client
    have hw' : r.vault.pendingWithdrawals[n]? = some w := by rwa [← VaultState.ledger_pending, h.books]
    rw [hacc] at hlocked htotal hlt
    simp only [ClientBalance.account] at hlocked htotal hlt
    refine .orReturn_bind (parsePubkey_ok hclient) (.orReturn_bind (parsePubkey_ok hrecipient)
      (.run_bind (run_replaying (run_applyWithdrawal hw' hb (by omega)))
        (.failIf_bind (by simp) (.modify_bind (.modify_bind ?_)))))
    rw [VaultState.noteLockedSub_of_le hlocked]
    refine Next.reaches_refresh ?_ ?_ ?_
    · refine h.event (.withdraw n) ?_ (fun _ hk => VaultState.known_setBalance _ hk)
        (by rintro _ ⟨⟩) (fun _ _ hch => .inl hch) (le_max_left _ _)
        (by simp [LedgerEvent.newNonce])
      simp [Ledger.apply, hw', VaultState.balance_eq hb]
    · exact ⟨by simp [WalEntry.txSignature?], by simp [WalEntry.raisedWithdrawNonce?],
        by simp [WalEntry.receiptNonce?]⟩
    · exact VaultState.known_setBalance_self _ _

theorem replays_expireWithdrawal (hsums : l.Conserved) {n : ℕ}
    (hmeans : Means env l e (.expireWithdrawal n)) :
    Replays env clock i e (l.apply (.expireWithdrawal n)) r := by
  cases hmeans with
  | @expireWithdrawal w _ _ hw hclient =>
    obtain ⟨balance, hb, hacc⟩ := h.record (.inr (.inl ⟨n, w, hw, rfl⟩))
    have hlocked : w.amount ≤ balance.locked := by simpa [hacc] using hsums.pending_le hw
    have hw' : r.vault.pendingWithdrawals[n]? = some w := by rwa [← VaultState.ledger_pending, h.books]
    refine .orReturn_bind (parsePubkey_ok hclient) (.run_bind
      (run_replaying (run_expirePendingWithdrawal hw' hb)) (.failIf_bind (by simp) ?_))
    rw [VaultState.noteLockedSub_of_le hlocked]
    refine Next.reaches_refresh ?_ ?_ (VaultState.known_setBalance_self _ _)
    · refine h.event_vault (.expireWithdrawal n) ?_ (fun _ hk => VaultState.known_setBalance _ hk) rfl
        rfl (by rintro _ ⟨⟩) rfl
      simp [Ledger.apply, hw', VaultState.balance_eq hb]
    · exact .none rfl rfl rfl rfl rfl rfl

/-! ### Payments -/

theorem replays_reserve {res : Reservation}
    (hmeans : Means env l e (.reserve res)) (he : l.Enabled env.curve (.reserve res)) :
    Replays env clock i e (l.apply (.reserve res)) r := by
  cases hmeans with
  | reserve hclient hrequest hdetails hsettledAt hpos =>
    obtain ⟨hle, hst, hsettlement, -, -⟩ := he
    obtain ⟨balance, hb, hle⟩ := h.free hpos hle
    refine .orReturn_bind (parsePubkey_ok hclient) (.orReturn_bind rfl
      (.orReturn_bind (decodeFixedHex32_ok hrequest) (.orReturn_bind (decodeFixedHex32_ok hdetails)
        (.orReturn_bind rfl (.orReturn_bind rfl (.run_bind (run_replaying (run_reserveBalance hb hle))
          (.of_run rfl ⟨?_, ?_⟩)))))))
    · refine h.event_vault (.reserve res) ?_ (fun _ hk => VaultState.known_setBalance _ hk) rfl rfl ?_
        rfl
      · obtain ⟨_, _, _, _, _, _, _, _, _, _, _, _, _⟩ := res
        cases hst
        cases hsettlement
        cases hsettledAt
        simp [Ledger.apply, VaultState.balance_eq hb]
        rfl
      · rintro _ ⟨⟩
        exact VaultState.known_setBalance_self _ _
    · exact .none rfl rfl rfl rfl rfl rfl

/-- The two entries that release a reservation. -/
theorem reaches_released (hsums : l.Conserved) (kind : String)
    {verificationId : String} {status : ReservationStatus} (htx : e.txSignature? = none)
    (hwithdraw : e.raisedWithdrawNonce? = none) (hreceipt : e.receiptNonce? = none)
    (he : l.Enabled env.curve (.release verificationId status)) :
    (Replay.reservationReleased kind verificationId status).Reaches r fun r' =>
      Next clock i (l.apply (.release verificationId status)) r r' ∧ Marks e r r' := by
  obtain ⟨-, res, hres, hst⟩ := he
  obtain ⟨balance, hb, hacc⟩ := h.record (.inl ⟨verificationId, res, hres, rfl⟩)
  have hlocked : res.amount ≤ balance.locked := by simpa [hacc] using hsums.reserved_le hres hst
  have hres' : r.vault.reservations[verificationId]? = some res := by
    rwa [← VaultState.ledger_reservations, h.books]
  refine .get_bind (.okOr_bind hres' (.modify_bind ?_))
  rw [if_pos hst]
  refine .of_run (run_replaying (run_releaseBalance hb)) ?_
  rw [VaultState.noteLockedSub_of_le hlocked]
  refine ⟨h.event_vault (.release verificationId status) ?_
    (fun _ hk => VaultState.known_setBalance _ hk) rfl rfl (by rintro _ ⟨⟩) rfl,
    .none htx hwithdraw hreceipt rfl rfl rfl⟩
  simp [Ledger.apply, hres', VaultState.balance_eq hb]
  rfl

theorem replays_settle (hsums : l.Conserved)
    {verificationId settlementId : String} {t : ℤ}
    (hmeans : Means env l e (.settle verificationId settlementId t))
    (he : l.Enabled env.curve (.settle verificationId settlementId t)) :
    Replays env clock i e (l.apply (.settle verificationId settlementId t)) r := by
  cases hmeans with
  | @settle res _ _ _ hres =>
    obtain ⟨-, res', provider, hres', hst, hp⟩ := he
    obtain rfl : res = res' := Option.some.inj (hres.symm.trans hres')
    obtain ⟨balance, hb, hacc⟩ := h.record (.inl ⟨verificationId, res, hres, rfl⟩)
    have hlocked : res.amount ≤ balance.locked := by simpa [hacc] using hsums.reserved_le hres hst
    rw [← h.books] at hres hp
    replace hp : r.vault.providers[res.providerId]? = some provider := hp
    refine .get_bind (.okOr_bind hres (.failIf_bind (by simp) (.failIf_bind (by simp) ?_)))
    rw [if_pos hst]
    refine .modify_bind (.run_bind (run_replaying (run_settlePayment hb hp)) ?_)
    rw [VaultState.noteLockedSub_of_le hlocked]
    refine .get_bind (.okOr_bind hp (.of_run rfl ⟨h.event_vault
      (.settle verificationId settlementId t) ?_ (fun _ hk => VaultState.known_setBalance _ hk) rfl rfl
      (by rintro _ ⟨⟩) rfl, .none rfl rfl rfl rfl rfl rfl⟩))
    replace hres : r.vault.reservations[verificationId]? = some res := hres
    simp [Ledger.apply, Ledger.settle, hres, hp, VaultState.balance_eq hb]
    rfl

theorem replays_confirm (batchId : ℕ) (tx : String)
    (settlementIds : List String) :
    Replays env clock i (.batchConfirmed batchId tx settlementIds)
      (l.apply (.confirm settlementIds batchId tx)) r := by
  obtain ⟨hbalances, hchannels, -, hnonce, hreceipt⟩ : _ ∧ _ ∧ _ ∧ _ ∧ _ := by
    simpa only [VaultState.outsideBatch, Prod.mk.injEq] using
      VaultState.outsideBatch_applyBatchConfirmation settlementIds batchId tx r.vault
  refine .of_run rfl ⟨h.event_vault (.confirm settlementIds batchId tx)
    (VaultState.ledger_applyBatchConfirmation ..) (fun client hk => ?_) hchannels hnonce
    (by rintro _ ⟨⟩) rfl, .none rfl rfl rfl rfl hnonce hreceipt⟩
  rw [VaultState.Known, AppState.setVault_vault, hbalances]
  exact hk

/-! ### Providers -/

theorem replays_register {provider : ProviderRegistration}
    (hread : decodeRegistration env e = some (.ok provider)) :
    Replays env clock i e (l.apply (.register provider)) r := by
  cases e with
  | providerRegistered =>
    obtain rfl := decodeRegistration_id hread
    rw [Replays, replayEntry, hread]
    exact .of_run rfl ⟨h.event_vault (.register provider) rfl (fun _ hk => hk) rfl rfl
      (by rintro _ ⟨⟩) rfl, .none rfl rfl rfl rfl rfl rfl⟩
  | _ => cases hread

/-! ### Channels -/

/-- A transition of one channel. -/
theorem Follows.event_channel (ev : LedgerEvent) {key : String}
    {channel : ChannelState}
    (hbooks : (r.vault.setChannel key channel).ledger = r.vault.ledger.apply ev)
    (hinTime : SteadyClock clock → r.InTime clock i → channel.InTime clock (i + 1))
    (hholder : ev.newHolder = none) (hnew : ev.newNonce = none) :
    Next clock i (l.apply ev) r (r.setVault (r.vault.setChannel key channel)) := by
  refine h.event ev hbooks (fun _ hk => hk) (by simp [hholder]) (fun key' channel' hch => ?_) le_rfl
    (by simp [hnew])
  obtain ⟨-, rfl⟩ | hch := FiniteMap.lookup_insert_cases hch
  · exact .inr hinTime
  · exact .inl hch

theorem replays_open {client : Pubkey} {channelId providerId : String}
    {initialDeposit : ℕ}
    (hmeans : Means env l e (.openChannel channelId client providerId initialDeposit))
    (he : l.Enabled env.curve (.openChannel channelId client providerId initialDeposit)) :
    Replays env clock i e (l.apply (.openChannel channelId client providerId initialDeposit)) r := by
  cases hmeans with
  | openChannel _ _ _ hclient hpos =>
    obtain ⟨hle, hnew, provider, hp⟩ := he
    obtain ⟨balance, hb, hle⟩ := h.free hpos hle
    rw [← h.books] at hp
    refine .orReturn_bind (parsePubkey_ok hclient) (.run_bind (run_replaying
      (run_openChannelWithId hb hp hle)) (.of_run rfl ⟨?_, .none rfl rfl rfl rfl rfl rfl⟩))
    refine h.event (.openChannel channelId client providerId initialDeposit) ?_
      (fun _ hk => VaultState.known_setBalance _ hk) ?_ (fun key channel hch => ?_) le_rfl
      (by simp [LedgerEvent.newNonce])
    · simp [Ledger.apply, VaultState.balance_eq hb]
    · rintro _ ⟨⟩
      exact VaultState.known_setBalance_self _ _
    · obtain ⟨-, rfl⟩ | hch := FiniteMap.lookup_insert_cases hch
      · -- a new channel has no request
        exact .inr fun _ _ _ hr => by cases hr
      · exact .inl hch

theorem replays_submit {channelId requestId : String} {amount : ℕ}
    {requestHash : Bytes32} (hmeans : Means env l e (.submit channelId requestId amount requestHash))
    (he : l.Enabled env.curve (.submit channelId requestId amount requestHash)) :
    Replays env clock i e (l.apply (.submit channelId requestId amount requestHash)) r := by
  cases hmeans with
  | submit _ _ _ hhash =>
    obtain ⟨_, hch, hst, hused, hle⟩ := he
    obtain ⟨channel, hlookup, rfl⟩ := h.channel hch
    refine .orReturn_bind (decodeFixedHex32_ok hhash) (.of_run (run_replaying
      (run_submitRequest hlookup hst hused hle)) ⟨?_, .none rfl rfl rfl rfl rfl rfl⟩)
    refine h.event_channel (.submit channelId requestId amount requestHash)
      (VaultState.ledger_setChannel_update hlookup rfl) ?_ rfl rfl
    rintro hclock - _ ⟨⟩ j hj
    exact hclock i j (by omega)

/-- A delivery is in time where its record is replayed. -/
def LedgerEvent.Timely (now : ℤ) (r : AppState) : LedgerEvent → Prop
  | .deliver channelId _ => ∀ (channel : ChannelState) request,
      r.vault.activeChannels[channelId]? = some channel → channel.activeRequest = some request →
      now ≤ request.expiresAt
  | _ => True

theorem replays_deliver {channelId : String} {delivery : AdaptorDelivery}
    (hmeans : Means env l e (.deliver channelId delivery))
    (he : l.Enabled env.curve (.deliver channelId delivery))
    (htime : (LedgerEvent.deliver channelId delivery).Timely (clock i) r) :
    Replays env clock i e (l.apply (.deliver channelId delivery)) r := by
  cases hmeans with
  | deliver _ _ hpoint hr hs hencrypted hresult hpubkey =>
    obtain ⟨_, _, hch, hst, hreq, hverify⟩ := he
    obtain ⟨channel, hlookup, rfl⟩ := h.channel hch
    obtain ⟨request, hactive, rfl⟩ := Option.map_eq_some_iff.1 hreq
    refine .orReturn_bind (decodeFixedHex32_ok hpoint) (.orReturn_bind (decodeFixedHex32_ok hr)
      (.orReturn_bind (decodeFixedHex32_ok hs) (.orReturn_bind (a := delivery.encryptedResult) ?_
        (.orReturn_bind (decodeFixedHex32_ok hresult) (.orReturn_bind (decodeFixedHex32_ok hpubkey)
          (.of_run (run_replaying (run_deliverAdaptor hlookup hst hactive
            (htime channel request hlookup hactive) hverify))
              ⟨?_, .none rfl rfl rfl rfl rfl rfl⟩))))))
    · simp [Replay.requiredField, ok_bind, hencrypted]
    · refine h.event_channel (.deliver channelId delivery)
        (VaultState.ledger_setChannel_update hlookup (by simp [hactive]; rfl)) ?_ rfl rfl
      rintro - hinTime _ ⟨⟩ j hj
      exact hinTime channelId channel hlookup request hactive j (by omega)

theorem replays_finalize {channelId : String}
    (hmeans : Means env l e (.finalize channelId)) (he : l.Enabled env.curve (.finalize channelId)) :
    Replays env clock i e (l.apply (.finalize channelId)) r := by
  cases hmeans with
  | @finalize channel _ _ hch hr =>
    obtain ⟨channel', _, hch', hst, -⟩ := he
    obtain rfl : channel = channel' := Option.some.inj (hch.symm.trans hch')
    obtain ⟨channel, hlookup, rfl⟩ := h.channel hch
    obtain ⟨request, hactive, rfl⟩ := Option.map_eq_some_iff.1 hr
    have hrun : (finalizeReplayedRequest channelId request.requestId request.amount (clock i)).run
        r.vault = _ := run_finalizeReplayedRequest hlookup hst hactive
    refine .of_run (run_replaying hrun) ⟨?_, .none rfl rfl rfl rfl rfl rfl⟩
    exact h.event_channel (.finalize channelId) (VaultState.ledger_setChannel_update hlookup
      (by simp [Ledger.activeAmount, hactive]; rfl)) (fun _ _ _ hr => by cases hr) rfl rfl

theorem replays_expireRequest {channelId : String}
    (hmeans : Means env l e (.expireRequest channelId))
    (he : l.Enabled env.curve (.expireRequest channelId)) :
    Replays env clock i e (l.apply (.expireRequest channelId)) r := by
  cases hmeans with
  | @expireRequest channel _ _ hch hr =>
    obtain ⟨channel', _, hch', hst, -⟩ := he
    obtain rfl : channel = channel' := Option.some.inj (hch.symm.trans hch')
    obtain ⟨channel, hlookup, rfl⟩ := h.channel hch
    obtain ⟨request, hactive, rfl⟩ := Option.map_eq_some_iff.1 hr
    have hrun : (expireReplayedRequest channelId request.requestId request.amount (clock i)).run
        r.vault = _ := run_expireReplayedRequest hlookup hst hactive
    refine .of_run (run_replaying hrun) ⟨?_, .none rfl rfl rfl rfl rfl rfl⟩
    exact h.event_channel (.expireRequest channelId) (VaultState.ledger_setChannel_update hlookup
      (by simp [Ledger.activeAmount, hactive]; rfl)) (fun _ _ _ hr => by cases hr) rfl rfl

omit h in
/-- A channel that earned nothing closes without a settlement. -/
theorem Ledger.close_settlementId {l : Ledger} {channelId : String} {channel : ChannelState}
    (hch : l.channels[channelId]? = some channel) (settlementId freshId : String) :
    l.close channelId ((if 0 < channel.balance.providerEarned then some settlementId
      else none).getD freshId) = l.close channelId settlementId := by
  split
  · rfl
  · next hearned => simp [Ledger.close, hch, hearned, ChannelState.closedAs]

theorem replays_close (hsums : l.Conserved) {channelId settlementId : String}
    (hmeans : Means env l e (.close channelId settlementId))
    (he : l.Enabled env.curve (.close channelId settlementId)) :
    Replays env clock i e (l.apply (.close channelId settlementId)) r := by
  cases hmeans with
  | @close channel _ _ hch returned earned =>
    obtain ⟨-, channel', provider, hch', hst, hp⟩ := he
    obtain rfl : channel = channel' := Option.some.inj (hch.symm.trans hch')
    obtain ⟨balance, hb, hacc⟩ := h.record (.inr (.inr ⟨channelId, channel, hch, rfl⟩))
    have hsum : channel.balance.sum ≤ balance.locked := by simpa [hacc] using hsums.channel_le hch
    have hclose := Ledger.close_settlementId hch settlementId (env.freshId .channelSettlement r.drawn)
    obtain ⟨channel, hlookup, rfl⟩ := h.channel hch
    rw [← h.books] at hp
    have hle : channel.balance.clientFree + channel.balance.providerEarned ≤ balance.locked := by
      simp only [ChannelState.untimed_balance, ChannelBalance.sum] at hsum
      omega
    obtain ⟨hknown, -, hnonce, hreceipt⟩ := VaultState.afterClose_frame r.vault channelId provider
      ((if 0 < channel.untimed.balance.providerEarned then some settlementId else none).getD
        (env.freshId .channelSettlement r.drawn)) (clock i) hle
    refine .run_bind rfl (.run_bind (run_replaying
      (run_closeChannelWithSettlementId _ _ (clock i) hlookup hst hb hp)) (.of_run rfl ⟨?_,
        .none rfl rfl rfl rfl hnonce hreceipt⟩))
    refine h.event (.close channelId settlementId) ?_ hknown (by rintro _ ⟨⟩)
      (fun key ch hkey => .inl ?_) hnonce.ge (by simp [LedgerEvent.newNonce])
    · refine (VaultState.ledger_afterClose hlookup hb hp).trans ?_
      rw [h.books]
      exact hclose
    · rw [AppState.setVault_vault, VaultState.afterClose_activeChannels] at hkey
      exact FiniteMap.lookup_of_erase hkey

/-! ### One record -/

/-- **Replaying a record makes the event that it records.** -/
theorem replayEntry_event (hsums : l.Conserved)
    (hfit : ∀ c, (l.account c).deposited < u64Bound) {ev : LedgerEvent}
    (he : l.Enabled env.curve ev) (hmeans : Means env l e ev) (htime : ev.Timely (clock i) r) :
    Replays env clock i e (l.apply ev) r := by
  cases ev with
  | deposit => exact replays_deposit h hmeans
  | authorize => exact replays_authorize h hmeans he
  | withdraw => exact replays_withdraw h hsums hfit hmeans
  | expireWithdrawal => exact replays_expireWithdrawal h hsums hmeans
  | reserve => exact replays_reserve h hmeans he
  | release =>
    cases hmeans with
    | cancel | expire => exact reaches_released h hsums _ rfl rfl rfl he
  | settle => exact replays_settle h hsums hmeans he
  | register =>
    cases hmeans with
    | register hread => exact replays_register h hread
  | confirm =>
    cases hmeans with
    | confirm => exact replays_confirm h _ _ _
  | openChannel => exact replays_open h hmeans he
  | submit => exact replays_submit h hmeans he
  | deliver => exact replays_deliver h hmeans he htime
  | finalize => exact replays_finalize h hmeans he
  | expireRequest => exact replays_expireRequest h hmeans he
  | close => exact replays_close h hsums hmeans he

/-- Replaying a note moves nothing but the counter of receipts. -/
theorem replayEntry_note (he : e.isNote) :
    Replays env clock i e l r := by
  have hlater : r.InTime clock i → r.InTime clock (i + 1) := fun htime key channel hch request hr j
    hj => htime key channel hch request hr j (by omega)
  cases e with
  | participantReceiptIssued _ _ nonce | participantReceiptMirrored _ _ nonce =>
    refine .of_run rfl ⟨⟨⟨h.books, h.onRecord, h.nonces⟩, fun _ => hlater⟩, ?_⟩
    exact ⟨by simp [WalEntry.txSignature?], by simp [WalEntry.raisedWithdrawNonce?],
      by simp [WalEntry.receiptNonce?]⟩
  | batchSubmitted => exact .of_run rfl ⟨⟨h, fun _ => hlater⟩, .none rfl rfl rfl rfl rfl rfl⟩
  | _ => cases he

end Events

/-! ### The whole log -/

/-- The withdrawal nonce in an entry. -/
def WalEntry.withdrawNonce? : WalEntry → Option ℕ
  | .withdrawExpired _ withdrawNonce => some withdrawNonce
  | e => e.raisedWithdrawNonce?

/-- What replaying the entries leaves: the books `l`, every transaction remembered, and both
counters above every nonce in the log. -/
structure Replayed (es : List WalEntry) (l : Ledger) (r r' : AppState) : Prop where
  follows : Follows l r'
  processed : r'.processedSignatures
    = r.processedSignatures ∪ (es.filterMap WalEntry.txSignature?).toFinset
  withdrawNonce : r.vault.withdrawNonce ≤ r'.vault.withdrawNonce ∧
    ∀ e ∈ es, ∀ n, e.withdrawNonce? = some n → n < r'.vault.withdrawNonce
  receiptNonce : r.vault.receiptNonce ≤ r'.vault.receiptNonce ∧
    ∀ e ∈ es, ∀ n, e.receiptNonce? = some n → n < r'.vault.receiptNonce

section Log

variable {env : Env} {clock : ℕ → ℤ} {i : ℕ} {l l' : Ledger} {r r' r'' : AppState}
  {es : List WalEntry} {e : WalEntry}

/-- One more record. -/
theorem Replayed.snoc (h : Replayed es l r r') (hf : Follows l' r'')
    (hm : Marks e r' r'') (hn : ∀ n, e.withdrawNonce? = some n → n < r''.vault.withdrawNonce) :
    Replayed (es ++ [e]) l' r r'' where
  follows := hf
  processed := by
    rw [hm.processed, h.processed, List.filterMap_append, List.toFinset_append, Finset.union_assoc]
    congr 2
    cases htx : e.txSignature? <;> simp [htx]
  withdrawNonce := by
    have hle : r'.vault.withdrawNonce ≤ r''.vault.withdrawNonce := hm.withdrawNonce ▸ le_max_left _ _
    refine ⟨h.withdrawNonce.1.trans hle, fun e' he' n hn' => ?_⟩
    rcases List.mem_append.1 he' with he' | he'
    · exact (h.withdrawNonce.2 e' he' n hn').trans_le hle
    · rw [List.mem_singleton.1 he'] at hn'
      exact hn n hn'
  receiptNonce := by
    have hle : r'.vault.receiptNonce ≤ r''.vault.receiptNonce := hm.receiptNonce ▸ le_max_left _ _
    refine ⟨h.receiptNonce.1.trans hle, fun e' he' n hn' => ?_⟩
    rcases List.mem_append.1 he' with he' | he'
    · exact (h.receiptNonce.2 e' he' n hn').trans_le hle
    · rw [List.mem_singleton.1 he'] at hn'
      rw [hm.receiptNonce, hn']
      exact Nat.lt_of_succ_le (le_max_right _ _)

/-- Every withdrawal nonce in a record is below the counter after it. -/
theorem Marks.withdrawNonce_lt {ev : LedgerEvent} (hm : Marks e r r') (h : Follows l r)
    (hmeans : Means env l e ev) {n : ℕ} (hn : e.withdrawNonce? = some n) :
    n < r'.vault.withdrawNonce := by
  rw [hm.withdrawNonce]
  cases e with
  | withdrawExpired =>
    obtain rfl := Option.some.inj hn
    cases hmeans with
    | expireWithdrawal hw _ => exact (h.nonces _ _ hw).trans_le (le_max_left _ _)
    | register hread => cases hread
  | withdrawAuthorized | withdrawApplied =>
    obtain rfl := Option.some.inj hn
    exact Nat.lt_of_succ_le (le_max_right _ _)
  | _ => cases hn

/-- Replaying one more record. -/
theorem reaches_replayRecords_snoc {records : List WalRecord} {record : WalRecord}
    {P R : AppState → Prop} (h : (replayRecords env clock i records).Reaches r P)
    (hlast : ∀ t, P t →
      (replayEntry env (clock (i + records.length)) record.entry).Reaches t R) :
    (replayRecords env clock i (records ++ [record])).Reaches r R := by
  induction records generalizing i r with
  | nil =>
    obtain ⟨_, _, hrun, hP⟩ := h
    cases hrun
    refine .bind (hlast r hP) fun _ t ht => .of_run rfl ht
  | cons first records ih =>
    obtain ⟨a, t, hrun, hP⟩ := h
    cases hfirst : (replayEntry env (clock i) first.entry).run r with
    | mk out s =>
      cases out with
      | error e => simp [replayRecords, hfirst] at hrun
      | ok u =>
        refine .run_bind hfirst (ih ⟨a, t, ?_, hP⟩ fun t ht => ?_)
        · simpa [replayRecords, hfirst] using hrun
        · have hlength : i + 1 + records.length = i + (first :: records).length := by
            simp; omega
          rw [hlength]
          exact hlast t ht

/-- The same for a replay that is assumed to succeed. -/
theorem returns_replayRecords_snoc {records : List WalRecord} {record : WalRecord}
    {P R : AppState → Prop} (h : (replayRecords env clock i records).Returns r fun _ => P)
    (hlast : ∀ t, P t → ∀ j, (replayEntry env (clock j) record.entry).Returns t fun _ => R) :
    (replayRecords env clock i (records ++ [record])).Returns r fun _ => R := by
  induction records generalizing i r with
  | nil => exact .bind (hlast r (h () r rfl) i) fun _ t ht => .pure ht
  | cons first records ih =>
    intro a t hrun
    cases hfirst : (replayEntry env (clock i) first.entry).run r with
    | mk out s =>
      cases out with
      | error e => simp [replayRecords, hfirst] at hrun
      | ok u =>
        refine ih (fun a t hrest => h a t ?_) a t (by simpa [replayRecords, hfirst] using hrun)
        simpa [replayRecords, hfirst] using hrest

/-- Replaying an entry that the log explains, at the end of others. -/
theorem Explains.replays_snoc {supply : Supply} {ev : LedgerEvent}
    (hexp : Explains env supply l es l') (hw : l.WellFormed) (hsums : l.Conserved)
    (hfit : ∀ c, (l'.account c).deposited < u64Bound) (he : l'.Enabled env.curve ev)
    (hmeans : Means env l' e ev) (ht : Replayed es l' r r') (htime : ev.Timely (clock i) r') :
    (replayEntry env (clock i) e).Reaches r' fun r'' =>
      Replayed (es ++ [e]) (l'.apply ev) r r'' ∧ Next clock i (l'.apply ev) r' r'' :=
  (replayEntry_event ht.follows (hexp.evolves.conserved hw hsums) hfit he hmeans htime).mono
    fun _ ⟨hf, hm⟩ =>
      ⟨ht.snoc hf.toFollows hm fun _ hn => hm.withdrawNonce_lt ht.follows hmeans hn, hf⟩

/-- Replaying a note, at the end of others. -/
theorem Replayed.note (ht : Replayed es l r r') (he : e.isNote) :
    (replayEntry env (clock i) e).Reaches r' fun r'' =>
      Replayed (es ++ [e]) l r r'' ∧ Next clock i l r' r'' :=
  (replayEntry_note ht.follows he).mono fun _ ⟨hf, hm⟩ => ⟨ht.snoc hf.toFollows hm fun n hn => by
    cases e <;> simp_all [WalEntry.isNote, WalEntry.withdrawNonce?, WalEntry.raisedWithdrawNonce?],
    hf⟩

/-- The last of the records of a log. -/
theorem records_snoc {records : List WalRecord} (h : records.map (·.entry) = es ++ [e]) :
    ∃ rs record, records = rs ++ [record] ∧ rs.map (·.entry) = es ∧ record.entry = e := by
  obtain ⟨rs, last, rfl, hrs, hlast⟩ := List.map_eq_append_iff.1 h
  obtain ⟨record, rfl, he⟩ : ∃ record, last = [record] ∧ record.entry = e := by
    simpa [List.map_eq_cons_iff] using hlast
  exact ⟨rs, record, rfl, hrs, he⟩

/-- **Replaying a log that explains the books rebuilds them.** -/
theorem Explains.replays {supply : Supply} (hexp : Explains env supply l es l')
    (hw : l.WellFormed) (hsums : l.Conserved) (hfit : ∀ c, (l'.account c).deposited < u64Bound)
    (hclock : SteadyClock clock) (h : Follows l r) (htime : r.InTime clock i)
    {records : List WalRecord} (hrecords : records.map (·.entry) = es) :
    (replayRecords env clock i records).Reaches r fun r' =>
      Replayed es l' r r' ∧ r'.InTime clock (i + records.length) := by
  induction hexp generalizing records with
  | nil =>
    obtain rfl := List.map_eq_nil_iff.1 hrecords
    exact .of_run rfl ⟨⟨h, by simp, by simp, by simp⟩, htime⟩
  | @note l' _ hexp e he ih =>
    obtain ⟨rs, record, rfl, hrs, rfl⟩ := records_snoc hrecords
    refine reaches_replayRecords_snoc (ih hfit hrs) fun t ⟨ht, htime⟩ => ?_
    refine (ht.note he).mono fun t' ⟨ht', hnext⟩ => ⟨ht', ?_⟩
    rw [List.length_append, List.length_singleton, ← Nat.add_assoc]
    exact hnext.inTime hclock htime
  | @event l' _ e ev hexp he hfrom hmeans ih =>
    obtain ⟨rs, record, rfl, hrs, rfl⟩ := records_snoc hrecords
    have hfit' : ∀ c, (l'.account c).deposited < u64Bound := fun c =>
      (Ledger.deposited_le_apply l' ev c).trans_lt (hfit c)
    refine reaches_replayRecords_snoc (ih hfit' hrs) fun t ⟨ht, htime⟩ => ?_
    have htimely : ev.Timely (clock (i + rs.length)) t := by
      cases ev with
      | deliver channelId =>
        exact fun channel request hch hr => htime channelId channel hch request hr _ le_rfl
      | _ => trivial
    refine (hexp.replays_snoc hw hsums hfit' he hmeans ht htimely).mono fun t' ⟨ht', hnext⟩ =>
      ⟨ht', ?_⟩
    rw [List.length_append, List.length_singleton, ← Nat.add_assoc]
    exact hnext.inTime hclock htime

/-- A delivery that was replayed was in time. -/
theorem Means.timely {ev : LedgerEvent} {now : ℤ} (hmeans : Means env l e ev) :
    (replayEntry env now e).Returns r fun _ _ => ev.Timely now r := by
  cases hmeans with
  | deliver =>
    refine .orReturn_bind fun _ _ => .orReturn_bind fun _ _ => .orReturn_bind fun _ _ =>
      .orReturn_bind fun _ _ => .orReturn_bind fun _ _ => .orReturn_bind fun _ _ => ?_
    refine (returns_replaying (deliverAdaptor_clean ..)).mono fun _ _ h => ?_
    obtain ⟨_, channel, request, hch, -, hr, hnow, -⟩ := h
    intro channel' request' hch' hr'
    cases hch.symm.trans hch'
    cases hr.symm.trans hr'
    exact hnow
  | _ => exact fun _ _ _ => trivial

/-- **Where replaying a log that explains the books succeeds, it rebuilds them**, whatever the
clock. -/
theorem Explains.returns {supply : Supply} (hexp : Explains env supply l es l')
    (hw : l.WellFormed) (hsums : l.Conserved) (hfit : ∀ c, (l'.account c).deposited < u64Bound)
    (h : Follows l r) {records : List WalRecord} (hrecords : records.map (·.entry) = es) :
    (replayRecords env clock i records).Returns r fun _ r' => Replayed es l' r r' := by
  induction hexp generalizing records with
  | nil =>
    obtain rfl := List.map_eq_nil_iff.1 hrecords
    exact .pure ⟨h, by simp, by simp, by simp⟩
  | @note l' _ hexp e he ih =>
    obtain ⟨rs, record, rfl, hrs, rfl⟩ := records_snoc hrecords
    exact returns_replayRecords_snoc (ih hfit hrs) fun t ht _ =>
      (Prog.Returns.of_reaches (ht.note he)).mono fun _ _ h => h.1
  | @event l' _ e ev hexp he hfrom hmeans ih =>
    obtain ⟨rs, record, rfl, hrs, rfl⟩ := records_snoc hrecords
    have hfit' : ∀ c, (l'.account c).deposited < u64Bound := fun c =>
      (Ledger.deposited_le_apply l' ev c).trans_lt (hfit c)
    refine returns_replayRecords_snoc (ih hfit' hrs) fun t ht j a t' hrun => ?_
    have htimely : ev.Timely (clock j) t := hmeans.timely a t' hrun
    exact (Prog.Returns.of_reaches (hexp.replays_snoc hw hsums hfit' he hmeans ht htimely)
      a t' hrun).1

/-- The refreshes at the end of replay leave what was rebuilt. -/
theorem Replayed.reaches_refreshClients (h : Replayed es l r r') {clients : List Pubkey}
    (hknown : ∀ c ∈ clients, r'.vault.Known c) :
    (refreshClients clients).Reaches r' (Replayed es l r) := by
  induction clients generalizing r' with
  | nil => exact .of_run rfl h
  | cons client clients ih =>
    obtain ⟨balance, hb⟩ := hknown client (by simp)
    refine .run_bind (run_refresh hb) (ih ⟨h.follows.refresh hb _, h.processed, h.withdrawNonce,
      h.receiptNonce⟩ fun c hc => ?_)
    exact VaultState.known_setBalance _ (hknown c (by simp [hc]))

end Log

end Subly402
