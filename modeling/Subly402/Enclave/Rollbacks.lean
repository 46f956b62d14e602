/-
# Operations whose append fails

Every operation that moves money changes the vault first and logs it after, and takes the
change back where the append fails.  `Undone` says that it took everything back: the vault
is the one it started from, but for the counters of nonces and the times at which channels
were last touched.  **`run_undone_iff`** says when that is so, for every operation in every
state of a run.
-/

import Subly402.Enclave.Run

namespace Subly402

open Lib
open Lib.Prog (Leaves)

/-- The vault without its counters of nonces and the times its channels were touched. -/
@[simps]
def VaultState.lasting (v : VaultState) : VaultState :=
  { v with
    receiptNonce := 0
    withdrawNonce := 0
    activeChannels := v.activeChannels.map fun _ channel => channel.touch 0 }

/-- A touch lasts nowhere. -/
theorem VaultState.lasting_setChannel_touch {v : VaultState} {key : String}
    {channel : ChannelState} (now : ℤ) (h : v.activeChannels[key]? = some channel) :
    (v.setChannel key (channel.touch now)).lasting = v.lasting := by
  have hmap : (v.activeChannels.map fun _ (channel : ChannelState) => channel.touch 0)[key]?
      = some (channel.touch 0) := by simp [h]
  ext1 <;> simp [FiniteMap.map_insert, ChannelState.touch]
  exact FiniteMap.insert_lookup hmap

/-- Where the first append of a step fails, the step leaves the vault as it was. -/
def Undone (env : Env) (s t : AppState) : Prop :=
  (env.appendError s.wal.seqno).isSome → s.wal.seqno < t.wal.seqno →
    t.vault.lasting = s.vault.lasting

namespace Undone

variable {env : Env} {s s₁ t : AppState}

/-- A step without an append. -/
theorem of_wal (h : t.wal = s.wal) : Undone env s t := fun _ hlt => by
  rw [h] at hlt
  exact (lt_irrefl _ hlt).elim

/-- Nothing done. -/
theorem refl (env : Env) (s : AppState) : Undone env s s := .of_wal rfl

/-- The first append of a step comes after writes that touch no log. -/
theorem after (hwal : s₁.wal = s.wal) (hvault : s₁.vault.lasting = s.vault.lasting)
    (h : Undone env s₁ t) : Undone env s t := by
  rw [Undone, ← hwal, ← hvault]
  exact h

end Undone

variable {env : Env} {s s₁ : AppState}

section Append

variable {α β : Type} {describe : String → EnclaveError} {entry : WalEntry} {rollback : VaultM α}
  {r : Except EnclaveError α} {v : VaultState}

/-- An append whose rollback takes the step back. -/
theorem leaves_undone_append (hwal : s₁.wal = s.wal) (hroll : rollback.run s₁.vault = (r, v))
    (hback : v.lasting = s.vault.lasting) :
    (appendAs describe env entry rollback).Leaves s₁ (Undone env s) := by
  intro hfail
  obtain ⟨error, herror⟩ := Option.isSome_iff_exists.1 hfail
  rw [← hwal] at herror
  rw [run_appendAs_error herror, hroll]
  exact fun _ => hback

/-- The rest of the handler runs only where the append is durable. -/
theorem Lib.Prog.Leaves.undone_append {k : Unit → AppM β} (hwal : s₁.wal = s.wal)
    (hroll : rollback.run s₁.vault = (r, v)) (hback : v.lasting = s.vault.lasting) :
    (appendAs describe env entry rollback >>= k).Leaves s₁ (Undone env s) := by
  intro hfail
  obtain ⟨error, herror⟩ := Option.isSome_iff_exists.1 hfail
  rw [← hwal] at herror
  rw [Prog.run_bind, run_appendAs_error herror, hroll]
  exact fun _ => hback

end Append

/-- A ledger operation that fails cleanly, and the rest. -/
theorem Lib.Prog.Leaves.undone_bind {α β : Type} {p : VaultM α} {P : α → VaultState → Prop}
    {k : α → AppM β} (hwal : s₁.wal = s.wal) (hp : p.Clean s₁.vault P)
    (h : ∀ a v, P a v → (k a).Leaves (s₁.setVault v) (Undone env s)) :
    (onVault p >>= k).Leaves s₁ (Undone env s) :=
  .onVault_bind hp (.of_wal hwal) h

/-! ### Receipts -/

/-- Receipts. -/
theorem issueParticipantReceiptLocked_undone (holder : Holder) (participant : Pubkey) (kind : ℕ)
    (recipientAta : Pubkey) (free locked : ℕ) (maxLock now : ℤ) (s : AppState) :
    (issueParticipantReceiptLocked env holder participant kind recipientAta free locked maxLock
      now).Leaves s (Undone env s) :=
  .run_bind (run_onVault nextReceiptNonce s) (.get_bind (.set_bind (.undone_append rfl rfl rfl)))

/-- A client's receipt. -/
theorem issueClientReceiptLocked_undone (client : Pubkey) (now : ℤ) (s : AppState) :
    (issueClientReceiptLocked env client now).Leaves s (Undone env s) :=
  .get_bind <| .okOr_bind (.refl env s) fun _ _ =>
    issueParticipantReceiptLocked_undone _ _ _ _ _ _ _ _ s

/-- A provider's receipt. -/
theorem issueProviderReceiptLocked_undone (providerId : String) (now : ℤ) (s : AppState) :
    (issueProviderReceiptLocked env providerId now).Leaves s (Undone env s) :=
  .get_bind <| .okOr_bind (.refl env s) fun _ _ => .get_bind <|
    issueParticipantReceiptLocked_undone _ _ _ _ _ _ _ _ s

namespace Handlers

/-! ### Payments -/

/-- Reservations. -/
theorem postVerify_undone (req : VerifyRequest) (t : Times) (s : AppState) :
    (postVerify env req t).Leaves s (Undone env s) := by
  refine .okOr_bind (.refl env s) fun client _ => .get_bind <| .okOr_bind (.refl env s)
    fun _ _ => .get_bind ?_
  split
  · split
    · exact .pure (.refl env s)
    · exact .throw (.refl env s)
  · refine .run_bind (run_newId ..) (.run_bind (run_newId ..)
      (.failIf_bind (fun _ => .of_wal rfl) fun _ => ?_))
    refine .undone_bind rfl (reserveBalance_clean client req.amount s.vault)
      fun _ v ⟨balance, hb, hle, hv⟩ => ?_
    subst hv
    exact .undone_append rfl (run_releaseBalance_reserved hb hle) rfl

/-- The expiry logs first. -/
theorem expireReservedReservation_undone (verificationId : String) (t : Times) (s : AppState) :
    (expireReservedReservation env verificationId t).Leaves s (Undone env s) := by
  refine .get_bind <| .okOr_bind (.refl env s) fun r _ => ?_
  split
  · exact .pure (.refl env s)
  · exact .undone_append rfl rfl rfl

/-- Expired withdrawals. -/
theorem expirePending_undone (withdrawNonce : ℕ) (t : Times) (s : AppState) :
    (expirePending env withdrawNonce t).Leaves s (Undone env s) := by
  refine .get_bind ?_
  split
  · exact .pure (.refl env s)
  · split
    · exact .pure (.refl env s)
    · exact .undone_append rfl rfl rfl

/-- A settlement is taken back where the provider's credit, if there is one, has something to
pay. -/
theorem postSettle_undone (hs : AppInv env s) (verificationId : String) (t : Times)
    (hcredit : ∀ r, s.vault.reservations[verificationId]? = some r → r.status = .reserved →
      t.now ≤ r.expiresAt → s.vault.hasSpentCredit r.providerId = false) :
    (postSettle env verificationId t).Leaves s (Undone env s) := by
  refine .get_bind <| .okOr_bind (.refl env s) fun r hr => .run_bind (run_newId ..) ?_
  have hdraw := Logged.draw env s
  have hfresh : s.vault.ledger.FreshSettlement (env.freshId .settlement s.drawn) :=
    hs.ids.fresh (Env.not_drawn_freshId _ le_rfl)
  obtain ⟨e, -, hrun⟩ | ⟨e, -, hrun⟩ | ⟨-, hrun⟩ | ⟨balance, provider, hb, hle, hp, hst, hnow, hrun⟩ :=
    settleBegin_cases (hdraw.inv hs hs.fits) hr (env.freshId .settlement s.drawn) t
  · refine .of_run (by rw [Prog.run_bind, hrun]) ?_
    exact .of_wal rfl
  · refine .of_run (by rw [Prog.run_bind, hrun]) ?_
    exact .after rfl rfl (expireReservedReservation_undone verificationId t s.draw)
  · refine .run_bind hrun ?_
    refine .bind (issueProviderReceiptLocked_undone r.providerId t.later s.draw)
      (fun _ h => .after rfl rfl h) fun _ _ h => .pure (.after rfl rfl h)
  · refine .run_bind hrun (.undone_append rfl (run_rollbackSettle hb hle hfresh.history ?_) ?_)
    · exact fun c hc => hfresh.credits r.providerId c.untimed (by simp [show
        s.vault.providerCredits[r.providerId]? = some c from hc])
    · rw [if_neg (by simpa using hcredit r hr hst hnow)]
      rfl

/-- A failed settlement takes a credit that was worth nothing with it. -/
theorem postSettle_drops (hs : AppInv env s) {r : Reservation} {verificationId error : String}
    {t : Times} (hr : s.vault.reservations[verificationId]? = some r) (hst : r.status = .reserved)
    (hnow : t.now ≤ r.expiresAt) (hspent : s.vault.hasSpentCredit r.providerId = true)
    (hfail : env.appendError s.wal.seqno = some error) :
    (postSettle env verificationId t).Leaves s fun u =>
      u.vault = s.vault.dropCredit r.providerId := by
  have hfresh : s.vault.ledger.FreshSettlement (env.freshId .settlement s.drawn) :=
    hs.ids.fresh (Env.not_drawn_freshId _ le_rfl)
  obtain ⟨balance, hb, hle⟩ := hs.reserved hr hst
  obtain ⟨provider, hp⟩ := hs.shape.reservation_provider _ _ hr
  refine .get_bind <| .okOr_some_bind hr <| .run_bind (run_newId ..) <|
    .run_bind (run_settleBegin hr hst hnow hb hle hp) ?_
  change (settleEnd env (.of r verificationId (env.freshId .settlement s.drawn) t.now) t).Leaves _ _
  rw [settleEnd, Leaves, Prog.run_bind, run_appendAs_error (by exact hfail)]
  have hroll : (rollbackSettle (.of r verificationId (env.freshId .settlement s.drawn) t.now)).run
      (s.vault.settleBegun r balance provider (env.freshId .settlement s.drawn) t.now) = _ :=
    run_rollbackSettle hb hle hfresh.history fun c hc =>
      hfresh.credits r.providerId c.untimed (by simp [hc])
  rw [if_pos hspent] at hroll
  exact congrArg Prod.snd hroll

section Books

variable (hs : AppInv env s)
include hs

/-- Cancellations. -/
theorem postCancel_undone (verificationId reason : String) (t : Times) :
    (postCancel env verificationId reason t).Leaves s (Undone env s) := by
  refine .get_bind <| .okOr_bind (.refl env s) fun r hr => ?_
  split
  · exact .pure (.refl env s)
  · refine .failIf_bind (fun _ => .refl env s) fun hst => ?_
    obtain ⟨balance, hb, hle⟩ := hs.reserved hr (not_not.1 hst)
    refine .onVault_run_bind (run_releaseBalance hb) ?_
    rw [VaultState.noteLockedSub_of_le hle]
    exact .undone_append rfl (run_reserveBalance_released hb hle) rfl

/-! ### Withdrawals -/

/-- Withdrawal authorizations. -/
theorem postWithdrawAuth_undone (client recipientAta : Pubkey) (amount : ℕ)
    (t : Times) :
    (postWithdrawAuth env client recipientAta amount t).Leaves s (Undone env s) := by
  let v := s.vault.setWithdrawNonce (s.vault.withdrawNonce + 1)
  let w := newWithdrawal client recipientAta amount s.vault.withdrawNonce t.now
  refine .onVault_run_bind (run_nextWithdrawNonce s.vault) ?_
  refine .undone_bind rfl (authorizeWithdrawal_clean w v) fun _ v' ⟨balance, hb, hle, hv'⟩ => ?_
  subst hv'
  -- the nonce stays used
  exact .undone_append rfl (@run_rollbackAuthorizedWithdrawal balance v w hb hle hs.no_pending) rfl

/-! ### Channels -/

/-- Channel openings. -/
theorem postChannelOpen_undone (clientText providerId : String)
    (initialDeposit : ℕ) (t : Times) :
    (postChannelOpen env clientText providerId initialDeposit t).Leaves s (Undone env s) := by
  refine .okOr_bind (.refl env s) fun client _ => ?_
  refine .clean_bind (registeredProviderParticipantPubkey_clean providerId s) (.refl env s)
    fun _ s' ⟨_, hs'⟩ => ?_
  rw [hs']
  refine .run_bind (run_newId ..) (.undone_bind rfl (openChannelWithId_clean ..)
    fun _ v ⟨balance, provider, hb, hp, hle, hv⟩ => ?_)
  subst hv
  exact .undone_append rfl (run_rollbackOpenChannel hb hle (hs.no_channel le_rfl .channel)) rfl

/-- Channel requests. -/
theorem postChannelRequest_undone (channelId requestId : String) (amount : ℕ)
    (requestHashText : String) (t : Times) :
    (postChannelRequest env channelId requestId amount requestHashText t).Leaves s
      (Undone env s) := by
  refine .okOr_bind (.refl env s) fun requestHash _ => ?_
  refine .undone_bind rfl (submitRequest_clean ..) fun _ v ⟨channel, hch, hst, hused, hle, hv⟩ => ?_
  subst hv
  obtain ⟨hok, -, -, -⟩ := hs.channel hch
  exact .undone_append rfl (run_rollbackSubmitRequest hst (hok.idle hst).1 hused hle)
    (VaultState.lasting_setChannel_touch _ hch)

/-- Expired requests. -/
theorem expireStaleChannelRequest_undone (channelId : String) (t : Times) :
    (expireStaleChannelRequest env channelId t).Leaves s (Undone env s) := by
  refine .undone_bind rfl (expireRequest_clean channelId t.now s.vault) fun outcome v hv => ?_
  obtain ⟨rfl, rfl⟩ | ⟨channel, request, hch, hst, hr, -, rfl, rfl⟩ := hv
  · exact .pure (.of_wal rfl)
  · obtain ⟨hok, hid, -, -⟩ := hs.channel hch
    exact .undone_append rfl (run_rollbackExpireRequest hid hr (hok.clientLocked_eq hst hr).ge)
      (VaultState.lasting_setChannel_touch _ hch)

/-- Deliveries. -/
theorem postChannelDeliver_undone (req : ChannelDeliverRequest) (t : Times) :
    (postChannelDeliver env req t).Leaves s (Undone env s) := by
  refine .clean_bind req.decode_clean (.refl env s) fun delivery s₁ ⟨_, hs₁⟩ => ?_
  subst hs₁
  refine .get_bind <| .okOr_bind (.refl env s₁) fun channel hch => ?_
  refine .clean_bind (registeredProviderParticipantPubkey_clean channel.providerId s₁)
    (.refl env s₁) fun _ s₂ ⟨_, hs₂⟩ => ?_
  subst hs₂
  refine .failIf_bind (fun _ => .refl env s₂) fun _ => .okOr_bind (.refl env s₂) fun request hr => ?_
  obtain ⟨hok, -, -, -⟩ := hs.channel hch
  obtain ⟨e, he⟩ | ⟨_, v, hv, hdel⟩ :=
    deliverAdaptor_clean env.curve req.channelId delivery t.now s₂.vault
  · obtain ⟨e', hrun | hrun⟩ := deliverOrExpire_error he
    · exact .of_run (by rw [Prog.run_bind, hrun]) (.refl env s₂)
    · exact .of_run (by rw [Prog.run_bind, hrun])
        (expireStaleChannelRequest_undone hs req.channelId ⟨t.later, t.later⟩)
  · obtain ⟨channel', request', hch', hst, hr', -, -, rfl⟩ := hdel
    obtain rfl : channel = channel' := Option.some.inj (hch.symm.trans hch')
    obtain rfl : request = request' := Option.some.inj (hr.symm.trans hr')
    exact .run_bind (run_deliverOrExpire hv) (leaves_undone_append rfl
      (run_rollbackDeliverAdaptor hst hr (hok.undelivered hst request hr))
      (VaultState.lasting_setChannel_touch t.later hch))

/-- What follows a finalized request. -/
theorem logFinalized_undone {channelId : String} {channel : ChannelState}
    {request : ChannelRequest} {outcome : FinalizeOutcome} {now : ℤ} (t : Times)
    (hch : s.vault.activeChannels[channelId]? = some channel) (hst : channel.status = .pending)
    (hr : channel.activeRequest = some request) (hrequest : outcome.request = request) :
    (logFinalized env channelId outcome t).Leaves
      (s.setVault (s.vault.setChannel channelId (channel.payProvider request.amount now)))
      (Undone env s) := by
  obtain ⟨hok, -, -, -⟩ := hs.channel hch
  rw [logFinalized, hrequest]
  exact .undone_append rfl
    (run_rollbackFinalizeOffchain hst hr (hok.clientLocked_eq (.inr hst) hr).ge)
    (VaultState.lasting_setChannel_touch _ hch)

/-- Finalizations. -/
theorem postChannelFinalize_undone (channelId adaptorSecretText : String)
    (t : Times) :
    (postChannelFinalize env channelId adaptorSecretText t).Leaves s (Undone env s) := by
  refine .clean_bind decodeHex32_clean (.refl env s) fun secret s₁ ⟨_, hs₁⟩ => ?_
  subst hs₁
  refine .undone_bind rfl (finalizeOffchain_clean ..)
    fun outcome v ⟨channel, request, hch, hst, hr, _, _, hrequest, hv⟩ => ?_
  subst hv
  exact logFinalized_undone hs t hch hst hr hrequest

/-- Recovered claims. -/
theorem recoverChannelClaim_undone (channelId : String)
    (fullSig : AdaptedSignature) (t : Times) :
    (recoverChannelClaim env channelId fullSig t).Leaves s (Undone env s) := by
  refine .undone_bind rfl (finalizeOnchainClaim_clean ..)
    fun outcome v ⟨channel, request, hch, hst, hr, _, _, hrequest, hv⟩ => ?_
  subst hv
  exact logFinalized_undone hs t hch hst hr hrequest

/-- Closings. -/
theorem postChannelClose_undone (channelId : String) (t : Times) :
    (postChannelClose env channelId t).Leaves s (Undone env s) := by
  refine .run_bind (run_newId ..) (.undone_bind rfl (closeChannelWithSettlementId_clean _ _ _ _ _
    fun channel hch => ?_) ?_)
  · obtain ⟨-, -, ⟨balance, hb, -⟩, hp⟩ := hs.channel hch
    exact ⟨⟨balance, hb⟩, hp⟩
  · rintro _ _ ⟨channel, balance, provider, hch, hst, hb, hp, rfl, rfl⟩
    replace hch : s.vault.activeChannels[channelId]? = some channel := hch
    obtain ⟨-, hid, ⟨balance', hb', hle⟩, -⟩ := hs.channel hch
    obtain rfl : balance' = balance := Option.some.inj (hb'.symm.trans hb)
    rw [ChannelBalance.sum] at hle
    exact .undone_append rfl (run_rollbackCloseChannel hch hid hb (by omega)) rfl

end Books

/-! ### Registrations -/

/-- Registrations. -/
theorem postRegisterProvider_undone (req : RegisterProviderRequest) (s : AppState) :
    (postRegisterProvider env req).Leaves s (Undone env s) :=
  .orReturn_bind (.refl env s) fun _ _ => .get_bind <| .failIf_bind (fun _ => .refl env s)
    fun _ => .undone_append rfl rfl rfl

/-- Open registrations. -/
theorem ensureOpenProviderRegistered_undone (payload : OpenPayment) (s : AppState) :
    (ensureOpenProviderRegistered env payload).Leaves s (Undone env s) := by
  refine .get_bind ?_
  split
  · exact .pure (.refl env s)
  · exact .okOr_bind (.refl env s) fun _ _ => .okOr_bind (.refl env s) fun _ _ =>
      .undone_append rfl rfl rfl

end Handlers

namespace Detector

/-! ### The chain -/

/-- A deposit is taken back where the client has a record. -/
theorem applyDeposit_undone {deposit : DepositEvent} (now : ℤ) {balance : ClientBalance}
    (hb : s.vault.clientBalances[deposit.client]? = some balance) :
    (applyDeposit env deposit now).Leaves s (Undone env s) := by
  refine .get_bind ?_
  split
  · exact .pure (.refl env s)
  · refine .onVault_run_bind (run_applyDeposit ..) (.undone_append rfl (run_rollbackDeposit ..) ?_)
    rw [VaultState.balance_eq hb, VaultState.setBalance_self hb]

/-- A failed deposit leaves its client with a record. -/
theorem applyDeposit_known {deposit : DepositEvent} {now : ℤ} {error : String}
    (hfail : env.appendError s.wal.seqno = some error) :
    (applyDeposit env deposit now).Leaves s fun t =>
      s.wal.seqno < t.wal.seqno → (t.vault.clientBalances[deposit.client]?).isSome := by
  refine .get_bind ?_
  split
  · exact .pure fun h => (lt_irrefl _ h).elim
  · refine .onVault_run_bind (run_applyDeposit ..) ?_
    rw [Leaves, Prog.run_bind, run_appendAs_error (by exact hfail)]
    simp

/-- Withdrawals on chain. -/
theorem applyWithdrawal_undone (hs : AppInv env s) (event : WithdrawEvent) (now : ℤ) :
    (applyWithdrawal env event now).Leaves s (Undone env s) := by
  refine .get_bind ?_
  split
  · exact .pure (.refl env s)
  cases hw : s.vault.pendingWithdrawals[event.withdrawNonce]? with
  | none =>
    exact .of_run (by rw [Prog.run_bind, run_onVault, run_applyWithdrawal_absent hw]; rfl)
      (.refl env s)
  | some w =>
    obtain ⟨balance, hb, hle, hlt⟩ := hs.withdrawable hw
    have hnonce : w.withdrawNonce = event.withdrawNonce := hs.shape.pending_key _ _ hw
    -- an event with other terms is refused without an append
    refine .onVault_run_bind (run_applyWithdrawal hw hb hlt) (.failIf_bind (fun _ => .of_wal rfl)
      fun _ => ?_)
    have hroll := run_rollbackAppliedWithdrawal (hnonce ▸ hw) hb hle
    rw [hnonce] at hroll
    exact .undone_append rfl hroll rfl

/-- Confirmed batches. -/
theorem confirmBatch_undone (settlementIds : List String) (batchId : ℕ) (txSignature : String)
    (s : AppState) :
    (confirmBatch env settlementIds batchId txSignature).Leaves s (Undone env s) :=
  .undone_append rfl rfl rfl

end Detector

/-! ### Runs -/

/-- The operation comes to its own append, and the append fails. -/
def Op.AppendFails (s : AppState) (op : Op env) : Prop :=
  (env.appendError s.wal.seqno).isSome ∧ s.wal.seqno < (s.next op).wal.seqno

instance (s : AppState) (op : Op env) : Decidable (op.AppendFails s) :=
  inferInstanceAs (Decidable (_ ∧ _))

/-- What a rollback needs: for a deposit, that its client has a record; for a settlement, that
the credit of its provider, if there is one, has something to pay. -/
def Op.Reversible (s : AppState) : Op env → Prop
  | .deposit event _ => (s.vault.clientBalances[event.1.client]?).isSome
  | .settle verificationId t =>
    ∀ r ∈ s.vault.reservations[verificationId]?, r.status = .reserved → t.now ≤ r.expiresAt →
      s.vault.hasSpentCredit r.providerId = false
  | _ => True

/-- What an operation with a failed append leaves. -/
theorem AppState.next_undone (hs : AppInv env s) {op : Op env} (hop : op.Reversible s) :
    Undone env s (s.next op) := by
  cases op with
  | deposit event now =>
    obtain ⟨balance, hb⟩ := Option.isSome_iff_exists.1 hop
    exact Detector.applyDeposit_undone now hb
  | withdrawal => exact Detector.applyWithdrawal_undone hs _ _
  | registerProvider => exact Handlers.postRegisterProvider_undone _ s
  | openProvider => exact Handlers.ensureOpenProviderRegistered_undone _ s
  | verify => exact Handlers.postVerify_undone _ _ s
  | settle => exact Handlers.postSettle_undone hs _ _ hop
  | cancel => exact Handlers.postCancel_undone hs _ _ _
  | expireReservation => exact Handlers.expireReservedReservation_undone _ _ s
  | withdrawAuth => exact Handlers.postWithdrawAuth_undone hs _ _ _ _
  | expireWithdrawal => exact Handlers.expirePending_undone _ _ s
  | channelOpen => exact Handlers.postChannelOpen_undone hs _ _ _ _
  | channelRequest => exact Handlers.postChannelRequest_undone hs _ _ _ _ _
  | channelDeliver => exact Handlers.postChannelDeliver_undone hs _ _
  | channelFinalize => exact Handlers.postChannelFinalize_undone hs _ _ _
  | channelClaim => exact Handlers.recoverChannelClaim_undone hs _ _ _
  | channelExpire => exact Handlers.expireStaleChannelRequest_undone hs _ _
  | channelClose => exact Handlers.postChannelClose_undone hs _ _
  | confirmBatch => exact Detector.confirmBatch_undone _ _ _ s
  | clientReceipt => exact issueClientReceiptLocked_undone _ _ s
  | providerReceipt => exact issueProviderReceiptLocked_undone _ _ s

/-- An operation that was taken back could be. -/
theorem Op.reversible_of_lasting (hs : AppInv env s) {op : Op env} (hfail : op.AppendFails s)
    (h : (s.next op).vault.lasting = s.vault.lasting) : op.Reversible s := by
  obtain ⟨herror, hmoved⟩ := hfail
  obtain ⟨error, herror⟩ := Option.isSome_iff_exists.1 herror
  cases op with
  | deposit event now =>
    have hbalances : (s.next (.deposit event now)).vault.clientBalances = s.vault.clientBalances :=
      (congrArg VaultState.clientBalances h :)
    have hknown : ((s.next (.deposit event now)).vault.clientBalances[event.1.client]?).isSome :=
      Detector.applyDeposit_known herror hmoved
    rwa [hbalances] at hknown
  | settle verificationId t =>
    intro r hr hst hnow
    by_contra hspent
    rw [Bool.not_eq_false] at hspent
    have hvault : (s.next (.settle verificationId t)).vault = s.vault.dropCredit r.providerId :=
      Handlers.postSettle_drops hs hr hst hnow hspent herror
    have hcredits : s.vault.providerCredits.erase r.providerId = s.vault.providerCredits := by
      rw [hvault] at h
      exact (congrArg VaultState.providerCredits h :)
    have hnone : s.vault.providerCredits[r.providerId]? = none := by
      rw [← hcredits]
      simp
    simp [VaultState.hasSpentCredit, hnone] at hspent
  | _ => trivial

/-- **An operation whose own append fails leaves the vault as it was exactly where its rollback
has what it needs.** -/
theorem run_undone_iff (ops : List (Op env)) (op : Op env) (hfail : op.AppendFails (run env ops)) :
    ((run env ops).next op).vault.lasting = (run env ops).vault.lasting ↔
      op.Reversible (run env ops) :=
  ⟨Op.reversible_of_lasting (run_inv ops).toAppInv hfail, fun hop =>
    AppState.next_undone (run_inv ops).toAppInv hop hfail.1 hfail.2⟩

namespace Shop

/-- A store that is down for the append with one number. -/
def storeDownAt (n : ℕ) : Env :=
  .plain {deposit} deposit_fits fun seqno => if seqno = n then some "store down" else none

/-- The deposit of the client. -/
def deposited (n : ℕ) : Op (storeDownAt n) := .deposit ⟨deposit, Finset.mem_singleton_self _⟩ 0

/-- The client deposits and settles a payment of nothing, and has another one verified. -/
def freeSample (n : ℕ) : List (Op (storeDownAt n)) :=
  [deposited n, .registerProvider seller, .verify { payment with amount := 0 } ⟨1, 1⟩,
    .settle "ver_" ⟨2, 2⟩, .verify { payment with paymentId := "second" } ⟨3, 3⟩]

/-- The shop settles the second payment. -/
def settleSecond (n : ℕ) : Op (storeDownAt n) := .settle "ver_uuu" ⟨4, 4⟩

/-- The shop cancels the second payment. -/
def cancelSecond (n : ℕ) : Op (storeDownAt n) := .cancel "ver_uuu" "" ⟨4, 4⟩

end Shop

open Shop in
/-- A cancellation that the store does not take. -/
theorem run_undone_iff_cancel :
    (cancelSecond 15).AppendFails (run _ (freeSample 15)) ∧
      ((run _ (freeSample 15)).next (cancelSecond 15)).vault.lasting
        = (run _ (freeSample 15)).vault.lasting := by
  have hfail : (cancelSecond 15).AppendFails (run _ (freeSample 15)) := by decide +kernel
  exact ⟨hfail, (run_undone_iff _ _ hfail).2 trivial⟩

/-- **A failed deposit leaves a record behind, and a failed settlement takes a credit with it**:
the client had no record and has one of zeros, and the settlement before, of nothing, is no
longer among those to be paid. -/
theorem Shop.rollback_leaves_traces :
    ((deposited 0).AppendFails (run (storeDownAt 0) []) ∧
      (run (storeDownAt 0) []).vault.clientBalances[deposit.client]? = none ∧
      ((run (storeDownAt 0) []).next (deposited 0)).vault.clientBalances[deposit.client]? = some .zero) ∧
    (settleSecond 15).AppendFails (run _ (freeSample 15)) ∧
      ((run _ (freeSample 15)).vault.providerCredits["shop"]?).map (·.settlementIds)
        = some ["set_uu"] ∧
      ((run _ (freeSample 15)).next (settleSecond 15)).vault.providerCredits["shop"]? = none := by
  decide +kernel

end Subly402
