/-
# The channel handlers, step by step

Each handler of `Subly402.Enclave.Channels` leaves the books as its log entries say.
A failed append leaves its channel as it was but for the time it was touched, which
is not in the books.
-/

import Subly402.Enclave.Channels
import Subly402.Enclave.Steps

namespace Subly402

open Lib
open Lib.Prog (okOr failIf Leaves)

variable {env : Env} {s : AppState}

/-- What an active channel says about the vault. -/
theorem AppInv.channel (hs : AppInv env s) {key : String} {channel : ChannelState}
    (hch : s.vault.activeChannels[key]? = some channel) :
    channel.Ok ∧ channel.channelId = key ∧
      (∃ balance, s.vault.clientBalances[channel.client]? = some balance ∧
        channel.balance.sum ≤ balance.locked) ∧
      ∃ provider, s.vault.providers[channel.providerId]? = some provider := by
  have hlookup : s.vault.ledger.channels[key]? = some channel.untimed := by simp [hch]
  refine ⟨.of_untimed (hs.shape.channel_ok _ _ hlookup),
    hs.shape.channel_key _ channel.untimed hlookup, ?_,
    hs.shape.channel_provider _ channel.untimed hlookup⟩
  obtain ⟨balance, hb⟩ := hs.onRecord channel.client (.inr (.inr ⟨key, _, hlookup, rfl⟩))
  have hle := hs.sums.channel_le hlookup
  have hacc : s.vault.ledger.account channel.untimed.client = balance.account :=
    VaultState.Known.account hb
  rw [hacc] at hle
  exact ⟨balance, hb, hle⟩

/-- A fresh id names no channel. -/
theorem AppInv.no_channel (hs : AppInv env s) {n : ℕ} (hn : s.drawn ≤ n) (kind : IdKind) :
    s.vault.activeChannels[env.freshId kind n]? = none := by
  cases h : s.vault.activeChannels[env.freshId kind n]? with
  | none => rfl
  | some ch =>
    have hlookup : s.vault.ledger.channels[env.freshId kind n]? = some ch.untimed := by simp [h]
    exact (Env.not_drawn_freshId kind hn (hs.ids.channels _ _ hlookup)).elim

/-- A failed append, after which the channel was put back. -/
theorem Logged.touch (env : Env) (s : AppState) {key : String} {channel : ChannelState} (now : ℤ)
    (hch : s.vault.activeChannels[key]? = some channel) :
    Logged env s
      ((s.setWal s.wal.skip).setVault (s.vault.setChannel key (channel.touch now))) :=
  .quiet (.of_vault (fun _ h => h) rfl le_rfl le_rfl rfl rfl)
    (VaultState.ledger_setChannel_touch now hch) (fun _ h => .inl h) rfl rfl (.skip (.nil _)) (by simp)

/-- A transition of one channel, and its entry. -/
theorem Logged.commit_channel (entry : WalEntry) (ev : LedgerEvent) {key : String}
    {channel : ChannelState}
    (hbooks : (s.vault.setChannel key channel).ledger = s.vault.ledger.apply ev)
    (he : s.vault.ledger.Enabled env.curve ev) (hids : ev.newIds = []) (hnonce : ev.newNonce = none)
    (hholder : ev.newHolder = none) (hmeans : Means env s.vault.ledger entry ev)
    (htx : entry.txSignature? = none) :
    Logged env s ((s.setWal (s.wal.store entry)).setVault (s.vault.setChannel key channel)) :=
  .commit_vault (.of_vault ev (fun _ h => h) rfl le_rfl rfl hbooks he (.of_none hids hnonce)
    (by simp [hholder])) hmeans htx

namespace Handlers

/-- Looking up a provider's participant key changes nothing. -/
theorem registeredProviderParticipantPubkey_clean (providerId : String) (s : AppState) :
    (registeredProviderParticipantPubkey providerId).Clean s fun key s' =>
      (∃ provider, s.vault.providers[providerId]? = some provider ∧
        provider.participantPubkey = some key) ∧ s' = s := by
  refine .get_bind <| .okOr_bind fun provider hp => ?_
  cases hkey : provider.participantPubkey with
  | none => exact .fail rfl
  | some key => exact .of_run rfl ⟨⟨provider, hp, hkey⟩, rfl⟩

/-! ### Open, request -/

/-- **Opening a channel is a sound step, and a logged one where the deposit is positive.** -/
theorem postChannelOpen_effect (hs : AppInv env s) (clientText providerId : String)
    (initialDeposit : ℕ) (t : Times) :
    (postChannelOpen env clientText providerId initialDeposit t).Leaves s
      (Effect env (0 < initialDeposit) s) := by
  have hrefl : Effect env (0 < initialDeposit) s s := (Logged.refl env s).effect
  refine .okOr_bind hrefl fun client hclient => ?_
  have hdraw := Logged.draw env s
  refine .clean_bind (registeredProviderParticipantPubkey_clean providerId s) hrefl
    fun _ s' ⟨_, hs'⟩ => ?_
  rw [hs']
  refine .run_bind (run_newId ..) (.onVault_bind (openChannelWithId_clean ..) hdraw.effect
    fun _ v ⟨balance, provider, hb, hp, hle, hv⟩ => ?_)
  subst hv
  replace hb : s.vault.clientBalances[client]? = some balance := hb
  refine .append_bind (run_rollbackOpenChannel hb hle (hs.no_channel le_rfl .channel))
    (hdraw.trans (.skip env _)).effect ?_
  refine Effect.then (.commit
    (.openChannel (env.freshId .channel s.drawn) client providerId initialDeposit)
    ⟨.of_vault (fun _ h => VaultState.known_setBalance _ h) rfl (Nat.le_succ _) le_rfl rfl rfl,
      ?_, ⟨?_, ?_, provider, hp⟩, ⟨?_, by rintro _ ⟨⟩, ?_⟩, ?_, rfl, rfl⟩ (by simp)
    (fun hpos => .openChannel _ _ _ hclient hpos) rfl rfl rfl) fun t' =>
      .logged_bind (leaves_issueClientReceiptLocked env client t.later t') fun _ t' =>
        .pure (.refl env t')
  · simp [Ledger.apply, VaultState.balance_eq hb]
  · simpa [VaultState.balance_eq hb] using hle
  · simp [hs.no_channel le_rfl .channel]
  · simpa [LedgerEvent.newIds] using Env.drawn_freshId (n := s.drawn + 1) .channel (by omega)
  · rintro _ ⟨⟩
    exact Env.not_drawn_freshId .channel le_rfl
  · rintro _ ⟨⟩
    exact VaultState.known_setBalance_self _ _

/-- A request is made and logged, or taken back. -/
theorem postChannelRequest_logged (hs : AppInv env s) (channelId requestId : String) (amount : ℕ)
    (requestHashText : String) (t : Times) :
    (postChannelRequest env channelId requestId amount requestHashText t).Leaves s
      (Logged env s) := by
  refine .okOr_bind (.refl env s) fun requestHash hhash => ?_
  refine .onVault_bind (submitRequest_clean ..) (.refl env s)
    fun _ v ⟨channel, hch, hst, hused, hle, hv⟩ => ?_
  subst hv
  obtain ⟨hok, -, -, -⟩ := hs.channel hch
  have hlookup : s.vault.ledger.channels[channelId]? = some channel.untimed := by simp [hch]
  refine .append_bind (run_rollbackSubmitRequest hst (hok.idle hst).1 hused hle)
    (.touch env s _ hch) (.get_bind (.okOr_some_bind (a := channel.lockRequest ..) (by simp; rfl) ?_))
  refine Logged.then (.commit_channel _ (.submit channelId requestId amount requestHash)
    (VaultState.ledger_setChannel_update hch rfl) ⟨channel.untimed, hlookup, hst, hused, hle⟩
    rfl rfl rfl (.submit _ _ _ hhash) rfl)
    (leaves_refresh_receipt env channel.client t.later fun t' => .pure (.refl env t'))

/-! ### Expire -/

/-- An expiry is made and logged, or taken back. -/
theorem expireStaleChannelRequest_logged (hs : AppInv env s) (channelId : String) (t : Times) :
    (expireStaleChannelRequest env channelId t).Leaves s (Logged env s) := by
  refine .onVault_bind (expireRequest_clean channelId t.now s.vault) (.refl env s)
    fun outcome v hv => ?_
  obtain ⟨rfl, rfl⟩ | ⟨channel, request, hch, hst, hr, -, rfl, rfl⟩ := hv
  · exact .pure (.refl env s)
  · obtain ⟨hok, hid, -, -⟩ := hs.channel hch
    have hlookup : s.vault.ledger.channels[channelId]? = some channel.untimed := by simp [hch]
    have hr' : channel.untimed.activeRequest = some request.untimed := by simp [hr]
    refine .append_bind (run_rollbackExpireRequest hid hr (hok.clientLocked_eq hst hr).ge)
      (.touch env s _ hch) ?_
    refine Logged.then (.commit_channel _ (.expireRequest channelId) ?_
      ⟨channel.untimed, request.untimed, hlookup, hst, hr'⟩ rfl rfl rfl
      (@Means.expireRequest env _ _ request.untimed _ hlookup hr') rfl)
      (leaves_refresh_receipt env channel.client t.later fun t' => .pure (.refl env t'))
    exact VaultState.ledger_setChannel_update hch (by simp [Ledger.activeAmount, hr]; rfl)

/-! ### Deliver -/

/-- Decoding changes nothing. -/
theorem decodeHex32_clean {value : String} {badHex badLength : EnclaveError} :
    (decodeHex32 value badHex badLength).Clean s fun b s' =>
      hexDecode32 value = some b ∧ s' = s := by
  refine .okOr_bind fun bytes hbytes => ?_
  cases h : Bytes32.ofList? bytes with
  | none => exact .fail rfl
  | some b => exact .of_run rfl ⟨by simp [hexDecode32, hbytes, h], rfl⟩

/-- What the log keeps of a delivery decodes to it. -/
def ChannelDeliverRequest.Decodes (env : Env) (req : ChannelDeliverRequest)
    (delivery : AdaptorDelivery) : Prop :=
  hexDecode32 req.adaptorPoint = some delivery.adaptorPoint ∧
    hexDecode32 req.preSigRPrime = some delivery.preSig.rPrime ∧
    hexDecode32 req.preSigSPrime = some delivery.preSig.sPrime ∧
    env.base64Decode req.encryptedResult = some delivery.encryptedResult ∧
    hexDecode32 req.resultHash = some delivery.resultHash ∧
    hexDecode32 req.providerPubkey = some delivery.providerPubkey

/-- Decoding a delivery changes nothing. -/
theorem ChannelDeliverRequest.decode_clean (req : ChannelDeliverRequest) :
    (req.decode env).Clean s fun delivery s' => req.Decodes env delivery ∧ s' = s := by
  refine .read_bind decodeHex32_clean fun _ h₁ => .read_bind decodeHex32_clean fun _ h₂ =>
    .read_bind decodeHex32_clean fun _ h₃ => .okOr_bind fun _ h₄ =>
    .read_bind decodeHex32_clean fun _ h₅ => .read_bind decodeHex32_clean fun _ h₆ => ?_
  exact .of_run rfl ⟨⟨h₁, h₂, h₃, h₄, h₅, h₆⟩, rfl⟩

/-- A refused delivery changes nothing, or expires the request it came too late for. -/
theorem deliverOrExpire_error {channelId : String} {delivery : AdaptorDelivery} {t : Times}
    {e : EnclaveError}
    (he : (deliverAdaptor env.curve channelId delivery t.now).run s.vault = (.error e, s.vault)) :
    ∃ e', (deliverOrExpire env channelId delivery t).run s = (.error e', s) ∨
      (deliverOrExpire env channelId delivery t).run s = (.error e',
        ((expireStaleChannelRequest env channelId { now := t.later, later := t.later }).run s).2) := by
  have hrun : (deliverOrExpire env channelId delivery t).run s
      = (if e = .channelRequestExpired then
          expireStaleChannelRequest env channelId { now := t.later, later := t.later } >>= fun _ =>
            throw e
        else throw e).run s := by
    simp only [deliverOrExpire, Prog.run_tryCatch, run_onVault, he, AppState.setVault_self]
  rw [hrun]
  split
  · rw [Prog.run_bind]
    rcases h : (expireStaleChannelRequest env channelId ⟨t.later, t.later⟩).run s with
      ⟨e' | b, s'⟩
    · exact ⟨e', .inr rfl⟩
    · exact ⟨e, .inr rfl⟩
  · exact ⟨e, .inl rfl⟩

/-- A delivery that verifies is stored. -/
theorem run_deliverOrExpire {channelId : String} {delivery : AdaptorDelivery} {t : Times}
    {v : VaultState}
    (hv : (deliverAdaptor env.curve channelId delivery t.now).run s.vault = (.ok (), v)) :
    (deliverOrExpire env channelId delivery t).run s = (.ok (), s.setVault v) := by
  simp only [deliverOrExpire, Prog.run_tryCatch, run_onVault, hv]

/-- A delivery is stored and logged, taken back, or too late. -/
theorem postChannelDeliver_logged (hs : AppInv env s) (req : ChannelDeliverRequest) (t : Times) :
    (postChannelDeliver env req t).Leaves s (Logged env s) := by
  refine .clean_bind req.decode_clean (.refl env s) fun delivery s₁ ⟨hdec, hs₁⟩ => ?_
  subst hs₁
  refine .get_bind <| .okOr_bind (.refl env s₁) fun channel hch => ?_
  refine .clean_bind (registeredProviderParticipantPubkey_clean channel.providerId s₁)
    (.refl env s₁) fun _ s₂ ⟨_, hs₂⟩ => ?_
  subst hs₂
  refine .failIf_bind (fun _ => .refl env s₂) fun _ => .okOr_bind (.refl env s₂) fun request hr => ?_
  obtain ⟨hok, -, -, -⟩ := hs.channel hch
  obtain ⟨e, he⟩ | ⟨_, v, hv, hdel⟩ :=
    deliverAdaptor_clean env.curve req.channelId delivery t.now s₂.vault
  · obtain ⟨e', hrun | hrun⟩ := deliverOrExpire_error he
    · exact .of_run (by rw [Prog.run_bind, hrun]) (.refl env s₂)
    · exact .of_run (by rw [Prog.run_bind, hrun])
        (expireStaleChannelRequest_logged hs req.channelId ⟨t.later, t.later⟩)
  · obtain ⟨channel', request', hch', hst, hr', -, hverify, rfl⟩ := hdel
    obtain rfl : channel = channel' := Option.some.inj (hch.symm.trans hch')
    obtain rfl : request = request' := Option.some.inj (hr.symm.trans hr')
    have hlookup : s₂.vault.ledger.channels[req.channelId]? = some channel.untimed := by simp [hch]
    have hr' : channel.untimed.activeRequest = some request.untimed := by simp [hr]
    obtain ⟨h₁, h₂, h₃, h₄, h₅, h₆⟩ := hdec
    refine .run_bind (run_deliverOrExpire hv) (leaves_append
      (run_rollbackDeliverAdaptor hst hr (hok.undelivered hst request hr)) (.touch env s₂ _ hch) ?_)
    refine .commit_channel _ (.deliver req.channelId delivery)
      (VaultState.ledger_setChannel_update hch (by simp [hr]; rfl))
      ⟨channel.untimed, request.untimed, hlookup, hst, hr', hverify⟩ rfl rfl rfl
      (.deliver _ _ h₁ h₂ h₃ h₄ h₅ h₆) rfl

/-! ### Finalize, close -/

/-- What follows a finalized request. -/
theorem logFinalized_logged (hs : AppInv env s) {channelId : String} {channel : ChannelState}
    {request : ChannelRequest} {outcome : FinalizeOutcome} {now : ℤ} (t : Times)
    (hch : s.vault.activeChannels[channelId]? = some channel) (hst : channel.status = .pending)
    (hr : channel.activeRequest = some request) (hid : outcome.requestId = request.requestId)
    (hamount : outcome.amount = request.amount) (hrequest : outcome.request = request) :
    (logFinalized env channelId outcome t).Leaves
      (s.setVault (s.vault.setChannel channelId (channel.payProvider request.amount now)))
      (Logged env s) := by
  obtain ⟨hok, -, -, -⟩ := hs.channel hch
  have hlookup : s.vault.ledger.channels[channelId]? = some channel.untimed := by simp [hch]
  have hr' : channel.untimed.activeRequest = some request.untimed := by simp [hr]
  rw [logFinalized, hid, hamount, hrequest]
  refine .append_bind (run_rollbackFinalizeOffchain hst hr (hok.clientLocked_eq (.inr hst) hr).ge)
    (.touch env s _ hch)
    (.get_bind (.okOr_some_bind (a := channel.payProvider request.amount now) (by simp) ?_))
  refine Logged.then (.commit_channel _ (.finalize channelId)
    (VaultState.ledger_setChannel_update hch (by simp [Ledger.activeAmount, hr]; rfl))
    ⟨channel.untimed, request.untimed, hlookup, hst, hr'⟩ rfl rfl rfl
    (@Means.finalize env _ _ request.untimed _ hlookup hr') rfl)
    (leaves_refresh_receipt env channel.client t.later fun t' => .pure (.refl env t'))

/-- A finalized request is paid and logged, or taken back. -/
theorem postChannelFinalize_logged (hs : AppInv env s) (channelId adaptorSecretText : String)
    (t : Times) :
    (postChannelFinalize env channelId adaptorSecretText t).Leaves s (Logged env s) := by
  refine .clean_bind decodeHex32_clean (.refl env s) fun secret s₁ ⟨_, hs₁⟩ => ?_
  subst hs₁
  refine .onVault_bind (finalizeOffchain_clean ..) (.refl env s₁)
    fun outcome v ⟨channel, request, hch, hst, hr, hid, hamount, hrequest, hv⟩ => ?_
  subst hv
  exact logFinalized_logged hs t hch hst hr hid hamount hrequest

/-- A claim on chain is paid and logged, or taken back. -/
theorem recoverChannelClaim_logged (hs : AppInv env s) (channelId : String)
    (fullSig : AdaptedSignature) (t : Times) :
    (recoverChannelClaim env channelId fullSig t).Leaves s (Logged env s) := by
  refine .onVault_bind (finalizeOnchainClaim_clean ..) (.refl env s)
    fun outcome v ⟨channel, request, hch, hst, hr, hid, hamount, hrequest, hv⟩ => ?_
  subst hv
  exact logFinalized_logged hs t hch hst hr hid hamount hrequest

/-- A closed channel is paid out and logged, or reopened. -/
theorem postChannelClose_logged (hs : AppInv env s) (channelId : String) (t : Times) :
    (postChannelClose env channelId t).Leaves s (Logged env s) := by
  have hdraw := Logged.draw env s
  have hfresh : s.vault.ledger.FreshSettlement (env.freshId .channelSettlement s.drawn) :=
    hs.ids.fresh (Env.not_drawn_freshId _ le_rfl)
  refine .run_bind (run_newId ..) (.onVault_bind (closeChannelWithSettlementId_clean _ _ _ _ _
    fun channel hch => ?_) hdraw ?_)
  · obtain ⟨-, -, ⟨balance, hb, -⟩, hp⟩ := hs.channel hch
    exact ⟨⟨balance, hb⟩, hp⟩
  · rintro _ _ ⟨channel, balance, provider, hch, hst, hb, hp, rfl, rfl⟩
    replace hch : s.vault.activeChannels[channelId]? = some channel := hch
    replace hb : s.vault.clientBalances[channel.client]? = some balance := hb
    replace hp : s.vault.providers[channel.providerId]? = some provider := hp
    obtain ⟨hok, hid, ⟨balance', hb', hle⟩, -⟩ := hs.channel hch
    obtain rfl : balance = balance' := Option.some.inj (hb.symm.trans hb')
    have hle' : channel.balance.clientFree + channel.balance.providerEarned ≤ balance.locked := by
      simp only [ChannelBalance.sum] at hle
      omega
    have hlookup : s.vault.ledger.channels[channelId]? = some channel.untimed := by simp [hch]
    obtain ⟨hknown, hexact, hnonce, hreceipt⟩ := VaultState.afterClose_frame s.vault
      channelId provider (env.freshId .channelSettlement s.drawn) t.now hle'
    refine .append_bind (run_rollbackCloseChannel hch hid hb hle') (hdraw.trans (.skip env _)) ?_
    refine Logged.then (hdraw.trans (.commit_vault (.of_vault
      (.close channelId (env.freshId .channelSettlement s.drawn)) hknown hexact hnonce.ge hreceipt
      (VaultState.ledger_afterClose hch hb hp)
      ⟨hfresh, channel.untimed, provider, hlookup, hst, hp⟩ ⟨?_, by rintro _ ⟨⟩, by rintro _ ⟨⟩⟩
      (by rintro _ ⟨⟩)) (.close hlookup _ _) rfl))
      (leaves_refresh_receipt env channel.client t.later fun t' => ?_)
    · simpa [LedgerEvent.newIds] using
        Env.drawn_freshId (n := s.drawn + 1) .channelSettlement (by omega)
    · split
      · exact .logged_bind (leaves_issueProviderReceiptLocked env _ _ t') fun _ t' =>
          .pure (.refl env t')
      · exact .pure (.refl env t')

end Handlers

end Subly402
