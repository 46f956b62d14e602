/-
# A log that explains the books

How the books can move, and what the log has to say about it.
-/

import Subly402.Ledger.Conservation
import Subly402.Ledger.Ids
import Subly402.Enclave.Decode

namespace Subly402

open Lib

variable {ev : LedgerEvent} {n : ℕ} {l : Ledger} {key : String}

/-- The withdrawal nonce an event brings into the books. -/
def LedgerEvent.newNonce : LedgerEvent → Option ℕ
  | .authorize withdrawal => some withdrawal.withdrawNonce
  | _ => none

/-- The channel an event opens. -/
def LedgerEvent.newChannel : LedgerEvent → Option String
  | .openChannel channelId _ _ _ => some channelId
  | _ => none

/-- How far the supplies have been drawn: `uuid`s from `since` up to `ids`, and withdrawal nonces
from `lo` up to `hi`. -/
structure Supply where
  since : ℕ
  ids : ℕ
  lo : ℕ
  hi : ℕ

/-- An event that takes what it brings in from the supplies. -/
structure LedgerEvent.From (env : Env) (supply : Supply) (ev : LedgerEvent) : Prop where
  ids : ∀ id ∈ ev.newIds, env.Drawn supply.ids id
  nonce : ∀ n, ev.newNonce = some n → supply.lo ≤ n ∧ n < supply.hi
  channel : ∀ id, ev.newChannel = some id → ¬ env.Drawn supply.since id

/-- A supply that covers another. -/
structure Supply.Covers (supply' supply : Supply) : Prop where
  since : supply'.since ≤ supply.since
  ids : supply.ids ≤ supply'.ids
  lo : supply'.lo ≤ supply.lo
  hi : supply.hi ≤ supply'.hi

/-- A larger supply. -/
theorem LedgerEvent.From.mono {env : Env} {supply supply' : Supply} (h : ev.From env supply)
    (hle : supply'.Covers supply) : ev.From env supply' :=
  ⟨fun id hid => (h.ids id hid).mono hle.ids, fun n hn =>
    ⟨hle.lo.trans (h.nonce n hn).1, (h.nonce n hn).2.trans_le hle.hi⟩,
    fun id hid hdrawn => h.channel id hid (hdrawn.mono hle.since)⟩

/-! ### Runs of events -/

/-- The books go from one state to another by allowed events, and may lose a credit: a settlement
that is rolled back takes a credit of amount zero with it. -/
inductive Evolves (env : Env) (supply : Supply) : Ledger → Ledger → Prop
  | refl (l : Ledger) : Evolves env supply l l
  | dropCredit {l l' : Ledger} (h : Evolves env supply l l') (providerId : String) :
      Evolves env supply l (l'.dropCredit providerId)
  | event {l l' : Ledger} {ev : LedgerEvent} (h : Evolves env supply l l')
      (he : l'.Enabled env.curve ev) (hfrom : ev.From env supply) :
      Evolves env supply l (l'.apply ev)

namespace Evolves

variable {env : Env} {supply supply' : Supply} {l l' l'' : Ledger}

/-- A larger supply. -/
theorem mono (h : Evolves env supply l l') (hle : supply'.Covers supply) :
    Evolves env supply' l l' := by
  induction h with
  | refl => exact .refl _
  | dropCredit _ providerId ih => exact ih.dropCredit providerId
  | event _ he hfrom ih => exact ih.event he (hfrom.mono hle)

/-- One run after another. -/
theorem trans (h : Evolves env supply l l') (h' : Evolves env supply l' l'') :
    Evolves env supply l l'' := by
  induction h' with
  | refl => exact h
  | dropCredit _ providerId ih => exact ih.dropCredit providerId
  | event _ he hfrom ih => exact ih.event he hfrom

/-- A run keeps the books in shape. -/
theorem wellFormed (h : Evolves env supply l l') (hw : l.WellFormed) : l'.WellFormed := by
  induction h with
  | refl => exact hw
  | dropCredit _ providerId ih => exact ih.dropCredit providerId
  | event _ he _ ih => exact ih.apply he

/-- A run keeps the sums. -/
theorem conserved (h : Evolves env supply l l') (hw : l.WellFormed) (hc : l.Conserved) :
    l'.Conserved := by
  induction h with
  | refl => exact hc
  | dropCredit _ _ ih => exact ih.of_same rfl fun _ => ⟨rfl, rfl⟩
  | event h he _ ih => exact ih.apply (h.wellFormed hw) he

/-- The ids of a run are those it started with or drew. -/
theorem ids (h : Evolves env supply l l') (hl : l.IdsIn (env.Drawn n)) (hn : n ≤ supply.ids) :
    l'.IdsIn (env.Drawn supply.ids) := by
  induction h with
  | refl => exact hl.imp fun _ hid => hid.mono hn
  | dropCredit _ providerId ih => exact ih.dropCredit providerId
  | event _ he hfrom ih => exact ih.apply he hfrom.ids

end Evolves

/-! ### Pending withdrawals -/

namespace Ledger

/-- A confirmed batch touches the reservations, the credits, the history and the batches only. -/
theorem confirm_eq (l : Ledger) (settlementIds : List String) (batchId : ℕ) (tx : String) :
    ∃ reservations credits history batches, l.confirm settlementIds batchId tx
      = { l with reservations, credits, history, batches } := by
  refine confirm_induction (motive := fun l' => ∃ reservations credits history batches,
    l' = { l with reservations, credits, history, batches }) settlementIds batchId tx
    ⟨_, _, _, _, rfl⟩ (fun acc settlementId hacc => ?_) fun l' providerId hl => ?_
  · obtain ⟨_, _, _, _, hacc⟩ := hacc
    obtain ⟨_, _, _, _, heq, -⟩ := confirmSettlement_cases batchId tx acc settlementId
    exact ⟨_, _, _, _, by rw [heq, hacc]⟩
  · obtain ⟨_, _, _, _, rfl⟩ := hl
    exact ⟨_, _, _, _, rfl⟩

section Confirm

variable (l : Ledger) (settlementIds : List String) (batchId : ℕ) (tx : String)

/-- A confirmed batch leaves the pending withdrawals. -/
theorem confirm_pending : (l.confirm settlementIds batchId tx).pending = l.pending := by
  obtain ⟨_, _, _, _, h⟩ := confirm_eq l settlementIds batchId tx
  rw [h]

/-- It leaves the accounts. -/
theorem confirm_account : (l.confirm settlementIds batchId tx).account = l.account := by
  obtain ⟨_, _, _, _, h⟩ := confirm_eq l settlementIds batchId tx
  rw [h]

/-- It leaves the channels. -/
theorem confirm_channels : (l.confirm settlementIds batchId tx).channels = l.channels := by
  obtain ⟨_, _, _, _, h⟩ := confirm_eq l settlementIds batchId tx
  rw [h]

/-- It leaves the providers. -/
theorem confirm_providers : (l.confirm settlementIds batchId tx).providers = l.providers := by
  obtain ⟨_, _, _, _, h⟩ := confirm_eq l settlementIds batchId tx
  rw [h]

end Confirm

/-- Only a deposit changes what a client has deposited. -/
theorem deposited_apply (hev : ∀ c a, ev ≠ .deposit c a) (client : Pubkey) :
    ((l.apply ev).account client).deposited = (l.account client).deposited := by
  have hupdate : ∀ (c : Pubkey) (a : Account), a.deposited = (l.account c).deposited →
      (Function.update l.account c a client).deposited = (l.account client).deposited := by
    intro c a ha
    rw [Function.update_apply]
    split
    · next hc => rw [ha, hc]
    · rfl
  cases ev with
  | deposit c a => exact (hev c a rfl).elim
  | confirm ids b tx => rw [apply, confirm_account]
  | _ =>
    simp only [apply, settle, close, updateChannel]
    repeat' split
    all_goals first
      | rfl
      | exact hupdate _ _ rfl

/-- What a client has deposited never goes down. -/
theorem deposited_le_apply (l : Ledger) (ev : LedgerEvent) (client : Pubkey) :
    (l.account client).deposited ≤ ((l.apply ev).account client).deposited := by
  by_cases hev : ∃ c a, ev = .deposit c a
  · obtain ⟨c, a, rfl⟩ := hev
    rw [apply, setAccount_account, Function.update_apply]
    split
    · next hc => exact hc ▸ Nat.le_add_right _ _
    · exact le_rfl
  · exact (deposited_apply (fun c a h => hev ⟨c, a, h⟩) client).ge

/-- What an event leaves pending was pending, or is what it authorises. -/
theorem pending_apply {w : PendingWithdrawal} (h : (l.apply ev).pending[n]? = some w) :
    l.pending[n]? = some w ∨ ev = .authorize w ∧ n = w.withdrawNonce := by
  cases ev with
  | authorize w' =>
    obtain ⟨hn, rfl⟩ | h := FiniteMap.lookup_insert_cases h
    · exact .inr ⟨rfl, hn⟩
    · exact .inl h
  | withdraw k | expireWithdrawal k =>
    simp only [apply] at h
    split at h
    · exact .inl (FiniteMap.lookup_of_erase h)
    · exact .inl h
  | confirm ids b tx => exact .inl ((confirm_pending l ids b tx) ▸ h)
  | _ =>
    simp only [apply, settle, close, updateChannel] at h
    repeat' split at h
    all_goals exact .inl h

/-! ### Reservations -/

/-- A reservation that an event leaves was there, with its client and amount, or is the one that it
makes. -/
theorem reservation_apply {r' : Reservation} (h : (l.apply ev).reservations[key]? = some r') :
    (∃ r, l.reservations[key]? = some r ∧ r'.client = r.client ∧ r'.amount = r.amount) ∨
      ev = .reserve r' := by
  have hset : ∀ {k : String} {r r₁ : Reservation}, l.reservations[k]? = some r →
      (l.reservations.insert k r₁)[key]? = some r' → r₁.client = r.client → r₁.amount = r.amount →
      ∃ r, l.reservations[key]? = some r ∧ r'.client = r.client ∧ r'.amount = r.amount := by
    intro k r r₁ hr h hclient hamount
    obtain ⟨rfl, rfl⟩ | h := FiniteMap.lookup_insert_cases h
    · exact ⟨r, hr, hclient, hamount⟩
    · exact ⟨r', h, rfl, rfl⟩
  cases ev with
  | reserve r =>
    obtain ⟨-, rfl⟩ | h := FiniteMap.lookup_insert_cases h
    · exact .inr rfl
    · exact .inl ⟨r', h, rfl, rfl⟩
  | release k status =>
    simp only [apply] at h
    split at h
    · next r hr => exact .inl (hset hr h rfl rfl)
    · exact .inl ⟨r', h, rfl, rfl⟩
  | settle k settlementId t =>
    simp only [apply, settle] at h
    split at h
    · exact .inl ⟨r', h, rfl, rfl⟩
    · next r hr =>
      split at h
      · exact .inl ⟨r', h, rfl, rfl⟩
      · exact .inl (hset hr h rfl rfl)
  | confirm ids b tx =>
    refine .inl (confirm_induction (motive := fun l' => ∀ (key : String) (r' : Reservation),
      l'.reservations[key]? = some r' →
        ∃ r, l.reservations[key]? = some r ∧ r'.client = r.client ∧ r'.amount = r.amount) ids b tx
      (fun _ r hr => ⟨r, hr, rfl, rfl⟩) (fun acc id hacc => ?_) (fun _ _ hl => hl) key r' h)
    obtain ⟨_, _, _, _, heq, rfl | ⟨k, r, hr, -, rfl⟩⟩ := confirmSettlement_cases b tx acc id <;>
      rw [heq]
    · exact hacc
    · exact FiniteMap.forall_insert hacc (hacc k r hr)
  | _ =>
    simp only [apply, close, updateChannel] at h
    repeat' split at h
    all_goals exact .inl ⟨r', h, rfl, rfl⟩

/-! ### Providers -/

/-- No event takes a provider away or changes it. -/
theorem provider_apply {curve : Curve} (he : l.Enabled curve ev) {provider : ProviderRegistration}
    (h : l.providers[key]? = some provider) :
    (l.apply ev).providers[key]? = some provider := by
  cases ev with
  | register other =>
    rw [apply, setProvider_providers, FiniteMap.lookup_insert]
    split
    · next hkey =>
      subst hkey
      cases he.symm.trans h
    · exact h
  | confirm ids b tx => exact confirm_providers l ids b tx ▸ h
  | _ =>
    simp only [apply, settle, close, updateChannel]
    repeat' split
    all_goals exact h

/-! ### Channels -/

/-- What an event makes of the channel it turns. -/
inductive Turns (channelId : String) (channel : ChannelState) : LedgerEvent → ChannelState → Prop
  | submit (requestId : String) (amount : ℕ) (requestHash : Bytes32) :
      Turns channelId channel (.submit channelId requestId amount requestHash)
        (channel.lockRequest requestId amount requestHash 0)
  | deliver {request : ChannelRequest} (delivery : AdaptorDelivery)
      (hr : channel.activeRequest = some request) :
      Turns channelId channel (.deliver channelId delivery) (channel.storeAdaptor request delivery 0)
  | finalize :
      Turns channelId channel (.finalize channelId) (channel.payProvider (activeAmount channel) 0)
  | expireRequest :
      Turns channelId channel (.expireRequest channelId)
        (channel.refundClient (activeAmount channel) 0)

/-- A channel after an update is as before, or the one updated. -/
theorem channel_updateChannel {channelId : String} {f : ChannelState → ChannelState}
    {channel' : ChannelState} (h : (l.updateChannel channelId f).channels[key]? = some channel') :
    l.channels[key]? = some channel' ∨
      ∃ channel, l.channels[key]? = some channel ∧ key = channelId ∧ channel' = (f channel).untimed := by
  rw [updateChannel] at h
  split at h
  · next channel hch =>
    obtain ⟨hkey, rfl⟩ | h := FiniteMap.lookup_insert_cases h
    · exact .inr ⟨channel, hkey ▸ hch, hkey, rfl⟩
    · exact .inl h
  · exact .inl h

/-- A channel that an event leaves was there, was opened by it, or was turned by it. -/
theorem channel_apply {curve : Curve} (he : l.Enabled curve ev) {channel' : ChannelState}
    (h : (l.apply ev).channels[key]? = some channel') :
    l.channels[key]? = some channel' ∨
      (∃ client providerId amount, ev = .openChannel key client providerId amount ∧
        channel' = newChannel key client providerId amount 0) ∨
      ∃ channel turned, l.channels[key]? = some channel ∧ Turns key channel ev turned ∧
        channel' = turned.untimed := by
  cases ev with
  | confirm ids b tx => exact .inl (confirm_channels l ids b tx ▸ h)
  | close channelId settlementId =>
    obtain ⟨-, _, _, hch, -, hp⟩ := he
    simp only [apply, close, hch, hp] at h
    split at h <;> exact .inl (FiniteMap.lookup_of_erase h)
  | openChannel channelId client providerId amount =>
    obtain ⟨rfl, rfl⟩ | h := FiniteMap.lookup_insert_cases h
    · exact .inr (.inl ⟨client, providerId, amount, rfl, rfl⟩)
    · exact .inl h
  | submit channelId requestId amount requestHash =>
    obtain h | ⟨channel, hch, rfl, rfl⟩ := channel_updateChannel h
    · exact .inl h
    · exact .inr (.inr ⟨channel, _, hch, .submit _ _ _, rfl⟩)
  | deliver channelId delivery =>
    obtain ⟨channel₁, request, hch₁, -, hr, -⟩ := he
    obtain h | ⟨channel, hch, rfl, rfl⟩ := channel_updateChannel h
    · exact .inl h
    · obtain rfl : channel₁ = channel := Option.some.inj (hch₁.symm.trans hch)
      exact .inr (.inr ⟨channel₁, _, hch, .deliver delivery hr, by simp only [hr]⟩)
  | finalize channelId =>
    obtain h | ⟨channel, hch, rfl, rfl⟩ := channel_updateChannel h
    · exact .inl h
    · exact .inr (.inr ⟨channel, _, hch, .finalize, rfl⟩)
  | expireRequest channelId =>
    obtain h | ⟨channel, hch, rfl, rfl⟩ := channel_updateChannel h
    · exact .inl h
    · exact .inr (.inr ⟨channel, _, hch, .expireRequest, rfl⟩)
  | _ =>
    simp only [apply, settle] at h
    repeat' split at h
    all_goals exact .inl h

end Ledger

namespace Evolves

variable {env : Env} {supply : Supply} {l l' : Ledger}

/-- A withdrawal pending under an old nonce was pending before. -/
theorem pending_of_lt (h : Evolves env supply l l') (hn : n < supply.lo) {w : PendingWithdrawal}
    (hw : l'.pending[n]? = some w) : l.pending[n]? = some w := by
  induction h with
  | refl => exact hw
  | dropCredit _ _ ih => exact ih hw
  | event _ _ hfrom ih =>
    obtain hw | ⟨rfl, rfl⟩ := Ledger.pending_apply hw
    · exact ih hw
    · have := (hfrom.nonce _ rfl).1
      omega

/-- A provider stays registered as it is. -/
theorem provider (h : Evolves env supply l l') {provider : ProviderRegistration}
    (hp : l.providers[key]? = some provider) : l'.providers[key]? = some provider := by
  induction h with
  | refl => exact hp
  | dropCredit _ _ ih => exact ih
  | event _ he _ ih => exact Ledger.provider_apply he ih

/-- Every pending nonce is below the counter. -/
theorem nonces (h : Evolves env supply l l') {m : ℕ} (hm : m ≤ supply.hi)
    (hl : ∀ n w, l.pending[n]? = some w → n < m) :
    ∀ n w, l'.pending[n]? = some w → n < supply.hi := by
  induction h with
  | refl => exact fun n w hw => (hl n w hw).trans_le hm
  | dropCredit _ _ ih => exact ih
  | event _ _ hfrom ih =>
    intro n w hw
    obtain hw | ⟨rfl, rfl⟩ := Ledger.pending_apply hw
    · exact ih n w hw
    · exact (hfrom.nonce _ rfl).2

end Evolves

/-! ### Entries -/

/-- Entries that replay reads for a counter or not at all. -/
def WalEntry.isNote : WalEntry → Bool
  | .participantReceiptIssued .. | .participantReceiptMirrored .. | .batchSubmitted .. => true
  | _ => false

/-- The signature of the transaction an entry records. -/
def WalEntry.txSignature? : WalEntry → Option String
  | .depositApplied _ _ _ txSignature => some txSignature
  | .withdrawApplied _ _ _ _ _ _ txSignature => some txSignature
  | _ => none

/-- The event that an entry records, in the books it was logged in.  What a client sets aside is
positive: a client may set aside nothing without having a record. -/
inductive Means (env : Env) (l : Ledger) : WalEntry → LedgerEvent → Prop
  | deposit {client : Pubkey} {text : String} (amount slot : ℕ) (tx : String)
      (hclient : env.pubkeyFromStr text = some client) :
      Means env l (.depositApplied text amount slot tx) (.deposit client amount)
  | authorize {w : PendingWithdrawal} {client recipient : String}
      (hclient : env.pubkeyFromStr client = some w.client)
      (hrecipient : env.pubkeyFromStr recipient = some w.recipientAta) (hpos : 0 < w.amount) :
      Means env l
        (.withdrawAuthorized client recipient w.amount w.withdrawNonce w.issuedAt w.expiresAt)
        (.authorize w)
  | withdraw {w : PendingWithdrawal} {client recipient : String} {n : ℕ} (slot : ℕ) (tx : String)
      (hw : l.pending[n]? = some w) (hclient : env.pubkeyFromStr client = some w.client)
      (hrecipient : env.pubkeyFromStr recipient = some w.recipientAta) :
      Means env l (.withdrawApplied client recipient w.amount n w.expiresAt slot tx) (.withdraw n)
  | expireWithdrawal {w : PendingWithdrawal} {client : String} {n : ℕ}
      (hw : l.pending[n]? = some w) (hclient : env.pubkeyFromStr client = some w.client) :
      Means env l (.withdrawExpired client n) (.expireWithdrawal n)
  | reserve {r : Reservation} {client requestHash detailsHash : String}
      (hclient : env.pubkeyFromStr client = some r.client)
      (hrequest : hexDecode32 requestHash = some r.requestHash)
      (hdetails : hexDecode32 detailsHash = some r.paymentDetailsHash)
      (hsettledAt : r.settledAt = none) (hpos : 0 < r.amount) :
      Means env l
        (.reservationCreated r.verificationId (some r.reservationId) r.paymentId client
          r.providerId r.amount (some requestHash) (some detailsHash) (some r.createdAt)
          (some r.expiresAt))
        (.reserve r)
  | cancel (verificationId reason : String) :
      Means env l (.reservationCancelled verificationId reason)
        (.release verificationId .cancelled)
  | expire (verificationId : String) :
      Means env l (.reservationExpired verificationId) (.release verificationId .expired)
  | settle {r : Reservation} {verificationId : String} (settlementId : String) (t : ℤ)
      (hr : l.reservations[verificationId]? = some r) :
      Means env l
        (.settlementCommitted settlementId verificationId r.providerId r.amount (some t))
        (.settle verificationId settlementId t)
  | register {entry : WalEntry} {provider : ProviderRegistration}
      (h : decodeRegistration env entry = some (.ok provider)) :
      Means env l entry (.register provider)
  | confirm (batchId : ℕ) (tx : String) (settlementIds : List String) :
      Means env l (.batchConfirmed batchId tx settlementIds) (.confirm settlementIds batchId tx)
  | openChannel {client : Pubkey} {text : String} (channelId providerId : String)
      (initialDeposit : ℕ) (hclient : env.pubkeyFromStr text = some client)
      (hpos : 0 < initialDeposit) :
      Means env l (.channelOpened channelId text providerId initialDeposit)
        (.openChannel channelId client providerId initialDeposit)
  | submit {requestHash : Bytes32} {text : String} (channelId requestId : String) (amount : ℕ)
      (hhash : hexDecode32 text = some requestHash) :
      Means env l (.channelRequestSubmitted channelId requestId amount (some text))
        (.submit channelId requestId amount requestHash)
  | deliver {delivery : AdaptorDelivery} (channelId requestId : String)
      {point rPrime sPrime encrypted resultHash pubkey : String}
      (hpoint : hexDecode32 point = some delivery.adaptorPoint)
      (hr : hexDecode32 rPrime = some delivery.preSig.rPrime)
      (hs : hexDecode32 sPrime = some delivery.preSig.sPrime)
      (hencrypted : env.base64Decode encrypted = some delivery.encryptedResult)
      (hresult : hexDecode32 resultHash = some delivery.resultHash)
      (hpubkey : hexDecode32 pubkey = some delivery.providerPubkey) :
      Means env l
        (.channelAdaptorDelivered channelId requestId (some point) (some rPrime) (some sPrime)
          (some encrypted) (some resultHash) (some pubkey))
        (.deliver channelId delivery)
  | finalize {channel : ChannelState} {request : ChannelRequest} {channelId : String}
      (hch : l.channels[channelId]? = some channel) (hr : channel.activeRequest = some request) :
      Means env l (.channelFinalized channelId request.requestId request.amount)
        (.finalize channelId)
  | expireRequest {channel : ChannelState} {request : ChannelRequest} {channelId : String}
      (hch : l.channels[channelId]? = some channel) (hr : channel.activeRequest = some request) :
      Means env l (.channelRequestExpired channelId request.requestId request.amount)
        (.expireRequest channelId)
  | close {channel : ChannelState} {channelId settlementId : String}
      (hch : l.channels[channelId]? = some channel) (returned earned : ℕ) :
      Means env l
        (.channelClosed channelId returned earned
          (if 0 < channel.balance.providerEarned then some settlementId else none))
        (.close channelId settlementId)

/-- The entries record how the books went from one state to another. -/
inductive Explains (env : Env) (supply : Supply) : Ledger → List WalEntry → Ledger → Prop
  | nil (l : Ledger) : Explains env supply l [] l
  | note {l l' : Ledger} {es : List WalEntry} (h : Explains env supply l es l') {e : WalEntry}
      (he : e.isNote) : Explains env supply l (es ++ [e]) l'
  | event {l l' : Ledger} {es : List WalEntry} {e : WalEntry} {ev : LedgerEvent}
      (h : Explains env supply l es l') (he : l'.Enabled env.curve ev)
      (hfrom : ev.From env supply) (hmeans : Means env l' e ev) :
      Explains env supply l (es ++ [e]) (l'.apply ev)

namespace Explains

variable {env : Env} {supply supply' : Supply} {l l' l'' : Ledger} {es es' : List WalEntry}

/-- A larger supply. -/
theorem mono (h : Explains env supply l es l') (hle : supply'.Covers supply) :
    Explains env supply' l es l' := by
  induction h with
  | nil => exact .nil _
  | note _ he ih => exact ih.note he
  | event _ he hfrom hmeans ih => exact ih.event he (hfrom.mono hle) hmeans

/-- One log after another. -/
theorem trans (h : Explains env supply l es l') (h' : Explains env supply l' es' l'') :
    Explains env supply l (es ++ es') l'' := by
  induction h' with
  | nil => simpa using h
  | note _ he ih =>
    rw [← List.append_assoc]
    exact ih.note he
  | event _ he hfrom hmeans ih =>
    rw [← List.append_assoc]
    exact ih.event he hfrom hmeans

/-- Explained books evolve. -/
theorem evolves (h : Explains env supply l es l') : Evolves env supply l l' := by
  induction h with
  | nil => exact .refl _
  | note _ _ ih => exact ih
  | event _ he hfrom _ ih => exact ih.event he hfrom

end Explains

end Subly402
