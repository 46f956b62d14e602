/-
# Which settlements the credits name

A settlement id is new when it is credited, and it stays with the credit it was added to
until a batch takes it out.  So a settlement is named once, by one credit, and its record
pays the account that the provider of that credit has registered (`NamesOnce`).
-/

import Subly402.Ledger.Credits

namespace Subly402

open Lib

namespace Ledger

/-- A record pays the account that a provider has registered. -/
def PaysTo (l : Ledger) (providerId : String) (record : SettlementRecord) : Prop :=
  ∃ provider, l.providers[providerId]? = some provider ∧
    record.provider = provider.settlementTokenAccount

/-- A settlement is named once, by one credit, and paid to the account of that provider. -/
structure NamesOnce (l : Ledger) : Prop where
  nodup : ∀ (key : String) (c : ProviderCredit), l.credits[key]? = some c → c.settlementIds.Nodup
  once : ∀ (key key' : String) (c c' : ProviderCredit) (id : String), l.credits[key]? = some c →
    l.credits[key']? = some c' → id ∈ c.settlementIds → id ∈ c'.settlementIds → key = key'
  account : ∀ (key : String) (c : ProviderCredit) (id : String) (record : SettlementRecord),
    l.credits[key]? = some c → id ∈ c.settlementIds → l.history[id]? = some record →
    l.PaysTo key record

namespace NamesOnce

variable {l l' : Ledger}

section Writes

variable (h : l.NamesOnce)
include h

/-- Credits that lose ids, records that pay the right account, and registrations that stay. -/
theorem shrink
    (hcredits : ∀ (key : String) (c' : ProviderCredit), l'.credits[key]? = some c' →
      ∃ c, l.credits[key]? = some c ∧ c'.settlementIds.Sublist c.settlementIds)
    (hhistory : ∀ (key : String) (c : ProviderCredit) (id : String) (record : SettlementRecord),
      l.credits[key]? = some c → id ∈ c.settlementIds → l'.history[id]? = some record →
      l.history[id]? = some record ∨ l.PaysTo key record)
    (hproviders : ∀ (key : String) (p : ProviderRegistration), l.providers[key]? = some p →
      l'.providers[key]? = some p) : l'.NamesOnce where
  nodup key c' hc' := by
    obtain ⟨c, hc, hsub⟩ := hcredits key c' hc'
    exact (h.nodup key c hc).sublist hsub
  once key key' c c' id hc hc' hid hid' := by
    obtain ⟨d, hd, hsub⟩ := hcredits key c hc
    obtain ⟨d', hd', hsub'⟩ := hcredits key' c' hc'
    exact h.once key key' d d' id hd hd' (hsub.subset hid) (hsub'.subset hid')
  account key c' id record hc' hid hrecord := by
    obtain ⟨c, hc, hsub⟩ := hcredits key c' hc'
    have hpays : l.PaysTo key record := by
      rcases hhistory key c id record hc (hsub.subset hid) hrecord with hold | hpays
      · exact h.account key c id record hc (hsub.subset hid) hold
      · exact hpays
    obtain ⟨provider, hp, haccount⟩ := hpays
    exact ⟨provider, hproviders key provider hp, haccount⟩

/-- A write to another book. -/
theorem of_same (hcredits : l'.credits = l.credits)
    (hhistory : l'.history = l.history) (hproviders : l'.providers = l.providers) :
    l'.NamesOnce := by
  refine h.shrink (fun key c hc => ⟨c, hcredits ▸ hc, .refl _⟩) (fun _ _ id record _ _ hr => ?_)
    fun key p hp => hproviders ▸ hp
  exact .inl (hhistory ▸ hr)

/-- Reservations are outside it. -/
theorem setReservation (key : String) (r : Reservation) :
    (l.setReservation key r).NamesOnce := h.of_same rfl rfl rfl

/-- Closed channels are outside it. -/
theorem pushClosed (closed : ClosedChannel) : (l.pushClosed closed).NamesOnce :=
  h.of_same rfl rfl rfl

/-- Accounts are outside it. -/
theorem setAccount (client : Pubkey) (a : Account) :
    (l.setAccount client a).NamesOnce := h.of_same rfl rfl rfl

/-- Channels are outside it. -/
theorem dropChannel (channelId : String) : (l.dropChannel channelId).NamesOnce :=
  h.of_same rfl rfl rfl

/-- One credit loses ids. -/
theorem setCredit {key : String} {c c' : ProviderCredit}
    (hc : l.credits[key]? = some c) (hsub : c'.settlementIds.Sublist c.settlementIds) :
    (l.setCredit key c').NamesOnce := by
  refine h.shrink (fun k d hd => ?_) (fun _ _ _ _ _ _ hr => .inl hr) fun _ _ hp => hp
  obtain ⟨rfl, rfl⟩ | hd := FiniteMap.lookup_insert_cases hd
  · exact ⟨c, hc, hsub⟩
  · exact ⟨d, hd, .refl _⟩

/-- A credit that loses a settlement. -/
theorem setCredit_without {key : String} {c : ProviderCredit}
    (hc : l.credits[key]? = some c) (settlementId : String) (amount : ℕ) :
    (l.setCredit key (c.without settlementId amount)).NamesOnce :=
  h.setCredit hc List.filter_sublist

/-- A credit that goes. -/
theorem dropCredit (providerId : String) :
    (l.dropCredit providerId).NamesOnce :=
  h.shrink (fun _ c hc => ⟨c, FiniteMap.lookup_of_erase hc, .refl _⟩)
    (fun _ _ _ _ _ _ hr => .inl hr) fun _ _ hp => hp

/-- The history is outside it. -/
theorem dropHistory (settlementId : String) :
    (l.dropHistory settlementId).NamesOnce :=
  h.shrink (fun _ c hc => ⟨c, hc, .refl _⟩)
    (fun _ _ _ _ _ _ hr => .inl (FiniteMap.lookup_of_erase hr)) fun _ _ hp => hp

end Writes

/-- A record for a settlement that only its own provider's credit can name. -/
theorem setHistory (h : l.NamesOnce) {settlementId : String} {record : SettlementRecord}
    (hpays : ∀ (key : String) (c : ProviderCredit), l.credits[key]? = some c →
      settlementId ∈ c.settlementIds → l.PaysTo key record) :
    (l.setHistory settlementId record).NamesOnce := by
  refine h.shrink (fun key c hc => ⟨c, hc, .refl _⟩) (fun key c id record' hc hid hr => ?_)
    fun _ _ hp => hp
  obtain ⟨rfl, rfl⟩ | hr := FiniteMap.lookup_insert_cases hr
  · exact .inr (hpays key c hc hid)
  · exact .inl hr

/-! ### A new settlement -/

/-- The ids of the credits after a settlement was credited. -/
theorem mem_credit {provider : ProviderRegistration} {providerId settlementId id : String}
    {amount : ℕ} {key : String} {c : ProviderCredit}
    (hc : (l.credit provider providerId amount settlementId).credits[key]? = some c)
    (hid : id ∈ c.settlementIds) :
    key = providerId ∧ id = settlementId ∨
      ∃ c₀, l.credits[key]? = some c₀ ∧ id ∈ c₀.settlementIds := by
  obtain ⟨rfl, rfl⟩ | hc := FiniteMap.lookup_insert_cases hc
  · cases hold : l.credits[key]? with
    | none =>
      rw [hold, creditProvider, List.mem_singleton] at hid
      exact .inl ⟨rfl, hid⟩
    | some c₀ =>
      rw [hold, creditProvider, List.mem_append, List.mem_singleton] at hid
      rcases hid with hid | hid
      · exact .inr ⟨c₀, rfl, hid⟩
      · exact .inl ⟨rfl, hid⟩
  · exact .inr ⟨c, hc, hid⟩

/-- A settlement that no book mentions is credited. -/
theorem credit (h : l.NamesOnce) (provider : ProviderRegistration) (providerId : String)
    (amount : ℕ) {settlementId : String} (hfresh : l.FreshSettlement settlementId) :
    (l.credit provider providerId amount settlementId).NamesOnce where
  nodup := by
    refine FiniteMap.forall_insert h.nodup ?_
    cases hold : l.credits[providerId]? with
    | none => exact List.nodup_singleton settlementId
    | some c₀ =>
      have hnew : settlementId ∉ c₀.settlementIds := hfresh.credits providerId c₀ hold
      exact (h.nodup providerId c₀ hold).append (List.nodup_singleton settlementId)
        (List.disjoint_singleton.2 hnew)
  once key key' c c' id hc hc' hid hid' := by
    rcases mem_credit hc hid with ⟨rfl, rfl⟩ | ⟨d, hd, hmem⟩ <;>
      rcases mem_credit hc' hid' with ⟨rfl, heq⟩ | ⟨d', hd', hmem'⟩
    · rfl
    · exact absurd hmem' (hfresh.credits key' d' hd')
    · exact absurd (heq ▸ hmem) (hfresh.credits key d hd)
    · exact h.once key key' d d' id hd hd' hmem hmem'
  account key c id record hc hid hrecord := by
    have hold : l.history[id]? = some record := hrecord
    rcases mem_credit hc hid with ⟨rfl, rfl⟩ | ⟨d, hd, hmem⟩
    · rw [hfresh.history] at hold
      cases hold
    · exact h.account key d id record hd hmem hold

/-! ### Events -/

/-- One turn of the batch loop names nothing new. -/
theorem confirmSettlement {acc : Ledger × List String} (h : acc.1.NamesOnce) (batchId : ℕ)
    (tx settlementId : String) :
    (Ledger.confirmSettlement batchId tx acc settlementId).1.NamesOnce := by
  have hbase : ((acc.1.dropHistory settlementId).setBatch settlementId ⟨batchId, tx⟩).NamesOnce :=
    (h.dropHistory settlementId).of_same rfl rfl rfl
  rw [Ledger.confirmSettlement]
  simp only
  split
  · refine NamesOnce.setReservation ?_ _ _
    split
    · next c hc => exact hbase.setCredit_without hc _ _
    · exact hbase
  · split
    · next key c hc => exact hbase.setCredit_without (creditNaming_eq_some hc).1 _ _
    · exact hbase

/-- **Every event keeps the settlements named once.** -/
theorem apply {curve : Curve} (h : l.NamesOnce) {ev : LedgerEvent} (he : l.Enabled curve ev) :
    (l.apply ev).NamesOnce := by
  cases ev with
  | register provider =>
    exact h.shrink (fun key c hc => ⟨c, hc, .refl _⟩) (fun _ _ _ _ _ _ hr => .inl hr)
      fun key p hp => provider_apply he hp
  | settle verificationId settlementId t =>
    obtain ⟨hfresh, r, provider, hr, -, hp⟩ := he
    simp only [Ledger.apply, settle, hr, hp]
    have hspent := h.setAccount r.client ((l.account r.client).spend r.amount)
    have hcredit := hspent.credit provider r.providerId r.amount
      ⟨hfresh.1, hfresh.2, hfresh.3, hfresh.4⟩
    refine (hcredit.setHistory fun key c hc hid => ?_).setReservation _ _
    rcases mem_credit hc hid with ⟨rfl, -⟩ | ⟨d, hd, hmem⟩
    · exact ⟨provider, hp, rfl⟩
    · exact absurd hmem (hfresh.credits key d hd)
  | confirm settlementIds batchId tx =>
    exact confirm_induction settlementIds batchId tx h
      (fun _ id hacc => hacc.confirmSettlement batchId tx id) fun _ providerId hl =>
        hl.dropCredit providerId
  | close channelId settlementId =>
    obtain ⟨hfresh, channel, provider, hch, -, hp⟩ := he
    simp only [Ledger.apply, close, hch, hp]
    refine NamesOnce.pushClosed ?_ _
    have hreleased := fun a => (h.dropChannel channelId).setAccount channel.client a
    split
    · exact (hreleased _).credit provider channel.providerId _
        ⟨hfresh.1, hfresh.2, hfresh.3, hfresh.4⟩
    · exact hreleased _
  | _ =>
    simp only [Ledger.apply, updateChannel]
    repeat' split
    all_goals exact h.of_same rfl rfl rfl

end NamesOnce

end Ledger

/-- **The books keep the settlements named once.** -/
theorem Evolves.namesOnce {env : Env} {supply : Supply} {l l' : Ledger}
    (h : Evolves env supply l l') (hl : l.NamesOnce) : l'.NamesOnce := by
  induction h with
  | refl => exact hl
  | dropCredit _ providerId ih => exact ih.dropCredit providerId
  | event _ he _ ih => exact ih.apply he

end Subly402
