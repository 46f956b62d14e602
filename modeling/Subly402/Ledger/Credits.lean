/-
# Credits

What the books owe their providers.  A credit stands under its provider's id and has
something to pay: a confirmed batch drops the credits it empties, and the others
only grow.  `Alive` says so, for payments of positive amounts, and every event that
a log records keeps it.
-/

import Subly402.Ledger.Log

namespace Subly402

open Lib

namespace Ledger

/-- Every credit in the books has something to pay. -/
def CreditsAlive (l : Ledger) : Prop :=
  ∀ (key : String) (c : ProviderCredit), l.credits[key]? = some c → c.isSpent = false

/-- The books of payments with positive amounts. -/
structure Alive (l : Ledger) : Prop where
  amounts : ∀ (key : String) (r : Reservation), l.reservations[key]? = some r → 0 < r.amount
  keys : ∀ (key : String) (c : ProviderCredit), l.credits[key]? = some c → c.providerId = key
  credits : l.CreditsAlive

/-! ### A batch -/

/-- **What one settlement of a batch does to the credits.**  It takes the settlement out of one
credit, whose provider it adds to those affected, or it leaves the credits alone. -/
theorem confirmSettlement_credits (batchId : ℕ) (tx : String) (acc : Ledger × List String)
    (settlementId : String) (hkeys : ∀ (key : String) (c : ProviderCredit),
      acc.1.credits[key]? = some c → c.providerId = key) :
    (∀ p ∈ acc.2, p ∈ (confirmSettlement batchId tx acc settlementId).2) ∧
    ((confirmSettlement batchId tx acc settlementId).1.credits = acc.1.credits ∨
      ∃ key c amount, acc.1.credits[key]? = some c ∧
        (confirmSettlement batchId tx acc settlementId).1.credits
          = acc.1.credits.insert key (c.without settlementId amount) ∧
        key ∈ (confirmSettlement batchId tx acc settlementId).2) := by
  rw [confirmSettlement]
  simp only
  split
  · next key r hr =>
    refine ⟨fun p hp => List.mem_insert_of_mem hp, ?_⟩
    split
    · next c hc => exact .inr ⟨r.providerId, c, r.amount, hc, rfl, List.mem_insert_self⟩
    · exact .inl rfl
  · split
    · next key c hc =>
      have hlookup := (creditNaming_eq_some hc).1
      refine ⟨fun p hp => List.mem_insert_of_mem hp, .inr ⟨key, c, 0, hlookup, rfl, ?_⟩⟩
      rw [hkeys key c hlookup]
      exact List.mem_insert_self
    · exact ⟨fun p hp => hp, .inl rfl⟩

/-- The credits that are left after some were dropped. -/
theorem lookup_foldl_dropCredit (providerIds : List String) (l : Ledger) (key : String) :
    (providerIds.foldl Ledger.dropCredit l).credits[key]?
      = if key ∈ providerIds then none else l.credits[key]? := by
  induction providerIds generalizing l with
  | nil => simp
  | cons providerId rest ih =>
    rw [List.foldl_cons, ih, dropCredit_credits, FiniteMap.lookup_erase]
    by_cases hrest : key ∈ rest
    · simp [hrest]
    · by_cases hkey : key = providerId <;> simp [hrest, hkey]

/-- In the middle of a batch, a spent credit is one the batch has touched. -/
structure AliveBut (acc : Ledger × List String) : Prop where
  keys : ∀ (key : String) (c : ProviderCredit), acc.1.credits[key]? = some c → c.providerId = key
  credits : ∀ (key : String) (c : ProviderCredit), acc.1.credits[key]? = some c →
    c.isSpent = true → key ∈ acc.2

/-- One turn of the batch loop. -/
theorem AliveBut.confirmSettlement {acc : Ledger × List String} (h : AliveBut acc) (batchId : ℕ)
    (tx settlementId : String) :
    AliveBut (Ledger.confirmSettlement batchId tx acc settlementId) := by
  obtain ⟨hsub, heq | ⟨key, c, amount, hc, heq, hmem⟩⟩ :=
    confirmSettlement_credits batchId tx acc settlementId h.keys
  · exact ⟨fun k c' hc' => h.keys k c' (heq ▸ hc'), fun k c' hc' hspent =>
      hsub k (h.credits k c' (heq ▸ hc') hspent)⟩
  · constructor <;> rw [heq]
    · exact FiniteMap.forall_insert h.keys (h.keys key c hc)
    · exact FiniteMap.forall_insert (fun k c' hc' hspent => hsub k (h.credits k c' hc' hspent))
        fun _ => hmem

/-- What a confirmed batch leaves of the credits is alive. -/
theorem Alive.confirm {l : Ledger} (h : l.Alive) (settlementIds : List String) (batchId : ℕ)
    (tx : String) : ∀ (key : String) (c : ProviderCredit),
      (l.confirm settlementIds batchId tx).credits[key]? = some c →
      c.providerId = key ∧ c.isSpent = false := by
  have hbut : AliveBut (settlementIds.foldl (Ledger.confirmSettlement batchId tx) (l, [])) :=
    List.foldlRecOn settlementIds (motive := AliveBut) _
      ⟨h.keys, fun key c hc hspent => by simp [h.credits key c hc] at hspent⟩
      fun acc hacc settlementId _ => hacc.confirmSettlement batchId tx settlementId
  intro key c hc
  rw [Ledger.confirm, lookup_foldl_dropCredit] at hc
  split at hc
  · cases hc
  · next hkey =>
    refine ⟨hbut.keys key c hc, ?_⟩
    by_contra hspent
    rw [Bool.not_eq_false] at hspent
    exact hkey (List.mem_filter.2 ⟨hbut.credits key c hc hspent, by
      simp [hasSpentCredit, hc, hspent]⟩)

/-! ### Other events -/

/-- What is credited is alive. -/
theorem Alive.credit {l : Ledger} (h : l.Alive) (account : Pubkey) (providerId : String) {amount : ℕ}
    (hpos : 0 < amount) (settlementId : String) :
    ∀ (key : String) (c : ProviderCredit), (l.credits.insert providerId (creditProvider providerId
      account amount settlementId 0 l.credits[providerId]?))[key]? = some c →
      c.providerId = key ∧ c.isSpent = false := by
  refine FiniteMap.forall_insert (fun key c hc => ⟨h.keys key c hc, h.credits key c hc⟩) ⟨?_, ?_⟩
  · cases hold : l.credits[providerId]? with
    | none => rfl
    | some c => exact h.keys providerId c hold
  · cases l.credits[providerId]? <;> simp [creditProvider, ProviderCredit.isSpent] <;> omega

/-- **Every event keeps the credits alive**, where reserved amounts are positive. -/
theorem Alive.apply {l : Ledger} (h : l.Alive) {ev : LedgerEvent}
    (hpos : ∀ r, ev = .reserve r → 0 < r.amount) : (l.apply ev).Alive := by
  have hcredits : ∀ (key : String) (c : ProviderCredit), (l.apply ev).credits[key]? = some c →
      c.providerId = key ∧ c.isSpent = false := by
    have hold : ∀ (key : String) (c : ProviderCredit), l.credits[key]? = some c →
        c.providerId = key ∧ c.isSpent = false := fun key c hc => ⟨h.keys key c hc, h.credits key c hc⟩
    cases ev with
    | settle key settlementId t =>
      simp only [Ledger.apply, Ledger.settle]
      split
      · exact hold
      · next r hr =>
        split
        · exact hold
        · exact h.credit _ r.providerId (h.amounts key r hr) settlementId
    | confirm settlementIds batchId tx => exact h.confirm settlementIds batchId tx
    | close channelId settlementId =>
      simp only [Ledger.apply, Ledger.close]
      split
      · exact hold
      · split
        · exact hold
        · split
          · next hearned => exact h.credit _ _ hearned settlementId
          · exact hold
    | _ =>
      simp only [Ledger.apply, updateChannel]
      repeat' split
      all_goals exact hold
  refine ⟨fun key r hr => ?_, fun key c hc => (hcredits key c hc).1, fun key c hc =>
    (hcredits key c hc).2⟩
  obtain ⟨r₀, hr₀, -, hamount⟩ | hev := reservation_apply hr
  · exact hamount ▸ h.amounts key r₀ hr₀
  · exact hpos r hev

end Ledger

/-- Along a log that explains the books, the credits stay alive. -/
theorem Explains.alive {env : Env} {supply : Supply} {l l' : Ledger} {es : List WalEntry}
    (h : Explains env supply l es l') (hl : l.Alive) : l'.Alive := by
  induction h with
  | nil => exact hl
  | note _ _ ih => exact ih
  | event _ _ _ hmeans ih =>
    refine ih.apply fun r hr => ?_
    subst hr
    cases hmeans
    assumption

/-! ### Whose credits they are -/

/-- The credit goes where the other goes. -/
structure ProviderCredit.SameHolder (c c' : ProviderCredit) : Prop where
  providerId : c.providerId = c'.providerId
  account : c.settlementTokenAccount = c'.settlementTokenAccount

/-- The credit of a provider, under the provider's id. -/
structure ProviderCredit.Of (c : ProviderCredit) (key : String) (provider : ProviderRegistration) :
    Prop where
  providerId : c.providerId = key
  account : c.settlementTokenAccount = provider.settlementTokenAccount

namespace Ledger

/-- Every credit is that of a registered provider. -/
def CreditsFiled (l : Ledger) : Prop :=
  ∀ (key : String) (c : ProviderCredit), l.credits[key]? = some c →
    ∃ provider, l.providers[key]? = some provider ∧ c.Of key provider

/-- A credit that was there, or the first one of a registered provider. -/
inductive CreditFrom (l : Ledger) (key : String) (c : ProviderCredit) : Prop
  | old {c₀ : ProviderCredit} (h : l.credits[key]? = some c₀) (hsame : c.SameHolder c₀)
  | new {provider : ProviderRegistration} (h : l.providers[key]? = some provider)
      (hof : c.Of key provider)

/-- A credit after a settlement is an old one or the provider's. -/
theorem creditFrom_credit {l l' : Ledger} {provider : ProviderRegistration} {providerId : String}
    (hp : l.providers[providerId]? = some provider) (hcredits : l'.credits = l.credits)
    {amount : ℕ} {settlementId : String} {key : String} {c : ProviderCredit}
    (h : (l'.credit provider providerId amount settlementId).credits[key]? = some c) :
    l.CreditFrom key c := by
  rw [credit, setCredit_credits, hcredits] at h
  obtain ⟨rfl, rfl⟩ | h := FiniteMap.lookup_insert_cases h
  · cases hold : l.credits[key]? with
    | none => exact .new hp ⟨rfl, rfl⟩
    | some c₀ => exact .old hold ⟨rfl, rfl⟩
  · exact .old h ⟨rfl, rfl⟩

/-- A confirmed batch makes no new credit. -/
theorem creditFrom_confirm {l : Ledger} (settlementIds : List String) (batchId : ℕ) (tx : String) :
    ∀ (key : String) (c : ProviderCredit), (l.confirm settlementIds batchId tx).credits[key]? = some c →
      ∃ c₀, l.credits[key]? = some c₀ ∧ c.SameHolder c₀ := by
  have htake : ∀ {l' : Ledger} {key₁ : String} {c₁ : ProviderCredit} (settlementId : String)
      (amount : ℕ), l'.credits[key₁]? = some c₁ →
      (∀ (key : String) (c : ProviderCredit), l'.credits[key]? = some c →
        ∃ c₀, l.credits[key]? = some c₀ ∧ c.SameHolder c₀) →
      ∀ (key : String) (c : ProviderCredit),
        (l'.credits.insert key₁ (c₁.without settlementId amount))[key]? = some c →
          ∃ c₀, l.credits[key]? = some c₀ ∧ c.SameHolder c₀ := by
    intro l' key₁ c₁ settlementId amount h₁ hl
    obtain ⟨c₀, hc₀, hsame⟩ := hl key₁ c₁ h₁
    exact FiniteMap.forall_insert hl ⟨c₀, hc₀, hsame.1, hsame.2⟩
  refine confirm_induction (motive := fun l' => ∀ (key : String) (c : ProviderCredit),
    l'.credits[key]? = some c → ∃ c₀, l.credits[key]? = some c₀ ∧ c.SameHolder c₀)
    settlementIds batchId tx (fun key c hc => ⟨c, hc, rfl, rfl⟩)
    (fun acc settlementId hacc => ?_) fun l' providerId hl => FiniteMap.forall_erase hl
  rw [confirmSettlement]
  simp only
  split
  · split
    · next c₁ hc₁ => exact htake settlementId _ hc₁ hacc
    · exact hacc
  · split
    · next key₁ c₁ hc₁ => exact htake settlementId 0 (creditNaming_eq_some hc₁).1 hacc
    · exact hacc

/-- **A credit that an event leaves was there, or is the first one of a registered provider.** -/
theorem creditFrom_apply {l : Ledger} {ev : LedgerEvent} {key : String} {c : ProviderCredit}
    (h : (l.apply ev).credits[key]? = some c) : l.CreditFrom key c := by
  cases ev with
  | settle verificationId settlementId t =>
    simp only [apply, settle] at h
    split at h
    · exact .old h ⟨rfl, rfl⟩
    · split at h
      · exact .old h ⟨rfl, rfl⟩
      · next hp => exact creditFrom_credit hp rfl h
  | confirm settlementIds batchId tx =>
    obtain ⟨c₀, hc₀, hsame⟩ := creditFrom_confirm settlementIds batchId tx key c h
    exact .old hc₀ hsame
  | close channelId settlementId =>
    simp only [apply, close] at h
    split at h
    · exact .old h ⟨rfl, rfl⟩
    · split at h
      · exact .old h ⟨rfl, rfl⟩
      · next hp =>
        split at h
        · exact creditFrom_credit hp rfl h
        · exact .old h ⟨rfl, rfl⟩
  | _ =>
    simp only [apply, updateChannel] at h
    repeat' split at h
    all_goals exact .old h ⟨rfl, rfl⟩

end Ledger

/-- **The credits stay those of registered providers.** -/
theorem Evolves.creditsFiled {env : Env} {supply : Supply} {l l' : Ledger}
    (h : Evolves env supply l l') (hl : l.CreditsFiled) : l'.CreditsFiled := by
  induction h with
  | refl => exact hl
  | dropCredit _ providerId ih => exact FiniteMap.forall_erase ih
  | event _ he _ ih =>
    intro key c hc
    cases Ledger.creditFrom_apply hc with
    | old hc₀ hsame =>
      obtain ⟨provider, hp, hof⟩ := ih key _ hc₀
      exact ⟨provider, Ledger.provider_apply he hp, hsame.1.trans hof.1, hsame.2.trans hof.2⟩
    | new hp hof => exact ⟨_, Ledger.provider_apply he hp, hof⟩

end Subly402
