/-
# Provider receipts and the keys they are issued to

A provider's receipt is issued to its participant key, or, where it has none, to its
settlement token account.  The watchtower and the program keep the newest receipt of a
key; the enclave computes a receipt from the credit of one provider id.  The two agree
where no two providers share a key (`run_receiptsCover`), and nothing in the
registrations sees to that: with two providers on one key the newest receipt states the
credit of the one it was issued for, and the other's claim is gone
(`Shop.twins_superseded`).
-/

import Subly402.Enclave.HandlerMoves

namespace Subly402

open Lib

/-- The key that a provider's receipts are issued to. -/
def ProviderRegistration.receiptKey (provider : ProviderRegistration) : Pubkey :=
  provider.participantPubkey.getD provider.settlementTokenAccount

namespace VaultState

variable (v : VaultState)

/-- What is credited to a provider. -/
def credited (providerId : String) : ℕ :=
  ((v.providerCredits[providerId]?).map (·.creditedAmount)).getD 0

/-- What is credited to all providers whose receipts are issued to a key. -/
def claimOf (key : Pubkey) : ℕ :=
  FiniteMap.total (fun provider => if provider.receiptKey = key then v.credited provider.providerId
    else 0) v.providers

end VaultState

namespace AppState

/-- The newest of the provider receipts that were issued to a key. -/
structure NewestReceipt (s : AppState) (key : Pubkey) (r : SignedReceipt) : Prop where
  signed : r ∈ s.signed
  issued : r.receipt ∈ s.sent
  participant : r.receipt.participant = key
  kind : r.receipt.participantKind = participantKindProvider
  newest : ∀ r' ∈ s.signed, r'.receipt ∈ s.sent → r'.receipt.participant = key →
    r'.receipt.participantKind = participantKindProvider → r'.receipt.nonce ≤ r.receipt.nonce

/-- No credit of the key's providers has changed since the receipt. -/
def UnchangedSince (s : AppState) (key : Pubkey) (r : SignedReceipt) : Prop :=
  ∀ (providerId : String) (provider : ProviderRegistration),
    s.vault.providers[providerId]? = some provider → provider.receiptKey = key →
      r.vault.credited providerId = s.vault.credited providerId

/-- The newest receipt of a key states all that is credited to it. -/
def ReceiptsCover (s : AppState) : Prop :=
  ∀ key r, s.NewestReceipt key r → s.UnchangedSince key r →
    r.receipt.freeBalance = s.vault.claimOf key

end AppState

/-- No provider is registered for the key. -/
def VaultState.KeyFree (v : VaultState) (provider : ProviderRegistration) : Prop :=
  ∀ (providerId : String) (other : ProviderRegistration),
    v.providers[providerId]? = some other → other.receiptKey ≠ provider.receiptKey

/-- Where the operation registers a provider, no other is registered for its key. -/
def Op.KeyFree {env : Env} (s : AppState) (op : Op env) : Prop :=
  ∀ provider ∈ op.registers?, s.vault.providers[provider.providerId]? = none →
    s.vault.KeyFree provider

instance {env : Env} (s : AppState) (op : Op env) : Decidable (op.KeyFree s) :=
  decidable_of_iff (∀ provider ∈ op.registers?, s.vault.providers[provider.providerId]? = none →
      ∀ e ∈ s.vault.providers.toList, e.2.receiptKey ≠ provider.receiptKey) <| by
    simp only [Op.KeyFree, VaultState.KeyFree, FiniteMap.mem_toList_iff, Prod.forall]

/-! ### One provider for each key -/

/-- Providers are filed under their ids and have different keys, and every receipt states what the
vault said of a provider that is still registered. -/
structure AppState.KeysApart (env : Env) (s : AppState) : Prop where
  named : ∀ (providerId : String) (provider : ProviderRegistration),
    s.vault.providers[providerId]? = some provider → provider.providerId = providerId
  apart : ∀ (id id' : String) (provider provider' : ProviderRegistration),
    s.vault.providers[id]? = some provider → s.vault.providers[id']? = some provider' →
      provider.receiptKey = provider'.receiptKey → id = id'
  states : ∀ r ∈ s.signed, r.States env
  kept : ∀ r ∈ s.signed, ∀ (providerId : String) (provider : ProviderRegistration),
    r.vault.providers[providerId]? = some provider →
      s.vault.providers[providerId]? = some provider

namespace AppState.KeysApart

variable {env : Env} {s t : AppState}

theorem new (env : Env) : AppState.new.KeysApart env where
  named providerId provider h := by simp [AppState.new, VaultState.new] at h
  apart id id' provider provider' h := by simp [AppState.new, VaultState.new] at h
  states r hr := by simp [AppState.new] at hr
  kept r hr := by simp [AppState.new] at hr

/-- Receipts that state what the vault says of the same providers. -/
theorem signs (h : s.KeysApart env) (hproviders : t.vault.providers = s.vault.providers)
    (hsigned : ∀ r ∈ t.signed, r ∈ s.signed ∨
      r.States env ∧ r.vault.providers = s.vault.providers) : t.KeysApart env where
  named := by
    rw [hproviders]
    exact h.named
  apart := by
    rw [hproviders]
    exact h.apart
  states r hr := by
    rcases hsigned r hr with hr | ⟨hstates, -⟩
    · exact h.states r hr
    · exact hstates
  kept r hr providerId provider hp := by
    rw [hproviders]
    rcases hsigned r hr with hr | ⟨-, hsame⟩
    · exact h.kept r hr providerId provider hp
    · rwa [← hsame]

/-- A registration with a key of its own, under an id that is free. -/
theorem registers (h : s.KeysApart env) {provider : ProviderRegistration}
    (hsigned : t.signed = s.signed) (hfree : s.vault.providers[provider.providerId]? = none)
    (hinsert : t.vault.providers = s.vault.providers.insert provider.providerId provider)
    (hkey : s.vault.KeyFree provider) : t.KeysApart env := by
  have hlookup : ∀ id : String, t.vault.providers[id]?
      = if id = provider.providerId then some provider else s.vault.providers[id]? := fun id => by
    rw [hinsert, FiniteMap.lookup_insert]
  refine ⟨fun id p hp => ?_, fun id id' p p' hp hp' hsame => ?_, ?_, fun r hr id p hp => ?_⟩
  · rw [hlookup] at hp
    split at hp
    · next hid =>
      cases hp
      exact hid.symm
    · exact h.named id p hp
  · rw [hlookup] at hp hp'
    split at hp <;> split at hp'
    · next hid hid' => exact hid.trans hid'.symm
    · cases hp
      exact (hkey id' p' hp' hsame.symm).elim
    · cases hp'
      exact (hkey id p hp hsame).elim
    · exact h.apart id id' p p' hp hp' hsame
  · rw [hsigned]
    exact h.states
  · rw [hsigned] at hr
    have hold := h.kept r hr id p hp
    rw [hlookup, if_neg]
    · exact hold
    · rintro rfl
      rw [hfree] at hold
      cases hold

/-- **A move that registers only providers with keys of their own keeps it.** -/
theorem move (h : s.KeysApart env) (hmove : Move env (.registering env VaultState.KeyFree) s t) :
    t.KeysApart env := by
  obtain ⟨hsigned, hsame | ⟨provider, hfree, hinsert, hkey⟩⟩ | ⟨r, hstates, hsigned, hbooks, hsame⟩ :=
    hmove.providers
  · exact h.signs hsame fun r hr => .inl (hsigned ▸ hr)
  · exact h.registers hsigned hfree hinsert hkey
  · refine h.signs hsame fun r' hr' => ?_
    rw [hsigned, List.mem_append, List.mem_singleton] at hr'
    rcases hr' with hr' | rfl
    · exact .inl hr'
    · exact .inr ⟨hstates, hbooks⟩

/-- The claim of a key is what its only provider is credited. -/
theorem claimOf_eq (h : s.KeysApart env) {providerId : String} {provider : ProviderRegistration}
    (hp : s.vault.providers[providerId]? = some provider) :
    s.vault.claimOf provider.receiptKey = s.vault.credited providerId := by
  rw [VaultState.claimOf, FiniteMap.total_eq_of_unique hp]
  · rw [if_pos rfl, h.named providerId provider hp]
  · intro id p hid hp'
    exact if_neg fun hsame => hid (h.apart id providerId p provider hp' hp hsame)

theorem receiptsCover (h : s.KeysApart env) : s.ReceiptsCover := by
  intro key r hr hsince
  have hstates := h.states r hr.signed
  unfold SignedReceipt.States at hstates
  split at hstates
  · -- a client's receipt is of the other kind
    obtain ⟨_, -, -, hkind, -⟩ := hstates
    have : participantKindProvider = participantKindClient := hr.kind.symm.trans hkind
    cases this
  · next providerId _ =>
    obtain ⟨provider, hp, hparticipant, -, -, hfree, -⟩ := hstates
    have hp' := h.kept r hr.signed providerId provider hp
    have hkey : provider.receiptKey = key := hparticipant.symm.trans hr.participant
    calc r.receipt.freeBalance = r.vault.credited providerId := hfree
      _ = s.vault.credited providerId := hsince providerId provider hp' hkey
      _ = s.vault.claimOf key := by rw [← hkey, h.claimOf_eq hp']

end AppState.KeysApart

/-- **Provider receipts cover the whole claim of their key** in every run in which each
registration brings a key of its own. -/
theorem run_receiptsCover {env : Env} {ops : List (Op env)}
    (h : AllSteps AppState.next Op.KeyFree .new ops) : (run env ops).ReceiptsCover :=
  (run_registering (P := VaultState.KeyFree) h (AppState.KeysApart.new env)
    fun _ _ hmove hs => hs.move hmove).receiptsCover

namespace Shop

/-- Another seller with the token account of the first. -/
def twin : RegisterProviderRequest := { seller with providerId := "twin" }

/-- A payment of two to the other seller. -/
def twinPayment : Handlers.VerifyRequest :=
  { payment with paymentId := "pay2", providerId := "twin", amount := 2 }

/-- The client pays three to the first seller and two to the other. -/
def twins : List (Op world) :=
  [.deposit ⟨deposit, deposit_mem⟩ 0, .registerProvider seller, .registerProvider twin,
    .verify payment ⟨1, 1⟩, .settle "ver_" ⟨2, 2⟩, .verify twinPayment ⟨3, 3⟩,
    .settle "ver_uuu" ⟨4, 4⟩]

end Shop

/-- The newest receipt of a key, found by going through the lists. -/
theorem AppState.exists_newestReceipt {s : AppState} {key : Pubkey} {free : ℕ}
    (h : ∃ r ∈ s.signed, r.receipt.participantKind = participantKindProvider ∧
      r.receipt.participant = key ∧ r.receipt.freeBalance = free ∧ r.receipt ∈ s.sent ∧
      (∀ r' ∈ s.signed, r'.receipt.participantKind = participantKindProvider →
        r'.receipt.nonce ≤ r.receipt.nonce) ∧
      ∀ e ∈ s.vault.providers.toList, r.vault.credited e.1 = s.vault.credited e.1) :
    ∃ r, s.NewestReceipt key r ∧ s.UnchangedSince key r ∧ r.receipt.freeBalance = free := by
  obtain ⟨r, hr, hkind, hparticipant, hfree, hissued, hnewest, hsince⟩ := h
  refine ⟨r, ⟨hr, hissued, hparticipant, hkind, fun r' hr' _ _ => hnewest r' hr'⟩, ?_, hfree⟩
  intro providerId provider hp _
  exact hsince (providerId, provider) (FiniteMap.mem_toList_iff.2 hp)

/-- The seller is paid three, and its newest receipt says so. -/
theorem run_receiptsCover_shop :
    AllSteps AppState.next Op.KeyFree .new Shop.ops ∧ (run Shop.world Shop.ops).ReceiptsCover ∧
      ∃ r, (run Shop.world Shop.ops).NewestReceipt (.fill 2) r ∧
        (run Shop.world Shop.ops).UnchangedSince (.fill 2) r ∧ r.receipt.freeBalance = 3 := by
  have hfree : AllSteps AppState.next Op.KeyFree .new Shop.ops := by decide +kernel
  exact ⟨hfree, run_receiptsCover hfree, AppState.exists_newestReceipt (by decide +kernel)⟩

/-- Two sellers share a token account and are paid three and two.  The newest receipt of the
account was issued when both had been paid; it states two, and five are credited. -/
theorem Shop.twins_superseded :
    ¬ (run world twins).ReceiptsCover ∧ (run world twins).vault.claimOf (.fill 2) = 5 ∧
      ∃ r, (run world twins).NewestReceipt (.fill 2) r ∧
        (run world twins).UnchangedSince (.fill 2) r ∧ r.receipt.freeBalance = 2 := by
  have hclaim : (run world twins).vault.claimOf (.fill 2) = 5 := by decide +kernel
  have hfound : ∃ r, (run world twins).NewestReceipt (.fill 2) r ∧
      (run world twins).UnchangedSince (.fill 2) r ∧ r.receipt.freeBalance = 2 :=
    AppState.exists_newestReceipt (by decide +kernel)
  obtain ⟨r, hnewest, hsince, hfree⟩ := hfound
  refine ⟨fun hcover => ?_, hclaim, r, hnewest, hsince, hfree⟩
  have heq := hcover _ r hnewest hsince
  rw [hfree, hclaim] at heq
  cases heq

end Subly402
