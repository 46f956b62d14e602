/-
# The asset that is owed

Every reservation, channel and credit of a run belongs to a registered provider, and a
registration never changes.  The vault pays from the token account of one mint.  A
registration names a mint of its own, and neither `post_register_provider` nor
`ensure_open_provider_registered` compares it with the vault's; `post_verify` compares
the mint of a payment with the registration's only.
-/

import Subly402.Enclave.Vouching

namespace Subly402

open Lib

/-- The checks of `post_verify` on the payload and the registration. -/
def PaymentPayload.matchRegistration (env : Env) (payload : PaymentPayload)
    (provider : ProviderRegistration) : Except EnclaveError Unit := do
  refuseIf (payload.payTo ≠ env.pubkeyToString provider.settlementTokenAccount) .payToMismatch
  refuseIf (payload.assetMint ≠ env.pubkeyToString provider.assetMint) .assetMintMismatch
  refuseIf (payload.network ≠ provider.network) .networkMismatch

/-- Where the operation registers a provider, the provider's asset is the mint. -/
def Op.NamesMint {env : Env} (usdcMint : Pubkey) (s : AppState) (op : Op env) : Prop :=
  ∀ provider ∈ op.registers?, s.vault.providers[provider.providerId]? = none →
    provider.assetMint = usdcMint

instance {env : Env} (usdcMint : Pubkey) (s : AppState) (op : Op env) :
    Decidable (op.NamesMint usdcMint s) :=
  inferInstanceAs (Decidable (∀ provider ∈ op.registers?, _ → _))

/-- The provider is registered, and takes the mint. -/
def VaultState.Takes (v : VaultState) (usdcMint : Pubkey) (providerId : String) : Prop :=
  ∃ provider, v.providers[providerId]? = some provider ∧ provider.assetMint = usdcMint

/-- Whatever is owed is owed to providers that take the mint. -/
structure VaultState.OwesOnly (v : VaultState) (usdcMint : Pubkey) : Prop where
  reservations : ∀ (key : String) (r : Reservation), v.reservations[key]? = some r →
    v.Takes usdcMint r.providerId
  channels : ∀ (key : String) (channel : ChannelState), v.activeChannels[key]? = some channel →
    v.Takes usdcMint channel.providerId
  credits : ∀ (key : String) (c : ProviderCredit), v.providerCredits[key]? = some c →
    c.providerId = key ∧ v.Takes usdcMint key

/-- Every registered provider takes the mint. -/
def AppState.AllTake (s : AppState) (usdcMint : Pubkey) : Prop :=
  ∀ (providerId : String) (provider : ProviderRegistration),
    s.vault.providers[providerId]? = some provider → provider.assetMint = usdcMint

/-- A move that registers only providers with the mint. -/
theorem AppState.AllTake.move {env : Env} {usdcMint : Pubkey} {s t : AppState}
    (h : s.AllTake usdcMint)
    (hmove : Move env (.registering env fun _ provider => provider.assetMint = usdcMint) s t) :
    t.AllTake usdcMint := by
  intro providerId provider hp
  obtain ⟨-, hsame | ⟨new, -, hinsert, hmint⟩⟩ | ⟨_, -, -, -, hsame⟩ := hmove.providers
  · exact h providerId provider (hsame ▸ hp)
  · rw [hinsert] at hp
    exact FiniteMap.forall_insert h hmint providerId provider hp
  · exact h providerId provider (hsame ▸ hp)

/-- After every run, credits are kept under their providers' ids. -/
theorem run_creditsFiled (env : Env) (ops : List (Op env)) :
    (run env ops).vault.ledger.CreditsFiled := by
  refine run_books ?_ (fun h => h.creditsFiled) ops
  intro key c hc
  rw [VaultState.ledger_new] at hc
  simp at hc

/-- **Only the mint is owed, where every registration names it.** -/
theorem run_owesOnly (env : Env) (usdcMint : Pubkey) (ops : List (Op env))
    (h : AllSteps AppState.next (Op.NamesMint usdcMint) .new ops) :
    (run env ops).vault.OwesOnly usdcMint := by
  have hnew : AppState.new.AllTake usdcMint := by
    intro providerId provider hp
    simp [AppState.new, VaultState.new] at hp
  have hall : (run env ops).AllTake usdcMint :=
    run_registering (P := fun _ provider => provider.assetMint = usdcMint)
      (Q := fun s => s.AllTake usdcMint) h hnew fun _ _ hmove hs => hs.move hmove
  have htakes {providerId : String}
      (hp : ∃ provider, (run env ops).vault.providers[providerId]? = some provider) :
      (run env ops).vault.Takes usdcMint providerId := by
    obtain ⟨provider, hp⟩ := hp
    exact ⟨provider, hp, hall providerId provider hp⟩
  have hshape := (run_inv ops).shape
  refine ⟨fun key r hr => htakes (hshape.reservation_provider key r hr),
    fun key channel hch => htakes (hshape.channel_provider key channel.untimed (by simp [hch])),
    fun key c hc => ?_⟩
  obtain ⟨provider, hp, hof⟩ := run_creditsFiled env ops key c.untimed (by simp [hc])
  exact ⟨hof.providerId, htakes ⟨provider, hp⟩⟩

/-- The shop sells for one mint. -/
theorem run_owesOnly_shop :
    AllSteps AppState.next (Op.NamesMint (.fill 3)) .new Shop.ops ∧
      (run Shop.world Shop.ops).vault.OwesOnly (.fill 3) ∧
      ((run Shop.world Shop.ops).vault.providerCredits["shop"]?).isSome := by
  have h : AllSteps AppState.next (Op.NamesMint (.fill 3)) .new Shop.ops := by decide +kernel
  exact ⟨h, run_owesOnly Shop.world (.fill 3) Shop.ops h, by decide +kernel⟩

/-- A vault with another mint than the seller's.  The seller registers, the client's payment
agrees with its details and with the registration, and the seller is credited. -/
theorem Shop.foreign_credited :
    ¬ (run world ops).vault.OwesOnly (.fill 5) ∧
      (call (.fill 1)).check world vaultConfig = .ok payment ∧
      ∃ provider, (run world ops).vault.providers["shop"]? = some provider ∧
        (call (.fill 1)).payload.matchRegistration world provider = .ok () ∧
        provider.assetMint ≠ .fill 5 ∧
        ((run world ops).vault.providerCredits["shop"]?).map (·.creditedAmount) = some 3 := by
  have hcredit : ((run world ops).vault.providerCredits["shop"]?).map (·.creditedAmount)
      = some 3 := by decide +kernel
  have hprovider : ((run world ops).vault.providers["shop"]?).any (fun provider =>
      decide ((call (.fill 1)).payload.matchRegistration world provider = .ok () ∧
        provider.assetMint ≠ .fill 5)) = true := by decide +kernel
  obtain ⟨provider, hp, hmatch⟩ := (Option.any_eq_true _ _).1 hprovider
  obtain ⟨hmatch, hmint⟩ := of_decide_eq_true hmatch
  refine ⟨fun howes => ?_, call_check (.fill 1) (.inl rfl), provider, hp, hmatch, hmint, hcredit⟩
  obtain ⟨c, hc, -⟩ := Option.map_eq_some_iff.1 hcredit
  obtain ⟨provider', hp', hmint'⟩ := (howes.credits "shop" c hc).2
  obtain rfl : provider = provider' := Option.some.inj (hp.symm.trans hp')
  exact hmint hmint'

end Subly402
