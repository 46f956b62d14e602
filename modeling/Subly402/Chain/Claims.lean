/-
# The claims of a vault

**`Site.run_claims_backed`**: after any instructions every claim has the terms of a voucher
that the vault's key signed and the provider's signature of a payment on these terms, no
request of a channel has two, and a claim stays.
-/

import Subly402.Chain.Site

namespace Subly402
namespace Chain

open Lib

/-- The vault's key signed a voucher with the terms of the claim, and the provider a payment. -/
structure AscCloseClaim.Backed (verifies : Ed25519Check → Bool) (vault : VaultConfig)
    (claim : AscCloseClaim) : Prop where
  vouched : ∃ check, verifies check = true ∧ check.publicKey = vault.vaultSignerPubkey ∧
    AscClaimVoucher.parse check.message = some
      { channelIdHash := claim.channelIdHash, requestIdHash := claim.requestIdHash
        amount := claim.amount, requestHash := claim.requestHash
        providerPubkey := claim.providerPubkey, issuedAt := claim.voucherIssuedAt
        vaultConfig := vault.key }
  paid : verifies
    { publicKey := claim.providerPubkey, signature := claim.fullSigR.bytes ++ claim.fullSigS.bytes
      message := ascPaymentMessage claim.channelIdHash claim.requestIdHash claim.amount
        claim.requestHash } = true

theorem ascCloseClaim_backed {verifies : Ed25519Check → Bool} {vault : VaultConfig}
    {voucherCheck paymentCheck : Option Ed25519Check} {channelIdHash requestIdHash : Bytes32}
    {clock : ℤ} {existing : List (Bytes32 × Bytes32)} {claim : AscCloseClaim}
    (hvoucher : ∀ c ∈ voucherCheck, verifies c = true)
    (hpayment : ∀ c ∈ paymentCheck, verifies c = true)
    (h : ascCloseClaim vault voucherCheck paymentCheck channelIdHash requestIdHash clock existing
      = .ok claim) : claim.seeds ∉ existing ∧ claim.Backed verifies vault := by
  simp only [ascCloseClaim, verifyEd25519SignatureDetails, bind_eq_ok, requireThat_eq_ok,
    okOrElse_eq_ok, Bytes32.ofList?_eq_some] at h
  obtain ⟨_, hnew, vouched, ⟨_, rfl, _, hsigner, hvouched⟩, voucher, hparse, _, rfl, _, rfl, _, hkey,
    paid, ⟨_, rfl, _, hprovider, hpaid⟩, _, hmessage, _, -, r, hr, s, hs, hout⟩ := h
  cases hvouched
  cases hpaid
  cases hout
  refine ⟨hnew, ⟨vouched, hvoucher _ rfl, hsigner, ?_⟩, ?_⟩
  · rw [hparse, ← hkey]
  · rw [← hprovider, ← hr, ← hs, List.take_append_drop, ← hmessage]
    exact hpayment _ rfl

namespace Site

variable {rt : Runtime} {verifies : Ed25519Check → Bool} {vault : GovernedVault} {s s' : Site}

/-- What every event keeps of a vault that was opened as `vault`, and of its claims. -/
structure ClaimsBacked (verifies : Ed25519Check → Bool) (vault : GovernedVault) (s : Site) :
    Prop where
  keys : s.vault.key = vault.key ∧ s.vault.vaultSignerPubkey = vault.vaultSignerPubkey
  once : (s.claims.map (·.seeds)).Nodup
  backed : ∀ claim ∈ s.claims, claim.Backed verifies vault.toVaultConfig

/-- An accepted event stores a new claim that is backed, or none. -/
theorem ClaimsBacked.apply (hs : s.ClaimsBacked verifies vault) {event : Event}
    (h : s.apply rt verifies event = .ok s') :
    s'.ClaimsBacked verifies vault ∧ s.claims <+: s'.claims := by
  cases apply_change h with
  | record _ hrecords audits requests claims =>
    -- `Change` does not say which record an event makes
    cases event with
    | ascCloseClaim =>
      simp only [apply, bind_eq_ok, precompile_eq_ok] at h
      obtain ⟨_, ⟨-, hvoucher⟩, _, ⟨-, hpayment⟩, claim, hclaim, hout⟩ := h
      cases hout
      obtain ⟨hnew, hvouched, hpaid⟩ := ascCloseClaim_backed hvoucher hpayment hclaim
      rw [hs.keys.1, hs.keys.2] at hvouched
      refine ⟨⟨hs.keys, ?_, fun c hc => ?_⟩, ⟨[claim], rfl⟩⟩
      · rw [List.map_append]
        exact hs.once.append (List.nodup_singleton _) (by simpa using hnew)
      · rcases List.mem_append.1 hc with hc | hc
        · exact hs.backed c hc
        · rw [List.mem_singleton.1 hc]
          exact ⟨hvouched, hpaid⟩
    | recordAudit | forceSettleInit | forceSettleChallenge | forceSettleFinalize =>
      simp only [apply, bind_eq_ok, pure, Except.pure, Except.ok.injEq, Site.mk.injEq] at h
      obtain rfl : s.claims = claims := by grind
      exact ⟨{ hs with }, List.prefix_rfl⟩
    | _ => cases hrecords
  | _ => exact ⟨{ hs with }, List.prefix_rfl⟩

/-- **Claims are backed and stay.** -/
theorem run_claims_backed (rt : Runtime) (verifies : Ed25519Check → Bool) (vault : GovernedVault)
    (tokens : Tokens) (clock : ℤ) (acts : List Act) (act : Act) :
    let s := (Site.opened vault tokens clock).run rt verifies acts
    s.ClaimsBacked verifies vault ∧ s.claims <+: (s.next rt verifies act).claims := by
  intro s
  have hnext : ∀ (s : Site) act, s.ClaimsBacked verifies vault →
      (s.next rt verifies act).ClaimsBacked verifies vault ∧
        s.claims <+: (s.next rt verifies act).claims := by
    intro s act hs
    have hafter : (s.after act.wait).ClaimsBacked verifies vault := { hs with }
    unfold Site.next
    split
    · next h => exact hafter.apply h
    · exact ⟨hafter, List.prefix_rfl⟩
  have hs : s.ClaimsBacked verifies vault :=
    runSteps_keep (fun s act hs => (hnext s act hs).1)
      (s := Site.opened vault tokens clock) ⟨⟨rfl, rfl⟩, List.nodup_nil, by simp [opened]⟩ acts
  exact ⟨hs, (hnext s act hs).2⟩

end Site

end Chain
end Subly402
