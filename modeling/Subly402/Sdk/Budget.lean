/-
# What one fetch can cost

`maxPaymentPerRequest` is meant to bound what a call of `fetch` spends.  It is compared
with the price of the chosen option, once, and read with the number of decimals that the
option names.
-/

import Subly402.Sdk.Client

namespace Subly402
namespace Sdk

open Lib

/-- The amount of a payload as the enclave reads it; it refuses a payload without one. -/
def PaymentPayload.enclaveAmount (p : PaymentPayload) : ℕ :=
  ((p.amount.bind Json.asStr).bind parseU64).getD 0

/-- What payloads with distinct payment ids add up to. -/
def spent (signed : List Signed) : ℕ :=
  ((signed.map fun p => (p.payload.paymentId, p.payload.enclaveAmount)).dedup.map Prod.snd).sum

/-! ### One payload -/

/-- `BigInt` reads the texts that the enclave reads as it does. -/
theorem bigIntOfText_of_parseU64 {s : String} {n : ℕ} (h : parseU64 s = some n) :
    Js.bigIntOfText s = some (n : ℤ) := by
  unfold parseU64 at h
  obtain ⟨m, hm, hbound⟩ := Option.bind_eq_some_iff.1 h
  split at hbound
  · cases hbound
    split at hm
    · next digits hs => exact Js.bigIntOfText_of_decimal (.inr hs) hm
    · exact Js.bigIntOfText_of_decimal (.inl rfl) hm
  · cases hbound

theorem policyValue_nonneg {text : String} {v : ℚ} (h : policyValue text = some v) : 0 ≤ v := by
  unfold policyValue at h
  obtain ⟨⟨whole, fraction⟩, -, h⟩ := Option.bind_eq_some_iff.1 h
  cases h
  positivity

/-- An option whose price the policy allows. -/
theorem enclaveAmount_le {c : Client} {E : Js.Engine} {details : Json} {p : PaymentPayload}
    {policy : String} {v : ℚ} {d : ℕ} (hbudget : c.assertBudget E details = .ok ())
    (hc : c.maxPaymentPerRequest = some (.text policy)) (hv : policyValue policy = some v)
    (hamount : Js.prop (some details) "amount" = .ok p.amount)
    (hd : ∀ decimals e, Js.read (some details) ["asset", "decimals"] = .ok decimals →
      decimalsOf E decimals = .ok e → e ≤ d) :
    (p.enclaveAmount : ℚ) ≤ v * 10 ^ d := by
  unfold Client.assertBudget Client.assertWithin at hbudget
  rw [hc] at hbudget
  obtain ⟨value, hvalue, hbudget⟩ := bind_eq_ok.1 hbudget
  obtain ⟨amount, hbig, hbudget⟩ := bind_eq_ok.1 hbudget
  obtain ⟨decimals, hdecimals, hbudget⟩ := bind_eq_ok.1 hbudget
  obtain ⟨most, hmost, hbudget⟩ := bind_eq_ok.1 hbudget
  have hle := not_lt.1 (refuseIf_eq_ok.1 hbudget)
  obtain rfl : value = p.amount := by
    rw [hamount] at hvalue
    cases hvalue
    rfl
  unfold PaymentPayload.enclaveAmount
  cases hparsed : (p.amount.bind Json.asStr).bind parseU64 with
  | none =>
    have hnonneg := policyValue_nonneg hv
    simp only [Option.getD_none, Nat.cast_zero]
    positivity
  | some n =>
    obtain ⟨s, hs, hn⟩ := Option.bind_eq_some_iff.1 hparsed
    obtain ⟨json, hjson, hstr⟩ := Option.bind_eq_some_iff.1 hs
    -- a value that the enclave reads is a text, and `BigInt` reads the same number
    obtain rfl : json = .string s := by
      unfold Json.asStr at hstr
      split at hstr <;> simp_all
    rw [hjson] at hbig
    obtain rfl : (n : ℤ) = amount := by
      unfold Js.bigInt at hbig
      rw [okOrElse_eq_ok, bigIntOfText_of_parseU64 hn] at hbig
      cases hbig
      rfl
    calc ((n : ℕ) : ℚ) = ((n : ℤ) : ℚ) := (Int.cast_natCast n).symm
      _ ≤ (most : ℚ) := Int.cast_le.2 hle
      _ ≤ v * 10 ^ d := parseAmountToAtomic_le hmost hv fun e he => hd decimals e hdecimals he

/-! ### One call -/

namespace Client

variable {c : Client} {w : World} {request : Request} {s : Session}

/-- A call pays for an option that was offered and that the policy allows, or signs nothing. -/
theorem fetch_leaves {R : Session → Prop} (hnone : ∀ t : Session, t.signed = s.signed → R t)
    (hpay : ∀ k response body details signer t, w.respond k = .ok response →
      readPaymentRequiredResponse w.engine response = .ok body →
      c.select body = .ok (details, signer) → c.assertBudget w.engine details = .ok () →
      t.signed = s.signed → (c.pay w request details signer s.steps).Leaves t R) :
    (c.fetch w request).Leaves s R := by
  refine .get_bind ?_
  refine leaves_await_bind (hnone _ rfl) fun response hresponse => ?_
  by_cases hstatus : response.status ≠ 402
  · rw [if_pos hstatus]
    exact .pure (hnone _ rfl)
  · rw [if_neg hstatus]
    refine .orReturn_bind (hnone _ rfl) fun body hbody =>
      .orReturn_bind (hnone _ rfl) fun option hselect =>
      .orReturn_bind (hnone _ rfl) fun _ hbudget => ?_
    refine .bind (verifyAttestation_keeps _ _) (fun t ht => hnone t ht) fun _ t ht => ?_
    exact hpay _ _ _ _ _ _ hresponse hbody hselect hbudget ht

/-- The payloads that a call signs. -/
def signedIn (c : Client) (w : World) (request : Request) (s : Session) : List Signed :=
  ((c.fetch w request).run s).2.signed.drop s.signed.length

/-- The decimals that the option names which the client would choose from an answer. -/
def offeredDecimals (c : Client) (E : Js.Engine) (response : Response) : Except Js.Error ℕ := do
  let body ← readPaymentRequiredResponse E response
  let option ← c.select body
  let decimals ← Js.read (some option.1) ["asset", "decimals"]
  decimalsOf E decimals

/-- An answer of the seller that keeps to the mint's decimals, and that no deposit answers. -/
structure Fair (c : Client) (E : Js.Engine) (d : ℕ) (response : Response) : Prop where
  decimals : ∀ e ∈ (c.offeredDecimals E response).toOption, e ≤ d
  balance : c.autoDeposit = none ∨ ¬ ReportsInsufficient E response

theorem spent_of_length_le_one {signed : List Signed} {bound : ℚ} (hlen : signed.length ≤ 1)
    (hbound : 0 ≤ bound) (h : ∀ p ∈ signed, (p.payload.enclaveAmount : ℚ) ≤ bound) :
    (spent signed : ℚ) ≤ bound := by
  match signed, hlen with
  | [], _ => simpa [spent] using hbound
  | [p], _ => simpa [spent] using h p (by simp)

/-- **One fetch within the policy.** -/
theorem fetch_within_policy {policy : String} {v : ℚ} {d : ℕ}
    (hc : c.maxPaymentPerRequest = some (.text policy)) (hv : policyValue policy = some v)
    (hfair : ∀ k response, w.respond k = .ok response → c.Fair w.engine d response) :
    (spent (c.signedIn w request s) : ℚ) ≤ v * 10 ^ d := by
  have hnonneg : 0 ≤ v * 10 ^ d := mul_nonneg (policyValue_nonneg hv) (by positivity)
  suffices h : (c.fetch w request).Leaves s fun t =>
      (spent (t.signed.drop s.signed.length) : ℚ) ≤ v * 10 ^ d from h
  refine fetch_leaves (fun t ht => ?_) fun k response body details signer t hresponse hbody hselect
    hbudget ht => ?_
  · rw [ht, List.drop_length]
    exact spent_of_length_le_one (by simp) hnonneg (by simp)
  · have hquiet : (c.pay w request details signer s.steps).Along (Signs details s.steps (1 + 0)) :=
      pay_signs fun k paid hpaid => topUp_quiet (hfair k paid hpaid).balance
    refine (hquiet t).mono fun u hu => ?_
    obtain ⟨new, hnew, hlen, hpays⟩ := hu.signed
    rw [hnew, ht, List.drop_left]
    refine spent_of_length_le_one hlen hnonneg fun p hp => ?_
    refine enclaveAmount_le hbudget hc hv (hpays p hp).amount fun decimals e hdecimals he => ?_
    apply (hfair k response hresponse).decimals e
    unfold offeredDecimals
    rw [hbody, ok_bind, hselect, ok_bind, hdecimals, ok_bind, he]
    rfl

/-- A price of one token of six decimals, under a policy of one token. -/
theorem fetch_within_policy_sample :
    (Sample.client.signedIn (Sample.shop Sample.six "1000000" Sample.served) Sample.request
        Sample.session).length = 1
      ∧ (spent (Sample.client.signedIn (Sample.shop Sample.six "1000000" Sample.served)
          Sample.request Sample.session) : ℚ) ≤ 1 * 10 ^ 6 := by
  refine ⟨by decide +kernel, fetch_within_policy rfl ?_ fun k response h => ?_⟩
  · decide +kernel
  · change Except.ok (if k = 0 ∨ k = 12 then _ else _) = _ at h
    split at h
    · cases h
      exact ⟨by decide +kernel, .inl rfl⟩
    · cases h
      exact ⟨by decide +kernel, .inl rfl⟩

/-- The same policy, and a seller that names eighteen decimals, or one that reports a balance
that is too small to a client with `autoDeposit`. -/
theorem fetch_overspends :
    policyValue "$1" = some 1
      ∧ spent (Sample.client.signedIn (Sample.shop Sample.eighteen "1000000000000000000"
          Sample.served) Sample.request Sample.session) = 10 ^ 18
      ∧ spent (Sample.depositing.signedIn (Sample.shop Sample.six "1000000" Sample.short)
          Sample.request Sample.session) = 13 * 10 ^ 6 := by
  decide +kernel

end Client

end Sdk
end Subly402
