/-
# No signature without an attested enclave

A client with `nitroAttestation` is meant to sign a payment only for a vault whose enclave
it has attested: a response of the facilitator whose document verified under the client's
configuration, whose user data name the vault and its signer, and whose TLS key is the one
the client saw.  `Vouched` says so of a signed payload, with the questions that were
answered before it.
-/

import Subly402.Sdk.Client

namespace Subly402
namespace Sdk

open Lib

variable {E : Js.Engine} {attestation details : Json} {config : NitroAttestationConfig} {w : World}
  {t : Session} {began : ℕ} {url : String} {document : NitroDocument} {parsed : UserDataEnvelope}

/-! ### Responses and options -/

/-- A response that answers for an option. -/
structure Matches (E : Js.Engine) (attestation details : Json) : Prop where
  config : ∃ v, Js.read (some details) ["vault", "config"] = .ok v
    ∧ Js.same E (attestation.get "vaultConfig") v
  signer : ∃ v, Js.read (some details) ["vault", "signer"] = .ok v
    ∧ Js.same E (attestation.get "vaultSigner") v
  policyHash : ∃ h h', attestation.get "attestationPolicyHash" = some (.string h)
    ∧ Js.read (some details) ["vault", "attestationPolicyHash"] = .ok (some (.string h'))
    ∧ E.toLowerCase h = E.toLowerCase h'

theorem matches_of_detailsMismatch {texts : String × String × String}
    (h : detailsMismatch E texts attestation details = .ok none) :
    Matches E attestation details := by
  unfold detailsMismatch at h
  obtain ⟨config, hconfig, h⟩ := bind_eq_ok.1 h
  obtain ⟨vaultConfig, hvaultConfig, h⟩ := bind_eq_ok.1 h
  split at h
  · cases h
  · next hsameConfig =>
    obtain ⟨signer, hsigner, h⟩ := bind_eq_ok.1 h
    obtain ⟨vaultSigner, hvaultSigner, h⟩ := bind_eq_ok.1 h
    split at h
    · cases h
    · next hsameSigner =>
      obtain ⟨hashValue, hhashValue, h⟩ := bind_eq_ok.1 h
      obtain ⟨hash, hhash, h⟩ := bind_eq_ok.1 h
      obtain ⟨expectedValue, hexpectedValue, h⟩ := bind_eq_ok.1 h
      obtain ⟨expected, hexpected, h⟩ := bind_eq_ok.1 h
      split at h
      · cases h
      · next hsameHash =>
        rw [Js.text_eq_ok] at hhash hexpected
        subst hhash hexpected
        refine ⟨⟨vaultConfig, hvaultConfig, ?_⟩, ⟨vaultSigner, hvaultSigner, ?_⟩,
          ⟨hash, expected, get_of_prop hhashValue, hexpectedValue, not_not.1 hsameHash⟩⟩
        · rw [get_of_prop hconfig]
          exact not_not.1 hsameConfig
        · rw [get_of_prop hsigner]
          exact not_not.1 hsameSigner

/-- The response has not expired at a time. -/
def ValidAt (E : Js.Engine) (attestation : Json) (now : ℤ) : Prop :=
  ∃ expiry ∈ E.parseDate (attestation.get "expiresAt"), now < expiry

theorem assertAttestationMatchesDetails_ok {now : ℤ}
    (h : assertAttestationMatchesDetails E attestation details now = .ok ()) :
    Matches E attestation details ∧ ValidAt E attestation now := by
  unfold assertAttestationMatchesDetails at h
  obtain ⟨mismatch, hmismatch, h⟩ := bind_eq_ok.1 h
  cases mismatch with
  | some text => cases h
  | none =>
    refine ⟨matches_of_detailsMismatch hmismatch, ?_⟩
    obtain ⟨issued, -, h⟩ := bind_eq_ok.1 h
    obtain ⟨expires, hexpires, h⟩ := bind_eq_ok.1 h
    simp only at h
    split at h
    · next issuedAt expiry _ hexpiry =>
      rw [refuseIf_eq_ok, not_or, not_le] at h
      refine ⟨expiry, ?_, h.1⟩
      rw [get_of_prop hexpires]
      exact hexpiry
    · cases h

theorem cacheEntryStaleReason_none {cached : Json} {now : ℤ}
    (h : cacheEntryStaleReason E cached details now = .ok none) :
    Matches E cached details ∧ ValidAt E cached now := by
  unfold cacheEntryStaleReason at h
  obtain ⟨mismatch, hmismatch, h⟩ := bind_eq_ok.1 h
  cases mismatch with
  | some reason => cases h
  | none =>
    refine ⟨matches_of_detailsMismatch hmismatch, ?_⟩
    obtain ⟨expires, hexpires, h⟩ := bind_eq_ok.1 h
    split at h
    · cases h
    · next expiry hexpiry =>
      split at h
      · cases h
      · next hmargin =>
        refine ⟨expiry, ?_, ?_⟩
        · rw [get_of_prop hexpires]
          exact hexpiry
        · unfold expirySafetyMarginMs at hmargin
          omega

/-! ### Checked responses -/

/-- A configuration that insists on user data. -/
def NitroAttestationConfig.RequiresUserData (config : NitroAttestationConfig) (E : Js.Engine) :
    Prop :=
  config.requireSubly402UserData ≠ some false ∨ Js.truthy E config.expectedVaultSigner

/-- The document of a response verified under the configuration, for an option and before a
question. -/
def VerifiedBefore (w : World) (config : NitroAttestationConfig) (n : ℕ)
    (details attestation : Json) (document : NitroDocument) : Prop :=
  ∃ config', config.forDetails details = .ok config' ∧ ∃ i < n, ∃ j < n, ∃ k < n,
    verifyNitroAttestationDocument w.engine w.nitro attestation config' (w.now i) (w.now j)
      (w.documentValidator k) = .ok document

/-- What was answered, before the question `n`, for a response to be kept. -/
structure Checked (w : World) (config : NitroAttestationConfig) (n : ℕ) (url : String)
    (details attestation : Json) (document : NitroDocument) (parsed : UserDataEnvelope) :
    Prop where
  /-- The facilitator sent the response. -/
  answered : ∃ k < n, ∃ reply, w.attestation k url = .ok reply ∧ reply.json = some attestation
  verified : VerifiedBefore w config n details attestation document
  userData : document.parsedSubly402UserData w.engine = some parsed
  binds : Binds w.engine parsed attestation
  matching : Matches w.engine attestation details
  /-- The user data bind the TLS key that the facilitator showed. -/
  tls : ∃ k < n, ∃ observed value, w.probeTls k url = .ok observed
    ∧ parsed.tlsPublicKeySha256 = some value
    ∧ normalizeHex w.engine value = normalizeHex w.engine observed

namespace Checked

variable {w : World} {config : NitroAttestationConfig} {n m : ℕ} {url : String}
  {details details' attestation : Json} {document : NitroDocument} {parsed : UserDataEnvelope}

theorem mono (h : Checked w config n url details attestation document parsed) (hle : n ≤ m) :
    Checked w config m url details attestation document parsed := by
  obtain ⟨k, hk, hreply⟩ := h.answered
  obtain ⟨config', hconfig', i, hi, j, hj, l, hl, hverified⟩ := h.verified
  obtain ⟨o, ho, hobserved⟩ := h.tls
  exact ⟨⟨k, by omega, hreply⟩,
    ⟨config', hconfig', i, by omega, j, by omega, l, by omega, hverified⟩, h.userData, h.binds,
    h.matching, ⟨o, by omega, hobserved⟩⟩

/-- The vault of the option is the one in the user data. -/
theorem vaultConfig (h : Checked w config n url details attestation document parsed) :
    Js.read (some details) ["vault", "config"] = .ok (some (.string parsed.vaultConfig)) := by
  obtain ⟨v, hread, hsame⟩ := h.matching.config
  rw [h.binds.vaultConfig] at hsame
  rw [hread, Js.same_text_left hsame]

theorem signer_of_matches (hbinds : Binds w.engine parsed attestation)
    (h : Matches w.engine attestation details) :
    Js.read (some details) ["vault", "signer"] = .ok (some (.string parsed.vaultSigner)) := by
  obtain ⟨v, hread, hsame⟩ := h.signer
  rw [hbinds.vaultSigner] at hsame
  rw [hread, Js.same_text_left hsame]

/-- Two hashes of options that one response answers for stand for one hash. -/
theorem expectedHash_eq {hash : Option Json} {h h' : String}
    (heq : E.toLowerCase h = E.toLowerCase h') :
    expectedHash E attestation
        { config with expectedPolicyHash := Js.orElse hash (some (.string h)) }
      = expectedHash E attestation
        { config with expectedPolicyHash := Js.orElse hash (some (.string h')) } := by
  unfold expectedHash
  cases config.policy with
  | some policy => rfl
  | none =>
    refine bind_congr fun provided => ?_
    by_cases hnull : Js.isNullish hash
    · have hnormal : normalizeHex E h = normalizeHex E h' := by
        unfold normalizeHex
        rw [heq]
      rw [Js.orElse_of_isNullish hnull, Js.orElse_of_isNullish hnull]
      change Except.ok (normalizeHex E h) = Except.ok (normalizeHex E h')
      rw [hnormal]
    · simp only [Js.orElse_of_not_isNullish hnull]

/-- A response that was checked for one option is checked for every option that it matches. -/
theorem transfer (h : Checked w config n url details attestation document parsed)
    (hmatch : Matches w.engine attestation details') :
    Checked w config n url details' attestation document parsed := by
  refine { h with verified := ?_, matching := hmatch }
  obtain ⟨config', hconfig', i, hi, j, hj, k, hk, hverified⟩ := h.verified
  obtain ⟨hash, old, hhash, hold, hsameOld⟩ := h.matching.policyHash
  obtain ⟨hash', new, hhash', hnew, hsameNew⟩ := hmatch.policyHash
  obtain rfl : hash = hash' := by
    rw [hhash] at hhash'
    cases hhash'
    rfl
  have hsigner := signer_of_matches h.binds h.matching
  have hsigner' := signer_of_matches h.binds hmatch
  unfold VerifiedBefore NitroAttestationConfig.forDetails
  unfold NitroAttestationConfig.forDetails at hconfig'
  rw [hold, ok_bind, hsigner, ok_bind] at hconfig'
  rw [hnew, ok_bind, hsigner', ok_bind]
  cases hconfig'
  refine ⟨_, rfl, i, hi, j, hj, k, hk, ?_⟩
  rw [← hverified]
  exact verifyNitroAttestationDocument_congr
    { config with
      expectedVaultSigner := Js.orElse config.expectedVaultSigner (some (.string parsed.vaultSigner))
      requireSubly402UserData := some (config.requireSubly402UserData.getD true) }
    (expectedHash_eq (hsameNew.symm.trans hsameOld))

end Checked

/-! ### The gate -/

/-- Every cached response was checked. -/
def CacheChecked (w : World) (config : NitroAttestationConfig) (s : Session) : Prop :=
  ∀ url attestation, s.cache[url]? = some attestation →
    ∃ details document parsed, Checked w config s.steps url details attestation document parsed

theorem CacheChecked.of_cache_eq {s : Session} (h : CacheChecked w config s)
    (hcache : t.cache = s.cache) (hsteps : s.steps ≤ t.steps) :
    CacheChecked w config t := by
  intro url attestation hcached
  rw [hcache] at hcached
  obtain ⟨details, document, parsed, hchecked⟩ := h url attestation hcached
  exact ⟨details, document, parsed, hchecked.mono hsteps⟩

theorem CacheChecked.asks {s : Session} (h : CacheChecked w config s) (ht : Asks s t) :
    CacheChecked w config t :=
  h.of_cache_eq ht.cache ht.steps

/-- What the gate has established of an option when it lets it pass. -/
structure Passed (w : World) (config : NitroAttestationConfig) (began : ℕ) (details : Json)
    (t : Session) (url : String) (attestation : Json) (document : NitroDocument)
    (parsed : UserDataEnvelope) : Prop where
  facilitator : facilitatorUrlOf details = .ok url
  checked : Checked w config t.steps url details attestation document parsed
  valid : ∃ k, began ≤ k ∧ k < t.steps ∧ ValidAt w.engine attestation (w.now k)

theorem Passed.of_later {later : ℕ} (hle : began ≤ later)
    (h : Passed w config later details t url attestation document parsed) :
    Passed w config began details t url attestation document parsed := by
  obtain ⟨k, hlater, hk, hvalid⟩ := h.valid
  exact ⟨h.facilitator, h.checked, k, hle.trans hlater, hk, hvalid⟩

/-- No response of the facilitator carries a document that calls itself local. -/
def NoLocalDocument (w : World) : Prop :=
  ∀ k url reply attestation, w.attestation k url = .ok reply → reply.json = some attestation →
    isLocalDevAttestation w.engine attestation = false

namespace Client

variable {c : Client} {w : World} {config : NitroAttestationConfig} {s : Session}
  {details attestation : Json} {url : String}

theorem verifyRemoteDocument_returns (hc : c.nitroAttestation = some config) :
    (c.verifyRemoteDocument w details attestation).Returns s fun _ t =>
      ∃ document, VerifiedBefore w config t.steps details attestation document := by
  unfold verifyRemoteDocument
  rw [hc]
  refine .orReturn_bind fun config' hconfig' => .run_bind rfl <| .run_bind rfl <| .run_bind rfl <|
    .orReturn_bind fun document hdocument => ?_
  -- the clock was asked twice and the validator once
  have hend : ∀ t : Session, s.steps + 1 + 1 + 1 ≤ t.steps →
      ∃ document, VerifiedBefore w config t.steps details attestation document := fun t ht =>
    ⟨document, config', hconfig', s.steps, by omega, s.steps + 1, by omega, s.steps + 1 + 1,
      by omega, hdocument⟩
  refine .ite (fun _ => ?_) fun _ => .pure (hend _ le_rfl)
  exact .of_leaves ((await_asks _ _).mono fun t ht => hend t ht.steps)

theorem verifyDocument_returns (hc : c.nitroAttestation = some config)
    (hremote : isLocalDevAttestation w.engine attestation = false) :
    (c.verifyDocument w details attestation).Returns s fun _ t =>
      ∃ document, VerifiedBefore w config t.steps details attestation document := by
  unfold verifyDocument
  rw [hremote]
  exact verifyRemoteDocument_returns hc

/-- The TLS key of the response is the one that was seen. -/
theorem verifyAttestedTlsBinding_returns :
    (verifyAttestedTlsBinding w url attestation false).Returns s fun _ t =>
      ∃ k < t.steps, ∃ observed expected, w.probeTls k url = .ok observed
        ∧ attestation.get "tlsPublicKeySha256" = some (.string expected)
        ∧ w.engine.toLowerCase observed = w.engine.toLowerCase expected := by
  refine .orReturn_bind fun tls htls => .ite (fun _ => ?_) fun _ => ?_
  · refine returns_await_bind fun observed hobserved => .orReturn_bind fun expected hexpected => ?_
    intro u t ht
    rw [Prog.run_failIf] at ht
    split at ht
    · cases ht
    · next hsame =>
      cases ht
      rw [Js.text_eq_ok] at hexpected
      refine ⟨s.steps, Nat.lt_succ_self _, observed, expected, hobserved, ?_, not_not.1 hsame⟩
      rw [get_of_prop htls, hexpected]
  · intro u t ht
    cases ht

/-- The configuration that a document is verified under insists on user data. -/
theorem required_forDetails {config' : NitroAttestationConfig}
    (hrequired : config.RequiresUserData E) (h : config.forDetails details = .ok config') :
    config'.requireSubly402UserData = some true ∨ Js.truthy E config'.expectedVaultSigner := by
  unfold NitroAttestationConfig.forDetails at h
  obtain ⟨hash, -, h⟩ := bind_eq_ok.1 h
  obtain ⟨signer, -, h⟩ := bind_eq_ok.1 h
  cases h
  rcases hrequired with hflag | hsigner
  · left
    cases hrequire : config.requireSubly402UserData with
    | none => rfl
    | some flag =>
      cases flag with
      | true => rfl
      | false => exact absurd hrequire hflag
  · right
    rw [Js.orElse_of_not_isNullish (Js.not_isNullish_of_truthy hsigner)]
    exact hsigner

section Attesting

variable (hc : c.nitroAttestation = some config) (hrequired : config.RequiresUserData w.engine)
  (hlocal : NoLocalDocument w)
include hc hrequired hlocal

/-- What a fresh response was checked for. -/
theorem freshAttestation_returns (hurl : facilitatorUrlOf details = .ok url) :
    (c.freshAttestation w details url).Returns s fun a t =>
      ∃ document parsed, Passed w config s.steps details t url a document parsed := by
  refine returns_await_bind fun reply hreply => .failIf_bind fun _ => .orReturn_bind fun a ha =>
    .run_bind rfl <| .orReturn_bind fun _ hmatches => ?_
  rw [okOrElse_eq_ok] at ha
  have hremote := hlocal _ _ _ _ hreply ha
  obtain ⟨hmatching, hvalid⟩ := assertAttestationMatchesDetails_ok hmatches
  rw [hremote]
  refine .bind ((verifyDocument_returns hc hremote).with_leaves (verifyDocument_asks _ _ _)) ?_
  rintro _ t ⟨⟨document, hverified⟩, hasks⟩
  refine .bind (verifyAttestedTlsBinding_returns.with_leaves
    (verifyAttestedTlsBinding_asks _ _ _ _)) ?_
  rintro _ u ⟨⟨k, hk, observed, expected, hobserved, hexpected, hsame⟩, hasks'⟩
  refine .pure ?_
  have hsteps : s.steps + 1 + 1 ≤ u.steps := hasks.steps.trans hasks'.steps
  obtain ⟨config', hconfig', i, hi, j, hj, l, hl, hdocument⟩ := hverified
  obtain ⟨parsed, hparsed, hbinds⟩ :=
    verifyNitroAttestationDocument_binds hdocument (required_forDetails hrequired hconfig')
  obtain ⟨value, hvalue, hnormal⟩ := hbinds.tls expected hexpected
  have hverified' : VerifiedBefore w config u.steps details a document :=
    ⟨config', hconfig', i, hi.trans_le hasks'.steps, j, hj.trans_le hasks'.steps, l,
      hl.trans_le hasks'.steps, hdocument⟩
  have htls : normalizeHex w.engine value = normalizeHex w.engine observed := by
    rw [hnormal]
    unfold normalizeHex
    rw [hsame]
  refine ⟨document, parsed, hurl, ⟨⟨s.steps, by omega, reply, hreply, ha⟩, hverified', hparsed,
    hbinds, hmatching, ⟨k, hk, observed, value, hobserved, hvalue, htls⟩⟩,
    ⟨s.steps + 1, by omega, by omega, hvalid⟩⟩

/-- The cache stays checked when a fresh response is put into it. -/
theorem attest_leaves (hurl : facilitatorUrlOf details = .ok url) (h : CacheChecked w config s) :
    (c.attest w details url).Leaves s (CacheChecked w config) := by
  refine (freshAttestation_returns hc hrequired hlocal hurl).with_leaves
    (freshAttestation_asks _ _ s) |>.bind_leaves
    ((freshAttestation_asks _ _ s).mono fun t ht => h.asks ht) ?_
  rintro a t ⟨⟨document, parsed, hpassed⟩, hasks⟩
  refine .modify_bind (.pure ?_)
  exact FiniteMap.forall_insert (h.asks hasks) ⟨details, document, parsed, hpassed.checked⟩

theorem attest_returns (hurl : facilitatorUrlOf details = .ok url) :
    (c.attest w details url).Returns s fun a t =>
      ∃ document parsed, Passed w config s.steps details t url a document parsed := by
  refine (freshAttestation_returns hc hrequired hlocal hurl).bind ?_
  rintro a t ⟨document, parsed, hpassed⟩
  exact .modify_bind (.pure ⟨document, parsed, hpassed.facilitator, hpassed.checked, hpassed.valid⟩)

/-- The gate keeps the cache checked, whether it lets the option pass or not. -/
theorem verifyAttestation_leaves (h : CacheChecked w config s) :
    (c.verifyAttestation w details).Leaves s (CacheChecked w config) := by
  refine .orReturn_bind h fun url hurl => .failIf_bind (fun _ => h) fun _ => .get_bind ?_
  split
  · exact attest_leaves hc hrequired hlocal hurl h
  · have hasked : CacheChecked w config { s with steps := s.steps + 1 } := h.asks (ask_asks w.now s)
    refine leaves_ask_bind (.orReturn_bind hasked fun reason _ => ?_)
    cases reason with
    | none => exact .pure hasked
    | some _ =>
      exact .modify_bind (attest_leaves hc hrequired hlocal hurl (FiniteMap.forall_erase hasked))

/-- What an option that passed was checked for, by a fresh response or by a cached one. -/
theorem verifyAttestation_returns (h : CacheChecked w config s) :
    (c.verifyAttestation w details).Returns s fun a t =>
      ∃ url document parsed, Passed w config s.steps details t url a document parsed := by
  refine .orReturn_bind fun url hurl => .failIf_bind fun _ => .get_bind ?_
  split
  · intro a t ht
    exact ⟨url, attest_returns hc hrequired hlocal hurl a t ht⟩
  · next cached hcached =>
    refine .run_bind rfl (.orReturn_bind fun reason hreason => ?_)
    cases reason with
    | none =>
      obtain ⟨hmatching, hvalid⟩ := cacheEntryStaleReason_none hreason
      obtain ⟨old, document, parsed, hchecked⟩ := h url cached hcached
      have hnow : Checked w config (s.steps + 1) url details cached document parsed :=
        (hchecked.transfer hmatching).mono (Nat.le_succ _)
      exact .pure ⟨url, document, parsed, hurl, hnow, s.steps, le_rfl, Nat.lt_succ_self _, hvalid⟩
    | some _ =>
      refine .modify_bind fun a t ht => ?_
      obtain ⟨document, parsed, hpassed⟩ := attest_returns hc hrequired hlocal hurl a t ht
      exact ⟨url, document, parsed, hpassed.of_later (Nat.le_succ _)⟩

end Attesting

end Client

/-! ### Every signed payload -/

/-- What stands behind a signed payload: a response of the option's facilitator that verified
under the client's configuration and was valid when the call looked at it, with user data that
name the vault of the payload and its signer and bind the TLS key that the facilitator showed. -/
structure Vouched (w : World) (config : NitroAttestationConfig) (p : Signed) (url : String)
    (attestation : Json) (document : NitroDocument) (parsed : UserDataEnvelope) : Prop where
  facilitator : facilitatorUrlOf p.details = .ok url
  checked : Checked w config p.step url p.details attestation document parsed
  valid : ∃ k, p.began ≤ k ∧ k < p.step ∧ ValidAt w.engine attestation (w.now k)
  vaultConfig : p.payload.vault = some (.string parsed.vaultConfig)
  vaultSigner : Js.read (some p.details) ["vault", "signer"]
    = .ok (some (.string parsed.vaultSigner))

theorem Passed.vouched {p : Signed}
    (h : Passed w config began details t url attestation document parsed)
    (hp : Pays details began t.steps p) : Vouched w config p url attestation document parsed := by
  obtain ⟨k, hbegan, hk, hvalid⟩ := h.valid
  have hvault := hp.vault
  rw [h.checked.vaultConfig] at hvault
  have hdetails := hp.option
  subst hdetails
  exact ⟨h.facilitator, h.checked.mono hp.step, ⟨k, hp.call.le.trans hbegan, hk.trans_le hp.step, hvalid⟩,
    (Except.ok.inj hvault).symm, Checked.signer_of_matches h.checked.binds h.checked.matching⟩

/-- The invariant of a client: its cache is checked and its signatures are vouched for. -/
structure Sound (w : World) (config : NitroAttestationConfig) (s : Session) : Prop where
  cache : CacheChecked w config s
  signed : ∀ p ∈ s.signed, ∃ url attestation document parsed,
    Vouched w config p url attestation document parsed

namespace Client

variable {c : Client} {w : World} {config : NitroAttestationConfig} {s : Session}

section Attesting

variable (hc : c.nitroAttestation = some config) (hrequired : config.RequiresUserData w.engine)
  (hlocal : NoLocalDocument w)
include hc hrequired hlocal

theorem verifyAttestation_sound (details : Json) (h : Sound w config s) :
    (c.verifyAttestation w details).Leaves s (Sound w config) := by
  refine ⟨verifyAttestation_leaves hc hrequired hlocal h.cache, fun p hp => h.signed p ?_⟩
  rwa [verifyAttestation_keeps details s] at hp

omit hc hrequired hlocal in
/-- The payment of an option that passed the gate. -/
theorem pay_sound {request : Request} {signer : Signer} (h : Sound w config s)
    (hpassed : Passed w config began details s url attestation document parsed) :
    (c.pay w request details signer began).Leaves s (Sound w config) := by
  have hsigns : (c.pay w request details signer began).Along
      (Signs details began (1 + depositSyncRetryAttempts)) :=
    pay_signs fun _ paid _ => topUp_signs paid
  refine (hsigns s).mono fun t ht => ?_
  obtain ⟨new, hnew, -, hpays⟩ := ht.signed
  refine ⟨h.cache.of_cache_eq ht.cache ht.steps, fun p hp => ?_⟩
  rw [hnew, List.mem_append] at hp
  rcases hp with hp | hp
  · exact h.signed p hp
  · exact ⟨url, attestation, document, parsed, hpassed.vouched (hpays p hp)⟩

/-- One call keeps the invariant. -/
theorem fetch_sound (request : Request) (h : Sound w config s) :
    (c.fetch w request).Leaves s (Sound w config) := by
  have hasks : Asks s { s with steps := s.steps + 1 } := await_asks w.respond s
  have hasked : Sound w config { s with steps := s.steps + 1 } := ⟨h.cache.asks hasks, h.signed⟩
  refine .get_bind (leaves_await_bind hasked fun response _ => ?_)
  by_cases hstatus : response.status ≠ 402
  · rw [if_pos hstatus]
    exact .pure hasked
  · rw [if_neg hstatus]
    refine .orReturn_bind hasked fun body _ => .orReturn_bind hasked fun option _ =>
      .orReturn_bind hasked fun _ _ => ?_
    have hgate := verifyAttestation_sound hc hrequired hlocal option.1 hasked
    refine ((verifyAttestation_returns hc hrequired hlocal hasked.cache).with_leaves hgate).bind_leaves
      hgate ?_
    rintro _ t ⟨⟨url, document, parsed, hpassed⟩, hsound⟩
    exact pay_sound hsound (hpassed.of_later (Nat.le_succ _))

/-- A new client, with the world at some question. -/
def start (steps : ℕ) : Session := { cache := ∅, steps, signed := [] }

/-- A run of calls. -/
def run (c : Client) (w : World) (requests : List Request) (s : Session) : Session :=
  requests.foldl (fun s request => ((c.fetch w request).run s).2) s

theorem run_sound (requests : List Request) (h : Sound w config s) :
    Sound w config (c.run w requests s) := by
  induction requests generalizing s with
  | nil => exact h
  | cons request requests ih => exact ih (fetch_sound hc hrequired hlocal request h)

end Attesting

/-- **Every signed payload is vouched for.** -/
theorem run_vouched (hc : c.nitroAttestation = some config)
    (hrequired : config.RequiresUserData w.engine) (hlocal : NoLocalDocument w)
    (requests : List Request) (steps : ℕ) :
    ∀ p ∈ (c.run w requests (start steps)).signed, ∃ url attestation document parsed,
      Vouched w config p url attestation document parsed := by
  have hstart : Sound w config (start steps) :=
    ⟨fun url attestation h => by simp [start] at h, fun p hp => by cases hp⟩
  exact (run_sound hc hrequired hlocal requests hstart).signed

/-- A client that attests the enclave of the example pays twice, the second time from its
cache. -/
theorem run_vouched_sample :
    (Sample.client.run (Sample.shop Sample.six "1000000" Sample.served)
        [Sample.request, Sample.request] (start 0)).signed.length = 2
      ∧ ∀ p ∈ (Sample.client.run (Sample.shop Sample.six "1000000" Sample.served)
          [Sample.request, Sample.request] (start 0)).signed,
        ∃ url attestation document parsed, Vouched (Sample.shop Sample.six "1000000" Sample.served)
          Sample.config p url attestation document parsed := by
  refine ⟨by decide +kernel, run_vouched rfl (.inl (by decide)) ?_ _ _⟩
  rintro k url reply attestation ⟨⟩ ⟨⟩
  decide +kernel

/-- A facilitator, or whoever answers for it, sends a document that calls itself local.  The
client signs, and nothing that it was answered verified. -/
theorem local_document_signs :
    (Sample.client.run Sample.impostor [Sample.request] (start 0)).signed.length = 1
      ∧ ∀ p ∈ (Sample.client.run Sample.impostor [Sample.request] (start 0)).signed,
        ¬ ∃ url attestation document parsed,
          Vouched Sample.impostor Sample.config p url attestation document parsed := by
  refine ⟨by decide +kernel, ?_⟩
  rintro p - ⟨url, attestation, document, parsed, hvouched⟩
  obtain ⟨k, -, reply, hreply, hjson⟩ := hvouched.checked.answered
  obtain ⟨config', -, i, -, j, -, l, -, hverified⟩ := hvouched.checked.verified
  cases hreply
  cases hjson
  obtain ⟨_, -, hverified⟩ := bind_eq_ok.1 hverified
  obtain ⟨_, ⟨⟩, hverified⟩ := bind_eq_ok.1 hverified
  obtain ⟨_, ⟨⟩, hverified⟩ := bind_eq_ok.1 hverified
  obtain ⟨_, hparse, -⟩ := bind_eq_ok.1 hverified
  have hother : (Sample.impostor.nitro.parse (Sample.impostor.engine.base64 (String.ofList
      (Sample.toBase64 (utf8 Sample.localDocument.canonical))))).toOption = none := by
    decide +kernel
  rw [hparse] at hother
  cases hother

end Client

end Sdk
end Subly402
