/-
# The certificate chain of an attestation document

`verifyCertificateChain` in `sdk/src/attestation.ts`.  The document brings the certificate
of the enclave and a bundle, in any order; the client has its trusted roots.  From the
leaf on, the function goes to the first certificate of the rest of the bundle that issued
and signed the current one, and takes it out of the rest, until it stands at one that is
trusted.
-/

import Mathlib.Data.List.Basic
import Mathlib.Data.List.Perm.Subperm
import Subly402.Lib.Js

namespace Subly402
namespace Sdk

open Lib

/-- What the library for certificates says of them. -/
structure Pki (α : Type) where
  raw : α → List UInt8
  subject : α → String
  validFromDate : α → ℤ
  validToDate : α → ℤ
  /-- `certificate.checkIssued(issuer)`. -/
  checkIssued : α → α → Bool
  /-- `certificate.verify(issuer.publicKey)`. -/
  verify : α → α → Bool

namespace Pki

variable {α : Type} (pki : Pki α)

/-- The certificate is issued and signed by the other. -/
def issuedBy (certificate issuer : α) : Bool :=
  pki.checkIssued certificate issuer && pki.verify certificate issuer

/-- The certificate is a trusted root, or is issued and signed by one. -/
def trusted (trustedRoots : List α) (certificate : α) : Bool :=
  trustedRoots.any fun root => pki.raw certificate = pki.raw root || pki.issuedBy certificate root

/-- The time is within the certificate's period. -/
def ValidAt (now : ℤ) (certificate : α) : Prop :=
  pki.validFromDate certificate ≤ now ∧ now ≤ pki.validToDate certificate

instance (now : ℤ) (certificate : α) : Decidable (pki.ValidAt now certificate) :=
  inferInstanceAs (Decidable (_ ∧ _))

/-- `assertCertificateValidAt`. -/
def assertCertificateValidAt (now : ℤ) (certificate : α) : Except Js.Error Unit :=
  refuseIf (now < pki.validFromDate certificate ∨ pki.validToDate certificate < now)
    (.error ("Attestation certificate " ++ pki.subject certificate
      ++ " is not valid at the current time"))

/-- The loop of `verifyCertificateChain`, with the number of rounds that are left. -/
def walk (trustedRoots : List α) : ℕ → ℕ → α → List α → Except Js.Error Unit
  | 0, _, _, _ =>
    .error (.error "Attestation certificate chain does not terminate at a trusted Nitro root")
  | rounds + 1, depth, current, remaining =>
    if pki.trusted trustedRoots current then .ok ()
    else match remaining.findIdx? (pki.issuedBy current) with
      | none => .error (.error s!"Attestation certificate chain is broken at depth {depth}")
      | some issuerIndex =>
        match remaining[issuerIndex]? with
        | none => .error .builtin
        | some next => walk trustedRoots rounds (depth + 1) next (remaining.eraseIdx issuerIndex)

/-- `verifyCertificateChain`. -/
def verifyCertificateChain (now : ℤ) (leaf : α) (bundle trustedRoots : List α) :
    Except Js.Error Unit := do
  (leaf :: bundle).forM (pki.assertCertificateValidAt now)
  trustedRoots.forM (pki.assertCertificateValidAt now)
  pki.walk trustedRoots (bundle.length + 1) 0 leaf bundle

/-! ### Paths -/

/-- A chain from a certificate through distinct certificates of a bundle to a trusted one. -/
structure PathToTrust (trustedRoots : List α) (leaf : α) (bundle path : List α) : Prop where
  distinct : path.Subperm bundle
  chain : List.IsChain (fun certificate issuer => pki.issuedBy certificate issuer = true)
    (leaf :: path)
  trusted : pki.trusted trustedRoots (path.getLastD leaf) = true

/-- From each certificate of the path, the next is the first issuer that is left. -/
def FirstPath : α → List α → List α → Prop
  | _, _, [] => True
  | current, remaining, next :: path => ∃ before after, remaining = before ++ next :: after ∧
      (∀ certificate ∈ before, pki.issuedBy current certificate = false) ∧
      pki.issuedBy current next = true ∧ FirstPath next (before ++ after) path

variable {pki}

/-- The first issuer, with what stands before and after it. -/
theorem findIdx?_eq_some_iff_append {p : α → Bool} {l : List α} {i : ℕ} :
    l.findIdx? p = some i ↔ ∃ before x after, l = before ++ x :: after ∧ before.length = i ∧
      (∀ a ∈ before, p a = false) ∧ p x = true := by
  constructor
  · intro h
    obtain ⟨hi, hpi, hbefore⟩ := List.findIdx?_eq_some_iff_getElem.1 h
    refine ⟨l.take i, l[i], l.drop (i + 1), ?_, ?_, ?_, hpi⟩
    · rw [← List.drop_eq_getElem_cons hi, List.take_append_drop]
    · rw [List.length_take]
      omega
    · intro a ha
      obtain ⟨j, hj, rfl⟩ := List.mem_take_iff_getElem.1 ha
      exact Bool.eq_false_iff.2 (hbefore j (by omega))
  · rintro ⟨before, x, after, rfl, rfl, hbefore, hx⟩
    induction before with
    | nil => simp [List.findIdx?_cons, hx]
    | cons b before ih =>
      have hb : p b = false := hbefore b List.mem_cons_self
      rw [List.cons_append, List.findIdx?_cons, hb,
        ih fun a ha => hbefore a (List.mem_cons_of_mem _ ha)]
      rfl

theorem getElem?_append_cons (before after : List α) (x : α) :
    (before ++ x :: after)[before.length]? = some x := by
  simp

theorem eraseIdx_append_cons (before after : List α) (x : α) :
    (before ++ x :: after).eraseIdx before.length = before ++ after := by
  rw [List.eraseIdx_append_of_length_le (Nat.le_refl _), Nat.sub_self, List.eraseIdx_cons_zero]

/-- **The loop follows the first issuers**, and has as many rounds as there are certificates. -/
theorem walk_eq_ok_iff {trustedRoots : List α} {rounds depth : ℕ} {current : α}
    {remaining : List α} (hrounds : remaining.length < rounds) :
    pki.walk trustedRoots rounds depth current remaining = .ok () ↔
      ∃ path, pki.FirstPath current remaining path ∧
        pki.trusted trustedRoots (path.getLastD current) = true := by
  induction rounds generalizing depth current remaining with
  | zero => omega
  | succ rounds ih =>
    unfold walk
    split
    · next htrusted => exact iff_of_true rfl ⟨[], trivial, htrusted⟩
    · next htrusted =>
      cases hfind : remaining.findIdx? (pki.issuedBy current) with
      | none =>
        -- a path would have to begin with an issuer
        refine iff_of_false nofun ?_
        rintro ⟨path, hpath, hlast⟩
        cases path with
        | nil => exact htrusted hlast
        | cons next path =>
          obtain ⟨before, after, rfl, -, hissued, -⟩ := hpath
          have hnone := List.findIdx?_eq_none_iff.1 hfind next (by simp)
          rw [hissued] at hnone
          cases hnone
      | some i =>
        obtain ⟨before, next, after, rfl, rfl, hbefore, hissued⟩ :=
          findIdx?_eq_some_iff_append.1 hfind
        have hlength : (before ++ after).length < rounds := by
          simp only [List.length_append, List.length_cons] at hrounds ⊢
          omega
        dsimp only
        rw [getElem?_append_cons, eraseIdx_append_cons]
        dsimp only
        rw [ih hlength]
        constructor
        · rintro ⟨path, hpath, hlast⟩
          exact ⟨next :: path, ⟨before, after, rfl, hbefore, hissued, hpath⟩,
            by rwa [List.getLastD_cons]⟩
        · rintro ⟨path, hpath, hlast⟩
          cases path with
          | nil => exact absurd hlast htrusted
          | cons other path =>
            obtain ⟨before', after', heq, hbefore', hissued', hpath⟩ := hpath
            -- the first issuer stands at one place
            have hsame : before'.length = before.length := by
              have hfind' := findIdx?_eq_some_iff_append.2
                ⟨before', other, after', heq, rfl, hbefore', hissued'⟩
              rw [hfind] at hfind'
              exact (Option.some.inj hfind').symm
            obtain ⟨rfl, hrest⟩ := List.append_inj heq.symm hsame
            obtain ⟨rfl, rfl⟩ := List.cons.inj hrest
            rw [List.getLastD_cons] at hlast
            exact ⟨path, hpath, hlast⟩

/-! ### Chains -/

/-- Every path of first issuers is a chain. -/
theorem FirstPath.pathToTrust {trustedRoots : List α} {current : α} {remaining path : List α}
    (h : pki.FirstPath current remaining path)
    (hlast : pki.trusted trustedRoots (path.getLastD current) = true) :
    pki.PathToTrust trustedRoots current remaining path := by
  induction path generalizing current remaining with
  | nil => exact ⟨List.nil_subperm, List.isChain_singleton _, hlast⟩
  | cons next path ih =>
    obtain ⟨before, after, rfl, -, hissued, hpath⟩ := h
    have hrest := ih hpath (by rwa [List.getLastD_cons] at hlast)
    refine ⟨?_, List.isChain_cons_cons.2 ⟨hissued, hrest.chain⟩, hlast⟩
    exact (List.subperm_cons next).2 hrest.distinct |>.trans List.perm_middle.symm.subperm

/-- No certificate has two issuers in the bundle. -/
def SingleIssuers (pki : Pki α) (leaf : α) (bundle : List α) : Prop :=
  ∀ certificate ∈ leaf :: bundle, bundle.countP (pki.issuedBy certificate) ≤ 1

/-- Where no certificate has two issuers, every chain is the path of first issuers. -/
theorem PathToTrust.firstPath {trustedRoots : List α} {current : α} {remaining path : List α}
    (h : pki.PathToTrust trustedRoots current remaining path)
    (hsingle : pki.SingleIssuers current remaining) : pki.FirstPath current remaining path := by
  induction path generalizing current remaining with
  | nil => trivial
  | cons next path ih =>
    obtain ⟨hissued, hchain⟩ := List.isChain_cons_cons.1 h.chain
    have hmem : next ∈ remaining := h.distinct.subset List.mem_cons_self
    obtain ⟨before, after, rfl⟩ := List.append_of_mem hmem
    have hperm : (before ++ next :: after).Perm (next :: (before ++ after)) := List.perm_middle
    have hcount := hsingle current List.mem_cons_self
    rw [hperm.countP_eq, List.countP_cons, if_pos hissued] at hcount
    have hnone : (before ++ after).countP (pki.issuedBy current) = 0 := by omega
    refine ⟨before, after, rfl, fun certificate hcertificate => ?_, hissued, ih ?_ ?_⟩
    · exact Bool.eq_false_iff.2
        (List.countP_eq_zero.1 hnone certificate (List.mem_append_left _ hcertificate))
    · have htrusted := h.trusted
      rw [List.getLastD_cons] at htrusted
      exact ⟨(List.subperm_cons next).1 (h.distinct.trans hperm.subperm), hchain, htrusted⟩
    · intro certificate hcertificate
      have hall := hsingle certificate (List.mem_cons_of_mem _ (hperm.mem_iff.2 hcertificate))
      rw [hperm.countP_eq, List.countP_cons] at hall
      omega

/-! ### The function -/

theorem forM_eq_ok_iff {ε : Type} {f : α → Except ε Unit} {l : List α} :
    l.forM f = .ok () ↔ ∀ a ∈ l, f a = .ok () := by
  induction l with
  | nil => exact iff_of_true rfl fun _ h => absurd h List.not_mem_nil
  | cons a l ih =>
    show (f a >>= fun _ => l.forM f) = .ok () ↔ _
    rw [bind_eq_ok, List.forall_mem_cons, ← ih]
    exact ⟨fun ⟨_, ha, hl⟩ => ⟨ha, hl⟩, fun ⟨ha, hl⟩ => ⟨(), ha, hl⟩⟩

theorem assertCertificateValidAt_eq_ok_iff {now : ℤ} {certificate : α} :
    pki.assertCertificateValidAt now certificate = .ok () ↔ pki.ValidAt now certificate := by
  unfold assertCertificateValidAt ValidAt
  rw [refuseIf_eq_ok, not_or, not_lt, not_lt]

theorem verifyCertificateChain_eq_ok_iff {now : ℤ} {leaf : α} {bundle trustedRoots : List α} :
    pki.verifyCertificateChain now leaf bundle trustedRoots = .ok () ↔
      (∀ certificate ∈ leaf :: bundle ++ trustedRoots, pki.ValidAt now certificate) ∧
      ∃ path, pki.FirstPath leaf bundle path ∧
        pki.trusted trustedRoots (path.getLastD leaf) = true := by
  unfold verifyCertificateChain
  rw [bind_eq_ok, List.forall_mem_append, ← walk_eq_ok_iff (Nat.lt_succ_self bundle.length)]
  constructor
  · rintro ⟨_, hchain, hrest⟩
    obtain ⟨_, hroots, hwalk⟩ := bind_eq_ok.1 hrest
    exact ⟨⟨fun c hc => assertCertificateValidAt_eq_ok_iff.1 (forM_eq_ok_iff.1 hchain c hc),
      fun c hc => assertCertificateValidAt_eq_ok_iff.1 (forM_eq_ok_iff.1 hroots c hc)⟩, hwalk⟩
  · rintro ⟨⟨hchain, hroots⟩, hwalk⟩
    exact ⟨(), forM_eq_ok_iff.2 fun c hc => assertCertificateValidAt_eq_ok_iff.2 (hchain c hc),
      bind_eq_ok.2 ⟨(), forM_eq_ok_iff.2 fun c hc =>
        assertCertificateValidAt_eq_ok_iff.2 (hroots c hc), hwalk⟩⟩

/-- **The certificates that are accepted.**  The function accepts exactly where every certificate it
is given is valid and the path of first issuers from the leaf comes to a trusted certificate.  Such
a path is a chain; where no certificate has two issuers in the bundle, all chains are accepted. -/
theorem verifyCertificateChain_iff (pki : Pki α) (now : ℤ) (leaf : α)
    (bundle trustedRoots : List α) :
    (pki.verifyCertificateChain now leaf bundle trustedRoots = .ok () ↔
      (∀ certificate ∈ leaf :: bundle ++ trustedRoots, pki.ValidAt now certificate) ∧
      ∃ path, pki.FirstPath leaf bundle path ∧
        pki.trusted trustedRoots (path.getLastD leaf) = true) ∧
    (pki.verifyCertificateChain now leaf bundle trustedRoots = .ok () →
      (∀ certificate ∈ leaf :: bundle ++ trustedRoots, pki.ValidAt now certificate) ∧
      ∃ path, pki.PathToTrust trustedRoots leaf bundle path) ∧
    (pki.SingleIssuers leaf bundle →
      (pki.verifyCertificateChain now leaf bundle trustedRoots = .ok () ↔
        (∀ certificate ∈ leaf :: bundle ++ trustedRoots, pki.ValidAt now certificate) ∧
        ∃ path, pki.PathToTrust trustedRoots leaf bundle path)) := by
  have hiff : pki.verifyCertificateChain now leaf bundle trustedRoots = .ok () ↔ _ :=
    verifyCertificateChain_eq_ok_iff
  have hsound : pki.verifyCertificateChain now leaf bundle trustedRoots = .ok () →
      (∀ certificate ∈ leaf :: bundle ++ trustedRoots, pki.ValidAt now certificate) ∧
      ∃ path, pki.PathToTrust trustedRoots leaf bundle path := by
    intro h
    obtain ⟨hvalid, path, hpath, hlast⟩ := hiff.1 h
    exact ⟨hvalid, path, hpath.pathToTrust hlast⟩
  refine ⟨hiff, hsound, fun hsingle => ⟨hsound, ?_⟩⟩
  rintro ⟨hvalid, path, hpath⟩
  exact hiff.2 ⟨hvalid, path, hpath.firstPath hsingle, hpath.trusted⟩

end Pki

/-! ### A second issuer -/

/-- Four certificates: a leaf, two certificates with the key that signed it, and the root, which
signed the second of them. -/
def crossSigned : Pki (Fin 4) where
  raw c := [UInt8.ofNat c.val]
  subject _ := ""
  validFromDate _ := 0
  validToDate _ := 10
  checkIssued c issuer := (c, issuer) ∈ [(0, 1), (0, 2), (2, 3)]
  verify c issuer := (c, issuer) ∈ [(0, 1), (0, 2), (2, 3)]

/-- **A second issuer is not tried**: the chain through the second certificate is there and all
certificates are valid, but the first issuer leads nowhere.  With the bundle the other way round the
same certificates are accepted. -/
theorem second_issuer_not_tried :
    (∀ certificate ∈ 0 :: [1, 2] ++ [3], crossSigned.ValidAt 5 certificate) ∧
      crossSigned.PathToTrust [3] 0 [1, 2] [2] ∧
      crossSigned.verifyCertificateChain 5 0 [1, 2] [3]
        = .error (.error "Attestation certificate chain is broken at depth 1") ∧
      crossSigned.verifyCertificateChain 5 0 [2, 1] [3] = .ok () := by
  refine ⟨by decide, ⟨?_, ?_, by decide⟩, by decide +kernel, by decide +kernel⟩
  · exact List.singleton_subperm_iff.2 (by decide)
  · exact List.isChain_cons_cons.2 ⟨by decide, List.isChain_singleton _⟩

/-- Without the first of the two, no certificate has a second issuer, and the chain is accepted. -/
theorem single_issuer_accepted :
    crossSigned.SingleIssuers 0 [2] ∧ crossSigned.verifyCertificateChain 5 0 [2] [3] = .ok () := by
  have hsingle : crossSigned.SingleIssuers 0 [2] := by
    unfold Pki.SingleIssuers
    decide
  refine ⟨hsingle, ((Pki.verifyCertificateChain_iff crossSigned 5 0 [2] [3]).2.2 hsingle).2
    ⟨by decide, [2], ?_, ?_, by decide⟩⟩
  · exact List.singleton_subperm_iff.2 (by decide)
  · exact List.isChain_cons_cons.2 ⟨by decide, List.isChain_singleton _⟩

end Sdk
end Subly402
