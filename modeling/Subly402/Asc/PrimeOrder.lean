/-
# Adaptor signatures over a base point of prime order

What `adaptor_sig.rs` relies on: the base point has prime order `l`, the scalars are
the integers modulo `l` and multiply a point as integers do, and the byte forms of
points and scalars can be read back.  The group itself may be larger than the
multiples of the base point; a point outside them (of small order, or with such a part)
is a value of `Point` like any other, and `(x + y)·P = x·P + y·P` may fail for it.
-/

import Mathlib.Algebra.Field.ZMod
import Mathlib.GroupTheory.OrderOfElement
import Subly402.Asc.AdaptorSig

namespace Subly402
namespace Curve

open Lib

/-- The base point of the curve has prime order, and the byte forms of the curve are exact. -/
structure PrimeOrder (curve : Curve) where
  order : ℕ
  prime : order.Prime
  residue : curve.Scalar ≃+* ZMod order
  smul_eq : ∀ (x : curve.Scalar) (p : curve.Point), x • p = (residue x).val • p
  order_basepoint : addOrderOf curve.basepoint = order
  decompress_compress : ∀ p : curve.Point, curve.decompress (curve.compress p) = some p
  compress_of_decompress : ∀ {b : Bytes32} {p : curve.Point}, curve.decompress b = some p →
    curve.compress p = b
  fromCanonicalBytes_toBytes : ∀ x : curve.Scalar,
    curve.scalarFromCanonicalBytes (curve.scalarToBytes x) = some x
  toBytes_of_fromCanonicalBytes : ∀ {b : Bytes32} {x : curve.Scalar},
    curve.scalarFromCanonicalBytes b = some x → curve.scalarToBytes x = b

/-! ### The checks -/

variable {curve : Curve} {publicKey : Bytes32} {message : List UInt8}
  {adaptorPoint : curve.Point} {preSig : AdaptorPreSignature} {sig : AdaptedSignature}

/-- What an adaptor signature that verifies satisfies. -/
theorem preVerify_eq_true : curve.preVerify publicKey message adaptorPoint preSig = true ↔
    ∃ rPrime pkPoint sPrime, curve.decompress preSig.rPrime = some rPrime ∧
      curve.decompress publicKey = some pkPoint ∧
      curve.scalarFromCanonicalBytes preSig.sPrime = some sPrime ∧
      sPrime • curve.basepoint = rPrime
        + curve.challengeHash (curve.compress (rPrime + adaptorPoint)) publicKey message
          • pkPoint := by
  unfold preVerify
  split
  · next rPrime pkPoint sPrime hr hpk hs => simp [hr, hpk, hs]
  · next h =>
    simp only [Bool.false_eq_true, false_iff, not_exists]
    rintro rPrime pkPoint sPrime ⟨hr, hpk, hs, -⟩
    exact h _ _ _ hr hpk hs

/-- What a full signature that verifies satisfies. -/
theorem verifyAdapted_eq_true : curve.verifyAdapted publicKey message sig = true ↔
    ∃ r pkPoint s, curve.decompress sig.rBytes = some r ∧
      curve.decompress publicKey = some pkPoint ∧
      curve.scalarFromCanonicalBytes sig.sBytes = some s ∧
      s • curve.basepoint = r + curve.challengeHash sig.rBytes publicKey message • pkPoint := by
  unfold verifyAdapted
  split
  · next r pkPoint s hr hpk hs => simp [hr, hpk, hs]
  · next h =>
    simp only [Bool.false_eq_true, false_iff, not_exists]
    rintro r pkPoint s ⟨hr, hpk, hs, -⟩
    exact h _ _ _ hr hpk hs

/-- A verified pre-signature is adapted by any scalar. -/
theorem adapt_of_preVerify
    (h : curve.preVerify publicKey message adaptorPoint preSig = true) (t : curve.Scalar) :
    ∃ rPrime sPrime, curve.decompress preSig.rPrime = some rPrime ∧
      curve.scalarFromCanonicalBytes preSig.sPrime = some sPrime ∧
      curve.adapt preSig t adaptorPoint = some
        { rBytes := curve.compress (rPrime + adaptorPoint)
          sBytes := curve.scalarToBytes (sPrime + t) } := by
  obtain ⟨rPrime, pkPoint, sPrime, hr, hpk, hs, heq⟩ := preVerify_eq_true.1 h
  exact ⟨rPrime, sPrime, hr, hs, by simp [adapt, hr, hs]⟩

namespace PrimeOrder

variable (po : curve.PrimeOrder)
include po

/-! ### Multiples of the base point -/

/-- Multiples count modulo the order. -/
theorem mod_order_nsmul (n : ℕ) : (n % po.order) • curve.basepoint = n • curve.basepoint := by
  have h := mod_addOrderOf_nsmul curve.basepoint n
  rwa [po.order_basepoint] at h

/-- Sums of scalars. -/
theorem add_smul (x y : curve.Scalar) :
    (x + y) • curve.basepoint = x • curve.basepoint + y • curve.basepoint := by
  have : NeZero po.order := ⟨po.prime.ne_zero⟩
  rw [po.smul_eq, po.smul_eq, po.smul_eq, map_add, ZMod.val_add, po.mod_order_nsmul, add_nsmul]

/-- Products of scalars. -/
theorem mul_smul (x y : curve.Scalar) :
    (x * y) • curve.basepoint = x • y • curve.basepoint := by
  rw [po.smul_eq, po.smul_eq, po.smul_eq, map_mul, ZMod.val_mul, po.mod_order_nsmul, mul_nsmul']

/-- Differences of scalars. -/
theorem sub_smul (x y : curve.Scalar) :
    (x - y) • curve.basepoint = x • curve.basepoint - y • curve.basepoint := by
  rw [eq_sub_iff_add_eq, ← po.add_smul, sub_add_cancel]

/-! ### The scheme -/

/-- **Every pre-signature verifies**, whatever the adaptor point is. -/
theorem preVerify_preSign (secretKey : Bytes32) (message : List UInt8)
    (adaptorPoint : curve.Point) :
    curve.preVerify (curve.publicKey secretKey) message adaptorPoint
      (curve.preSign secretKey message adaptorPoint) = true := by
  rw [preVerify_eq_true]
  refine ⟨_, _, _, po.decompress_compress _, po.decompress_compress _,
    po.fromCanonicalBytes_toBytes _, ?_⟩
  rw [po.add_smul, po.mul_smul]
  rfl

/-- Whatever it is adapted by, that scalar is what is read back. -/
theorem extract_adapt {t : curve.Scalar}
    (hadapt : curve.adapt preSig t adaptorPoint = some sig) : curve.extract sig preSig = some t := by
  simp only [adapt, Option.bind_eq_bind, Option.bind_eq_some_iff, Option.pure_def,
    Option.some.injEq] at hadapt
  obtain ⟨rPrime, -, sPrime, hs, rfl⟩ := hadapt
  simp [extract, hs, po.fromCanonicalBytes_toBytes]

/-- **The secret of the adaptor point completes the pre-signature.** -/
theorem verifyAdapted_adapt (h : curve.preVerify publicKey message adaptorPoint preSig = true)
    {t : curve.Scalar} (ht : adaptorPoint = t • curve.basepoint)
    (hadapt : curve.adapt preSig t adaptorPoint = some sig) :
    curve.verifyAdapted publicKey message sig = true := by
  obtain ⟨rPrime, pkPoint, sPrime, hr, hpk, hs, heq⟩ := preVerify_eq_true.1 h
  obtain rfl : AdaptedSignature.mk (curve.compress (rPrime + adaptorPoint))
      (curve.scalarToBytes (sPrime + t)) = sig := by simpa [adapt, hr, hs] using hadapt
  rw [verifyAdapted_eq_true]
  refine ⟨_, pkPoint, _, po.decompress_compress _, hpk, po.fromCanonicalBytes_toBytes _, ?_⟩
  rw [po.add_smul, heq, ← ht, add_right_comm]

/-- **A signature with the adapted nonce gives the secret**: what is read from it is the discrete
logarithm of the adaptor point, which therefore has one. -/
theorem extract_of_verifyAdapted
    (h : curve.preVerify publicKey message adaptorPoint preSig = true)
    (hv : curve.verifyAdapted publicKey message sig = true) {rPrime : curve.Point}
    (hrPrime : curve.decompress preSig.rPrime = some rPrime)
    (hnonce : curve.decompress sig.rBytes = some (rPrime + adaptorPoint)) :
    ∃ t, curve.extract sig preSig = some t ∧ t • curve.basepoint = adaptorPoint ∧
      curve.adapt preSig t adaptorPoint = some sig := by
  obtain ⟨rPrime', pkPoint, sPrime, hr, hpk, hs, heq⟩ := preVerify_eq_true.1 h
  obtain ⟨r, pkPoint', s, hr', hpk', hs', heq'⟩ := verifyAdapted_eq_true.1 hv
  obtain rfl : rPrime' = rPrime := Option.some.inj (hr.symm.trans hrPrime)
  obtain rfl : pkPoint' = pkPoint := Option.some.inj (hpk'.symm.trans hpk)
  obtain rfl : r = rPrime' + adaptorPoint := Option.some.inj (hr'.symm.trans hnonce)
  have hbytes := po.compress_of_decompress hnonce
  refine ⟨s - sPrime, by simp [extract, hs, hs'], ?_, ?_⟩
  · -- the two equations share the challenge, so they differ by the adaptor point alone
    rw [po.sub_smul, heq, heq', hbytes]
    abel
  · have hsum : sPrime + (s - sPrime) = s := by ring
    simp only [adapt, hr, hs, Option.bind_eq_bind, Option.bind_some, hbytes, hsum,
      po.toBytes_of_fromCanonicalBytes hs']
    rfl

end PrimeOrder

end Curve
end Subly402
