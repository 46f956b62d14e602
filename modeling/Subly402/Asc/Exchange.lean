/-
# The two ways to finalize

A pending channel holds a delivery whose pre-signature verified
(`ChannelState.Delivered`).  `finalize_offchain` is given the secret of its adaptor
point and `finalize_onchain_claim` a signature found on chain, and the second reads the
secret from the signature.  On such a channel the two are one operation: the adapted
signature does exactly what the scalar it was adapted with does
(`Delivered.finalizeOnchainClaim_adapt`), and any other signature with the adapted
nonce gives the secret (`Delivered.finalizeOnchainClaim_of_verifyAdapted`).  A signature
with another nonce is refused (`Delivered.finalizeOnchainClaim_of_nonce_ne`).
-/

import Subly402.Asc.Manager
import Subly402.Asc.PrimeOrder

namespace Subly402

open Lib

/-- A request holds all parts of a delivery. -/
structure ChannelRequest.Carries (request : ChannelRequest) (delivery : AdaptorDelivery) :
    Prop where
  providerPubkey : request.providerPubkey = some delivery.providerPubkey
  adaptorPoint : request.adaptorPoint = some delivery.adaptorPoint
  providerPreSig : request.providerPreSig = some delivery.preSig
  encryptedResult : request.encryptedResult = some delivery.encryptedResult
  resultHash : request.resultHash = some delivery.resultHash

/-- The payment message of a channel's request. -/
def ChannelState.paymentMessage (curve : Curve) (channel : ChannelState)
    (request : ChannelRequest) : List UInt8 :=
  curve.buildPaymentMessage channel.channelId request.requestId request.amount request.requestHash

/-- The channel's request holds a delivery, and its pre-signature verifies for the point. -/
structure ChannelState.Delivered (curve : Curve) (channel : ChannelState)
    (request : ChannelRequest) (delivery : AdaptorDelivery) (adaptorPoint : curve.Point) :
    Prop where
  active : channel.activeRequest = some request
  carries : request.Carries delivery
  point : curve.decompress delivery.adaptorPoint = some adaptorPoint
  verifies : curve.preVerify delivery.providerPubkey (channel.paymentMessage curve request)
    adaptorPoint delivery.preSig = true

/-- The scalar is the secret of the point that was delivered for the request. -/
def ChannelRequest.OpenedBy {curve : Curve} (request : ChannelRequest) (t : curve.Scalar) : Prop :=
  request.adaptorPoint.bind curve.decompress = some (t • curve.basepoint)

/-- Only the secret of the pending request finalizes it. -/
theorem finalizeOffchain_opens (curve : Curve) (channelId : String) (secretBytes : Bytes32) (now : ℤ)
    (s : VaultState) :
    (finalizeOffchain curve channelId secretBytes now).Clean s fun _ _ =>
      ∃ channel request t, s.activeChannels[channelId]? = some channel ∧
        channel.status = .pending ∧ channel.activeRequest = some request ∧
        curve.scalarFromCanonicalBytes secretBytes = some t ∧ request.OpenedBy t := by
  refine .okOr_bind fun t ht => .get_bind <| .okOr_bind fun channel hch => .failIf_bind fun hst =>
    .okOr_bind fun request hr => .okOr_bind fun preSig _ => .okOr_bind fun pointBytes hbytes =>
    .okOr_bind fun point hpoint => .okOr_bind fun pubkey _ => .failIf_bind fun hne =>
    .okOr_bind fun fullSig _ => .failIf_bind fun _ => .okOr_bind fun encrypted _ =>
    .failIf_bind fun _ => ?_
  have hopened : request.OpenedBy t := by
    rw [ChannelRequest.OpenedBy, hbytes, Option.bind_some, hpoint, not_not.1 hne]
  exact .of_run rfl ⟨channel, request, t, hch, not_not.1 hst, hr, ht, hopened⟩

namespace ChannelState.Delivered

variable {curve : Curve} {channel : ChannelState} {request : ChannelRequest}
  {delivery : AdaptorDelivery} {adaptorPoint : curve.Point} {s : VaultState} {key : String}

/-- A canonical secret is used as the scalar it encodes. -/
theorem run_finalizeOffchain {secretBytes : Bytes32} {t : curve.Scalar}
    (ht : curve.scalarFromCanonicalBytes secretBytes = some t) (now : ℤ) :
    (finalizeOffchain curve key secretBytes now).run s
      = (finalizeWithSecret curve key t secretBytes now).run s := by
  simp [finalizeOffchain, ht]

section Pending

variable (h : channel.Delivered curve request delivery adaptorPoint)
  (hch : s.activeChannels[key]? = some channel) (hst : channel.status = .pending)
include h hch hst

/-- A scalar that is not the secret finalizes nothing. -/
theorem finalizeWithSecret_of_ne {t : curve.Scalar} (ht : t • curve.basepoint ≠ adaptorPoint)
    (secretBytes : Bytes32) (now : ℤ) :
    (finalizeWithSecret curve key t secretBytes now).run s
      = (.error .invalidAdaptorSignature, s) := by
  simp [finalizeWithSecret, hch, hst, h.active, h.carries.providerPreSig, h.carries.adaptorPoint,
    h.carries.providerPubkey, h.point, Ne.symm ht]

/-- An on-chain signature that passes the checks is the scalar read from it. -/
theorem finalizeOnchainClaim_eq (hkey : channel.channelId = key) {sig : AdaptedSignature}
    {t : curve.Scalar} {rPrime : curve.Point} (hextract : curve.extract sig delivery.preSig = some t)
    (hrPrime : curve.decompress delivery.preSig.rPrime = some rPrime)
    (hnonce : curve.compress (rPrime + adaptorPoint) = sig.rBytes) (now : ℤ) :
    (finalizeOnchainClaim curve key sig now).run s
      = if curve.verifyAdapted delivery.providerPubkey (channel.paymentMessage curve request) sig
        then (finalizeWithSecret curve key t (curve.scalarToBytes t) now).run s
        else (.error .invalidAdaptorSignature, s) := by
  subst hkey
  split
  · next hv =>
    rw [ChannelState.paymentMessage] at hv
    simp [finalizeOnchainClaim, hch, hst, h.active, h.carries.providerPreSig,
      h.carries.adaptorPoint, h.carries.providerPubkey, h.point, hextract, hrPrime, hnonce, hv]
  · next hv =>
    rw [ChannelState.paymentMessage] at hv
    simp [finalizeOnchainClaim, hch, hst, h.active, h.carries.providerPreSig,
      h.carries.adaptorPoint, h.carries.providerPubkey, h.point, hextract, hrPrime, hnonce, hv]

/-- **A signature with another nonce is refused**, whether it verifies or not. -/
theorem finalizeOnchainClaim_of_nonce_ne {sig : AdaptedSignature} {rPrime : curve.Point}
    (hrPrime : curve.decompress delivery.preSig.rPrime = some rPrime)
    (hnonce : curve.compress (rPrime + adaptorPoint) ≠ sig.rBytes) (now : ℤ) :
    (finalizeOnchainClaim curve key sig now).run s = (.error .invalidAdaptorSignature, s) := by
  cases hextract : curve.extract sig delivery.preSig with
  | none =>
    simp [finalizeOnchainClaim, hch, hst, h.active, h.carries.providerPreSig,
      h.carries.adaptorPoint, h.carries.providerPubkey, h.point, hextract]
  | some t =>
    simp [finalizeOnchainClaim, hch, hst, h.active, h.carries.providerPreSig,
      h.carries.adaptorPoint, h.carries.providerPubkey, h.point, hextract, hrPrime, hnonce]

/-- **The adapted signature does what the secret does**, right or wrong. -/
theorem finalizeOnchainClaim_adapt (po : curve.PrimeOrder) (hkey : channel.channelId = key)
    {secretBytes : Bytes32} {t : curve.Scalar}
    (ht : curve.scalarFromCanonicalBytes secretBytes = some t) {sig : AdaptedSignature}
    (hadapt : curve.adapt delivery.preSig t adaptorPoint = some sig) (now : ℤ) :
    (finalizeOnchainClaim curve key sig now).run s
      = (finalizeOffchain curve key secretBytes now).run s := by
  obtain ⟨rPrime, sPrime, hrPrime, hsPrime, hadapt'⟩ := Curve.adapt_of_preVerify h.verifies t
  have hextract := po.extract_adapt hadapt
  obtain rfl := Option.some.inj (hadapt'.symm.trans hadapt)
  rw [h.finalizeOnchainClaim_eq hch hst hkey hextract hrPrime rfl, run_finalizeOffchain ht,
    po.toBytes_of_fromCanonicalBytes ht]
  by_cases hsecret : t • curve.basepoint = adaptorPoint
  · rw [if_pos (po.verifyAdapted_adapt h.verifies hsecret.symm hadapt)]
  · -- were it accepted, `t` would be the secret
    rw [if_neg, h.finalizeWithSecret_of_ne hch hst hsecret]
    intro hv
    obtain ⟨t', ht', hpoint, -⟩ := po.extract_of_verifyAdapted h.verifies hv hrPrime
      (po.decompress_compress _)
    rw [hextract] at ht'
    cases ht'
    exact hsecret hpoint

/-- **A signature with the adapted nonce gives the secret**, and finalizes as the secret does. -/
theorem finalizeOnchainClaim_of_verifyAdapted (po : curve.PrimeOrder)
    (hkey : channel.channelId = key) {sig : AdaptedSignature} {rPrime : curve.Point}
    (hrPrime : curve.decompress delivery.preSig.rPrime = some rPrime)
    (hnonce : curve.decompress sig.rBytes = some (rPrime + adaptorPoint))
    (hv : curve.verifyAdapted delivery.providerPubkey (channel.paymentMessage curve request) sig
      = true) :
    ∃ t, curve.extract sig delivery.preSig = some t ∧ t • curve.basepoint = adaptorPoint ∧
      ∀ now, (finalizeOnchainClaim curve key sig now).run s
        = (finalizeOffchain curve key (curve.scalarToBytes t) now).run s := by
  obtain ⟨t, hextract, hpoint, hadapt⟩ :=
    po.extract_of_verifyAdapted h.verifies hv hrPrime hnonce
  exact ⟨t, hextract, hpoint, h.finalizeOnchainClaim_adapt hch hst po hkey
    (po.fromCanonicalBytes_toBytes t) hadapt⟩

end Pending

end ChannelState.Delivered

end Subly402
