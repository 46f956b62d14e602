/-
# Every pending channel can be finalized

The books of a run hold a verified delivery for every pending channel
(`Ledger.PendingDelivered`): the only event that makes a channel pending stores the
delivery it verified, and every other event leaves the channel alone or ends the request.
So the two ways to finalize agree on every pending channel of every run
(`atomic_exchange`).
-/

import Subly402.Asc.Exchange
import Subly402.Chain.AscCloseClaim
import Subly402.Enclave.Run

namespace Subly402

open Lib

/-! ### The books -/

namespace ChannelState.Delivered

variable {curve : Curve} {channel : ChannelState} {request : ChannelRequest}
  {delivery : AdaptorDelivery} {adaptorPoint : curve.Point}

theorem untimed (h : channel.Delivered curve request delivery adaptorPoint) :
    channel.untimed.Delivered curve request.untimed delivery adaptorPoint where
  active := by simp [h.active]
  carries := ⟨h.carries.1, h.carries.2, h.carries.3, h.carries.4, h.carries.5⟩
  point := h.point
  verifies := h.verifies

theorem of_untimed (h : channel.untimed.Delivered curve request delivery adaptorPoint) :
    ∃ request', channel.Delivered curve request' delivery adaptorPoint := by
  obtain ⟨request', hr, rfl⟩ := Option.map_eq_some_iff.1 h.active
  exact ⟨request', hr, ⟨h.carries.1, h.carries.2, h.carries.3, h.carries.4, h.carries.5⟩, h.point,
    h.verifies⟩

/-- What `deliver_adaptor` stores. -/
theorem storeAdaptor (hv : DeliveryVerifies curve channel request delivery) (now : ℤ) :
    ∃ request' adaptorPoint, (channel.storeAdaptor request delivery now).Delivered curve request'
      delivery adaptorPoint := by
  obtain ⟨point, hpoint, hver⟩ := hv
  exact ⟨_, point, rfl, ⟨rfl, rfl, rfl, rfl, rfl⟩, hpoint, hver⟩

end ChannelState.Delivered

namespace Ledger

/-- Every pending channel holds a verified delivery. -/
def PendingDelivered (curve : Curve) (l : Ledger) : Prop :=
  ∀ (key : String) (channel : ChannelState), l.channels[key]? = some channel →
    channel.status = .pending → ∃ request delivery adaptorPoint,
      channel.Delivered curve request delivery adaptorPoint

/-- **Every event keeps it.** -/
theorem PendingDelivered.apply {curve : Curve} {l : Ledger} (h : l.PendingDelivered curve)
    {ev : LedgerEvent} (he : l.Enabled curve ev) : (l.apply ev).PendingDelivered curve := by
  intro key channel hch hst
  rcases channel_apply he hch with hch | ⟨_, _, _, -, rfl⟩ | ⟨channel, _, hold, hturns, rfl⟩
  · exact h key channel hch hst
  · cases hst
  · cases hturns with
    | submit | finalize | expireRequest => cases hst
    | deliver delivery hr =>
      obtain ⟨channel₁, request₁, hch₁, -, hr₁, hv⟩ := he
      obtain rfl : channel = channel₁ := Option.some.inj (hold.symm.trans hch₁)
      obtain rfl := Option.some.inj (hr.symm.trans hr₁)
      obtain ⟨request', point, hd⟩ := ChannelState.Delivered.storeAdaptor hv 0
      exact ⟨_, delivery, point, hd.untimed⟩

end Ledger

theorem Evolves.pendingDelivered {env : Env} {supply : Supply} {l l' : Ledger}
    (h : Evolves env supply l l') (hl : l.PendingDelivered env.curve) :
    l'.PendingDelivered env.curve := by
  induction h with
  | refl => exact hl
  | dropCredit _ _ ih => exact ih
  | event _ he _ ih => exact ih.apply he

/-- The books of every run hold a delivery for every pending channel. -/
theorem run_pendingDelivered (env : Env) (ops : List (Op env)) :
    (run env ops).vault.ledger.PendingDelivered env.curve := by
  refine run_books ?_ (fun h => h.pendingDelivered) ops
  intro key channel hch
  rw [VaultState.ledger_new] at hch
  simp at hch

/-- A pending channel of a run is filed under its id and holds a verified delivery. -/
theorem run_delivered {env : Env} {ops : List (Op env)} {key : String} {channel : ChannelState}
    (hch : (run env ops).vault.activeChannels[key]? = some channel)
    (hst : channel.status = .pending) :
    channel.channelId = key ∧ ∃ request delivery adaptorPoint,
      channel.Delivered env.curve request delivery adaptorPoint := by
  have hlookup : (run env ops).vault.ledger.channels[key]? = some channel.untimed := by
    rw [VaultState.ledger_channels_lookup, hch, Option.map_some]
  obtain ⟨request, delivery, point, hd⟩ := run_pendingDelivered env ops key channel.untimed hlookup
    hst
  obtain ⟨request', hd'⟩ := hd.of_untimed
  exact ⟨(run_inv ops).shape.channel_key key channel.untimed hlookup, request', delivery, point, hd'⟩

/-- **Atomic exchange.**  Pre-signatures verify; the secret of the adaptor point completes a
verified pre-signature and can be read from the result; a signature with the adapted nonce gives
the secret of the point, whatever point that is.  So on every pending channel of every run the
adapted signature and the secret finalize alike, a signature with the adapted nonce that verifies
gives the secret, and one with another nonce changes nothing. -/
theorem atomic_exchange (env : Env) (po : env.curve.PrimeOrder) :
    (∀ secretKey message adaptorPoint,
      env.curve.preVerify (env.curve.publicKey secretKey) message adaptorPoint
        (env.curve.preSign secretKey message adaptorPoint) = true) ∧
    (∀ publicKey message adaptorPoint preSig,
      env.curve.preVerify publicKey message adaptorPoint preSig = true →
        (∀ t : env.curve.Scalar, adaptorPoint = t • env.curve.basepoint →
          ∃ sig, env.curve.adapt preSig t adaptorPoint = some sig ∧
            env.curve.verifyAdapted publicKey message sig = true ∧
            env.curve.extract sig preSig = some t) ∧
        ∀ sig rPrime, env.curve.decompress preSig.rPrime = some rPrime →
          env.curve.decompress sig.rBytes = some (rPrime + adaptorPoint) →
          env.curve.verifyAdapted publicKey message sig = true →
          ∃ t, env.curve.extract sig preSig = some t ∧ t • env.curve.basepoint = adaptorPoint) ∧
    ∀ (ops : List (Op env)) (key : String) (channel : ChannelState),
      (run env ops).vault.activeChannels[key]? = some channel → channel.status = .pending →
        ∃ request delivery adaptorPoint rPrime,
          channel.Delivered env.curve request delivery adaptorPoint ∧
          env.curve.decompress delivery.preSig.rPrime = some rPrime ∧
          (∀ secretBytes t, env.curve.scalarFromCanonicalBytes secretBytes = some t →
            ∃ sig, env.curve.adapt delivery.preSig t adaptorPoint = some sig ∧
              ∀ now, (finalizeOnchainClaim env.curve key sig now).run (run env ops).vault
                = (finalizeOffchain env.curve key secretBytes now).run (run env ops).vault) ∧
          ∀ sig, env.curve.verifyAdapted delivery.providerPubkey
              (channel.paymentMessage env.curve request) sig = true →
            (env.curve.decompress sig.rBytes = some (rPrime + adaptorPoint) →
              ∃ t, env.curve.extract sig delivery.preSig = some t ∧
                t • env.curve.basepoint = adaptorPoint ∧
                ∀ now, (finalizeOnchainClaim env.curve key sig now).run (run env ops).vault
                  = (finalizeOffchain env.curve key (env.curve.scalarToBytes t) now).run
                    (run env ops).vault) ∧
            (env.curve.decompress sig.rBytes ≠ some (rPrime + adaptorPoint) →
              ∀ now, (finalizeOnchainClaim env.curve key sig now).run (run env ops).vault
                = (.error .invalidAdaptorSignature, (run env ops).vault)) := by
  refine ⟨po.preVerify_preSign, ?_, ?_⟩
  · intro publicKey message adaptorPoint preSig h
    refine ⟨fun t ht => ?_, fun sig rPrime hrPrime hnonce hv => ?_⟩
    · obtain ⟨rPrime, sPrime, -, -, hadapt⟩ := Curve.adapt_of_preVerify h t
      exact ⟨_, hadapt, po.verifyAdapted_adapt h ht hadapt, po.extract_adapt hadapt⟩
    · obtain ⟨t, hextract, hpoint, -⟩ := po.extract_of_verifyAdapted h hv hrPrime hnonce
      exact ⟨t, hextract, hpoint⟩
  · intro ops key channel hch hst
    obtain ⟨hkey, request, delivery, adaptorPoint, hd⟩ := run_delivered hch hst
    obtain ⟨rPrime, -, hrPrime, -, -⟩ := Curve.adapt_of_preVerify hd.verifies 0
    refine ⟨request, delivery, adaptorPoint, rPrime, hd, hrPrime, fun secretBytes t ht => ?_,
      fun sig hv => ⟨fun hnonce => ?_, fun hnonce now => ?_⟩⟩
    · obtain ⟨_, _, -, -, hadapt⟩ := Curve.adapt_of_preVerify hd.verifies t
      exact ⟨_, hadapt, hd.finalizeOnchainClaim_adapt hch hst po hkey ht hadapt⟩
    · exact hd.finalizeOnchainClaim_of_verifyAdapted hch hst po hkey hrPrime hnonce hv
    · refine hd.finalizeOnchainClaim_of_nonce_ne hch hst hrPrime (fun heq => hnonce ?_) now
      rw [← heq]
      exact po.decompress_compress _

/-! ### A curve small enough to compute with -/

namespace Toy

/-- A point of `ZMod 7 × ZMod 2` as bytes. -/
def compress (p : ZMod 7 × ZMod 2) : Bytes32 := .fill (UInt8.ofNat (p.1.val + 8 * p.2.val))

/-- The point that bytes stand for. -/
def decompress (b : Bytes32) : Option (ZMod 7 × ZMod 2) :=
  let n := (b.bytes.headD 0).toNat
  let p : ZMod 7 × ZMod 2 := ((n % 8 : ℕ), (n / 8 : ℕ))
  if compress p = b then some p else none

/-- The base point has order seven in a group of fourteen; every challenge is one. -/
def curve : Curve where
  Point := ZMod 7 × ZMod 2
  Scalar := ZMod 7
  scalarAction := ⟨fun x p => x.val • p⟩
  basepoint := (1, 0)
  compress := compress
  decompress := decompress
  scalarToBytes x := compress (x, 0)
  scalarFromCanonicalBytes b := (decompress b).bind fun p => if p.2 = 0 then some p.1 else none
  scalarFromBytesModOrder _ := 1
  sha256 _ := .fill 0
  sha512 _ := (.fill 0, .fill 0)
  sha512Scalar _ := 1

instance : DecidableEq curve.Scalar := inferInstanceAs (DecidableEq (ZMod 7))

theorem compress_of_decompress {b : Bytes32} {p : ZMod 7 × ZMod 2} (h : decompress b = some p) :
    compress p = b := by
  unfold decompress at h
  dsimp only at h
  split at h
  · next heq =>
    cases h
    exact heq
  · cases h

def primeOrder : curve.PrimeOrder where
  order := 7
  prime := by decide
  residue := .refl _
  smul_eq _ _ := rfl
  order_basepoint := by
    have : Fact (Nat.Prime 7) := ⟨by decide⟩
    exact addOrderOf_eq_prime (by decide) (by decide)
  decompress_compress := show ∀ p, decompress (compress p) = some p by decide +kernel
  compress_of_decompress := compress_of_decompress
  fromCanonicalBytes_toBytes :=
    show ∀ x : ZMod 7, ((decompress (compress (x, 0))).bind fun p =>
      if p.2 = 0 then some p.1 else none) = some x by decide +kernel
  toBytes_of_fromCanonicalBytes := by
    intro b x h
    obtain ⟨p, hp, hx⟩ := Option.bind_eq_some_iff.1 h
    split at hx
    · next hzero =>
      cases hx
      rw [← compress_of_decompress hp]
      show compress (p.1, 0) = compress p
      rw [← hzero]
    · cases hx

/-- `Shop.world` on this curve. -/
def world : Env := { Shop.world with curve := curve }

theorem deposit_mem : Shop.deposit ∈ world.deposits := by decide

/-- A seller whose key is the base point. -/
def maker : RegisterProviderRequest :=
  { Shop.seller with
    participantPubkey := some (hexEncode (Bytes32.fill 1).bytes)
    participantAttestation := some ""
    authMode := "bearer"
    apiKeyHash := hexEncode (Bytes32.fill 0).bytes }

/-- A delivery for the point `2`, with the pre-signature `(0, 1)`. -/
def delivery : Handlers.ChannelDeliverRequest :=
  { channelId := "ch_", adaptorPoint := hexEncode (Bytes32.fill 2).bytes
    preSigRPrime := hexEncode (Bytes32.fill 0).bytes
    preSigSPrime := hexEncode (Bytes32.fill 1).bytes, encryptedResult := ""
    resultHash := hexEncode (Bytes32.fill 0).bytes
    providerPubkey := hexEncode (Bytes32.fill 1).bytes }

/-- The client opens a channel, and the seller delivers for a request of three. -/
def ops : List (Op world) :=
  [.deposit ⟨Shop.deposit, deposit_mem⟩ 0, .registerProvider maker,
    .channelOpen (hexEncode (Bytes32.fill 1).bytes) "shop" 4 ⟨1, 1⟩,
    .channelRequest "ch_" "req" 3 (hexEncode (Bytes32.fill 0).bytes) ⟨2, 2⟩,
    .channelDeliver delivery ⟨3, 3⟩]

/-- The request as it is pending. -/
def request : ChannelRequest :=
  { requestId := "req", amount := 3, requestHash := .fill 0, providerPubkey := some (.fill 1)
    adaptorPoint := some (.fill 2), providerPreSig := some ⟨.fill 0, .fill 1⟩
    encryptedResult := some [], resultHash := some (.fill 0), createdAt := 2, expiresAt := 122 }

/-- A signature of the seller with a nonce that is not the adapted one. -/
def stray : AdaptedSignature := { rBytes := .fill 5, sBytes := .fill 6 }

/-- The enclave's voucher for the request. -/
def voucherCheck : Chain.Ed25519Check :=
  { publicKey := .fill 8, signature := []
    message := Chain.AscClaimVoucher.build
      { channelIdHash := .fill 0, requestIdHash := .fill 0, amount := 3, requestHash := .fill 0
        providerPubkey := .fill 1, issuedAt := 3, vaultConfig := .fill 9 } }

/-- The stray signature, over the payment message. -/
def paymentCheck : Chain.Ed25519Check :=
  { publicKey := .fill 1, signature := stray.rBytes.bytes ++ stray.sBytes.bytes
    message := Chain.ascPaymentMessage (.fill 0) (.fill 0) 3 (.fill 0) }

/-- The channel as it is pending. -/
def channel : ChannelState :=
  { channelId := "ch_", client := .fill 1, providerId := "shop"
    balance := { clientFree := 1, clientLocked := 3, providerEarned := 0 }
    status := .pending, activeRequest := some request, nonce := 2, createdAt := 1, updatedAt := 3
    usedRequestIds := {"req"} }

theorem channel_pending : (run world ops).vault.activeChannels["ch_"]? = some channel := by
  decide +kernel

end Toy

/-- The signature adapted with the secret `2` finalizes the request as the secret does. -/
theorem atomic_exchange_toy :
    (run Toy.world Toy.ops).vault.activeChannels["ch_"]? = some Toy.channel ∧
      Toy.channel.status = .pending ∧
      (finalizeOnchainClaim Toy.curve "ch_" ⟨.fill 2, .fill 3⟩ 4).run (run Toy.world Toy.ops).vault
        = (finalizeOffchain Toy.curve "ch_" (.fill 2) 4).run (run Toy.world Toy.ops).vault ∧
      ((finalizeOffchain Toy.curve "ch_" (.fill 2) 4).run
        (run Toy.world Toy.ops).vault).1.toOption.isSome := by
  refine ⟨Toy.channel_pending, rfl, ?_, by decide +kernel⟩
  obtain ⟨request, delivery, point, rPrime, hd, -, hsame, -⟩ :=
    (atomic_exchange Toy.world Toy.primeOrder).2.2 Toy.ops "ch_" Toy.channel Toy.channel_pending rfl
  obtain rfl : Toy.request = request := Option.some.inj hd.active
  have hpre : delivery.preSig = ⟨.fill 0, .fill 1⟩ := (Option.some.inj hd.carries.providerPreSig).symm
  have hbytes : delivery.adaptorPoint = .fill 2 := (Option.some.inj hd.carries.adaptorPoint).symm
  have hpoint : point = ((2, 0) : ZMod 7 × ZMod 2) := by
    have hdec : Toy.decompress (.fill 2) = some (2, 0) := by decide +kernel
    have h := hd.point
    rw [hbytes] at h
    exact Option.some.inj (h.symm.trans hdec)
  have hsecret : Toy.curve.scalarFromCanonicalBytes (.fill 2)
      = some (2 : ZMod 7) := Toy.primeOrder.fromCanonicalBytes_toBytes (2 : ZMod 7)
  obtain ⟨sig, hadapt, hrun⟩ := hsame (.fill 2) (2 : ZMod 7) hsecret
  have hsig : Toy.curve.adapt ⟨.fill 0, .fill 1⟩ (2 : ZMod 7) ((2, 0) : ZMod 7 × ZMod 2)
      = some ⟨.fill 2, .fill 3⟩ := by decide +kernel
  rw [hpre, hpoint] at hadapt
  rw [← Option.some.inj (hadapt.symm.trans hsig)]
  exact hrun 4

/-- The seller signs the payment message with a nonce of its own.  The program records the
signature as a claim; the enclave, which looks for the secret in it, reads `5`, and the adaptor
point is `2`. -/
theorem Toy.strayClaim :
    (run world ops).vault.activeChannels["ch_"]? = some channel ∧ channel.status = .pending ∧
      channel.activeRequest = some request ∧
      curve.verifyAdapted (.fill 1) (channel.paymentMessage curve request) stray = true ∧
      ((Chain.ascCloseClaim Chain.Exit.vault (some voucherCheck) (some paymentCheck) (.fill 0)
        (.fill 0) 4 []).toOption.map fun claim => (claim.fullSigR, claim.fullSigS))
        = some (stray.rBytes, stray.sBytes) ∧
      ((finalizeOnchainClaim curve "ch_" stray 4).run (run world ops).vault).1.toOption.isNone ∧
      ∃ t, curve.extract stray ⟨.fill 0, .fill 1⟩ = some t ∧
        curve.decompress (.fill 2) ≠ some (t • curve.basepoint) := by
  refine ⟨channel_pending, rfl, rfl, by decide +kernel, by decide +kernel, by decide +kernel,
    (5 : ZMod 7), by decide +kernel, by decide +kernel⟩

end Subly402
