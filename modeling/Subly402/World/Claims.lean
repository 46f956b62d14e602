/-
# Claimed or refunded

A pending request of a channel ends in one of two ways: the provider is paid, when the
enclave or the chain learns the full signature, or the client is refunded, when the
request's time is over.  A provider that the enclave does not serve records its
signature on chain (`asc_close_claim`).
-/

import Subly402.Chain.AscCloseClaim
import Subly402.Enclave.Run

namespace Subly402

open Lib
open Lib.Prog (Leaves)

/-- The operation neither expires a channel's request nor recovers a claim. -/
def Op.leavesRequests {env : Env} : Op env → Bool
  | .channelDeliver .. | .channelExpire .. | .channelClaim .. => false
  | _ => true

/-- The claim is for the request: it has the request's terms, and the provider's signature over
them verifies. -/
structure Chain.AscCloseClaim.ValidFor (claim : Chain.AscCloseClaim) (curve : Curve)
    (channelId : String) (request : ChannelRequest) : Prop where
  channelIdHash : claim.channelIdHash = curve.sha256 (utf8 channelId)
  requestIdHash : claim.requestIdHash = curve.sha256 (utf8 request.requestId)
  amount : claim.amount = request.amount
  requestHash : claim.requestHash = request.requestHash
  providerPubkey : request.providerPubkey = some claim.providerPubkey
  signature : curve.verifyAdapted claim.providerPubkey
    (curve.buildPaymentMessage channelId request.requestId request.amount request.requestHash)
    { rBytes := claim.fullSigR, sBytes := claim.fullSigS } = true

namespace Claims

/-! ### The world -/

/-- The enclave and the claims on chain.  They have one clock. -/
structure World where
  app : AppState
  now : ℤ
  vault : Chain.VaultConfig
  claims : List Chain.AscCloseClaim
  /-- The clock when the loop's round began. -/
  sweepNow : ℤ
  /-- The channels that the round has still to expire. -/
  stale : List String
  /-- The pending requests for which it has still to look for claims. -/
  pending : List (String × String)
  /-- The pending requests that were refunded (ghost). -/
  refunded : List (String × ChannelRequest)

/-- The pending request of a channel. -/
def pendingRequest? (s : AppState) (channelId : String) : Option ChannelRequest :=
  match s.vault.activeChannels[channelId]? with
  | some channel => if channel.status = .pending then channel.activeRequest else none
  | none => none

/-- The pending request of a channel that the log says was refunded between two states. -/
def refundOf (s s' : AppState) (channelId : String) : List (String × ChannelRequest) :=
  match pendingRequest? s channelId with
  | some request =>
    if (s'.wal.records.drop s.wal.records.length).any
        (·.entry = .channelRequestExpired channelId request.requestId request.amount)
    then [(channelId, request)] else []
  | none => []

namespace World

variable (w : World)

/-- Before anything happened. -/
def new (vault : Chain.VaultConfig) (now : ℤ) : World where
  app := .new
  now
  vault
  claims := []
  sweepNow := now
  stale := []
  pending := []
  refunded := []

/-- The channels whose request was over when the round began. -/
def expired : List String :=
  (w.app.vault.activeChannels.toList.map (·.2)).filterMap fun channel =>
    if channel.status = .locked ∨ channel.status = .pending then
      (channel.activeRequest.filter fun request => request.expiresAt < w.sweepNow).map
        fun _ => channel.channelId
    else none

/-- The pending requests of all channels. -/
def allPending : List (String × String) :=
  (w.app.vault.activeChannels.toList.map (·.2)).filterMap fun channel =>
    if channel.status = .pending then
      channel.activeRequest.map fun request => (channel.channelId, request.requestId)
    else none

/-- The enclave moves on, and what it refunded is noted. -/
def move (app : AppState) (channelId : String) : World :=
  { w with app, refunded := w.refunded ++ refundOf w.app app channelId }

end World

/-- What happens in the world.  Operations of the enclave come at any time with any clock readings,
and anybody may try to record a claim. -/
inductive Act (env : Env) where
  | wait (seconds : ℕ)
  | op (op : Op env) (other : op.leavesRequests)
  | outside (vault : Chain.VaultConfig)
  | deliver (req : Handlers.ChannelDeliverRequest) (t : Times)
  | claim (voucherCheck paymentCheck : Option Chain.Ed25519Check)
      (channelIdHash requestIdHash : Bytes32)
  | tick
  | collect
  | expire (later : ℤ)
  | gather
  | recover (answered : Bool) (t : Times)

namespace World

variable {env : Env}

/-- The world after an act.  A round gathers the pending requests when it has expired the stale
ones, and `recover` looks one of them up. -/
def next (w : World) : Act env → World
  | .wait seconds => { w with now := w.now + seconds }
  | .op op _ => { w with app := w.app.next op }
  | .outside vault => { w with vault := { vault with key := w.vault.key } }
  | .deliver req t => w.move (w.app.next (.channelDeliver req t : Op env)) req.channelId
  | .claim voucherCheck paymentCheck channelIdHash requestIdHash =>
    match Chain.ascCloseClaim w.vault voucherCheck paymentCheck channelIdHash requestIdHash w.now
        (w.claims.map (·.seeds)) with
    | .ok claim => { w with claims := w.claims ++ [claim] }
    | .error _ => w
  | .tick => if w.stale = [] ∧ w.pending = [] then { w with sweepNow := w.now } else w
  | .collect => if w.stale = [] ∧ w.pending = [] then { w with stale := w.expired } else w
  | .expire later =>
    match w.stale with
    | channelId :: stale =>
      { w.move (w.app.next (.channelExpire channelId ⟨w.sweepNow, later⟩ : Op env)) channelId with
        stale }
    | [] => w
  | .gather => if w.stale = [] ∧ w.pending = [] then { w with pending := w.allPending } else w
  | .recover answered t =>
    match w.pending with
    | (channelId, requestId) :: pending =>
      let found := w.claims.find? fun claim => claim.seeds
        = (env.curve.sha256 (utf8 channelId), env.curve.sha256 (utf8 requestId))
      match (if answered then found else none) with
      | some claim =>
        { w with
          app := w.app.next (.channelClaim channelId
            { rBytes := claim.fullSigR, sBytes := claim.fullSigS } t : Op env)
          pending }
      | none => { w with pending }
    | [] => w

/-- The world after some acts. -/
def run (w : World) (acts : List (Act env)) : World := acts.foldl next w

/-- No request was refunded for which a valid claim was recorded in time. -/
def Protected (env : Env) (w : World) : Prop :=
  ∀ channelId request, (channelId, request) ∈ w.refunded → ∀ claim ∈ w.claims,
    claim.ValidFor env.curve channelId request → ¬ claim.claimedAt ≤ request.expiresAt

/-- The condition: when the loop expires a pending request, no claim account exists for it. -/
def Unclaimed (w : World) : Act env → Prop
  | .expire _ => ∀ channelId ∈ w.stale.head?, ∀ request ∈ pendingRequest? w.app channelId,
    ∀ claim ∈ w.claims, claim.seeds
      ≠ (env.curve.sha256 (utf8 channelId), env.curve.sha256 (utf8 request.requestId))
  | _ => True

/-- Every act meets the condition where it happens. -/
def UnclaimedFrom (w : World) : List (Act env) → Prop
  | [] => True
  | act :: acts => w.Unclaimed act ∧ (w.next act).UnclaimedFrom acts

end World

/-! ### What is refunded -/

variable {env : Env} {s : AppState}

/-- Where nothing was logged, nothing was refunded. -/
theorem refundOf_of_wal {s' : AppState} (h : s'.wal = s.wal) (channelId : String) :
    refundOf s s' channelId = [] := by
  unfold refundOf
  rw [h, List.drop_length]
  split <;> rfl

theorem mem_refundOf {s' : AppState} {channelId : String} {e : String × ChannelRequest}
    (h : e ∈ refundOf s s' channelId) :
    e.1 = channelId ∧ pendingRequest? s channelId = some e.2 := by
  unfold refundOf at h
  split at h
  · next request hrequest =>
    split at h
    · rw [List.mem_singleton.1 h]
      exact ⟨rfl, hrequest⟩
    · cases h
  · cases h

/-- An expiry refunds a request whose time is over, or logs nothing. -/
theorem expireStaleChannelRequest_due (channelId : String) (t : Times) :
    (Handlers.expireStaleChannelRequest env channelId t).Leaves s fun s' => s'.wal = s.wal ∨
      ∃ channel request, s.vault.activeChannels[channelId]? = some channel ∧
        channel.activeRequest = some request ∧ request.expiresAt < t.now := by
  refine .onVault_bind (expireRequest_clean channelId t.now s.vault) (.inl rfl) ?_
  rintro outcome v (⟨rfl, rfl⟩ | ⟨channel, request, hch, -, hr, hlt, -, -⟩)
  · exact .pure (.inl rfl)
  · exact Or.inr ⟨channel, request, hch, hr, hlt⟩

/-- A delivery to a pending request is refused. -/
theorem postChannelDeliver_pending (req : Handlers.ChannelDeliverRequest) (t : Times)
    {request : ChannelRequest} (h : pendingRequest? s req.channelId = some request) :
    (Handlers.postChannelDeliver env req t).Leaves s fun s' => s'.wal = s.wal := by
  obtain ⟨channel, hch, hst⟩ : ∃ channel, s.vault.activeChannels[req.channelId]? = some channel ∧
      channel.status = .pending := by
    unfold pendingRequest? at h
    split at h
    · next channel hch =>
      split at h
      · next hst => exact ⟨channel, hch, hst⟩
      · cases h
    · cases h
  refine .clean_bind req.decode_clean rfl fun delivery s₁ ⟨_, hs₁⟩ => ?_
  subst hs₁
  refine .get_bind <| .okOr_bind rfl fun channel' hch' => ?_
  refine .clean_bind (Handlers.registeredProviderParticipantPubkey_clean channel'.providerId s₁) rfl
    fun _ s₂ ⟨_, hs₂⟩ => ?_
  subst hs₂
  refine .failIf_bind (fun _ => rfl) fun _ => .okOr_bind rfl fun request hr => ?_
  -- the status is checked before the time, so the request is not expired here
  have hrefused : (Handlers.deliverOrExpire env req.channelId delivery t).run s₂
      = (.error (wrongStatus "Locked" .pending), s₂) := by
    simp [Handlers.deliverOrExpire, deliverAdaptor, hch, hst, wrongStatus]
  exact .of_run (by rw [Prog.run_bind, hrefused]) rfl

namespace World

variable {w : World}

/-- A refunded request is over, and its claims were recorded late. -/
structure Inv (env : Env) (w : World) : Prop where
  clock : w.sweepNow ≤ w.now
  past : ∀ e ∈ w.refunded, e.2.expiresAt < w.now
  late : ∀ e ∈ w.refunded, ∀ claim ∈ w.claims, claim.seeds
    = (env.curve.sha256 (utf8 e.1), env.curve.sha256 (utf8 e.2.requestId)) →
    e.2.expiresAt < claim.claimedAt

theorem Inv.new (vault : Chain.VaultConfig) (now : ℤ) : Inv env (new vault now) where
  clock := le_rfl
  past := by simp [World.new]
  late := by simp [World.new]

/-- The enclave moves on without a refund. -/
theorem Inv.quiet (h : Inv env w) {app : AppState} {stale : List String}
    {pending : List (String × String)} : Inv env { w with app, stale, pending } :=
  ⟨h.clock, h.past, h.late⟩

theorem Inv.deliver (h : Inv env w) (req : Handlers.ChannelDeliverRequest) (t : Times) :
    Inv env (w.next (.deliver req t : Act env)) := by
  have hnone : refundOf w.app (w.app.next (.channelDeliver req t : Op env)) req.channelId = [] := by
    cases hp : pendingRequest? w.app req.channelId with
    | none => simp [refundOf, hp]
    | some request => exact refundOf_of_wal (postChannelDeliver_pending req t hp) req.channelId
  simp only [next, move, hnone, List.append_nil]
  exact h.quiet

theorem Inv.expire (h : Inv env w) {channelId : String} {stale : List String} (later : ℤ)
    (hclaims : ∀ request ∈ pendingRequest? w.app channelId, ∀ claim ∈ w.claims, claim.seeds
      ≠ (env.curve.sha256 (utf8 channelId),
        env.curve.sha256 (utf8 request.requestId))) :
    Inv env { w.move (w.app.next (.channelExpire channelId ⟨w.sweepNow, later⟩ : Op env)) channelId
      with stale } := by
  have hnew : ∀ e ∈ refundOf w.app (w.app.next (.channelExpire channelId ⟨w.sweepNow, later⟩ : Op env))
      channelId, e.1 = channelId ∧ pendingRequest? w.app channelId = some e.2 ∧
        e.2.expiresAt < w.sweepNow := by
    intro e he
    obtain ⟨hid, hrequest⟩ := mem_refundOf he
    refine ⟨hid, hrequest, ?_⟩
    have hdue : (Handlers.expireStaleChannelRequest env channelId ⟨w.sweepNow, later⟩).Leaves w.app _ :=
      expireStaleChannelRequest_due channelId ⟨w.sweepNow, later⟩
    rcases hdue with hwal | ⟨channel, request, hch, hr, hlt⟩
    · cases (refundOf_of_wal hwal channelId) ▸ he
    · simp only [pendingRequest?, hch] at hrequest
      split at hrequest
      · cases hr.symm.trans hrequest
        exact hlt
      · cases hrequest
  refine ⟨h.clock, fun e he => ?_, fun e he claim hclaim hseeds => ?_⟩
  · rcases List.mem_append.1 he with he | he
    · exact h.past e he
    · exact (hnew e he).2.2.trans_le h.clock
  · rcases List.mem_append.1 he with he | he
    · exact h.late e he claim hclaim hseeds
    · obtain ⟨hid, hrequest, -⟩ := hnew e he
      rw [hid] at hseeds
      exact (hclaims e.2 hrequest claim hclaim hseeds).elim

/-- A claim that is recorded after a refund is late. -/
theorem Inv.claim (h : Inv env w) {claim : Chain.AscCloseClaim} (hclaim : claim.claimedAt = w.now) :
    Inv env { w with claims := w.claims ++ [claim] } := by
  refine ⟨h.clock, h.past, fun e he c hc hseeds => ?_⟩
  rcases List.mem_append.1 hc with hc | hc
  · exact h.late e he c hc hseeds
  · rw [List.mem_singleton.1 hc, hclaim]
    exact h.past e he

/-- **What every act keeps**, where no claim is overlooked. -/
theorem Inv.next (h : Inv env w) (act : Act env) (hact : w.Unclaimed act) : Inv env (w.next act) := by
  cases act with
  | wait seconds =>
    have hnow : w.now ≤ w.now + seconds := by omega
    exact ⟨h.clock.trans hnow, fun e he => (h.past e he).trans_le hnow, h.late⟩
  | op op other => exact h.quiet
  | outside vault => exact ⟨h.clock, h.past, h.late⟩
  | deliver req t => exact h.deliver req t
  | claim voucherCheck paymentCheck channelIdHash requestIdHash =>
    simp only [World.next]
    split
    · next hclaim => exact h.claim (Chain.ascCloseClaim_claimedAt hclaim)
    · exact h
  | tick =>
    simp only [World.next]
    split
    · exact ⟨le_rfl, h.past, h.late⟩
    · exact h
  | collect | gather =>
    simp only [World.next]
    split
    · exact h.quiet
    · exact h
  | expire later =>
    simp only [World.next]
    split
    · next channelId stale hstale =>
      exact h.expire later (hact channelId (by rw [hstale]; rfl))
    · exact h
  | recover answered t =>
    simp only [World.next]
    split
    · split <;> exact h.quiet
    · exact h

/-- **Claims beat expiry**, in every run in which no pending request with a claim account is
expired by the loop. -/
theorem run_protected (env : Env) (vault : Chain.VaultConfig) (now : ℤ) (acts : List (Act env))
    (h : (new vault now).UnclaimedFrom acts) : ((new vault now).run acts).Protected env := by
  have hrun : ∀ (acts : List (Act env)) w, Inv env w → w.UnclaimedFrom acts →
      Inv env (w.run acts) := by
    intro acts
    induction acts with
    | nil => exact fun _ hw _ => hw
    | cons act acts ih => exact fun w hw hacts => ih (w.next act) (hw.next act hacts.1) hacts.2
  intro channelId request he claim hclaim hvalid
  have hseeds : claim.seeds = (env.curve.sha256 (utf8 channelId),
      env.curve.sha256 (utf8 request.requestId)) :=
    Prod.ext hvalid.channelIdHash hvalid.requestIdHash
  exact not_le.2 ((hrun acts _ (.new vault now) h).late _ he claim hclaim hseeds)

end World

namespace Shop

/-- A seller with a key of its own. -/
def maker : RegisterProviderRequest :=
  { Subly402.Shop.seller with
    participantPubkey := some (hexEncode (Bytes32.fill 5).bytes)
    participantAttestation := some ""
    authMode := "bearer"
    apiKeyHash := hexEncode (Bytes32.fill 0).bytes }

def zero : String := hexEncode (Bytes32.fill 0).bytes

def delivery : Handlers.ChannelDeliverRequest :=
  { channelId := "ch_", adaptorPoint := zero, preSigRPrime := zero, preSigSPrime := zero
    encryptedResult := "", resultHash := zero, providerPubkey := hexEncode (Bytes32.fill 5).bytes }

/-- The enclave's voucher for the request, and the seller's signature over it. -/
def voucherCheck : Chain.Ed25519Check :=
  { publicKey := .fill 8, signature := []
    message := Chain.AscClaimVoucher.build
      { channelIdHash := .fill 0, requestIdHash := .fill 0, amount := 3, requestHash := .fill 0
        providerPubkey := .fill 5, issuedAt := 3, vaultConfig := .fill 9 } }

def paymentCheck : Chain.Ed25519Check :=
  { publicKey := .fill 5, signature := List.replicate 64 0
    message := Chain.ascPaymentMessage (.fill 0) (.fill 0) 3 (.fill 0) }

/-- The seller delivers for a request that ends at 122, and claims on chain at 100. -/
def claimed : List (Act Subly402.Shop.world) :=
  [.op (.deposit ⟨Subly402.Shop.deposit, Subly402.Shop.deposit_mem⟩ 0) rfl,
    .op (.registerProvider maker) rfl,
    .op (.channelOpen (hexEncode (Bytes32.fill 1).bytes) "shop" 4 ⟨1, 1⟩) rfl,
    .op (.channelRequest "ch_" "req" 3 zero ⟨2, 2⟩) rfl, .deliver delivery ⟨3, 3⟩, .wait 100,
    .claim (some voucherCheck) (some paymentCheck) (.fill 0) (.fill 0)]

/-- A round recovers the claim before the request ends. -/
def recovered : List (Act Subly402.Shop.world) :=
  claimed ++ [.gather, .recover true ⟨101, 101⟩, .wait 23, .tick, .collect, .expire 123]

/-- The next round comes when the request has ended. -/
def lateRound : List (Act Subly402.Shop.world) :=
  claimed ++ [.wait 23, .tick, .collect, .expire 123]

/-- The request as it was pending. -/
def request : ChannelRequest :=
  { requestId := "req", amount := 3, requestHash := .fill 0, providerPubkey := some (.fill 5)
    adaptorPoint := some (.fill 0), providerPreSig := some ⟨.fill 0, .fill 0⟩
    encryptedResult := some [], resultHash := some (.fill 0), createdAt := 2, expiresAt := 122 }

/-- The claim as it is recorded. -/
def claim : Chain.AscCloseClaim :=
  { vault := .fill 9, channelIdHash := .fill 0, requestIdHash := .fill 0, requestHash := .fill 0
    providerPubkey := .fill 5, fullSigR := .fill 0, fullSigS := .fill 0, amount := 3
    voucherIssuedAt := 3, claimedAt := 100 }

theorem claim_validFor : claim.ValidFor Subly402.Shop.world.curve "ch_" request :=
  ⟨rfl, rfl, rfl, rfl, rfl, by decide +kernel⟩

end Shop

/-- A claim recovered in time. -/
theorem World.run_protected_recovered :
    (World.new Chain.Exit.vault 0).UnclaimedFrom Shop.recovered ∧
      ((World.new Chain.Exit.vault 0).run Shop.recovered).Protected Subly402.Shop.world := by
  have hlast : ((World.new Chain.Exit.vault 0).run (Shop.recovered.take 12)).stale = [] := by
    decide +kernel
  have h : (World.new Chain.Exit.vault 0).UnclaimedFrom Shop.recovered := by
    refine ⟨trivial, trivial, trivial, trivial, trivial, trivial, trivial, trivial, trivial, trivial,
      trivial, trivial, ?_, trivial⟩
    intro channelId hmem
    exact absurd (hlast ▸ hmem) (by simp)
  exact ⟨h, World.run_protected _ _ _ _ h⟩

/-- The claim was recorded in time and would be recovered, but the client has its money back and
the seller has nothing. -/
theorem World.late_round_refunds :
    ¬ ((World.new Chain.Exit.vault 0).run Shop.lateRound).Protected Subly402.Shop.world ∧
      ((finalizeOnchainClaim Subly402.Shop.world.curve "ch_" ⟨.fill 0, .fill 0⟩ 101).run
        ((World.new Chain.Exit.vault 0).run Shop.claimed).app.vault).1.toOption.isSome ∧
      (((World.new Chain.Exit.vault 0).run Shop.lateRound).app.vault.activeChannels["ch_"]?).map
        (·.balance) = some { clientFree := 4, clientLocked := 0, providerEarned := 0 } := by
  refine ⟨fun h => ?_, by decide +kernel, by decide +kernel⟩
  have hrefunded : ((World.new Chain.Exit.vault 0).run Shop.lateRound).refunded
      = [("ch_", Shop.request)] := by decide +kernel
  have hclaims : ((World.new Chain.Exit.vault 0).run Shop.lateRound).claims = [Shop.claim] := by
    decide +kernel
  refine h "ch_" Shop.request (by rw [hrefunded]; simp) Shop.claim (by rw [hclaims]; simp)
    Shop.claim_validFor (by decide)

end Claims
end Subly402
