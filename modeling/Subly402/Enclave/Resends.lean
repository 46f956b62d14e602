/-
# Requests sent again

What a client signs goes over the wire, and whoever sees it can send it again.  The
requests of `enclave/src/handlers.rs` are protected against that in different ways.  A
channel remembers the request ids it was asked for, and channel ids are never used
again; a payment id is looked up before it is reserved.  A withdrawal authorisation is
only bound to a window of time, a message that opens a channel to nothing, and a
message that finalizes names the adaptor secret but not the request.
-/

import Subly402.Lib.Runs
import Subly402.Enclave.Idempotency
import Subly402.Enclave.Deliveries

namespace Subly402

open Lib
open Lib.Prog (okOr failIf orReturn Leaves Along)

/-! ### Signed messages -/

/-- `CLIENT_AUTH_MAX_WINDOW_SEC`. -/
def clientAuthMaxWindowSec : ℤ := 300

/-- `CLIENT_AUTH_MAX_CLOCK_SKEW_SEC`. -/
def clientAuthMaxClockSkewSec : ℤ := 60

/-- `validate_client_auth_window`. -/
def validateClientAuthWindow (issuedAt expiresAt now : ℤ) : Except EnclaveError Unit := do
  refuseIf (expiresAt ≤ now) .clientAuthExpired
  refuseIf (expiresAt ≤ issuedAt) .invalidClientAuthWindow
  refuseIf (now + clientAuthMaxClockSkewSec < issuedAt) .invalidClientAuthWindow
  refuseIf (issuedAt < now - clientAuthMaxWindowSec) .invalidClientAuthWindow
  refuseIf (clientAuthMaxWindowSec < expiresAt - issuedAt) .invalidClientAuthWindow

/-- A request over which the client signs, with the fields of the signed text. -/
inductive ClientMessage where
  | withdrawAuth (client recipientAta : String) (amount : ℕ) (issuedAt expiresAt : ℤ)
  | channelOpen (client providerId : String) (initialDeposit : ℕ)
  | channelRequest (channelId requestId : String) (amount : ℕ) (requestHash : String)
  | channelFinalize (channelId adaptorSecret : String)

/-- `build_withdraw_auth_message` and the builders of the channel messages. -/
def ClientMessage.text : ClientMessage → String
  | .withdrawAuth client recipientAta amount issuedAt expiresAt =>
    "SUBLY402-CLIENT-WITHDRAW-AUTH\n" ++ client ++ "\n" ++ recipientAta ++ "\n" ++ toString amount
      ++ "\n" ++ toString issuedAt ++ "\n" ++ toString expiresAt ++ "\n"
  | .channelOpen client providerId initialDeposit =>
    "SUBLY402-CHANNEL-OPEN\n" ++ client ++ "\n" ++ providerId ++ "\n" ++ toString initialDeposit
      ++ "\n"
  | .channelRequest channelId requestId amount requestHash =>
    "SUBLY402-CHANNEL-REQUEST\n" ++ channelId ++ "\n" ++ requestId ++ "\n" ++ toString amount
      ++ "\n" ++ requestHash ++ "\n"
  | .channelFinalize channelId adaptorSecret =>
    "SUBLY402-CHANNEL-FINALIZE\n" ++ channelId ++ "\n" ++ adaptorSecret ++ "\n"

/-- A request as it comes in. -/
structure ClientRequest where
  message : ClientMessage
  clientSig : String

/-- `verify_ed25519_signature`, for a signer, a text and a signature. -/
abbrev SignatureCheck : Type := Pubkey → String → String → Bool

/-- `verify_channel_client_signature`. -/
def verifyChannelClientSignature (verify : SignatureCheck) (channelId message clientSig : String) :
    AppM Unit := do
  let channel ← okOr (← get).vault.activeChannels[channelId]? .channelNotFound
  failIf (¬ verify channel.client message clientSig) .invalidClientSignature

/-- The handlers of the requests, with the checks of the signature before them. -/
def ClientRequest.handle (env : Env) (verify : SignatureCheck) (req : ClientRequest) (now : ℤ)
    (t : Times) : AppM Unit :=
  match req.message with
  | .withdrawAuth client recipientAta amount issuedAt expiresAt => do
    orReturn (validateClientAuthWindow issuedAt expiresAt now)
    let signer ← okOr (env.pubkeyFromStr client) .invalidClientSignature
    failIf (¬ verify signer req.message.text req.clientSig) .invalidClientSignature
    let recipient ← okOr (env.pubkeyFromStr recipientAta) (.internal "Invalid recipient ATA")
    Handlers.postWithdrawAuth env signer recipient amount t
  | .channelOpen client providerId initialDeposit => do
    let signer ← okOr (env.pubkeyFromStr client) .clientNotFound
    failIf (¬ verify signer req.message.text req.clientSig) .invalidClientSignature
    Handlers.postChannelOpen env client providerId initialDeposit t
  | .channelRequest channelId requestId amount requestHash => do
    verifyChannelClientSignature verify channelId req.message.text req.clientSig
    Handlers.postChannelRequest env channelId requestId amount requestHash t
  | .channelFinalize channelId adaptorSecret => do
    verifyChannelClientSignature verify channelId req.message.text req.clientSig
    Handlers.postChannelFinalize env channelId adaptorSecret t

/-- The operation that a message asks for. -/
def ClientMessage.op? (env : Env) (t : Times) : ClientMessage → Option (Op env)
  | .withdrawAuth client recipientAta amount _ _ => do
    let signer ← env.pubkeyFromStr client
    let recipient ← env.pubkeyFromStr recipientAta
    return .withdrawAuth signer recipient amount t
  | .channelOpen client providerId initialDeposit =>
    some (.channelOpen client providerId initialDeposit t)
  | .channelRequest channelId requestId amount requestHash =>
    some (.channelRequest channelId requestId amount requestHash t)
  | .channelFinalize channelId adaptorSecret => some (.channelFinalize channelId adaptorSecret t)

/-- The enclave is as it was, or did what the message asks for. -/
inductive Answered (env : Env) (t : Times) (message : ClientMessage) (s s' : AppState) : Prop
  | refused (h : s' = s)
  | done {op : Op env} (hop : message.op? env t = some op) (h : s' = s.next op)

theorem verifyChannelClientSignature_clean (verify : SignatureCheck)
    (channelId message clientSig : String) (s : AppState) :
    (verifyChannelClientSignature verify channelId message clientSig).Clean s fun _ s' => s' = s :=
  .get_bind <| .okOr_bind fun channel _ => by
    by_cases h : verify channel.client message clientSig = true
    · exact .of_run (a := ()) (by simp [h]) rfl
    · exact .fail (e := .invalidClientSignature) (by simp [h])

theorem ClientRequest.handle_answered (env : Env) (verify : SignatureCheck) (req : ClientRequest)
    (now : ℤ) (t : Times) (s : AppState) :
    (req.handle env verify now t).Leaves s (Answered env t req.message s) := by
  obtain ⟨message, clientSig⟩ := req
  have hrefused : Answered env t message s s := .refused rfl
  cases message with
  | withdrawAuth client recipientAta amount issuedAt expiresAt =>
    refine .orReturn_bind hrefused fun _ _ => .okOr_bind hrefused fun signer hsigner =>
      .failIf_bind (fun _ => hrefused) fun _ => .okOr_bind hrefused fun recipient hrecipient => ?_
    have hop : ClientMessage.op? env t (.withdrawAuth client recipientAta amount issuedAt expiresAt)
        = some (.withdrawAuth signer recipient amount t) := by
      simp [ClientMessage.op?, hsigner, hrecipient]
    exact .done hop rfl
  | channelOpen client providerId initialDeposit =>
    refine .okOr_bind hrefused fun signer _ => .failIf_bind (fun _ => hrefused) fun _ => ?_
    exact .done rfl rfl
  | channelRequest channelId requestId amount requestHash =>
    refine .clean_bind (verifyChannelClientSignature_clean ..) hrefused fun _ s' hs' => ?_
    subst hs'
    exact .done rfl rfl
  | channelFinalize channelId adaptorSecret =>
    refine .clean_bind (verifyChannelClientSignature_clean ..) hrefused fun _ s' hs' => ?_
    subst hs'
    exact .done rfl rfl

/-! ### What the handlers leave of the books -/

/-- A request id that the channel, if it is still there, was asked for. -/
def Ledger.Used (l : Ledger) (channelId requestId : String) : Prop :=
  ∀ channel, l.channels[channelId]? = some channel → requestId ∈ channel.usedRequestIds

/-- A used request id stays used: no other channel gets the channel's id. -/
theorem Evolves.used {env : Env} {supply : Supply} {l l' : Ledger} (h : Evolves env supply l l')
    {channelId requestId : String} (hdrawn : env.Drawn supply.since channelId)
    (hl : l.Used channelId requestId) : l'.Used channelId requestId := by
  induction h with
  | refl => exact hl
  | dropCredit _ _ ih => exact ih
  | event _ he hfrom ih =>
    intro channel hch
    rcases Ledger.channel_apply he hch with
      hch | ⟨_, _, _, rfl, -⟩ | ⟨channel, _, hold, hturns, rfl⟩
    · exact ih channel hch
    · exact (hfrom.channel _ rfl hdrawn).elim
    · have hmem := ih channel hold
      cases hturns with
      | submit => exact Finset.mem_insert_of_mem hmem
      | deliver | finalize | expireRequest => exact hmem

/-- The books are as they were, or something else holds of them. -/
inductive MovesTo (P : Ledger → Prop) (s s' : AppState) : Prop
  | still (h : s'.vault.ledger = s.vault.ledger)
  | moved (h : P s'.vault.ledger)

theorem MovesTo.noted {P : Ledger → Prop} {s t u : AppState} (h : MovesTo P s t)
    (hu : Noted t u) : MovesTo P s u := by
  cases h with
  | still h => exact .still (hu.1.trans h)
  | moved h => exact .moved (hu.1 ▸ h)

namespace Handlers

variable {env : Env} {s : AppState}

theorem postChannelRequest_movesTo (hs : AppInv env s) (channelId requestId : String) (amount : ℕ)
    (requestHashText : String) (t : Times) :
    (postChannelRequest env channelId requestId amount requestHashText t).Leaves s
      (MovesTo (fun l => env.Drawn s.drawn channelId ∧ l.Used channelId requestId) s) := by
  refine .okOr_bind (.still rfl) fun requestHash _ => ?_
  refine .onVault_bind (submitRequest_clean ..) (.still rfl)
    fun _ v ⟨channel, hch, hst, hused, hle, hv⟩ => ?_
  subst hv
  obtain ⟨hok, -, -, -⟩ := hs.channel hch
  have hdrawn : env.Drawn s.drawn channelId := hs.ids.channels _ channel.untimed (by simp [hch])
  refine .append_bind (run_rollbackSubmitRequest hst (hok.idle hst).1 hused hle)
    (.still (VaultState.ledger_setChannel_touch _ hch))
    (.get_bind (.okOr_some_bind (a := channel.lockRequest ..) (by simp; rfl) ?_))
  refine (refresh_receipt_noted channel.client t.later (.pure _) _).mono
    fun u (hu : Noted _ u) => MovesTo.noted ?_ hu
  refine .moved ⟨hdrawn, fun channel' hch' => ?_⟩
  obtain rfl : (channel.lockRequest requestId amount requestHash t.now).untimed = channel' := by
    simpa using hch'
  exact Finset.mem_insert_self _ _

/-- A request id that is used asks for nothing. -/
theorem postChannelRequest_used {channelId requestId : String}
    (h : s.vault.ledger.Used channelId requestId) {amount : ℕ} {requestHashText : String}
    (t : Times) :
    (postChannelRequest env channelId requestId amount requestHashText t).Leaves s
      fun s' => s'.vault.ledger = s.vault.ledger := by
  refine .okOr_bind rfl fun requestHash _ => ?_
  refine .onVault_bind (submitRequest_clean ..) rfl fun _ v ⟨channel, hch, _, hunused, _, _⟩ => ?_
  exact (hunused (h channel.untimed (by simp [hch]))).elim

/-- A deposit that the free balance does not cover opens nothing. -/
theorem postChannelOpen_uncovered {client providerId : String} {initialDeposit : ℕ}
    (h : ∀ signer, env.pubkeyFromStr client = some signer →
      (s.vault.balance signer).free < initialDeposit) (t : Times) :
    (postChannelOpen env client providerId initialDeposit t).Leaves s
      fun s' => s'.vault.ledger = s.vault.ledger := by
  refine .okOr_bind rfl fun signer hsigner => ?_
  refine .clean_bind (registeredProviderParticipantPubkey_clean providerId s) rfl
    fun _ s' ⟨_, hs'⟩ => ?_
  rw [hs']
  refine .run_bind (run_newId ..) (.onVault_bind (openChannelWithId_clean ..) rfl
    fun _ v ⟨balance, _, hb, _, hle, _⟩ => ?_)
  have hlt := h signer hsigner
  replace hb : s.vault.clientBalances[signer]? = some balance := hb
  rw [VaultState.balance_eq hb] at hlt
  omega

/-- A text that is not the secret of the pending request finalizes nothing. -/
theorem postChannelFinalize_unopened {channelId adaptorSecret : String}
    (h : ∀ channel request secret, s.vault.activeChannels[channelId]? = some channel →
      channel.status = .pending → channel.activeRequest = some request →
      (hexDecode32 adaptorSecret).bind env.curve.scalarFromCanonicalBytes = some secret →
      ¬ request.OpenedBy secret) (t : Times) :
    (postChannelFinalize env channelId adaptorSecret t).Leaves s
      fun s' => s'.vault.ledger = s.vault.ledger := by
  refine .clean_bind decodeHex32_clean rfl fun secretBytes s₁ ⟨hdecode, hs₁⟩ => ?_
  subst hs₁
  refine .onVault_bind (finalizeOffchain_opens ..) rfl
    fun _ _ ⟨channel, request, secret, hch, hst, hr, hsecret, hopened⟩ => ?_
  refine absurd hopened (h channel request secret hch hst hr ?_)
  rw [hdecode, Option.bind_some, hsecret]

/-- A reservation that moves the books is in them. -/
theorem reserveAndLog_movesTo (req : VerifyRequest) (client : Pubkey) (t : Times) :
    (reserveAndLog env req client t).Leaves s (MovesTo (fun l => ∃ (key : String) (r : Reservation),
      l.reservations[key]? = some r ∧ r.paymentId = req.paymentId) s) := by
  refine .run_bind (run_newId ..) (.run_bind (run_newId ..)
    (.failIf_bind (fun _ => .still rfl) fun _ => ?_))
  refine .onVault_bind (reserveBalance_clean client req.amount s.vault) (.still rfl)
    fun _ v ⟨balance, hb, hle, hv⟩ => ?_
  subst hv
  refine .append_bind (run_releaseBalance_reserved hb hle) (.still rfl) (.modify_bind ?_)
  refine (refresh_receipt_noted client t.later ?_ _).mono
    fun u (hu : Noted _ u) => MovesTo.noted ?_ hu
  · exact .get_bind fun _ => .okOr_bind fun _ _ => .pure _
  · exact .moved ⟨env.freshId .verification s.drawn, req.reservation client
      (env.freshId .verification s.drawn) (env.freshId .reservation (s.drawn + 1)) t.now,
      by simp, rfl⟩

end Handlers

/-! ### The inbox -/

/-- What a client signed: a request, or the payload of a payment as `post_verify` reads it. -/
inductive Signed where
  | request (message : ClientMessage)
  | payment (req : Handlers.VerifyRequest)

/-- The operation is one that a client signs. -/
def Op.signed {env : Env} : Op env → Bool
  | .verify .. | .withdrawAuth .. | .channelOpen .. | .channelRequest .. | .channelFinalize .. =>
    true
  | _ => false

namespace Inbox

/-- What happens next: something no client signed, a signed request comes in, for the first time
or again, a payment comes in, or a payment that waits gets the lock. -/
inductive Act (env : Env) where
  | op (op : Op env) (h : op.signed = false)
  | send (req : ClientRequest) (now : ℤ) (t : Times)
  | lookup (req : Handlers.VerifyRequest)
  | reserve (i : ℕ) (t : Times)

section Runs

variable {env : Env} (verify : SignatureCheck)

def next (d : Desk) : Act env → Desk
  | .op op _ => d.next (.op op)
  | .send req now t => { d with app := ((req.handle env verify now t).run d.app).2 }
  | .lookup req => d.next (.lookup req : Desk.Act env)
  | .reserve i t => d.next (.reserve i t : Desk.Act env)

/-- The enclave after the first `n` steps. -/
def state (acts : List (Act env)) (n : ℕ) : Desk := runSteps (next verify) .new (acts.take n)

/-- The signed message that a step acts on. -/
def Act.signed? (d : Desk) : Act env → Option Signed
  | .send req _ _ => some (.request req.message)
  | .reserve i _ => (d.waiting[i]?).map fun w => .payment w.req
  | _ => none

/-- Step `n` acts on the message, and moves the books. -/
def TakesEffect (acts : List (Act env)) (n : ℕ) (m : Signed) : Prop :=
  ∃ act, acts[n]? = some act ∧ act.signed? (state verify acts n) = some m ∧
    (state verify acts (n + 1)).app.vault.ledger ≠ (state verify acts n).app.vault.ledger

/-- Each signed message moves the books at most once. -/
def AtMostOnce (acts : List (Act env)) : Prop :=
  ∀ m n n', TakesEffect verify acts n m → TakesEffect verify acts n' m → n = n'

/-- What the enclave checks about a message is out of date: the window of a withdrawal is over,
the free balance does not cover the deposit, the secret does not open the pending request. -/
def Outdated (env : Env) (s : AppState) (now : ℤ) : ClientMessage → Prop
  | .withdrawAuth _ _ _ _ expiresAt => expiresAt ≤ now
  | .channelOpen client _ initialDeposit => ∀ signer, env.pubkeyFromStr client = some signer →
      (s.vault.balance signer).free < initialDeposit
  | .channelRequest .. => True
  | .channelFinalize channelId adaptorSecret => ∀ channel request secret,
      s.vault.activeChannels[channelId]? = some channel → channel.status = .pending →
      channel.activeRequest = some request →
      (hexDecode32 adaptorSecret).bind env.curve.scalarFromCanonicalBytes = some secret →
      ¬ request.OpenedBy secret

/-- A message that took effect before is out of date, and a payment that gets the lock finds its
payment id unused. -/
def Act.Guarded (before : Signed → Prop) (d : Desk) : Act env → Prop
  | .send req now _ => before (.request req.message) → Outdated env d.app now req.message
  | .reserve i t => (Desk.Act.reserve i t : Desk.Act env).Undisturbed d
  | _ => True

/-- Every step of the run is guarded. -/
def Guarded (acts : List (Act env)) : Prop :=
  ∀ (n : ℕ) (act : Act env), acts[n]? = some act →
    act.Guarded (fun m => ∃ k < n, TakesEffect verify acts k m) (state verify acts n)

end Runs

/-! ### What a step keeps -/

/-- What holds of the enclave and of the payments that wait. -/
structure Inv (env : Env) (d : Desk) : Prop extends Desk.Inv env d where
  sound : RunInv env d.app
  providers : ∀ w ∈ d.waiting, ∃ provider, d.app.vault.providers[w.req.providerId]? = some provider

/-- What a step keeps. -/
structure Kept (env : Env) (d d' : Desk) : Prop where
  inv : Inv env d'
  step : Sound env d.app d'.app
  grow : Grow d.app.vault.reservations d'.app.vault.reservations

variable {env : Env} {verify : SignatureCheck} {d d' : Desk}

theorem Inv.new (env : Env) : Inv env .new :=
  { Desk.Inv.new env with sound := .new env, providers := by simp [Desk.new] }

theorem Kept.refl (h : Inv env d) : Kept env d d := ⟨h, (Logged.refl env d.app).toSound, .refl _⟩

/-- The providers of the payments that wait stay registered. -/
theorem Inv.kept (h : Inv env d) (hdesk : Desk.Inv env d') (hstep : Sound env d.app d'.app)
    (hgrow : Grow d.app.vault.reservations d'.app.vault.reservations)
    (hwaiting : ∀ w ∈ d'.waiting, w ∈ d.waiting) : Kept env d d' := by
  refine ⟨{ hdesk with sound := hstep.runInv h.sound, providers := fun w hw => ?_ }, hstep, hgrow⟩
  obtain ⟨provider, hp⟩ := h.providers w (hwaiting w hw)
  exact ⟨provider, hstep.evolves.provider hp⟩

theorem Inv.op (h : Inv env d) (op : Op env) : Kept env d (d.next (.op op)) := by
  obtain ⟨hdesk, hgrow⟩ := Desk.Inv.next h.toInv (show (Desk.Act.op op).Undisturbed d from trivial)
  exact h.kept hdesk (step_effect h.sound.toAppInv op).sound hgrow fun _ hw => hw

theorem Inv.lookup (h : Inv env d) (req : Handlers.VerifyRequest) :
    Kept env d (d.next (.lookup req : Desk.Act env)) := by
  obtain ⟨hdesk, hgrow⟩ := Desk.Inv.next h.toInv
    (show (Desk.Act.lookup req : Desk.Act env).Undisturbed d from trivial)
  have happ : (d.next (.lookup req : Desk.Act env)).app = d.app := by
    simp only [Desk.next]
    split <;> rfl
  refine ⟨{ hdesk with sound := happ ▸ h.sound, providers := fun w hw => ?_ },
    happ ▸ (Logged.refl env d.app).toSound, hgrow⟩
  rw [happ]
  simp only [Desk.next] at hw
  split at hw
  · next client hlookup =>
    rcases List.mem_append.1 hw with hw | hw
    · exact h.providers w hw
    · rw [List.mem_singleton.1 hw]
      obtain ⟨_, -, hlookup⟩ := Option.bind_eq_some_iff.1 hlookup
      obtain ⟨provider, hp, -⟩ := Option.bind_eq_some_iff.1 hlookup
      exact ⟨provider, hp⟩
  · exact h.providers w hw

theorem Inv.reserve (h : Inv env d) {i : ℕ} {t : Times}
    (hact : (Desk.Act.reserve i t : Desk.Act env).Undisturbed d) :
    Kept env d (d.next (.reserve i t : Desk.Act env)) := by
  obtain ⟨hdesk, hgrow⟩ := h.toInv.next hact
  simp only [Desk.next] at hdesk hgrow ⊢
  split at hdesk
  · next w hw =>
    have hmem := List.mem_of_getElem? hw
    obtain ⟨provider, hp⟩ := h.providers w hmem
    rw [hw] at hgrow
    exact h.kept hdesk
      (Handlers.reserveAndLog_effect h.sound.toAppInv w.req t (h.clients w hmem) hp).sound
      hgrow fun w' hw' => List.mem_of_mem_eraseIdx hw'
  · exact .refl h

/-- A request that comes in is refused, or is one of the operations. -/
theorem next_send (verify : SignatureCheck) (d : Desk) (req : ClientRequest) (now : ℤ) (t : Times) :
    next verify d (.send req now t : Act env) = d ∨
      ∃ op, req.message.op? env t = some op ∧
        next verify d (.send req now t : Act env) = d.next (.op op) := by
  have h := req.handle_answered env verify now t d.app
  rw [Leaves] at h
  cases h with
  | refused h => exact .inl (by rw [next, h])
  | @done op hop h => exact .inr ⟨op, hop, by rw [next, h, Desk.next]⟩

theorem Inv.next (h : Inv env d) {act : Act env} {before : Signed → Prop}
    (hact : act.Guarded before d) : Kept env d (next verify d act) := by
  cases act with
  | op op _ => exact h.op op
  | send req now t =>
    obtain heq | ⟨op, -, heq⟩ := next_send verify d req now t
    · rw [heq]
      exact .refl h
    · rw [heq]
      exact h.op op
  | lookup req => exact h.lookup req
  | reserve i t => exact h.reserve hact

/-! ### What took effect -/

/-- What stays in the books of a message that took effect. -/
def Settled (env : Env) (d : Desk) : Signed → Prop
  | .request (.channelRequest channelId requestId _ _) =>
    env.Drawn d.app.drawn channelId ∧ d.app.vault.ledger.Used channelId requestId
  | .request _ => True
  | .payment req => ∃ (key : String) (r : Reservation),
      d.app.vault.reservations[key]? = some r ∧ r.paymentId = req.paymentId

theorem Kept.settled (h : Kept env d d') {m : Signed} (hm : Settled env d m) : Settled env d' m := by
  match m, hm with
  | .request (.channelRequest _ _ _ _), hm =>
    exact ⟨hm.1.mono h.step.still.drawn, h.step.evolves.used hm.1 hm.2⟩
  | .request (.withdrawAuth ..), _ | .request (.channelOpen ..), _
  | .request (.channelFinalize ..), _ => trivial
  | .payment _, ⟨key, r, hr, hid⟩ =>
    obtain ⟨r', hr', hbecomes⟩ := h.grow key r hr
    exact ⟨key, r', hr', hbecomes.paymentId.trans hid⟩

/-- A message that moves the books is settled. -/
theorem settled_of_ne (h : Inv env d) {act : Act env} {m : Signed}
    (hm : act.signed? d = some m)
    (hne : (next verify d act).app.vault.ledger ≠ d.app.vault.ledger) :
    Settled env (next verify d act) m := by
  cases act with
  | op | lookup => cases hm
  | send req now t =>
    obtain heq | ⟨op, hop, heq⟩ := next_send verify d req now t
    · exact (hne (by rw [heq])).elim
    · cases hm
      obtain ⟨message, clientSig⟩ := req
      cases message with
      | withdrawAuth | channelOpen | channelFinalize => trivial
      | channelRequest channelId requestId amount requestHash =>
        cases hop
        rw [heq] at hne ⊢
        have hmoves := Handlers.postChannelRequest_movesTo h.sound.toAppInv channelId requestId amount
          requestHash t
        have hdrawn := (step_effect h.sound.toAppInv
          (.channelRequest channelId requestId amount requestHash t)).sound.still.drawn
        rcases hmoves with hstill | hmoved
        · exact (hne hstill).elim
        · exact ⟨hmoved.1.mono hdrawn, hmoved.2⟩
  | reserve i t =>
    obtain ⟨w, hw, rfl⟩ := Option.map_eq_some_iff.1 hm
    simp only [next, Desk.next, hw] at hne ⊢
    rcases Handlers.reserveAndLog_movesTo w.req w.client t with hstill | hmoved
    · exact (hne hstill).elim
    · exact hmoved

/-- A settled message moves nothing where the step is guarded. -/
theorem ledger_of_settled (h : Inv env d) {act : Act env} {m : Signed}
    (hm : act.signed? d = some m) (hset : Settled env d m) {before : Signed → Prop}
    (hbefore : before m) (hact : act.Guarded before d) :
    (next verify d act).app.vault.ledger = d.app.vault.ledger := by
  cases act with
  | op | lookup => cases hm
  | send req now t =>
    cases hm
    have hold : Outdated env d.app now req.message := hact hbefore
    obtain heq | ⟨op, hop, heq⟩ := next_send verify d req now t
    · rw [heq]
    · obtain ⟨message, clientSig⟩ := req
      cases message with
      | withdrawAuth client recipientAta amount issuedAt expiresAt =>
        have hexpired : validateClientAuthWindow issuedAt expiresAt now
            = .error .clientAuthExpired := by
          simp only [validateClientAuthWindow, refuseIf, if_pos (show expiresAt ≤ now from hold)]
          rfl
        simp [next, ClientRequest.handle, hexpired]
      | channelOpen client providerId initialDeposit =>
        cases hop
        rw [heq]
        exact Handlers.postChannelOpen_uncovered hold t
      | channelRequest channelId requestId amount requestHash =>
        cases hop
        rw [heq]
        exact Handlers.postChannelRequest_used hset.2 t
      | channelFinalize channelId adaptorSecret =>
        cases hop
        rw [heq]
        exact Handlers.postChannelFinalize_unopened hold t
  | reserve i t =>
    obtain ⟨w, hw, rfl⟩ := Option.map_eq_some_iff.1 hm
    obtain ⟨key, r, hr, hid⟩ := hset
    have hunused : Handlers.existingReservation d.app.vault w.req.paymentId = none := by
      have hall : ((d.waiting[i]?).all fun w =>
        (Handlers.existingReservation d.app.vault w.req.paymentId).isNone) = true := hact
      rw [hw] at hall
      simpa using hall
    exact (h.indexed.unused hunused hr hid).elim

/-! ### Runs -/

theorem Guarded.inv {acts : List (Act env)} (h : Guarded verify acts) (n : ℕ) :
    Inv env (state verify acts n) :=
  runSteps_keep_from (k := 0) (Inv.new env)
    (fun m act hact hinv => (hinv.next (h m act hact)).inv) (Nat.zero_le n)

/-- **A signed message takes effect at most once in a guarded run.** -/
theorem run_atMostOnce (env : Env) (verify : SignatureCheck) (acts : List (Act env))
    (h : Guarded verify acts) : AtMostOnce verify acts := by
  -- of two steps in which a message takes effect, none is the earlier one
  suffices hlt : ∀ m n n', TakesEffect verify acts n m → TakesEffect verify acts n' m → ¬ n < n' from
    fun m n n' hn hn' =>
      le_antisymm (not_lt.1 (hlt m n' n hn' hn)) (not_lt.1 (hlt m n n' hn hn'))
  intro m n n' hn ⟨act', hact', hm', hne'⟩ hlt
  have hbefore : ∃ k < n', TakesEffect verify acts k m := ⟨n, hlt, hn⟩
  obtain ⟨act, hact, hm, hne⟩ := hn
  have hafter : Settled env (state verify acts (n + 1)) m := by
    rw [state, runSteps_take_succ hact] at hne ⊢
    exact settled_of_ne (h.inv n) hm hne
  -- what is settled stays settled
  have hsettled : Inv env (state verify acts n') ∧ Settled env (state verify acts n') m :=
    runSteps_keep_from (P := fun d => Inv env d ∧ Settled env d m) ⟨h.inv (n + 1), hafter⟩
      (fun k act hact hd =>
        have hkept := hd.1.next (h k act hact)
        ⟨hkept.inv, hkept.settled hd.2⟩) hlt
  apply hne'
  rw [state, runSteps_take_succ hact']
  exact ledger_of_settled hsettled.1 hm' hsettled.2 hbefore (h n' act' hact')

end Inbox

namespace Toy

/-- The client's key as a text. -/
def clientText : String := hexEncode (Bytes32.fill 1).bytes

/-- The client's signatures read "signed". -/
def verify : SignatureCheck := fun _ _ clientSig => clientSig = "signed"

/-- The client asks for two back, at time one and for the nine seconds after it. -/
def withdrawal : ClientRequest := ⟨.withdrawAuth clientText clientText 2 1 10, "signed"⟩

/-- The client opens a channel with two. -/
def opening : ClientRequest := ⟨.channelOpen clientText "shop" 2, "signed"⟩

/-- A request of one on the channel. -/
def asking (requestId : String) : ClientRequest :=
  ⟨.channelRequest "ch_" requestId 1 (hexEncode (Bytes32.fill 0).bytes), "signed"⟩

/-- The client finalizes with the secret of the delivery. -/
def finalizing : ClientRequest :=
  ⟨.channelFinalize "ch_" (hexEncode (Bytes32.fill 2).bytes), "signed"⟩

/-- The client's deposit and the seller's registration. -/
def start : List (Inbox.Act world) :=
  [.op (.deposit ⟨Shop.deposit, deposit_mem⟩ 0) rfl, .op (.registerProvider maker) rfl]

/-- Somebody sends a withdrawal again when its window is over. -/
def late : List (Inbox.Act world) :=
  start ++ [.send withdrawal 1 ⟨1, 1⟩, .send withdrawal 10 ⟨10, 10⟩]

/-- Somebody sends a withdrawal again one second later. -/
def soon : List (Inbox.Act world) :=
  start ++ [.send withdrawal 1 ⟨1, 1⟩, .send withdrawal 2 ⟨2, 2⟩]

/-- Somebody sends a message that opens a channel again, a million seconds later. -/
def reopened : List (Inbox.Act world) :=
  start ++ [.send opening 1 ⟨1, 1⟩, .send opening 1000000 ⟨1000000, 1000000⟩]

/-- The seller delivers twice for one point, and somebody sends the client's secret again. -/
def repeated : List (Inbox.Act world) :=
  start ++ [.send opening 1 ⟨1, 1⟩, .send (asking "req") 2 ⟨2, 2⟩,
    .op (.channelDeliver delivery ⟨3, 3⟩) rfl, .send finalizing 4 ⟨4, 4⟩,
    .send (asking "next") 5 ⟨5, 5⟩, .op (.channelDeliver delivery ⟨6, 6⟩) rfl,
    .send finalizing 7 ⟨7, 7⟩]

end Toy

namespace Inbox

/-- A withdrawal sent again late. -/
theorem run_atMostOnce_late : Guarded Toy.verify Toy.late ∧ AtMostOnce Toy.verify Toy.late ∧
    TakesEffect Toy.verify Toy.late 2 (.request Toy.withdrawal.message) := by
  have hguarded : Guarded Toy.verify Toy.late := by
    intro n act hact
    match n, hact with
    | 0, hact | 1, hact =>
      cases hact
      trivial
    | 2, hact =>
      cases hact
      rintro ⟨k, hk, act, hact, hm, -⟩
      -- no step before acts on a signed message
      match k, hk, hact with
      | 0, _, hact | 1, _, hact =>
        cases hact
        cases hm
    | 3, hact =>
      cases hact
      exact fun _ => le_refl (10 : ℤ)
  refine ⟨hguarded, run_atMostOnce Toy.world Toy.verify Toy.late hguarded, _, rfl, rfl, ?_⟩
  exact mt (congrArg fun l => (l.account (.fill 1)).free) (by decide +kernel)

/-- A request that comes in twice and moves something both times. -/
theorem not_atMostOnce {acts : List (Act env)} {req : ClientRequest} (n n' : ℕ) (hlt : n < n')
    {now now' : ℤ} {t t' : Times} (hact : acts[n]? = some (.send req now t))
    (hact' : acts[n']? = some (.send req now' t')) (f : Ledger → ℕ)
    (hmoves : ∀ k ∈ [n, n'], f (state verify acts (k + 1)).app.vault.ledger
      ≠ f (state verify acts k).app.vault.ledger) : ¬ AtMostOnce verify acts := by
  intro h
  have heq := h (.request req.message) n n'
    ⟨_, hact, rfl, mt (congrArg f) (hmoves n (by simp))⟩
    ⟨_, hact', rfl, mt (congrArg f) (hmoves n' (by simp))⟩
  omega

/-- A withdrawal that comes in again within its window, and a message that opens a channel and
comes in again at any time, lock the client's money once more.  A secret that the seller used for
two deliveries pays for both requests, though the client sent it once. -/
theorem resent_twice : ¬ AtMostOnce Toy.verify Toy.soon ∧ ¬ AtMostOnce Toy.verify Toy.reopened ∧
    ¬ AtMostOnce Toy.verify Toy.repeated :=
  ⟨not_atMostOnce 2 3 (by decide) rfl rfl (fun l => (l.account (.fill 1)).free)
      (by decide +kernel),
    not_atMostOnce 2 3 (by decide) rfl rfl (fun l => (l.account (.fill 1)).free)
      (by decide +kernel),
    not_atMostOnce 5 8 (by decide) rfl rfl
      (fun l => ((l.channels["ch_"]?).map (·.balance.providerEarned)).getD 0) (by decide +kernel)⟩

end Inbox

end Subly402
