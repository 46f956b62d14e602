/-
# What an answer to `/verify` vouches for

A provider serves a request on the strength of the answer to `/verify`: the reservation
it names should be this request's own, and still stand.  A fresh reservation is.  Where
the payment id was used before, `post_verify` compares the request hash only, and
answers with what it finds.
-/

import Subly402.Enclave.Idempotency
import Subly402.Enclave.PaymentRequest

namespace Subly402

open Lib
open Lib.Prog (okOr failIf orReturn Leaves Returns Along Same)

/-! ### The claim of an answer -/

/-- The reservation is for what the request asks. -/
structure PaymentRequest.Describes (env : Env) (call : PaymentRequest) (r : Reservation) : Prop where
  client : env.pubkeyFromStr call.payload.client = some r.client
  providerId : call.payload.providerId = r.providerId
  amount : parseU64 call.payload.amount = some r.amount
  requestHash : hexDecode call.payload.requestHash = some r.requestHash.bytes
  paymentDetailsHash : hexDecode call.payload.paymentDetailsHash = some r.paymentDetailsHash.bytes

/-- The reservation neither was cancelled nor expired. -/
def Reservation.Stands (r : Reservation) : Prop := r.status ≠ .cancelled ∧ r.status ≠ .expired

instance (r : Reservation) : Decidable r.Stands := inferInstanceAs (Decidable (_ ∧ _))

/-- The answer names a reservation of the request that stands. -/
def Vouches (env : Env) (call : PaymentRequest) (resp : Handlers.VerifyResponse) (s : AppState) :
    Prop :=
  ∃ r, s.vault.reservations[resp.verificationId]? = some r ∧ call.Describes env r ∧ r.Stands

/-- `post_verify` on the request as it comes in. -/
def PaymentRequest.postVerify (env : Env) (vaultConfig : Pubkey) (call : PaymentRequest) (t : Times) :
    AppM Handlers.VerifyResponse := do
  let req ← orReturn (call.check env vaultConfig)
  Handlers.postVerify env req t

/-- The request is one of the calls, and passed its checks. -/
def Handlers.VerifyRequest.From (env : Env) (vaultConfig : Pubkey) (calls : List PaymentRequest)
    (req : Handlers.VerifyRequest) : Prop :=
  ∃ call ∈ calls, call.check env vaultConfig = .ok req

/-- Every request of the run is one of the calls. -/
def Desk.Act.From {env : Env} (vaultConfig : Pubkey) (calls : List PaymentRequest) :
    Desk.Act env → Prop
  | .op (.verify req _) => req.From env vaultConfig calls
  | .lookup req => req.From env vaultConfig calls
  | _ => True

section Requests

variable {env : Env} {vaultConfig : Pubkey} {calls : List PaymentRequest} {call : PaymentRequest}
  {req : Handlers.VerifyRequest} {r : Reservation}

/-- A request that passed describes what its parsed form says. -/
theorem PaymentRequest.describes_iff (h : call.check env vaultConfig = .ok req) :
    call.Describes env r ↔ env.pubkeyFromStr req.client = some r.client ∧
      req.providerId = r.providerId ∧ req.amount = r.amount ∧ req.requestHash = r.requestHash ∧
      req.paymentDetailsHash = r.paymentDetailsHash := by
  obtain ⟨details, -, hpass⟩ := PaymentRequest.passes h
  constructor
  · intro hd
    refine ⟨hpass.client ▸ hd.client, hpass.providerId.trans hd.providerId,
      Option.some.inj (hpass.parsed.symm.trans hd.amount), ?_, ?_⟩
    · exact Bytes32.bytes_injective (Option.some.inj (hpass.requestText.symm.trans hd.requestHash))
    · rw [hpass.detailsHash]
      exact Bytes32.bytes_injective
        (Option.some.inj (hpass.detailsText.symm.trans hd.paymentDetailsHash))
  · rintro ⟨hclient, hprovider, hamount, hrequest, hdetails⟩
    refine ⟨hpass.client ▸ hclient, hpass.providerId.symm.trans hprovider, hamount ▸ hpass.parsed,
      hrequest ▸ hpass.requestText, ?_⟩
    rw [← hdetails, hpass.detailsHash]
    exact hpass.detailsText

/-- The reservation that a request makes is for what it asks. -/
theorem Handlers.VerifyRequest.Makes.describes (hr : req.Makes env r)
    (h : call.check env vaultConfig = .ok req) : call.Describes env r := by
  obtain ⟨client, _, _, _, hclient, rfl⟩ := hr
  exact (PaymentRequest.describes_iff h).2 ⟨hclient, rfl, rfl, rfl, rfl⟩

/-- The steps of a reservation keep what it is for. -/
theorem PaymentRequest.Describes.becomes (h : call.Describes env r) {r' : Reservation}
    (hr' : r.Becomes r') : call.Describes env r' := by
  rw [hr'.terms]
  exact ⟨h.client, h.providerId, h.amount, h.requestHash, h.paymentDetailsHash⟩

end Requests

/-! ### Where reservations come from -/

/-- Reservations are for calls that passed their checks. -/
def Rules.asked (env : Env) (vaultConfig : Pubkey) (calls : List PaymentRequest) : Rules :=
  { Rules.free with
    books := fun _ r => ∃ req : Handlers.VerifyRequest, req.From env vaultConfig calls ∧
      req.Makes env r
    issues := fun r => r.States env }

namespace Desk

variable {env : Env} {vaultConfig : Pubkey} {calls : List PaymentRequest} {d : Desk}

/-- Every reservation, and every request that waits, is one of the calls. -/
structure Asked (env : Env) (vaultConfig : Pubkey) (calls : List PaymentRequest) (d : Desk) :
    Prop where
  recorded : d.app.Recorded env
  reservations : ∀ (key : String) (r : Reservation), d.app.vault.reservations[key]? = some r →
    ∃ call ∈ calls, (∃ req, call.check env vaultConfig = .ok req) ∧ call.Describes env r
  waiting : ∀ w ∈ d.waiting, w.req.From env vaultConfig calls ∧
    env.pubkeyFromStr w.req.client = some w.client

theorem Asked.new : Asked env vaultConfig calls new where
  recorded := .new env
  reservations key r h := by simp [Desk.new, AppState.new, VaultState.new] at h
  waiting := by simp [Desk.new]

/-- The enclave moved, and the requests that wait are among those that waited. -/
theorem Asked.moves (h : Asked env vaultConfig calls d) {s : AppState} {waiting : List Waiting}
    (hmoves : Moves env (.asked env vaultConfig calls) d.app s)
    (hwaiting : ∀ w ∈ waiting, w ∈ d.waiting) : Asked env vaultConfig calls { app := s, waiting } where
  recorded := (Moves.recorded hmoves h.recorded).1
  waiting w hw := h.waiting w (hwaiting w hw)
  reservations := by
    refine Moves.reservations hmoves h.recorded ?_ ?_ h.reservations
    · rintro s r ⟨req, ⟨call, hcall, hcheck⟩, hr⟩
      exact ⟨call, hcall, ⟨req, hcheck⟩, hr.describes hcheck⟩
    · rintro r r' ⟨call, hcall, hcheck, hdescribes⟩ hbecomes
      exact ⟨call, hcall, hcheck, hdescribes.becomes hbecomes⟩

theorem Asked.next (h : Asked env vaultConfig calls d) {act : Act env}
    (hact : act.From vaultConfig calls) : Asked env vaultConfig calls (d.next act) := by
  cases act with
  | op op =>
    have hadmits : (Rules.asked env vaultConfig calls).Admits d.app op := by
      refine ⟨?_, fun _ _ _ => trivial, fun _ _ _ => trivial, fun _ hr => hr, trivial,
        fun _ _ => trivial⟩
      rintro req times rfl s r hr -
      exact ⟨req, hact, hr⟩
    exact h.moves (AppState.next_moves hadmits h.recorded.ids) fun _ hw => hw
  | lookup req =>
    simp only [Desk.next]
    split
    · next client hlookup =>
      refine ⟨h.recorded, h.reservations, fun w hw => ?_⟩
      rcases List.mem_append.1 hw with hw | hw
      · exact h.waiting w hw
      · rw [List.mem_singleton.1 hw]
        exact ⟨hact, Handlers.verifyLookup_client hlookup⟩
    · exact h
  | reserve i t =>
    simp only [Desk.next]
    split
    · next w hw =>
      obtain ⟨hfrom, hclient⟩ := h.waiting w (List.mem_of_getElem? hw)
      have hmoves : Moves env (.asked env vaultConfig calls) d.app
          ((Handlers.reserveAndLog env w.req w.client t).run d.app).2 :=
        Handlers.reserveAndLog_moves (fun _ hr => hr) h.recorded.ids w.req hclient t
          fun u r _ hr => ⟨w.req, hfrom, hr⟩
      exact h.moves hmoves fun w' hw' => List.mem_of_mem_eraseIdx hw'
    · exact h

theorem Asked.run (h : Asked env vaultConfig calls d) {acts : List (Act env)}
    (hacts : ∀ act ∈ acts, act.From vaultConfig calls) :
    Asked env vaultConfig calls (d.run acts) := by
  induction acts generalizing d with
  | nil => exact h
  | cons act acts ih =>
    exact ih (h.next (hacts act (by simp))) fun a ha => hacts a (List.mem_cons_of_mem _ ha)

end Desk

/-! ### Fresh reservations -/

section Fresh

variable {env : Env}

theorem reserveAndLog_returns (req : Handlers.VerifyRequest) {client : Pubkey}
    (hclient : env.pubkeyFromStr req.client = some client) (t : Times) (s : AppState) :
    (Handlers.reserveAndLog env req client t).Returns s fun resp s' =>
      ∃ r, s'.vault.reservations[resp.verificationId]? = some r ∧ req.Makes env r ∧ r.Stands := by
  refine .run_bind (run_newId ..) (.run_bind (run_newId ..) (.failIf_bind fun _ => ?_))
  refine .leaves_bind (P := fun _ => True) trivial fun _ u _ => ?_
  refine .leaves_bind (P := fun _ => True) trivial fun _ u _ => .modify_bind ?_
  set r := req.reservation client (env.freshId .verification s.drawn)
    (env.freshId .reservation s.draw.drawn) t.now with hr
  set booked := (u.vault.setReservation r.verificationId r).setPaymentId req.paymentId
    r.verificationId
  refine .leaves_bind (P := fun t => t.vault.reservations = booked.reservations) ?_ fun _ u hu => ?_
  · exact congrArg Bookings.reservations
      ((refreshClientMaxLockExpiresAt_keeps .standing client).bookings booked)
  refine .leaves_bind (P := fun t => t.vault.reservations = booked.reservations)
    ((issueClientReceiptLocked_vault client t.later u).mono fun _ h =>
      (congrArg VaultState.reservations h).trans hu)
    fun _ u hu => ?_
  refine .get_bind (.okOr_bind fun stored _ => .pure ⟨r, ?_, ⟨client, _, _, _, hclient, hr⟩, ?_⟩)
  · rw [hu]
    simp [booked, hr]
  · exact ⟨by simp [hr], by simp [hr]⟩

end Fresh

/-! ### The main result -/

section Answers

variable {env : Env} {vaultConfig : Pubkey} {calls : List PaymentRequest} {d : Desk}

/-- A reservation with the request's hash that some call made differs from the request in its
client at most. -/
theorem PaymentRequest.describes_of_hash (hsha : NoCollision env calls) {call call' : PaymentRequest}
    (hcall : call ∈ calls) (hcall' : call' ∈ calls) {req req' : Handlers.VerifyRequest}
    (hreq : call.check env vaultConfig = .ok req) (hreq' : call'.check env vaultConfig = .ok req')
    {r : Reservation} (hr : call'.Describes env r) (hhash : r.requestHash = req.requestHash) :
    call.Describes env r ↔ env.pubkeyFromStr call.payload.client = some r.client := by
  obtain ⟨-, hprovider, hamount, hrequest, hdetails⟩ := (PaymentRequest.describes_iff hreq').1 hr
  obtain ⟨hprovider', hamount', hdetails'⟩ :=
    PaymentRequest.pinned hsha hcall hcall' hreq hreq' (hhash.symm.trans hrequest.symm)
  constructor
  · exact fun h => h.client
  · intro hclient
    obtain ⟨_, -, hpass⟩ := PaymentRequest.passes hreq
    refine (PaymentRequest.describes_iff hreq).2 ⟨hpass.client ▸ hclient, hprovider'.trans hprovider,
      hamount'.trans hamount, hhash.symm, hdetails'.trans hdetails⟩

/-- What an answer to a request that passed its checks vouches for. -/
theorem Desk.Asked.postVerify_returns (hasked : Asked env vaultConfig calls d)
    (hsha : NoCollision env calls) {call : PaymentRequest} (hcall : call ∈ calls)
    {req : Handlers.VerifyRequest} (hcheck : call.check env vaultConfig = .ok req) (t : Times) :
    (Handlers.postVerify env req t).Returns d.app fun resp s' => Vouches env call resp s' ↔
      ∀ r, Handlers.existingReservation d.app.vault req.paymentId = some r →
        env.pubkeyFromStr call.payload.client = some r.client ∧ r.Stands := by
  refine .okOr_bind fun client hclient => .get_bind (.okOr_bind fun _ _ => .get_bind ?_)
  cases hexisting : Handlers.existingReservation d.app.vault req.paymentId with
  | none =>
    refine (reserveAndLog_returns req hclient t d.app).mono ?_
    rintro resp s' ⟨r, hr, hmakes, hstands⟩
    exact iff_of_true ⟨r, hr, hmakes.describes hcheck, hstands⟩ (by simp)
  | some r =>
    refine .ite (fun hhash => .pure ?_) fun _ => .throw
    obtain ⟨key, -, hr⟩ := Option.bind_eq_some_iff.1 hexisting
    obtain ⟨call', hcall', ⟨req', hcheck'⟩, hdescribes'⟩ := hasked.reservations key r hr
    have hiff := PaymentRequest.describes_of_hash hsha hcall hcall' hcheck hcheck' hdescribes' hhash
    have hkey : r.verificationId = key := (hasked.recorded.booked key r hr).key
    have hnamed : d.app.vault.reservations[(Handlers.VerifyResponse.again r).verificationId]?
        = some r := by
      rw [Handlers.VerifyResponse.again, hkey]
      exact hr
    simp only [Vouches, hnamed, Option.some.injEq, exists_eq_left', forall_eq', hiff]

end Answers

/-- **What an answer vouches for.**  Whatever ran before, an answer to `/verify` vouches for its
request exactly where the reservation found under its payment id, if there is one, has its client
and stands.  The answer to a request that waited for the lock always does. -/
theorem Desk.verify_vouches_iff (env : Env) (vaultConfig : Pubkey) (calls : List PaymentRequest)
    (hsha : NoCollision env calls) (acts : List (Act env))
    (hacts : ∀ act ∈ acts, act.From vaultConfig calls) (call : PaymentRequest)
    (hcall : call ∈ calls) (t : Times) (resp : Handlers.VerifyResponse) (s' : AppState) :
    ((call.postVerify env vaultConfig t).run (new.run acts).app = (.ok resp, s') →
      (Vouches env call resp s' ↔
        ∀ r, Handlers.existingReservation (new.run acts).app.vault call.payload.paymentId = some r →
          env.pubkeyFromStr call.payload.client = some r.client ∧ r.Stands)) ∧
    (∀ w ∈ (new.run acts).waiting, call.check env vaultConfig = .ok w.req →
      (Handlers.reserveAndLog env w.req w.client t).run (new.run acts).app = (.ok resp, s') →
      Vouches env call resp s') := by
  have hasked : Asked env vaultConfig calls (new.run acts) := Asked.new.run hacts
  generalize new.run acts = d at hasked ⊢
  refine ⟨fun hrun => ?_, fun w hw hcheck hrun => ?_⟩
  · obtain ⟨req, hcheck⟩ : ∃ req, call.check env vaultConfig = .ok req := by
      cases hc : call.check env vaultConfig with
      | ok req => exact ⟨req, rfl⟩
      | error e => simp [PaymentRequest.postVerify, hc] at hrun
    obtain ⟨_, -, hpass⟩ := PaymentRequest.passes hcheck
    rw [PaymentRequest.postVerify, hcheck] at hrun
    rw [← hpass.paymentId]
    exact hasked.postVerify_returns hsha hcall hcheck t resp s' hrun
  · obtain ⟨r, hr, hmakes, hstands⟩ :=
      reserveAndLog_returns w.req (hasked.waiting w hw).2 t d.app resp s' hrun
    exact ⟨r, hr, hmakes.describes hcheck, hstands⟩

namespace Shop

/-- The vault of the shop. -/
def vaultConfig : Pubkey := .fill 4

/-- What the seller asks for. -/
def details : Json :=
  .object [("amount", .string "3"),
    ("asset", .object [("mint", .string (hexEncode (Bytes32.fill 3).bytes))]),
    ("network", .string "solana"), ("payTo", .string (hexEncode (Bytes32.fill 2).bytes)),
    ("providerId", .string "shop"), ("scheme", .string "subly402-svm-v1"),
    ("vault", .object [("config", .string (hexEncode vaultConfig.bytes))]),
    ("verifyWindowSec", minute)]

/-- A client's request to pay the seller. -/
def call (client : Pubkey) : PaymentRequest where
  payload :=
    { scheme := "subly402-svm-v1", paymentId := "pay", client := hexEncode client.bytes
      vault := hexEncode vaultConfig.bytes, providerId := "shop"
      payTo := hexEncode (Bytes32.fill 2).bytes, network := "solana"
      assetMint := hexEncode (Bytes32.fill 3).bytes, amount := "3"
      requestHash := hexEncode (Bytes32.fill 0).bytes
      paymentDetailsHash := hexEncode (Bytes32.fill 0).bytes }
  paymentDetails := some details
  requestContext := { method := "GET", origin := "", pathAndQuery := "/", bodySha256 := "" }

/-- The client with the deposit, and one without. -/
def callers : List PaymentRequest := [call (.fill 1), call (.fill 9)]

/-- The client pays the seller. -/
def paid : List (Desk.Act world) :=
  [.op (.deposit ⟨deposit, deposit_mem⟩ 0), .op (.registerProvider seller), .lookup payment,
    .reserve 0 ⟨1, 1⟩]

/-- The seller cancels the payment. -/
def undone : List (Desk.Act world) := paid ++ [.op (.cancel "ver_" "" ⟨2, 2⟩)]

theorem callers_noCollision : NoCollision world callers := by
  have hcall : ∀ a ∈ callers, ∃ client, a = call client := by
    intro a ha
    rcases List.mem_pair.1 ha with rfl | rfl <;> exact ⟨_, rfl⟩
  constructor
  · intro a ha b hb _
    obtain ⟨_, rfl⟩ := hcall a ha
    obtain ⟨_, rfl⟩ := hcall b hb
    rfl
  · intro a ha b hb d hd d' hd' _
    obtain ⟨_, rfl⟩ := hcall a ha
    obtain ⟨_, rfl⟩ := hcall b hb
    cases hd
    cases hd'
    rfl

theorem call_check (client : Pubkey) (h : client = .fill 1 ∨ client = .fill 9) :
    (call client).check world vaultConfig = .ok { payment with client := hexEncode client.bytes } := by
  rcases h with rfl | rfl <;> decide +kernel

theorem undone_from : ∀ act ∈ undone, act.From vaultConfig callers := by
  have hpayment : payment.From world vaultConfig callers :=
    ⟨call (.fill 1), by simp [callers], call_check (.fill 1) (.inl rfl)⟩
  intro act hact
  simp only [undone, paid, List.cons_append, List.nil_append, List.mem_cons, List.not_mem_nil,
    or_false] at hact
  rcases hact with rfl | rfl | rfl | rfl | rfl
  · trivial
  · trivial
  · exact hpayment
  · trivial
  · trivial

theorem paid_from : ∀ act ∈ paid, act.From vaultConfig callers := fun act hact =>
  undone_from act (List.mem_append_left _ hact)

end Shop

/-- The client asks again while the payment is reserved. -/
theorem Desk.verify_vouches_retry : ∃ resp s',
    ((Shop.call (.fill 1)).postVerify Shop.world Shop.vaultConfig ⟨2, 2⟩).run (new.run Shop.paid).app
      = (.ok resp, s') ∧ Vouches Shop.world (Shop.call (.fill 1)) resp s' := by
  obtain ⟨resp, s', hrun⟩ : ∃ resp s', ((Shop.call (.fill 1)).postVerify Shop.world Shop.vaultConfig
      ⟨2, 2⟩).run (new.run Shop.paid).app = (.ok resp, s') :=
    Prog.run_ok_of_isSome (by decide +kernel)
  have hfound : ((Handlers.existingReservation (new.run Shop.paid).app.vault "pay").all fun r =>
      decide (Shop.world.pubkeyFromStr (Shop.call (.fill 1)).payload.client = some r.client ∧
        r.Stands)) = true := by decide +kernel
  refine ⟨resp, s', hrun, ((verify_vouches_iff Shop.world Shop.vaultConfig Shop.callers
    Shop.callers_noCollision Shop.paid Shop.paid_from _ (by simp [Shop.callers]) ⟨2, 2⟩ resp
    s').1 hrun).2 fun r hr => ?_⟩
  rw [show Handlers.existingReservation (new.run Shop.paid).app.vault "pay" = some r from hr] at hfound
  exact of_decide_eq_true hfound

/-- An answer that names a reservation with another client, or one that does not stand. -/
theorem Vouches.refuted {env : Env} {call : PaymentRequest} {p : AppM Handlers.VerifyResponse}
    {s : AppState} (h : ((p.run s).1.toOption.any fun resp =>
      ((p.run s).2.vault.reservations[resp.verificationId]?).all fun r =>
        decide (env.pubkeyFromStr call.payload.client ≠ some r.client ∨ ¬ r.Stands)) = true) :
    ∃ resp s', p.run s = (.ok resp, s') ∧ ¬ Vouches env call resp s' := by
  generalize p.run s = out at h ⊢
  obtain ⟨e | resp, s'⟩ := out
  · cases h
  · refine ⟨resp, s', rfl, ?_⟩
    rintro ⟨r, hr, hdescribes, hstands⟩
    simp only [Except.toOption, Option.any_some, hr, Option.all_some] at h
    rcases of_decide_eq_true h with hclient | hfell
    · exact hclient hdescribes.client
    · exact hfell hstands

/-- Somebody else who sends the client's payment id and request is told that the payment is
reserved, and so is the client after it was cancelled. -/
theorem Desk.verify_not_vouched :
    (∃ resp s', ((Shop.call (.fill 9)).postVerify Shop.world Shop.vaultConfig ⟨2, 2⟩).run
      (new.run Shop.paid).app = (.ok resp, s') ∧
      ¬ Vouches Shop.world (Shop.call (.fill 9)) resp s') ∧
    (∃ resp s', ((Shop.call (.fill 1)).postVerify Shop.world Shop.vaultConfig ⟨3, 3⟩).run
      (new.run Shop.undone).app = (.ok resp, s') ∧
      ¬ Vouches Shop.world (Shop.call (.fill 1)) resp s') ∧
    NoCollision Shop.world Shop.callers ∧
    ∀ act ∈ Shop.undone, act.From Shop.vaultConfig Shop.callers := by
  refine ⟨Vouches.refuted ?_, Vouches.refuted ?_, Shop.callers_noCollision, Shop.undone_from⟩
  · decide +kernel
  · decide +kernel

end Subly402
