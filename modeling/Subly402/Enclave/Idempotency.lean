/-
# One payment id, one reservation

`post_verify` looks its payment id up before it waits for `persistence_lock`, and
inserts under the lock without looking again.  `Desk` is the enclave with the requests
that wait in between; any operation may run while they wait.
-/

import Subly402.Enclave.Lifecycle

namespace Subly402

open Lib

/-! ### Waiting requests -/

/-- A `/verify` request that found its payment id unused. -/
structure Waiting where
  req : Handlers.VerifyRequest
  client : Pubkey

/-- The enclave, and the requests that wait for `persistence_lock`. -/
structure Desk where
  app : AppState
  waiting : List Waiting

/-- The checks of `post_verify` up to its lookup: the client of a request that goes on to
reserve. -/
def Handlers.verifyLookup (env : Env) (s : AppState) (req : VerifyRequest) : Option Pubkey := do
  let client ← env.pubkeyFromStr req.client
  let _ ← s.vault.providers[req.providerId]?
  if (existingReservation s.vault req.paymentId).isNone then some client else none

/-- A request that waits names its client. -/
theorem Handlers.verifyLookup_client {env : Env} {s : AppState} {req : Handlers.VerifyRequest}
    {client : Pubkey} (h : Handlers.verifyLookup env s req = some client) :
    env.pubkeyFromStr req.client = some client := by
  obtain ⟨client', hclient, h⟩ := Option.bind_eq_some_iff.1 h
  obtain ⟨_, -, h⟩ := Option.bind_eq_some_iff.1 h
  split at h
  · exact hclient.trans h
  · cases h

namespace Desk

variable {env : Env}

/-- What happens next: an operation under the lock, the lookup of a request, or a waiting request
gets the lock. -/
inductive Act (env : Env) where
  | op (op : Op env)
  | lookup (req : Handlers.VerifyRequest)
  | reserve (i : ℕ) (t : Times)

/-- An enclave that just started. -/
def new : Desk := { app := .new, waiting := [] }

def next (d : Desk) : Act env → Desk
  | .op op => { d with app := d.app.next op }
  | .lookup req =>
    match Handlers.verifyLookup env d.app req with
    | some client => { d with waiting := d.waiting ++ [{ req, client }] }
    | none => d
  | .reserve i t =>
    match d.waiting[i]? with
    | some w =>
      { app := ((Handlers.reserveAndLog env w.req w.client t).run d.app).2
        waiting := d.waiting.eraseIdx i }
    | none => d

def run (d : Desk) (acts : List (Act env)) : Desk := acts.foldl next d

/-- Over the run, no two reservations with one payment id are ever there. -/
def ReservesOnce (acts : List (Act env)) : Prop :=
  ∀ (n n' : ℕ) (id id' : String) (r r' : Reservation),
    (new.run (acts.take n)).app.vault.reservations[id]? = some r →
    (new.run (acts.take n')).app.vault.reservations[id']? = some r' →
    r.paymentId = r'.paymentId → id = id'

/-- A request that gets the lock finds its payment id as unused as at its lookup. -/
def Act.Undisturbed (d : Desk) : Act env → Prop
  | .reserve i _ => (d.waiting[i]?).all fun w =>
      (Handlers.existingReservation d.app.vault w.req.paymentId).isNone
  | _ => True

/-- So does every request of the run. -/
def UndisturbedFrom (d : Desk) : List (Act env) → Prop
  | [] => True
  | act :: acts => act.Undisturbed d ∧ UndisturbedFrom (d.next act) acts

end Desk

/-! ### The index of payment ids -/

/-- Every reservation is found through its payment id. -/
def AppState.Indexed (s : AppState) : Prop :=
  ∀ (key : String) (r : Reservation), s.vault.reservations[key]? = some r →
    s.vault.paymentIdIndex[r.paymentId]? = some key

/-- The rules under which a payment id is booked once. -/
def Rules.once (env : Env) : Rules :=
  { Rules.free with
    books := fun s r => Handlers.existingReservation s.vault r.paymentId = none
    issues := fun r => r.States env }

/-- Every operation books under a new payment id. -/
theorem Rules.once_admits {env : Env} (s : AppState) (op : Op env) : (Rules.once env).Admits s op :=
  ⟨fun _ _ _ _ _ _ h => h, fun _ _ _ => trivial, fun _ _ _ => trivial, fun _ h => h, trivial,
    fun _ _ => trivial⟩

section Moves

variable {env : Env} {s t : AppState}

/-- What keeps the bookings keeps the index. -/
theorem AppState.Indexed.of_bookings (h : s.Indexed) {v : VaultState}
    (hreservations : v.reservations = s.vault.reservations)
    (hindex : v.paymentIdIndex = s.vault.paymentIdIndex) : (s.setVault v).Indexed := by
  intro key r hr
  rw [AppState.setVault_vault, hreservations] at hr
  rw [AppState.setVault_vault, hindex]
  exact h key r hr

/-- A payment id without a reservation in the index has none at all. -/
theorem AppState.Indexed.unused (h : s.Indexed) {paymentId : String}
    (hnone : Handlers.existingReservation s.vault paymentId = none) {key : String}
    {r : Reservation} (hr : s.vault.reservations[key]? = some r) : r.paymentId ≠ paymentId := by
  rintro rfl
  rw [Handlers.existingReservation, h key r hr, Option.bind_some, hr] at hnone
  cases hnone

/-- A booking under a new payment id is indexed. -/
theorem AppState.Indexed.book (h : s.Indexed) {r : Reservation}
    (hnone : Handlers.existingReservation s.vault r.paymentId = none) :
    (s.setVault ((s.vault.setReservation r.verificationId r).setPaymentId r.paymentId
      r.verificationId)).Indexed := by
  intro key r' hr'
  simp only [AppState.setVault_vault, VaultState.setPaymentId_paymentIdIndex,
    VaultState.setReservation_paymentIdIndex, FiniteMap.lookup_insert]
  obtain ⟨rfl, rfl⟩ | hr' := FiniteMap.lookup_insert_cases hr'
  · exact if_pos rfl
  · rw [if_neg (h.unused hnone hr')]
    exact h key r' hr'

/-- One move keeps the index. -/
theorem Move.indexed (hmove : Move env (.once env) s t) (h : s.Indexed)
    (hbooked : Booked s.vault.reservations) : t.Indexed := by
  cases hmove with
  | @vault v hv =>
    exact h.of_bookings (congrArg Bookings.reservations hv) (congrArg Bookings.paymentIdIndex hv)
  | @authorize v w hv =>
    exact h.of_bookings (v := v) (congrArg Bookings.reservations hv)
      (congrArg Bookings.paymentIdIndex hv)
  | book hrule => exact h.book hrule
  | @close k r r' e v hr hcloses hrule hv =>
    have hbecomes := (Reservation.Becomes.close hcloses (hbooked k r hr)).1
    have hindex : v.paymentIdIndex = s.vault.paymentIdIndex := congrArg Bookings.paymentIdIndex hv
    intro key r₁ hr₁
    rw [AppState.setVault_vault, VaultState.reservations_eq hv] at hr₁
    rw [AppState.setVault_vault, hindex]
    obtain ⟨rfl, rfl⟩ | hr₁ := FiniteMap.lookup_insert_cases hr₁
    · exact hbecomes.paymentId ▸ h key r hr
    · exact h key r₁ hr₁
  | confirm settlementIds batchId txSignature =>
    have hconfirm := applyBatchConfirmation_bookings settlementIds batchId txSignature s.vault
    have hindex := congrArg Bookings.paymentIdIndex hconfirm
    have hreservations := congrArg Bookings.reservations hconfirm
    simp only [VaultState.bookings_reservations, VaultState.bookings_paymentIdIndex,
      Bookings.confirm_reservations, Bookings.confirm_paymentIdIndex] at hreservations hindex
    intro key r hr
    rw [AppState.setVault_vault, hreservations] at hr
    rw [AppState.setVault_vault, hindex]
    rcases hbooked.lookup_confirm settlementIds hr with hr | ⟨r₀, hr₀, -, rfl⟩
    · exact h key r hr
    · exact h key r₀ hr₀
  | _ => exact h

/-- All moves keep the index. -/
theorem Moves.indexed (hmoves : Moves env (.once env) s t) (h : s.Indexed)
    (hs : s.Recorded env) : t.Indexed := by
  induction hmoves with
  | refl => exact h
  | tail hmoves hlast ih => exact hlast.indexed ih (Moves.recorded hmoves hs).1.booked

end Moves

/-! ### Undisturbed runs -/

namespace Desk

variable {env : Env} {d : Desk}

/-- What an undisturbed run keeps. -/
structure Inv (env : Env) (d : Desk) : Prop where
  recorded : d.app.Recorded env
  indexed : d.app.Indexed
  clients : ∀ w ∈ d.waiting, env.pubkeyFromStr w.req.client = some w.client

/-- A fresh desk. -/
theorem Inv.new (env : Env) : Inv env new where
  recorded := .new env
  indexed key r h := by simp [Desk.new, AppState.new, VaultState.new] at h
  clients := by simp [Desk.new]

/-- The enclave moved, and the requests that wait are among those that waited. -/
theorem Inv.moves (h : Inv env d) {s : AppState} {waiting : List Waiting}
    (hmoves : Moves env (.once env) d.app s) (hwaiting : ∀ w ∈ waiting, w ∈ d.waiting) :
    Inv env { app := s, waiting } ∧ Grow d.app.vault.reservations s.vault.reservations := by
  obtain ⟨hrecorded, es, -, htells⟩ := Moves.recorded hmoves h.recorded
  exact ⟨⟨hrecorded, Moves.indexed hmoves h.indexed h.recorded,
    fun w hw => h.clients w (hwaiting w hw)⟩, (htells.grow h.recorded.booked).2⟩

/-- An undisturbed step keeps the invariant and the reservations. -/
theorem Inv.next (h : Inv env d) {act : Act env} (hact : act.Undisturbed d) :
    Inv env (d.next act) ∧
      Grow d.app.vault.reservations (d.next act).app.vault.reservations := by
  cases act with
  | op op =>
    exact h.moves (AppState.next_moves (Rules.once_admits _ op) h.recorded.ids) fun _ hw => hw
  | lookup req =>
    simp only [Desk.next]
    split
    · next client hlookup =>
      refine ⟨⟨h.recorded, h.indexed, fun w hw => ?_⟩, .refl _⟩
      rcases List.mem_append.1 hw with hw | hw
      · exact h.clients w hw
      · rw [List.mem_singleton.1 hw]
        exact Handlers.verifyLookup_client hlookup
    · exact ⟨h, .refl _⟩
  | reserve i t =>
    simp only [Desk.next]
    split
    · next w hw =>
      have hclient := h.clients w (List.mem_of_getElem? hw)
      have hunused : Handlers.existingReservation d.app.vault w.req.paymentId = none := by
        have hall : ((d.waiting[i]?).all fun w =>
          (Handlers.existingReservation d.app.vault w.req.paymentId).isNone) = true := hact
        rw [hw] at hall
        simpa using hall
      have hmoves : Moves env (.once env) d.app
          ((Handlers.reserveAndLog env w.req w.client t).run d.app).2 := by
        refine Handlers.reserveAndLog_moves (fun _ hr => hr) h.recorded.ids w.req hclient t
          fun u r hu hr => ?_
        obtain ⟨_, _, _, _, -, rfl⟩ := hr
        exact (Handlers.existingReservation_bookings hu _).trans hunused
      exact h.moves hmoves fun w' hw' => List.mem_of_mem_eraseIdx hw'
    · exact ⟨h, .refl _⟩

/-- So does an undisturbed run. -/
theorem Inv.run (h : Inv env d) {acts : List (Act env)} (hacts : UndisturbedFrom d acts) :
    Inv env (d.run acts) ∧
      Grow d.app.vault.reservations (d.run acts).app.vault.reservations := by
  induction acts generalizing d with
  | nil => exact ⟨h, .refl _⟩
  | cons act acts ih =>
    obtain ⟨hnext, hgrow⟩ := h.next hacts.1
    obtain ⟨hrun, hgrow'⟩ := ih hnext hacts.2
    exact ⟨hrun, hgrow.trans hgrow'⟩

/-- The two parts of an undisturbed run. -/
theorem UndisturbedFrom.split {acts acts' : List (Act env)} (h : UndisturbedFrom d (acts ++ acts')) :
    UndisturbedFrom d acts ∧ UndisturbedFrom (d.run acts) acts' := by
  induction acts generalizing d with
  | nil => exact ⟨trivial, h⟩
  | cons act acts ih =>
    obtain ⟨hfirst, hrest⟩ := ih h.2
    exact ⟨⟨h.1, hfirst⟩, hrest⟩

/-- What is reserved at some moment of an undisturbed run is reserved under the same ids at its
end. -/
theorem grow_take {acts : List (Act env)} (h : UndisturbedFrom new acts) (n : ℕ) :
    Grow (new.run (acts.take n)).app.vault.reservations (new.run acts).app.vault.reservations := by
  rw [← List.take_append_drop n acts] at h
  obtain ⟨hfirst, hrest⟩ := h.split
  have hgrow := (((Inv.new env).run hfirst).1.run hrest).2
  rwa [run, run, ← List.foldl_append, List.take_append_drop] at hgrow

/-- **A payment id reserves once in an undisturbed run.** -/
theorem run_reservesOnce (env : Env) (acts : List (Act env)) (h : UndisturbedFrom new acts) :
    ReservesOnce acts := by
  intro n n' id id' r r' hr hr' hsame
  have hindexed := ((Inv.new env).run h).1.indexed
  obtain ⟨r₁, hr₁, hbecomes⟩ := grow_take h n id r hr
  obtain ⟨r₁', hr₁', hbecomes'⟩ := grow_take h n' id' r' hr'
  have hindex := hindexed id r₁ hr₁
  have hindex' := hindexed id' r₁' hr₁'
  rw [hbecomes.paymentId, hsame, ← hbecomes'.paymentId, hindex'] at hindex
  exact (Option.some.inj hindex).symm

end Desk

namespace Shop

/-- A payment of two, so that the deposit covers it twice. -/
def smallPayment : Handlers.VerifyRequest := { payment with amount := 2 }

/-- A client pays, and asks again when the payment was reserved. -/
def retried : List (Desk.Act world) :=
  [.op (.deposit ⟨deposit, deposit_mem⟩ 0), .op (.registerProvider seller), .lookup smallPayment,
    .reserve 0 ⟨1, 1⟩, .lookup smallPayment, .reserve 0 ⟨2, 2⟩]

/-- A client sends its payment twice at once. -/
def twice : List (Desk.Act world) :=
  [.op (.deposit ⟨deposit, deposit_mem⟩ 0), .op (.registerProvider seller), .lookup smallPayment,
    .lookup smallPayment, .reserve 0 ⟨1, 1⟩, .reserve 0 ⟨1, 1⟩]

end Shop

/-- A request that is retried. -/
theorem Desk.run_reservesOnce_retried :
    UndisturbedFrom new Shop.retried ∧ ReservesOnce Shop.retried := by
  have h : UndisturbedFrom new Shop.retried := by
    refine ⟨trivial, trivial, trivial, ?_, trivial, ?_, trivial⟩ <;>
      (rw [Act.Undisturbed]; decide +kernel)
  exact ⟨h, run_reservesOnce Shop.world Shop.retried h⟩

/-- Two requests that wait at the same time lock the amount twice under one payment id. -/
theorem Desk.twice_reserved : ¬ ReservesOnce Shop.twice ∧
    ((new.run Shop.twice).app.vault.balance (.fill 1)).locked = 4 := by
  refine ⟨fun h => ?_, by decide +kernel⟩
  have hall : ∀ id ∈ ["ver_", "ver_uu"],
      ((new.run (Shop.twice.take 6)).app.vault.reservations[id]?).map (·.paymentId) = some "pay" := by
    decide +kernel
  obtain ⟨r, hr, hpay⟩ := Option.map_eq_some_iff.1 (hall "ver_" (by simp))
  obtain ⟨r', hr', hpay'⟩ := Option.map_eq_some_iff.1 (hall "ver_uu" (by simp))
  exact absurd (h 6 6 _ _ r r' hr hr' (hpay.trans hpay'.symm)) (by decide)

end Subly402
