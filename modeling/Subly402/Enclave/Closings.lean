/-
# What the log says of a reservation's amount

The amount of a reservation is moved when an entry closes it: `ReservationCancelled` and
`ReservationExpired` return it to the client, `SettlementCommitted` credits it to the
provider.  `Reservation.ClosedBy` is that the log has those entries which the status of the
reservation says: none while it is reserved, and one afterwards.  So an amount is never
moved twice, and never both ways (`Tells.closedBy`).
-/

import Subly402.Enclave.Lifecycle

namespace Subly402

open Lib

/-- The entries that close a reservation. -/
def closings (entries : List WalEntry) (verificationId : String) : List WalEntry :=
  entries.filter fun e => e.closed? = some verificationId

/-- One more entry. -/
theorem closings_snoc (es : List WalEntry) (e : WalEntry) (key : String) :
    closings (es ++ [e]) key = closings es key ++ if e.closed? = some key then [e] else [] := by
  rw [closings, List.filter_append, List.filter_singleton]
  simp [closings]

/-- The closing entries that go with the status of a reservation. -/
def Reservation.ClosedBy (r : Reservation) (entries : List WalEntry) : Prop :=
  match r.status with
  | .reserved => entries = []
  | .cancelled => ∃ reason, entries = [.reservationCancelled r.verificationId reason]
  | .expired => entries = [.reservationExpired r.verificationId]
  | .settledOffchain | .batchedOnchain => ∃ settlementId, r.settlementId = some settlementId ∧
      entries = [.settlementCommitted settlementId r.verificationId r.providerId r.amount r.settledAt]

/-- An amount is moved at most once. -/
theorem Reservation.ClosedBy.length_le {r : Reservation} {entries : List WalEntry}
    (h : r.ClosedBy entries) : entries.length ≤ 1 := by
  unfold ClosedBy at h
  split at h
  · simp [h]
  · obtain ⟨_, rfl⟩ := h
    simp
  · simp [h]
  all_goals
    obtain ⟨_, -, rfl⟩ := h
    simp

/-- What an entry leaves of the reservation that it closes. -/
theorem WalEntry.Lawful.closes {env : Env} {m : FiniteMap String Reservation} {e : WalEntry}
    (h : e.Lawful env m) {key : String} (hc : e.closed? = some key) :
    ∃ r r', m[key]? = some r ∧ r.status = .reserved ∧ e.Closes key r r' ∧
      e.onReservations env m = m.insert key r' := by
  have hclose : ∀ {r r'}, e.Closes key r r' → m[key]? = some r → r.status = .reserved →
      ∃ r r', m[key]? = some r ∧ r.status = .reserved ∧ e.Closes key r r' ∧
        e.onReservations env m = m.insert key r' := fun hcloses hr hst =>
    ⟨_, _, hr, hst, hcloses, (hcloses.onReservations hr).1⟩
  cases e with
  | reservationCancelled k reason =>
    cases Option.some.inj hc
    obtain ⟨r, hr, hst⟩ := h
    exact hclose (.cancel reason hst) hr hst
  | reservationExpired k =>
    cases Option.some.inj hc
    obtain ⟨r, hr, hst⟩ := h
    exact hclose (.expire hst) hr hst
  | settlementCommitted settlementId k =>
    cases Option.some.inj hc
    obtain ⟨r, time, hr, hst, rfl, rfl, rfl, htime⟩ := h
    exact hclose (.settle settlementId time hst htime) hr hst
  | _ => simp [closed?] at hc

/-- The entry that closes a reservation is the one its new status asks for. -/
theorem WalEntry.Closes.closedBy {key : String} {r r' : Reservation} {e : WalEntry}
    (h : e.Closes key r r') (hkey : r.verificationId = key) : r'.ClosedBy [e] := by
  subst hkey
  cases h with
  | cancel reason => exact ⟨reason, rfl⟩
  | expire => exact rfl
  | settle settlementId settledAt => exact ⟨settlementId, rfl, rfl⟩

/-- A batched payment was closed as a settled one. -/
theorem Reservation.ClosedBy.batch {r : Reservation} {entries : List WalEntry}
    (h : r.ClosedBy entries) (hpaid : r.status.isPaid) :
    Reservation.ClosedBy { r with status := .batchedOnchain } entries := by
  unfold ClosedBy at h
  cases hst : r.status <;> rw [hst] at h hpaid <;>
    first | exact h | simp [ReservationStatus.isPaid] at hpaid

/-- **The log has the closing entries that the statuses ask for**, and none for an id that no
reservation has. -/
theorem Tells.closedBy {env : Env} {es : List WalEntry} {m : FiniteMap String Reservation}
    (h : Tells env ∅ es m) :
    (∀ (key : String) (r : Reservation), m[key]? = some r → r.ClosedBy (closings es key)) ∧
      ∀ key : String, m[key]? = none → closings es key = [] := by
  induction h with
  | nil => exact ⟨fun key r hr => by simp at hr, fun _ _ => rfl⟩
  | @snoc es m htells e he ih =>
    obtain ⟨hpresent, habsent⟩ := ih
    have hm : Booked m := (htells.grow booked_empty).1
    refine ⟨fun key r' hr' => ?_, fun key hnone => ?_⟩ <;> rw [closings_snoc]
    · split
      · next hc =>
        -- the entry closes this reservation, which no entry did before
        obtain ⟨r, r₁, hr, hst, hcloses, heq⟩ := he.closes hc
        have hbefore := hpresent key r hr
        rw [Reservation.ClosedBy, hst] at hbefore
        rw [heq, FiniteMap.lookup_insert, if_pos rfl] at hr'
        rw [hbefore, List.nil_append, ← Option.some.inj hr']
        exact hcloses.closedBy (hm key r hr).key
      · next hc =>
        rw [List.append_nil]
        rcases he.lookup hm hr' with hr | ⟨hcreated, hnone⟩ | ⟨r, -, hcloses⟩ | ⟨r, hr, hpaid, rfl⟩
        · exact hpresent key r' hr
        · rw [Reservation.ClosedBy, (WalEntry.created?_eq_some hcreated).1]
          exact habsent key hnone
        · exact (hc (by cases hcloses <;> rfl)).elim
        · exact (hpresent key r hr).batch hpaid
    · have hgone : m[key]? = none := by
        cases hr : m[key]? with
        | none => rfl
        | some r =>
          obtain ⟨r', hr', -⟩ := (he.grow hm).2 key r hr
          cases hnone.symm.trans hr'
      rw [habsent key hgone, if_neg fun hc => ?_, List.nil_append]
      obtain ⟨r, -, hr, -⟩ := he.closes hc
      cases hgone.symm.trans hr

/-! ### Which request settles -/

variable {env : Env} {rules : Rules} {s t : AppState}

/-- A reservation that a move settles is one that the rules let it settle, at a time that they
say and not after its end. -/
theorem Move.settles (hmove : Move env rules s t) (hbooked : Booked s.vault.reservations)
    {key : String} {r r' : Reservation} (hr : s.vault.reservations[key]? = some r)
    (hopen : r.settlementId = none) (hr' : t.vault.reservations[key]? = some r')
    {settlementId : String} (hid : r'.settlementId = some settlementId) :
    ∃ time, r'.settledAt = some time ∧ rules.settles key time ∧ time ≤ r'.expiresAt := by
  rcases hmove.lookup hbooked hr' with h | ⟨-, -, hnone⟩ | ⟨r₀, e, hr₀, hcloses, hrule⟩ |
    ⟨r₀, hr₀, -, rfl⟩
  · cases hr.symm.trans h
    cases hopen.symm.trans hid
  · cases hnone.symm.trans hr
  · cases hr.symm.trans hr₀
    cases hcloses with
    | cancel | expire => cases hopen.symm.trans hid
    | settle id time hst htime => exact ⟨time, rfl, hrule time rfl, htime⟩
  · cases hr.symm.trans hr₀
    cases hopen.symm.trans hid

theorem Moves.settles (hmoves : Moves env rules s t) (hs : s.Recorded env) {key : String}
    {r r' : Reservation} (hr : s.vault.reservations[key]? = some r) (hopen : r.settlementId = none)
    (hr' : t.vault.reservations[key]? = some r') {settlementId : String}
    (hid : r'.settlementId = some settlementId) :
    ∃ time, r'.settledAt = some time ∧ rules.settles key time ∧ time ≤ r'.expiresAt := by
  induction hmoves generalizing r' settlementId with
  | refl =>
    cases hr.symm.trans hr'
    cases hopen.symm.trans hid
  | @tail u t hmoves hlast ih =>
    obtain ⟨hrecorded, es, -, htells⟩ := Moves.recorded hmoves hs
    obtain ⟨r₁, hr₁, -⟩ := (htells.grow hs.booked).2 key r hr
    cases hid₁ : r₁.settlementId with
    | none => exact hlast.settles hrecorded.booked hr₁ hid₁ hr' hid
    | some id =>
      obtain ⟨es', -, htells'⟩ := hlast.tells
      obtain ⟨r₂, hr₂, hbecomes⟩ := (htells'.grow hrecorded.booked).2 key r₁ hr₁
      cases hr'.symm.trans hr₂
      obtain ⟨time, htime, hrule, hle⟩ := ih hr₁ hid₁
      refine ⟨time, (hbecomes.settlement id hid₁).2.trans htime, hrule, ?_⟩
      rw [hbecomes.terms]
      exact hle

end Subly402
