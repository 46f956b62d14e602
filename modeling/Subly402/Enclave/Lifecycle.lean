/-
# The life of a reservation

The reservations of the vault are what the log says they are.  `onReservations` is what
an entry does to them, `Lawful` what the handlers check before they log it, and `Tells`
puts the two together along a list of entries; `Move.tells` is that a handler's entries
tell what it did to the reservations, so a replay of the log rebuilds them.
-/

import Subly402.Enclave.HandlerMoves

namespace Subly402

open Lib

variable {e : WalEntry} {env : Env} {r r' : Reservation} {m : FiniteMap String Reservation}
  {key id : String}

/-! ### What an entry does -/

/-- The reservation gets a status. -/
def setStatus (m : FiniteMap String Reservation) (verificationId : String)
    (status : ReservationStatus) : FiniteMap String Reservation :=
  match m[verificationId]? with
  | some r => m.insert verificationId { r with status }
  | none => m

namespace WalEntry

/-- What an entry does to the reservations. -/
def onReservations (env : Env) (m : FiniteMap String Reservation) (e : WalEntry) :
    FiniteMap String Reservation :=
  match e with
  | .reservationCreated .. =>
    match e.created? env with
    | some r => m.insert r.verificationId r
    | none => m
  | .reservationCancelled verificationId _ => setStatus m verificationId .cancelled
  | .reservationExpired verificationId => setStatus m verificationId .expired
  | .settlementCommitted settlementId verificationId _ _ settledAt =>
    match m[verificationId]? with
    | some r =>
      if r.status = .reserved then
        m.insert verificationId
          { r with
            status := .settledOffchain
            settlementId := some settlementId
            settledAt := some (settledAt.getD r.createdAt) }
      else m
    | none => m
  | .batchConfirmed _ _ settlementIds => settlementIds.foldl confirmReservation m
  | _ => m

/-- What is checked before an entry is logged. -/
def Lawful (env : Env) (m : FiniteMap String Reservation) (e : WalEntry) : Prop :=
  match e with
  | .reservationCreated .. => ∃ r, e.created? env = some r ∧ m[r.verificationId]? = none
  | .reservationCancelled verificationId _ | .reservationExpired verificationId =>
    ∃ r, m[verificationId]? = some r ∧ r.status = .reserved
  | .settlementCommitted _ verificationId providerId amount settledAt =>
    ∃ r time, m[verificationId]? = some r ∧ r.status = .reserved ∧ r.providerId = providerId ∧
      r.amount = amount ∧ settledAt = some time ∧ time ≤ r.expiresAt
  | _ => True

/-- The reservation an entry closes. -/
def closed? : WalEntry → Option String
  | .reservationCancelled verificationId _ | .reservationExpired verificationId
  | .settlementCommitted _ verificationId _ _ _ => some verificationId
  | _ => none

/-- An entry that is not about reservations leaves them alone. -/
theorem onReservations_plain (env : Env) (m : FiniteMap String Reservation) (he : e.isPlain) :
    e.onReservations env m = m := by
  cases e <;> first | rfl | simp [isPlain] at he

/-- An entry about no reservation is always lawful. -/
theorem lawful_plain (env : Env) (m : FiniteMap String Reservation) (he : e.isPlain) :
    e.Lawful env m := by
  cases e <;> trivial

/-- An entry that makes a reservation is a `ReservationCreated`, and makes it reserved. -/
theorem created?_eq_some (h : e.created? env = some r) :
    r.status = .reserved ∧ r.settlementId = none ∧
      (∀ m : FiniteMap String Reservation, e.onReservations env m = m.insert r.verificationId r) ∧
      (∀ m : FiniteMap String Reservation, m[r.verificationId]? = none → e.Lawful env m) ∧
      e.closed? = none := by
  cases e with
  | reservationCreated =>
    refine ⟨?_, ?_, fun m => by rw [onReservations, h], fun m hm => ⟨r, h, hm⟩, rfl⟩ <;>
    · simp only [created?, Option.bind_eq_bind, Option.bind_eq_some_iff] at h
      obtain ⟨_, -, _, -, _, -, _, -, _, -, _, -, hr⟩ := h
      rw [← Option.some.inj hr]
  | _ => simp [created?] at h

/-- What a closing entry does. -/
theorem Closes.onReservations {verificationId : String} (h : e.Closes verificationId r r')
    (hr : m[verificationId]? = some r) :
    e.onReservations env m = m.insert verificationId r' ∧ e.Lawful env m := by
  cases h with
  | cancel reason hst | expire hst =>
    exact ⟨by simp [WalEntry.onReservations, setStatus, hr], r, hr, hst⟩
  | settle settlementId time hst htime =>
    exact ⟨by simp [WalEntry.onReservations, hr, hst], r, time, hr, hst, rfl, rfl, rfl, htime⟩

end WalEntry

/-! ### One reservation -/

/-- A step of a reservation's status. -/
inductive ReservationStatus.Step : ReservationStatus → ReservationStatus → Prop
  | settle : Step .reserved .settledOffchain
  | cancel : Step .reserved .cancelled
  | expire : Step .reserved .expired
  | batch : Step .settledOffchain .batchedOnchain

/-- A later state of a reservation: the same terms, a status reached by steps, and a settlement
that was made stays as it is. -/
structure Reservation.Becomes (r r' : Reservation) : Prop where
  terms : r' = { r with
    status := r'.status, settlementId := r'.settlementId, settledAt := r'.settledAt }
  status : Relation.ReflTransGen ReservationStatus.Step r.status r'.status
  settlement : ∀ id, r.settlementId = some id →
    r'.settlementId = some id ∧ r'.settledAt = r.settledAt

namespace Reservation.Becomes

variable {r r' r'' : Reservation}

/-- Nothing happened. -/
theorem refl (r : Reservation) : r.Becomes r := ⟨rfl, .refl, fun _ h => ⟨h, rfl⟩⟩

/-- One change after another. -/
theorem trans (h : r.Becomes r') (h' : r'.Becomes r'') : r.Becomes r'' where
  terms := by rw [h'.terms, h.terms]
  status := h.status.trans h'.status
  settlement id hid := by
    obtain ⟨hid', hat⟩ := h.settlement id hid
    obtain ⟨hid'', hat'⟩ := h'.settlement id hid'
    exact ⟨hid'', hat'.trans hat⟩

/-- A reservation keeps its payment id. -/
theorem paymentId (h : r.Becomes r') : r'.paymentId = r.paymentId := by rw [h.terms]

end Reservation.Becomes

/-- A reservation is kept under its own id, and it has a settlement, made in time, exactly where
its status says so. -/
structure Reservation.Proper (key : String) (r : Reservation) : Prop where
  key : r.verificationId = key
  settled : r.status.isPaid → ∃ id time, r.settlementId = some id ∧ r.settledAt = some time ∧
    time ≤ r.expiresAt
  unsettled : r.status.isPaid = false → r.settlementId = none

/-- Every reservation is proper. -/
def Booked (m : FiniteMap String Reservation) : Prop :=
  ∀ (key : String) (r : Reservation), m[key]? = some r → r.Proper key

/-- A reservation that is closed. -/
theorem Reservation.Becomes.close (h : e.Closes key r r') (hr : r.Proper key) :
    r.Becomes r' ∧ r'.Proper key := by
  cases h with
  | cancel reason hst =>
    have hnone := hr.unsettled (by rw [hst]; rfl)
    exact ⟨⟨rfl, hst ▸ .single .cancel, fun _ h => ⟨h, rfl⟩⟩, hr.key, by simp [ReservationStatus.isPaid],
      fun _ => hnone⟩
  | expire hst =>
    have hnone := hr.unsettled (by rw [hst]; rfl)
    exact ⟨⟨rfl, hst ▸ .single .expire, fun _ h => ⟨h, rfl⟩⟩, hr.key, by simp [ReservationStatus.isPaid],
      fun _ => hnone⟩
  | settle settlementId time hst htime =>
    have hnone := hr.unsettled (by rw [hst]; rfl)
    exact ⟨⟨rfl, hst ▸ .single .settle, by simp [hnone]⟩, hr.key,
      fun _ => ⟨settlementId, time, rfl, rfl, htime⟩, by simp [ReservationStatus.isPaid]⟩

/-- A reservation that carries a settlement is paid. -/
theorem Reservation.Proper.isPaid (h : r.Proper key) (hid : r.settlementId = some id) :
    r.status.isPaid := by
  by_contra hunpaid
  have := h.unsettled (by simpa using hunpaid)
  simp [this] at hid

/-- A settled payment is batched, once or again. -/
theorem Reservation.Becomes.batch (hr : r.Proper key) (hid : r.settlementId = some id) :
    r.Becomes { r with status := .batchedOnchain } ∧
      Reservation.Proper key { r with status := .batchedOnchain } := by
  have hpaid := hr.isPaid hid
  refine ⟨⟨rfl, ?_, fun _ h => ⟨h, rfl⟩⟩, hr.key, fun _ => hr.settled hpaid,
    by simp [ReservationStatus.isPaid]⟩
  cases hst : r.status with
  | settledOffchain => exact .single .batch
  | batchedOnchain => exact .refl
  | _ => simp [ReservationStatus.isPaid, hst] at hpaid

/-! ### All reservations -/

/-- Each reservation of `m` is in `m'` in a later state. -/
def Grow (m m' : FiniteMap String Reservation) : Prop :=
  ∀ (key : String) (r : Reservation), m[key]? = some r → ∃ r', m'[key]? = some r' ∧ r.Becomes r'

namespace Grow

variable {m m' m'' : FiniteMap String Reservation}

/-- Nothing happened. -/
theorem refl (m : FiniteMap String Reservation) : Grow m m := fun _ r h => ⟨r, h, .refl r⟩

/-- One change after another. -/
theorem trans (h : Grow m m') (h' : Grow m' m'') : Grow m m'' := fun key r hr => by
  obtain ⟨r', hr', hbecomes⟩ := h key r hr
  obtain ⟨r'', hr'', hbecomes'⟩ := h' key r' hr'
  exact ⟨r'', hr'', hbecomes.trans hbecomes'⟩

/-- One reservation is written. -/
theorem insert (h : ∀ r, m[key]? = some r → r.Becomes r') :
    Grow m (m.insert key r') := fun k r hr => by
  rw [FiniteMap.lookup_insert]
  split
  · next hk => exact ⟨r', rfl, h r (hk ▸ hr)⟩
  · exact ⟨r, hr, .refl r⟩

end Grow

/-- A proper reservation is written. -/
theorem Booked.insert (hm : Booked m) (hr : r.Proper key) :
    Booked (m.insert key r) := FiniteMap.forall_insert hm hr

/-- One turn of a batch. -/
theorem Booked.batch (hm : Booked m) (settlementId : String) :
    Booked (confirmReservation m settlementId) ∧ Grow m (confirmReservation m settlementId) := by
  unfold confirmReservation
  split
  · next key r hfind =>
    have hmem : m[key]? = some r := FiniteMap.mem_toList_iff.1 (List.mem_of_find?_eq_some hfind)
    have hid : r.settlementId = some settlementId := by simpa using List.find?_some hfind
    obtain ⟨hbecomes, hproper⟩ := Reservation.Becomes.batch (hm key r hmem) hid
    refine ⟨hm.insert hproper, .insert fun r' hr' => ?_⟩
    cases hmem.symm.trans hr'
    exact hbecomes
  · exact ⟨hm, .refl m⟩

/-- A whole batch. -/
theorem Booked.confirm (hm : Booked m) (settlementIds : List String) :
    Booked (settlementIds.foldl confirmReservation m) ∧
      Grow m (settlementIds.foldl confirmReservation m) := by
  induction settlementIds generalizing m with
  | nil => exact ⟨hm, .refl m⟩
  | cons id ids ih =>
    obtain ⟨hbooked, hgrow⟩ := hm.batch id
    obtain ⟨hbooked', hgrow'⟩ := ih hbooked
    exact ⟨hbooked', hgrow.trans hgrow'⟩

/-- **What a lawful entry does to the reservations.** -/
theorem WalEntry.Lawful.grow (h : e.Lawful env m) (hm : Booked m) :
    Booked (e.onReservations env m) ∧ Grow m (e.onReservations env m) := by
  have hclose : ∀ {key r r'}, e.Closes key r r' → m[key]? = some r →
      Booked (e.onReservations env m) ∧ Grow m (e.onReservations env m) := by
    intro key r r' hcloses hr
    obtain ⟨hbecomes, hproper⟩ := Reservation.Becomes.close hcloses (hm key r hr)
    rw [(hcloses.onReservations hr).1]
    refine ⟨hm.insert hproper, .insert fun r₁ hr₁ => ?_⟩
    cases hr.symm.trans hr₁
    exact hbecomes
  cases e with
  | reservationCreated =>
    obtain ⟨r, hr, hnone⟩ := h
    obtain ⟨hst, hid, heq, -⟩ := created?_eq_some hr
    rw [heq m]
    refine ⟨hm.insert ⟨rfl, by simp [hst, ReservationStatus.isPaid], fun _ => hid⟩,
      .insert fun r₁ hr₁ => ?_⟩
    cases hnone.symm.trans hr₁
  | reservationCancelled key reason =>
    obtain ⟨r, hr, hst⟩ := h
    exact hclose (.cancel reason hst) hr
  | reservationExpired key =>
    obtain ⟨r, hr, hst⟩ := h
    exact hclose (.expire hst) hr
  | settlementCommitted settlementId key =>
    obtain ⟨r, time, hr, hst, rfl, rfl, rfl, htime⟩ := h
    exact hclose (.settle settlementId time hst htime) hr
  | batchConfirmed _ _ settlementIds => exact hm.confirm settlementIds
  | _ => exact ⟨hm, .refl m⟩

/-- There is no reservation yet. -/
theorem booked_empty : Booked ∅ := fun key r h => by simp at h

/-! ### Closed reservations -/

/-- What one turn of a batch leaves is as before, or was paid. -/
theorem Booked.lookup_batch (hm : Booked m) (hr' : (confirmReservation m id)[key]? = some r') :
    m[key]? = some r' ∨
      ∃ r, m[key]? = some r ∧ r.status.isPaid ∧ r' = { r with status := .batchedOnchain } := by
  unfold confirmReservation at hr'
  split at hr'
  · next k r hfind =>
    have hmem : m[k]? = some r := FiniteMap.mem_toList_iff.1 (List.mem_of_find?_eq_some hfind)
    have hid : r.settlementId = some id := by simpa using List.find?_some hfind
    obtain ⟨rfl, rfl⟩ | hr' := FiniteMap.lookup_insert_cases hr'
    · exact .inr ⟨r, hmem, (hm _ r hmem).isPaid hid, rfl⟩
    · exact .inl hr'
  · exact .inl hr'

/-- What a batch leaves is as before, or was paid. -/
theorem Booked.lookup_confirm (hm : Booked m) (settlementIds : List String)
    (hr' : (settlementIds.foldl confirmReservation m)[key]? = some r') :
    m[key]? = some r' ∨
      ∃ r, m[key]? = some r ∧ r.status.isPaid ∧ r' = { r with status := .batchedOnchain } := by
  induction settlementIds generalizing m with
  | nil => exact .inl hr'
  | cons id ids ih =>
    rcases ih (hm.batch id).1 hr' with h₁ | ⟨r₁, h₁, hpaid, rfl⟩
    · exact hm.lookup_batch h₁
    · rcases hm.lookup_batch h₁ with h | ⟨r, hr, hpaid', rfl⟩
      · exact .inr ⟨r₁, h, hpaid, rfl⟩
      · exact .inr ⟨r, hr, hpaid', rfl⟩

/-- What a lookup after an entry says about the reservations before it: nothing changed for the
key, or the entry made, closed or batched the reservation. -/
theorem WalEntry.Lawful.lookup (h : e.Lawful env m) (hm : Booked m)
    (hr' : (e.onReservations env m)[key]? = some r') :
    m[key]? = some r' ∨ (e.created? env = some r' ∧ m[key]? = none) ∨
      (∃ r, m[key]? = some r ∧ e.Closes key r r') ∨
      ∃ r, m[key]? = some r ∧ r.status.isPaid ∧ r' = { r with status := .batchedOnchain } := by
  have hclose : ∀ {k r r₁}, e.Closes k r r₁ → m[k]? = some r →
      m[key]? = some r' ∨ ∃ r, m[key]? = some r ∧ e.Closes key r r' := by
    intro k r r₁ hcloses hr
    rw [(hcloses.onReservations hr).1] at hr'
    obtain ⟨rfl, rfl⟩ | hr' := FiniteMap.lookup_insert_cases hr'
    · exact .inr ⟨r, hr, hcloses⟩
    · exact .inl hr'
  cases e with
  | reservationCreated =>
    obtain ⟨r, hr, hnone⟩ := h
    rw [(created?_eq_some hr).2.2.1 m] at hr'
    obtain ⟨rfl, rfl⟩ | hr' := FiniteMap.lookup_insert_cases hr'
    · exact .inr (.inl ⟨hr, hnone⟩)
    · exact .inl hr'
  | reservationCancelled k reason =>
    obtain ⟨r, hr, hst⟩ := h
    exact (hclose (.cancel reason hst) hr).imp_right fun h => .inr (.inl h)
  | reservationExpired k =>
    obtain ⟨r, hr, hst⟩ := h
    exact (hclose (.expire hst) hr).imp_right fun h => .inr (.inl h)
  | settlementCommitted settlementId k =>
    obtain ⟨r, time, hr, hst, rfl, rfl, rfl, htime⟩ := h
    exact (hclose (.settle settlementId time hst htime) hr).imp_right fun h => .inr (.inl h)
  | batchConfirmed _ _ settlementIds =>
    exact (hm.lookup_confirm settlementIds hr').imp_right fun h => .inr (.inr h)
  | _ => exact .inl hr'

/-! ### A list of entries -/

/-- The entries, each lawful where it stands, take the reservations from `m` to `m'`. -/
inductive Tells (env : Env) (m : FiniteMap String Reservation) :
    List WalEntry → FiniteMap String Reservation → Prop
  | nil : Tells env m [] m
  | snoc {es : List WalEntry} {m' : FiniteMap String Reservation} (h : Tells env m es m')
      {e : WalEntry} (he : e.Lawful env m') : Tells env m (es ++ [e]) (e.onReservations env m')

namespace Tells

variable {env : Env} {m m' m'' : FiniteMap String Reservation} {es es' : List WalEntry}

/-- One list of entries after another. -/
theorem trans (h : Tells env m es m') (h' : Tells env m' es' m'') : Tells env m (es ++ es') m'' := by
  induction h' with
  | nil => simpa using h
  | snoc _ he ih =>
    rw [← List.append_assoc]
    exact ih.snoc he

/-- The reservations are a function of the entries. -/
theorem eq_foldl (h : Tells env m es m') : m' = es.foldl (WalEntry.onReservations env) m := by
  induction h with
  | nil => rfl
  | snoc _ _ ih => rw [List.foldl_append, ← ih]; rfl

/-- The first of the entries tell the first part. -/
theorem take (h : Tells env m es m') (n : ℕ) :
    ∃ m₁, Tells env m (es.take n) m₁ ∧ Tells env m₁ (es.drop n) m' := by
  induction h with
  | nil => exact ⟨m, by simpa using Tells.nil, by simpa using Tells.nil⟩
  | @snoc es m₂ h e he ih =>
    rcases le_or_gt n es.length with hn | hn
    · obtain ⟨m₁, hfirst, hrest⟩ := ih
      refine ⟨m₁, ?_, ?_⟩
      · rwa [List.take_append_of_le_length hn]
      · rw [List.drop_append_of_le_length hn]
        exact hrest.snoc he
    · have hlen : (es ++ [e]).length ≤ n := by simpa using hn
      refine ⟨e.onReservations env m₂, ?_, ?_⟩
      · rw [List.take_of_length_le hlen]
        exact h.snoc he
      · rw [List.drop_of_length_le hlen]
        exact .nil

/-- **Along lawful entries reservations only take their steps.** -/
theorem grow (h : Tells env m es m') (hm : Booked m) : Booked m' ∧ Grow m m' := by
  induction h with
  | nil => exact ⟨hm, .refl m⟩
  | snoc _ he ih =>
    obtain ⟨hbooked, hgrow⟩ := he.grow ih.1
    exact ⟨hbooked, ih.2.trans hgrow⟩

end Tells

/-! ### Handlers -/

variable {env : Env} {rules : Rules} {s t : AppState}

/-- The reservations of a vault with the bookings of another. -/
theorem VaultState.reservations_eq {v v' : VaultState} (h : v'.bookings = v.bookings) :
    v'.reservations = v.reservations := congrArg Bookings.reservations h

/-- **The entries of a move tell what it did to the reservations.** -/
theorem Move.tells (h : Move env rules s t) : ∃ es, s.wal.Appends es t.wal ∧
    Tells env s.vault.reservations es t.vault.reservations := by
  cases h with
  | draw | remember | takeNonce | release => exact ⟨[], .nil _, .nil⟩
  | skip | sign => exact ⟨[], .skip (.nil _), .nil⟩
  | vault hv =>
    refine ⟨[], .nil _, ?_⟩
    rw [AppState.setVault_vault, VaultState.reservations_eq hv]
    exact .nil
  | @log e he =>
    refine ⟨[e], .store (.nil _) e, ?_⟩
    have := Tells.nil.snoc (WalEntry.lawful_plain env s.vault.reservations he)
    rwa [WalEntry.onReservations_plain env _ he] at this
  | @authorize v w hv hw =>
    refine ⟨[w.entry env], .store (.nil _) _, ?_⟩
    have hsame : ((s.setVault v).setWal (s.wal.store (w.entry env))).vault.reservations
        = s.vault.reservations := (VaultState.reservations_eq hv).trans rfl
    rw [hsame]
    exact Tells.nil.snoc (e := w.entry env) trivial
  | @issue r hr hrule =>
    exact ⟨[r.receipt.entry env], .store (.nil _) _, Tells.nil.snoc (e := r.receipt.entry env) trivial⟩
  | @book r e hrule hnew hid he =>
    obtain ⟨-, -, heq, hlawful, -⟩ := WalEntry.created?_eq_some he
    refine ⟨[e], .store (.nil _) e, ?_⟩
    have := Tells.nil.snoc (hlawful _ hnew)
    rwa [heq] at this
  | @close key r r' e v hr hcloses hrule hv =>
    obtain ⟨heq, hlawful⟩ : _ ∧ e.Lawful env s.vault.reservations := hcloses.onReservations hr
    refine ⟨[e], .store (.nil _) e, ?_⟩
    have := Tells.nil.snoc hlawful
    rw [heq] at this
    rw [AppState.setVault_vault, VaultState.reservations_eq hv]
    exact this
  | confirm settlementIds batchId txSignature =>
    refine ⟨[.batchConfirmed batchId txSignature settlementIds], .store (.nil _) _, ?_⟩
    have hconfirm := congrArg Bookings.reservations
      (applyBatchConfirmation_bookings settlementIds batchId txSignature s.vault)
    simp only [VaultState.bookings_reservations, Bookings.confirm_reservations] at hconfirm
    rw [AppState.setVault_vault, hconfirm]
    exact Tells.nil.snoc (e := .batchConfirmed batchId txSignature settlementIds) trivial

/-- The log tells the reservations from the start, and their ids were drawn. -/
structure AppState.Recorded (env : Env) (s : AppState) : Prop where
  tells : Tells env ∅ (s.wal.records.map (·.entry)) s.vault.reservations
  ids : s.IdsDrawn env

/-- What the log tells is booked. -/
theorem AppState.Recorded.booked (h : s.Recorded env) : Booked s.vault.reservations :=
  (h.tells.grow booked_empty).1

/-- A fresh enclave. -/
theorem AppState.Recorded.new (env : Env) : AppState.new.Recorded env :=
  ⟨.nil, fun key r h => by simp [AppState.new, VaultState.new] at h⟩

/-- No id is given back. -/
theorem Move.drawn_le (h : Move env rules s t) : s.drawn ≤ t.drawn := by
  cases h <;> first | exact le_rfl | exact Nat.le_succ _

/-- **What a move can do to a reservation**: nothing, book it, close it, or mark it as batched. -/
theorem Move.lookup (h : Move env rules s t) (hbooked : Booked s.vault.reservations)
    (hr' : t.vault.reservations[key]? = some r') :
    s.vault.reservations[key]? = some r' ∨
      (rules.books s r' ∧ env.Drawn s.drawn key ∧ s.vault.reservations[key]? = none) ∨
      (∃ (r : Reservation) (e : WalEntry), s.vault.reservations[key]? = some r ∧ e.Closes key r r' ∧
        ∀ time ∈ e.settledAt?, rules.settles key time) ∨
      ∃ r, s.vault.reservations[key]? = some r ∧ r.status.isPaid ∧
        r' = { r with status := .batchedOnchain } := by
  cases h with
  | @vault v hv | @authorize v w hv hw =>
    have hsame : v.reservations = s.vault.reservations := (VaultState.reservations_eq hv).trans rfl
    exact .inl (hsame ▸ hr')
  | @book r e hrule hnew hid he =>
    obtain ⟨rfl, rfl⟩ | hr' := FiniteMap.lookup_insert_cases hr'
    · exact .inr (.inl ⟨hrule, hid, hnew⟩)
    · exact .inl hr'
  | @close k r r₁ e v hr hcloses hrule hv =>
    rw [AppState.setVault_vault, VaultState.reservations_eq hv] at hr'
    obtain ⟨rfl, rfl⟩ | hr' := FiniteMap.lookup_insert_cases hr'
    · exact .inr (.inr (.inl ⟨r, e, hr, hcloses, hrule⟩))
    · exact .inl hr'
  | confirm settlementIds batchId txSignature =>
    have hconfirm := congrArg Bookings.reservations
      (applyBatchConfirmation_bookings settlementIds batchId txSignature s.vault)
    rw [AppState.setVault_vault, show (applyBatchConfirmation settlementIds batchId txSignature
      s.vault).reservations = _ from hconfirm] at hr'
    exact (hbooked.lookup_confirm settlementIds hr').imp_right fun h => .inr (.inr h)
  | _ => exact .inl hr'

/-- Where a reservation comes from: it was there in an earlier state, or the move booked it. -/
theorem Move.origin (h : Move env rules s t) (hbooked : Booked s.vault.reservations)
    (hr : t.vault.reservations[key]? = some r) :
    (∃ r₀, s.vault.reservations[key]? = some r₀ ∧ r₀.Becomes r) ∨
      (rules.books s r ∧ env.Drawn s.drawn key) := by
  obtain hr | ⟨hrule, hid, -⟩ | ⟨r₀, _, hr₀, hcloses, -⟩ | ⟨r₀, hr₀, hpaid, rfl⟩ := h.lookup hbooked hr
  · exact .inl ⟨r, hr, .refl r⟩
  · exact .inr ⟨hrule, hid⟩
  · exact .inl ⟨r₀, hr₀, (Reservation.Becomes.close hcloses (hbooked key r₀ hr₀)).1⟩
  · obtain ⟨id, _, hid, -⟩ := (hbooked key r₀ hr₀).settled hpaid
    exact .inl ⟨r₀, hr₀, (Reservation.Becomes.batch (hbooked key r₀ hr₀) hid).1⟩

/-- A move books under drawn ids only. -/
theorem Move.idsDrawn (h : Move env rules s t) (hs : s.IdsDrawn env)
    (hbooked : Booked s.vault.reservations) : t.IdsDrawn env := by
  intro key r hr
  rcases h.origin hbooked hr with ⟨r₀, hr₀, -⟩ | ⟨-, hid⟩
  · exact (hs key r₀ hr₀).mono h.drawn_le
  · exact hid.mono h.drawn_le

/-- **What the log tells of the reservations, it tells after every handler.** -/
theorem Moves.recorded (h : Moves env rules s t) (hs : s.Recorded env) : t.Recorded env ∧
    ∃ es, s.wal.Appends es t.wal ∧ Tells env s.vault.reservations es t.vault.reservations := by
  induction h with
  | refl => exact ⟨hs, [], .nil _, .nil⟩
  | tail _ hlast ih =>
    obtain ⟨hrecorded, es, happends, htells⟩ := ih
    obtain ⟨es', happends', htells'⟩ := hlast.tells
    refine ⟨⟨?_, hlast.idsDrawn hrecorded.ids hrecorded.booked⟩, es ++ es',
      happends.trans happends', htells.trans htells'⟩
    rw [happends'.entries]
    exact hrecorded.tells.trans htells'

/-- What every booked reservation has, and no step takes from it, all of them have. -/
theorem Moves.reservations {P : Reservation → Prop} (h : Moves env rules s t)
    (hs : s.Recorded env) (hbooks : ∀ s r, rules.books s r → P r)
    (hbecomes : ∀ r r', P r → r.Becomes r' → P r')
    (hP : ∀ (key : String) r, s.vault.reservations[key]? = some r → P r) :
    ∀ (key : String) r, t.vault.reservations[key]? = some r → P r := by
  induction h with
  | refl => exact hP
  | tail hmoves hlast ih =>
    intro key r hr
    rcases hlast.origin (Moves.recorded hmoves hs).1.booked hr with ⟨r₀, hr₀, h₀⟩ | ⟨hrule, -⟩
    · exact hbecomes r₀ r (ih key r₀ hr₀) h₀
    · exact hbooks _ r hrule

end Subly402
