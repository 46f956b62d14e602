/-
# What holds across crashes

Over every run of `Machine`, whatever crashes and whenever:
-/

import Subly402.Enclave.CrashBooks

namespace Subly402

open Lib
open Lib.Prog (okOr failIf orReturn Leaves Returns Along Same)

namespace Machine

variable {env : Env} {m m' : Machine}

/-- Operations of the enclave are steps. -/
theorem Steps.ops (app : AppState) (snapshots : List Snapshot) (ops : List (Op env)) :
    Steps env ⟨app, snapshots⟩ ⟨ops.foldl AppState.next app, snapshots⟩ := by
  induction ops generalizing app with
  | nil => exact .refl
  | cons op ops ih => exact .head ⟨_, .task ⟨app, snapshots⟩ (.op op)⟩ (ih (app.next op))

/-- An operation of a run that relies on nothing else is a regular step. -/
theorem RegularStep.op (ops : List (Op env)) (op : Op env) (snapshots : List Snapshot)
    (h : (Task.op op).Relies (run env ops)) :
    RegularStep env ⟨run env ops, snapshots⟩ ⟨(run env ops).next op, snapshots⟩ := by
  refine ⟨_, ?_, .task _ (.op op)⟩
  rintro _ ⟨⟩
  refine ⟨h, fun client => ?_⟩
  have hfits := (run_inv (ops ++ [op])).fits client
  rw [run, List.foldl_append] at hfits
  exact hfits

/-- Operations before and after a snapshot. -/
theorem Reachable.ops (ops ops' : List (Op env)) :
    Reachable env ⟨ops'.foldl AppState.next (run env ops), [captureSnapshot (run env ops)]⟩ :=
  ((Steps.ops .new [] ops).tail ⟨_, .snapshot _⟩).trans (Steps.ops _ _ ops')

end Machine

/-! ### A run with a crash -/

namespace Shop

/-- The enclave after the client's deposit. -/
def funded : AppState := run world (ops.take 1)

/-- A snapshot is stored, and the client has paid the seller. -/
def bought : Machine :=
  { app := ((ops.drop 1).take 2).foldl AppState.next funded, snapshots := [captureSnapshot funded] }

/-- The seller's request for the money. -/
def collect : Task world := .op (.settle "ver_" ⟨2, 2⟩)

/-- What is left when the enclave stops as soon as the settlement is in the log. -/
def left : AppState := bought.app.crashed world (collect.next bought.app) 1 20

/-- The next start, from the snapshot. -/
def restart : Except String Unit × AppState :=
  (recover world (fun _ => 5) (some (captureSnapshot funded)) left.wal.records).run left

/-- The enclave after it. -/
def restarted : Machine := { bought with app := restart.2 }

/-- The client asks for the rest of its money. -/
def withdraw : Task world := .op (.withdrawAuth (.fill 1) (.fill 1) 2 ⟨6, 6⟩)

/-- The enclave after that. -/
def emptied : Machine := { restarted with app := withdraw.next restarted.app }

theorem bought_reachable : Machine.Reachable world bought := Machine.Reachable.ops _ _

theorem restart_ok : restart.1.toOption.isSome := by decide +kernel

theorem collect_seqno : (collect.next bought.app).wal.seqno ≤ 20 := by decide +kernel

/-- The crash and the restart. -/
theorem bought_crash : Machine.Does world (some collect) bought restarted := by
  have hmem : ∀ snap, some (captureSnapshot funded) = some snap → snap ∈ bought.snapshots := by
    rintro _ ⟨⟩
    exact List.mem_singleton_self _
  obtain ⟨⟨⟩, app, hrun⟩ := Prog.run_ok_of_isSome restart_ok
  have happ : restart.2 = app := congrArg Prod.snd hrun
  rw [restarted, happ]
  exact .crash bought collect 1 20 collect_seqno hmem (fun _ => 5) hrun

theorem bought_restarted : Machine.Steps world bought restarted := .single ⟨_, bought_crash⟩

/-- All of that is regular. -/
theorem bought_regular : Machine.RegularSteps world .new bought := by
  have hseller : (Task.op (.registerProvider seller) : Task world).Relies funded := fun parsed h =>
    (RegisterProviderRequest.decode_entry_iff h).2 (by decide)
  refine .head (.op [] (.deposit ⟨deposit, deposit_mem⟩ 0) [] trivial) (.head ⟨none, nofun, .snapshot _⟩
    (.head (.op (ops.take 1) (.registerProvider seller) _ hseller)
      (.single (.op (ops.take 2) (.verify payment ⟨1, 1⟩) _ ?_))))
  exact (by decide : 0 < 3)

theorem bought_restarted_regular : Machine.RegularSteps world bought restarted := by
  refine .single ⟨_, ?_, bought_crash⟩
  rintro _ ⟨⟩
  exact ⟨trivial, (run_inv (ops.take 4)).fits⟩

theorem restarted_emptied : Machine.Steps world restarted emptied :=
  .single ⟨_, .task restarted withdraw⟩

end Shop

namespace Machine

open Shop (world bought restarted emptied bought_reachable bought_restarted restarted_emptied)

variable {env : Env} {m m' : Machine}

/-- **Nonces are unique across crashes.** -/
theorem nonces_unique (env : Env) (m : Machine) (h : Reachable env m) :
    m.app.sent.Pairwise (fun r r' => r.nonce ≠ r'.nonce) ∧
      ∀ w ∈ m.app.released, ∀ w' ∈ m.app.released, w.withdrawNonce = w'.withdrawNonce → w = w' :=
  h.safe.nonces.unique

/-- Receipts before and after a restart. -/
theorem nonces_unique_emptied :
    emptied.app.sent.map (·.nonce) = [1, 2, 3] ∧
      emptied.app.sent.Pairwise (fun r r' => r.nonce ≠ r'.nonce) :=
  ⟨by decide +kernel, (nonces_unique world emptied
    ((bought_reachable.trans bought_restarted).trans restarted_emptied)).1⟩

end Machine

/-! ### Answers to settlement requests -/

namespace Handlers

variable {env : Env} {s : AppState}

/-- Where nothing is left to settle, the reservation is settled; otherwise the settlement is the
one asked for. -/
theorem settleBegin_returns {verificationId settlementId : String} {t : Times} {r : Reservation}
    (hr : s.vault.reservations[verificationId]? = some r) :
    (settleBegin env verificationId settlementId t).Returns s fun p s' =>
      (p = none ∧ r.status = .settledOffchain ∧ s' = s) ∨
      ∃ q, p = some q ∧ q.verificationId = verificationId ∧ q.settlementId = settlementId := by
  refine .get_bind (.okOr_bind fun r' hr' => ?_)
  cases hr.symm.trans hr'
  cases hst : r.status with
  | settledOffchain => exact .pure (.inl ⟨rfl, rfl, rfl⟩)
  | expired | cancelled | batchedOnchain => exact .throw
  | reserved =>
    refine .ite (fun _ => .leaves_bind (P := fun _ => True) trivial fun _ _ _ => .throw) fun _ => ?_
    refine .leaves_bind (P := fun _ => True) trivial fun _ u _ => ?_
    exact .of_run rfl (.inr ⟨_, rfl, rfl, rfl⟩)

theorem settleEnd_returns (p : PendingSettlement) (t : Times) :
    (settleEnd env p t).Returns s fun resp s' => resp.settlementId = p.settlementId ∧
      ∃ r, s'.vault.reservations[p.verificationId]? = some r ∧
        r.settlementId = some p.settlementId := by
  refine .leaves_bind (P := fun _ => True) trivial fun _ u _ => .get_bind (.okOr_bind fun r hr =>
    .modify_bind ?_)
  set settled : Reservation :=
    { r with
      status := .settledOffchain
      settlementId := some p.settlementId
      settledAt := some p.settledAt }
  set booked := u.vault.setReservation p.verificationId settled
  refine .leaves_bind (P := fun t => t.vault.reservations = booked.reservations) ?_ fun _ u hu => ?_
  · exact congrArg Bookings.reservations
      ((refreshClientMaxLockExpiresAt_keeps .standing p.client).bookings booked)
  refine .leaves_bind (P := fun t => t.vault.reservations = booked.reservations)
    ((issueClientReceiptLocked_vault p.client t.later u).mono fun _ h =>
      (congrArg VaultState.reservations h).trans hu)
    fun _ u hu => ?_
  refine .leaves_bind (P := fun t => t.vault.reservations = booked.reservations)
    ((issueProviderReceiptLocked_vault p.providerId t.later u).mono fun _ h =>
      (congrArg VaultState.reservations h).trans hu)
    fun _ u hu => .pure ⟨rfl, settled, ?_, rfl⟩
  rw [hu]
  simp [booked]

/-- **A settlement that is answered is the reservation's.** -/
theorem postSettle_returns (hbooked : Booked s.vault.reservations) (verificationId : String)
    (t : Times) :
    (postSettle env verificationId t).Returns s fun resp s' =>
      ∃ r, s'.vault.reservations[verificationId]? = some r ∧
        r.settlementId = some resp.settlementId := by
  refine .get_bind (.okOr_bind fun r hr => .run_bind (run_newId ..) (.bind
    (settleBegin_returns (r := r) hr) ?_))
  rintro p u (⟨rfl, hst, rfl⟩ | ⟨q, rfl, hid, hsettlement⟩)
  · obtain ⟨id, time, hid, -⟩ := (hbooked verificationId r hr).settled (by rw [hst]; rfl)
    refine .leaves_bind (issueProviderReceiptLocked_vault r.providerId t.later s.draw)
      fun _ u hu => .pure ⟨r, ?_, ?_⟩
    · have hsame : (u.vault.setReceiptNonce 0).reservations
          = (s.vault.setReceiptNonce 0).reservations := congrArg VaultState.reservations hu
      exact hsame ▸ hr
    · rw [hid]
      rfl
  · refine (settleEnd_returns q t).mono fun resp s' => ?_
    rintro ⟨hresp, r', hr', hid'⟩
    exact ⟨r', hid ▸ hr', hresp ▸ hid'⟩

end Handlers

namespace Machine

open Shop (world bought restarted emptied bought_reachable bought_restarted restarted_emptied
  bought_regular bought_restarted_regular)

variable {env : Env} {m m' : Machine}

/-- A reservation that a task settles was asked to be settled, in time. -/
theorem Safe.task_settles (h : Safe env m) (task : Task env) {key : String} {r r' : Reservation}
    (hr : m.app.vault.reservations[key]? = some r) (hopen : r.status.isPaid = false)
    (hr' : (task.next m.app).vault.reservations[key]? = some r') (hpaid : r'.status.isPaid) :
    ∃ t, task = .op (.settle key t) ∧ r'.settledAt = some t.now ∧ t.now ≤ r'.expiresAt := by
  have hmoves := task.moves h.recorded.ids
  obtain ⟨id, -, hid, -⟩ := ((Moves.recorded hmoves h.recorded).1.booked key r' hr').settled hpaid
  obtain ⟨time, htime, ⟨t, htask, rfl⟩, hle⟩ := Moves.settles hmoves h.recorded hr
    ((h.recorded.booked key r hr).unsettled hopen) hr' hid
  exact ⟨t, htask, htime, hle⟩

/-- So was one that is settled after a step, be it that the task was cut short. -/
theorem Safe.settles (h : Safe env m) {task : Option (Task env)} (hdoes : Does env task m m')
    {key : String} {r r' : Reservation} (hr : m.app.vault.reservations[key]? = some r)
    (hopen : r.status.isPaid = false) (hr' : m'.app.vault.reservations[key]? = some r')
    (hpaid : r'.status.isPaid) :
    ∃ t, task = some (.op (.settle key t)) ∧ r'.settledAt = some t.now ∧ t.now ≤ r'.expiresAt := by
  cases hdoes with
  | task _ done =>
    obtain ⟨t, rfl, htime, hle⟩ := h.task_settles done hr hopen hr' hpaid
    exact ⟨t, rfl, htime, hle⟩
  | snapshot =>
    cases hr.symm.trans hr'
    rw [hopen] at hpaid
    cases hpaid
  | crash _ cut n seqno hseqno hsnapshot clock hrun =>
    -- what the recovered enclave knows is part of what the whole task would have done
    obtain ⟨hsafe, -, hgrow⟩ := h.crash cut n hseqno hsnapshot clock hrun
    obtain ⟨r'', hr'', hbecomes⟩ := hgrow key r' hr'
    obtain ⟨id, -, hid, -⟩ := (hsafe.recorded.booked key r' hr').settled hpaid
    obtain ⟨hid', hat⟩ := hbecomes.settlement id hid
    have hbooked := (h.task cut).1.recorded.booked key r'' hr''
    obtain ⟨t, rfl, htime, hle⟩ := h.task_settles cut hr hopen hr'' (hbooked.isPaid hid')
    rw [hbecomes.terms] at hle
    exact ⟨t, rfl, hat ▸ htime, hle⟩

/-- What the log has of a reservation's amount. -/
theorem Safe.closings (h : Safe env m) (id : String) :
    (closings m.entries id).length ≤ 1 ∧
      ∀ r, m.app.vault.reservations[id]? = some r → r.ClosedBy (closings m.entries id) := by
  obtain ⟨hpresent, habsent⟩ := h.recorded.tells.closedBy
  refine ⟨?_, fun r hr => hpresent id r hr⟩
  cases hr : m.app.vault.reservations[id]? with
  | none => exact (congrArg List.length (habsent id hr)).trans_le (Nat.zero_le _)
  | some r => exact (hpresent id r hr).length_le

/-- What the machine does to the money from one moment to another, told by the books after each
entry of the log. -/
structure Accounts (env : Env) (books : ℕ → Ledger) (m m' : Machine) : Prop where
  start : books 0 = VaultState.new.ledger
  log : ∃ supply, Chronicle env supply books m'.entries
  grows : ∃ es, m'.entries = m.entries ++ es
  before : m.app.vault.Shows (books m.entries.length)
  after : m'.app.vault.Shows (books m'.entries.length)
  closing : ∀ k e id, m'.entries[k]? = some e → e.closed? = some id →
    ∃ r, (books k).reservations[id]? = some r ∧ r.status = .reserved ∧
      e.MovesAmount r (books k) (books (k + 1))
  once : m'.app.vault.ledger.NamesOnce
  balances : ∀ client, m'.app.vault.Balances client

/-- **The money of a regular run is accounted for.** -/
theorem RegularSteps.accounts (hm : RegularSteps env new m) (hsteps : RegularSteps env m m') :
    ∃ books, Accounts env books m m' := by
  have hreachable : Reachable env m :=
    Relation.ReflTransGen.mono (fun _ _ ⟨task, _, hdoes⟩ => ⟨task, hdoes⟩) _ _ hm
  obtain ⟨books, -, h, -⟩ := hm.chronicled (.new env) (.new env)
  obtain ⟨books', hsame, h', hgrows⟩ := hsteps.chronicled hreachable.safe h
  obtain ⟨hi, hlog⟩ := h'.log
  obtain ⟨supply, hexp⟩ := h'.explains
  refine ⟨books', h'.start, ⟨_, hlog⟩, hgrows, ?_, h'.shows, fun k e id he hc =>
    (hlog k e he).closing hc, ?_, fun client => VaultState.balances_of_conserved h'.inv.sums client⟩
  · rw [hsame _ le_rfl]
    exact h.shows
  · rw [h'.shows]
    refine (hexp.evolves.namesOnce ?_).of_same rfl rfl rfl
    rw [VaultState.ledger_new]
    constructor <;> simp

/-- **The life of a reservation**, over every run with crashes.  From any moment on,
1. the reservation stays, its terms stay, its status takes only the steps of its life, and its
   settlement stays;
2. the log has one entry that closes it where its status is not `Reserved`, the one which that
   status asks for, and none otherwise;
3. a step that settles it is the settlement request for it, finished or cut short by a crash, and
   its clock is not past the reservation's end;
4. so a reservation that is settled was settled in time;
5. the settlement that a request was answered with is the one that every later answer names;
6. where the tasks are regular, the vault has the books that the log tells at every moment, an entry
   that closes a reservation moves its amount back to the client or to the credit of the provider,
   a settlement is named once, by one credit, and every client's money is accounted for. -/
theorem lifecycle (env : Env) (m m' : Machine) (hm : Reachable env m) (hsteps : Steps env m m') :
    (∀ (id : String) r, m.app.vault.reservations[id]? = some r →
      ∃ r', m'.app.vault.reservations[id]? = some r' ∧ r.Becomes r') ∧
    (∀ id, (closings m.entries id).length ≤ 1 ∧
      ∀ r, m.app.vault.reservations[id]? = some r → r.ClosedBy (closings m.entries id)) ∧
    (∀ (task : Option (Task env)) m₁, Does env task m m₁ → ∀ (id : String) r r',
      m.app.vault.reservations[id]? = some r → r.status.isPaid = false →
      m₁.app.vault.reservations[id]? = some r' → r'.status.isPaid →
      ∃ t, task = some (.op (.settle id t)) ∧ r'.settledAt = some t.now ∧
        t.now ≤ r'.expiresAt) ∧
    (∀ (id : String) r, m.app.vault.reservations[id]? = some r → r.status.isPaid →
      ∃ time, r.settledAt = some time ∧ time ≤ r.expiresAt) ∧
    (∀ id t resp s, (Handlers.postSettle env id t).run m.app = (.ok resp, s) →
      Steps env { m with app := s } m' → ∀ t' resp' s',
        (Handlers.postSettle env id t').run m'.app = (.ok resp', s') →
        resp'.settlementId = resp.settlementId) ∧
    (RegularSteps env new m → RegularSteps env m m' → ∃ books, Accounts env books m m') := by
  have hsafe := hm.safe
  refine ⟨(Steps.safe hsteps hsafe).2, hsafe.closings, fun task m₁ hdoes id r r' hr hopen hr' hpaid =>
    hsafe.settles hdoes hr hopen hr' hpaid, fun id r hr hpaid => ?_, ?_, RegularSteps.accounts⟩
  · obtain ⟨_, time, -, htime, hle⟩ := (hsafe.recorded.booked id r hr).settled hpaid
    exact ⟨time, htime, hle⟩
  · intro id t resp s hrun hlater t' resp' s' hrun'
    have hnext : (Task.op (.settle id t) : Task env).next m.app = s := congrArg Prod.snd hrun
    have hdoes := Does.task m (.op (.settle id t) : Task env)
    rw [hnext] at hdoes
    have hstep : Step env m { m with app := s } := ⟨_, hdoes⟩
    -- the answer's settlement is noted at the reservation, which keeps it
    obtain ⟨r, hr, hid⟩ := Handlers.postSettle_returns hsafe.recorded.booked id t resp s hrun
    obtain ⟨hsafe', hgrow⟩ := Steps.safe hlater (hstep.safe hsafe).1
    obtain ⟨r', hr', hbecomes⟩ := hgrow id r hr
    have hnext' : (Task.op (.settle id t') : Task env).next m'.app = s' := congrArg Prod.snd hrun'
    have hgrow' := (Safe.task hsafe' (.op (.settle id t'))).2
    rw [hnext'] at hgrow'
    obtain ⟨r'', hr'', hbecomes'⟩ := hgrow' id r' hr'
    obtain ⟨q, hq, hqid⟩ := Handlers.postSettle_returns hsafe'.recorded.booked id t' resp' s' hrun'
    cases hr''.symm.trans hq
    have hkept := ((hbecomes.trans hbecomes').settlement _ hid).1
    exact Option.some.inj (hqid.symm.trans hkept)

/-- A payment settled across a restart. -/
theorem lifecycle_restarted :
    (bought.app.vault.reservations["ver_"]?).map (·.status) = some .reserved ∧
      (∃ r, restarted.app.vault.reservations["ver_"]? = some r ∧ r.status = .settledOffchain ∧
        r.ClosedBy (closings restarted.entries "ver_")) ∧
      ((restarted.app.vault.providerCredits["shop"]?).map (·.creditedAmount) = some 3) ∧
      ∃ books, Accounts world books bought restarted := by
  have hreachable := bought_reachable.trans bought_restarted
  have hmap : (restarted.app.vault.reservations["ver_"]?).map (·.status) = some .settledOffchain := by
    decide +kernel
  obtain ⟨r, hr, hst⟩ := Option.map_eq_some_iff.1 hmap
  have hlater := lifecycle world restarted emptied hreachable restarted_emptied
  have hlife := lifecycle world bought restarted bought_reachable bought_restarted
  exact ⟨by decide +kernel, ⟨r, hr, hst, (hlater.2.1 "ver_").2 r hr⟩, by decide +kernel,
    hlife.2.2.2.2.2 bought_regular bought_restarted_regular⟩

end Machine

end Subly402
