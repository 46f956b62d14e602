/-
# Crashes and restarts

The enclave loses its memory at any moment, and comes back from a snapshot and the log
(`recover_latest` and `apply_snapshot` of `enclave/src/snapshot.rs`, then
`replay_app_state_from`).  `Machine` is the enclave with the snapshots in the store.  Its
steps are the tasks that run under `persistence_lock`, the capture of a snapshot, which
takes the same lock, and a crash in the middle of a task: of the records that the task
would write some first ones are durable, receipts may have left whose entry is, and the
next start succeeds from one of the stored snapshots or from none.
-/

import Subly402.Enclave.Nonces
import Subly402.Enclave.Redo

namespace Subly402

open Lib
open Lib.Prog (okOr failIf orReturn Leaves Returns Along Same)

/-! ### Snapshots -/

/-- `StateSnapshot`.  Its maps are those of the vault. -/
structure Snapshot where
  vault : VaultState
  processedSignatures : Finset String
  lastProcessedSignature : Option String
  includedWalSeqno : Option ℕ

/-- `last_seqno`. -/
def Wal.lastSeqno (wal : Wal) : Option ℕ := if wal.seqno = 0 then none else some (wal.seqno - 1)

/-- `capture_snapshot`, under the lock in `persist_now`. -/
@[simps]
def captureSnapshot (s : AppState) : Snapshot where
  vault := { s.vault with snapshotSeqno := s.vault.snapshotSeqno + 1 }
  processedSignatures := s.processedSignatures
  lastProcessedSignature := s.lastProcessedSignature
  includedWalSeqno := s.wal.lastSeqno

/-- The index of payment ids is not in the snapshot, and made anew from the reservations. -/
def rebuildPaymentIdIndex (reservations : FiniteMap String Reservation) : FiniteMap String String :=
  reservations.toList.foldl (fun index entry => index.insert entry.2.paymentId entry.2.verificationId)
    ∅

/-- The loop at the end of `apply_snapshot`. -/
def recomputeLockExpiries : List Pubkey → ReplayM Unit
  | [] => pure ()
  | client :: clients => do
    let _ ← (onVault (refreshClientMaxLockExpiresAt client)).mapError fun error =>
      "failed to recompute client lock expiry: " ++ error.display
    recomputeLockExpiries clients

/-- A state with what the snapshot has. -/
@[simps]
def AppState.restore (s : AppState) (snapshot : Snapshot) : AppState :=
  { s with
    vault := { snapshot.vault with
      paymentIdIndex := rebuildPaymentIdIndex snapshot.vault.reservations }
    processedSignatures := snapshot.processedSignatures
    lastProcessedSignature := snapshot.lastProcessedSignature }

/-- `apply_snapshot`. -/
def applySnapshot (snapshot : Snapshot) : ReplayM Unit := do
  modify (·.restore snapshot)
  recomputeLockExpiries (← get).vault.clientBalances.keys

/-- The start of an enclave: the snapshot that `recover_latest` found, if any, and the log. -/
def recover (env : Env) (clock : ℕ → ℤ) (snapshot : Option Snapshot) (records : List WalRecord) :
    ReplayM Unit := do
  match snapshot with
  | some snapshot =>
    applySnapshot snapshot
    replayAppStateFrom env clock snapshot.includedWalSeqno records
  | none => replayAppStateFrom env clock none records

/-! ### Tasks -/

/-- `post_seed_balance`. -/
def Handlers.postSeedBalance (env : Env) (clientText : String) (balance : ClientBalance)
    (t : Times) : AppM Unit := do
  let client ← okOr (env.pubkeyFromStr clientText) .clientNotFound
  append env (.clientBalanceSeeded clientText balance.free balance.locked
    balance.maxLockExpiresAt balance.totalDeposited balance.totalWithdrawn)
  modify fun s => s.setVault (s.vault.setBalance client balance)
  let _ ← issueClientReceiptLocked env client t.later

/-- What takes `persistence_lock`, or changes the vault without it: an operation, a `/verify` that
waited for the lock, a receipt with values that were read before, a seeded balance, and the tasks
that touch neither reservations nor counters. -/
inductive Task (env : Env) where
  | op (op : Op env)
  | reserve (req : Handlers.VerifyRequest) (t : Times)
  | receipt (holder : Holder) (participant : Pubkey) (participantKind : ℕ) (recipientAta : Pubkey)
      (freeBalance lockedBalance : ℕ) (maxLockExpiresAt now : ℤ)
  | seed (clientText : String) (balance : ClientBalance) (t : Times)
  | tidy (change : VaultState → VaultState) (keeps : ∀ v, (change v).bookings = v.bookings)

namespace Task

variable {env : Env} {s : AppState}

def next (s : AppState) : Task env → AppState
  | .op operation => s.next operation
  | .reserve req t =>
    match env.pubkeyFromStr req.client with
    | some client => ((Handlers.reserveAndLog env req client t).run s).2
    | none => s
  | .receipt holder participant participantKind recipientAta freeBalance lockedBalance
      maxLockExpiresAt now =>
    ((issueParticipantReceiptLocked env holder participant participantKind recipientAta freeBalance
      lockedBalance maxLockExpiresAt now).run s).2
  | .seed clientText balance t => ((Handlers.postSeedBalance env clientText balance t).run s).2
  | .tidy change _ => s.setVault (change s.vault)

/-- The task is the settlement of the reservation, and reads the time. -/
def Settles (task : Task env) (verificationId : String) (time : ℤ) : Prop :=
  ∃ t, task = .op (.settle verificationId t) ∧ time = t.now

/-- A task settles only what it is asked to. -/
def rules (task : Task env) : Rules := { Rules.free with settles := task.Settles }

/-- Every task is made of moves. -/
theorem moves (hids : s.IdsDrawn env) (task : Task env) :
    Moves env task.rules s (task.next s) := by
  cases task with
  | op op =>
    have hadmits : (Task.op op).rules.Admits s op := by
      refine ⟨fun _ _ _ _ _ _ _ => trivial, ?_, fun _ _ _ => trivial, fun _ _ => trivial, trivial,
        fun _ _ => trivial⟩
      rintro id times rfl
      exact ⟨times, rfl, rfl⟩
    exact AppState.next_moves hadmits hids
  | reserve req t =>
    simp only [next]
    split
    · next client hclient =>
      exact Handlers.reserveAndLog_moves (fun _ _ => trivial) hids req hclient t
        fun _ _ _ _ => trivial
    · exact .refl s
  | receipt holder participant kind recipientAta free locked maxLock now =>
    have hissue : (issueParticipantReceiptLocked env holder participant kind recipientAta free locked
        maxLock now).Leaves s (Moves env (Task.receipt holder participant kind recipientAta free
          locked maxLock now : Task env).rules s) := issueParticipantReceiptLocked_moves trivial
    exact hissue
  | seed clientText balance t =>
    have hseed : Moving env (Task.seed clientText balance t : Task env).rules
        (Handlers.postSeedBalance env clientText balance t) :=
      .okOr_bind fun client _ => .bind (appendAs_moving rfl (.pure _)) fun _ =>
        .bind (.modify fun s => .single (.standing s rfl)) fun _ =>
          .bind (issueClientReceiptLocked_moving (fun _ _ => trivial) client t.later) fun _ => .pure _
    exact hseed s
  | tidy change keeps => exact (Move.vault s (keeps s.vault) (.inr trivial)).moves

end Task

/-! ### The machine -/

/-- The enclave, and the snapshots in the store. -/
structure Machine where
  app : AppState
  snapshots : List Snapshot

/-- Memory is lost in the middle of a task that would have led from `s` to `s'`: `n` of its
records are durable, and what can have left the enclave is what they are about. -/
@[simps]
def AppState.crashed (env : Env) (s s' : AppState) (n seqno : ℕ) : AppState :=
  let records := s'.wal.records.take (s.wal.records.length + n)
  { AppState.new with
    wal := { seqno, records }
    drawn := s'.drawn
    signed := s'.signed
    sent := s'.sent.filter fun r => records.any (·.entry = r.entry env)
    released := s'.released.filter fun w => records.any (·.entry = w.entry env) }

namespace Machine

/-- A first start. -/
def new : Machine := { app := .new, snapshots := [] }

/-- One step of the machine, with the task that ran or was cut short.  Numbers of the log are not
used again after a crash. -/
inductive Does (env : Env) : Option (Task env) → Machine → Machine → Prop
  | task (m : Machine) (task : Task env) : Does env (some task) m { m with app := task.next m.app }
  | snapshot (m : Machine) :
      Does env none m { m with snapshots := m.snapshots ++ [captureSnapshot m.app] }
  | crash (m : Machine) (task : Task env) (n seqno : ℕ)
      (hseqno : (task.next m.app).wal.seqno ≤ seqno) {snapshot : Option Snapshot}
      (hsnapshot : ∀ snap, snapshot = some snap → snap ∈ m.snapshots) (clock : ℕ → ℤ)
      {app : AppState}
      (hrun : (recover env clock snapshot (m.app.crashed env (task.next m.app) n seqno).wal.records).run
        (m.app.crashed env (task.next m.app) n seqno) = (.ok (), app)) :
      Does env (some task) m { m with app }

/-- One step, whatever it does. -/
def Step (env : Env) (m m' : Machine) : Prop := ∃ task, Does env task m m'

/-- Any number of steps. -/
abbrev Steps (env : Env) : Machine → Machine → Prop := Relation.ReflTransGen (Step env)

/-- The machine can come from a first start. -/
abbrev Reachable (env : Env) (m : Machine) : Prop := Steps env new m

end Machine

/-! ### Snapshots and the log -/

namespace Snapshot

variable {env : Env} {snap : Snapshot} {wal wal' : Wal}

/-- The records that a recovery from the snapshot replays. -/
def later (snap : Snapshot) (records : List WalRecord) : List WalRecord :=
  records.filter fun record => snap.includedWalSeqno.all (· < record.seqno)

/-- The others. -/
def old (snap : Snapshot) (records : List WalRecord) : List WalRecord :=
  records.filter fun record => !snap.includedWalSeqno.all (· < record.seqno)

/-- The snapshot is what the log up to its number says. -/
structure Faithful (env : Env) (snap : Snapshot) (wal : Wal) : Prop where
  before : ∀ k, snap.includedWalSeqno = some k → k < wal.seqno
  tells : Tells env ∅ ((snap.old wal.records).map (·.entry)) snap.vault.reservations
  issued : ∀ record ∈ snap.old wal.records, ∀ n, record.entry.issuedNonce? = some n →
    n < snap.vault.receiptNonce
  authorized : ∀ record ∈ snap.old wal.records, ∀ n, record.entry.authorizedNonce? = some n →
    n < snap.vault.withdrawNonce

/-- New records are replayed. -/
theorem Faithful.old_append (h : snap.Faithful env wal) {rs : List WalRecord}
    (hrs : ∀ record ∈ rs, wal.seqno ≤ record.seqno) :
    snap.old (wal.records ++ rs) = snap.old wal.records := by
  have hnone : snap.old rs = [] := by
    refine List.filter_eq_nil_iff.2 fun record hmem => ?_
    cases hk : snap.includedWalSeqno with
    | none => simp
    | some k =>
      have hlt := (h.before k hk).trans_le (hrs record hmem)
      simpa using hlt
  rw [old, List.filter_append]
  exact (congrArg _ hnone).trans (List.append_nil _)

/-- The log may grow. -/
theorem Faithful.grow (h : snap.Faithful env wal) (hseqno : wal.seqno ≤ wal'.seqno)
    {rs : List WalRecord} (hrecords : wal'.records = wal.records ++ rs)
    (hrs : ∀ record ∈ rs, wal.seqno ≤ record.seqno) : snap.Faithful env wal' := by
  have hold : snap.old wal'.records = snap.old wal.records := by rw [hrecords, h.old_append hrs]
  exact ⟨fun k hk => (h.before k hk).trans_le hseqno, hold ▸ h.tells, hold ▸ h.issued,
    hold ▸ h.authorized⟩

/-- A snapshot has all of the log when it is captured. -/
theorem old_capture {s : AppState} (hordered : s.wal.Ordered) :
    (captureSnapshot s).old s.wal.records = s.wal.records := by
  refine List.filter_eq_self.2 fun record hmem => ?_
  have hlt := hordered.2 record hmem
  simp only [captureSnapshot_includedWalSeqno, Wal.lastSeqno]
  rw [if_neg (by omega)]
  simp only [Option.all_some, Bool.not_eq_true', decide_eq_false_iff_not]
  omega

/-- A snapshot just captured. -/
theorem Faithful.capture {s : AppState} (hrecorded : s.Recorded env) (hordered : s.wal.Ordered)
    (hnonces : NoncesUsed env s) : (captureSnapshot s).Faithful env s.wal := by
  have hold := old_capture hordered
  refine ⟨fun k hk => ?_, ?_, ?_, ?_⟩
  · simp only [captureSnapshot_includedWalSeqno, Wal.lastSeqno] at hk
    split at hk
    · cases hk
    · cases hk
      omega
  · rw [hold]
    exact hrecorded.tells
  · exact fun record hmem n hn => hnonces.issued _ ⟨record, hold ▸ hmem, rfl⟩ n hn
  · exact fun record hmem n hn => hnonces.authorized _ ⟨record, hold ▸ hmem, rfl⟩ n hn

/-- A start without a snapshot is a start from an empty one. -/
theorem Faithful.empty (wal : Wal) : (captureSnapshot .new).Faithful env wal := by
  have hold : (captureSnapshot .new).old wal.records = [] :=
    List.filter_eq_nil_iff.2 fun _ _ => by simp [Wal.lastSeqno, AppState.new]
  refine ⟨?_, ?_, ?_, ?_⟩
  · rintro k ⟨⟩
  · rw [hold]
    exact .nil
  · rw [hold]
    simp
  · rw [hold]
    simp

/-- In a log in the order of its numbers, the old records stand in front. -/
theorem old_append_later (snap : Snapshot) {records : List WalRecord}
    (h : records.Pairwise fun r r' => r.seqno < r'.seqno) :
    snap.old records ++ snap.later records = records := by
  induction records with
  | nil => rfl
  | cons record records ih =>
    obtain ⟨hfirst, hrest⟩ := List.pairwise_cons.1 h
    by_cases hlater : snap.includedWalSeqno.all (· < record.seqno)
    · -- everything after a later record is later
      have hall : ∀ r ∈ records, snap.includedWalSeqno.all (· < r.seqno) = true := by
        intro r hr
        cases hk : snap.includedWalSeqno with
        | none => rfl
        | some k =>
          rw [hk] at hlater
          have hlt := hfirst r hr
          simp only [Option.all_some, decide_eq_true_eq] at hlater ⊢
          omega
      have hnone : snap.old (record :: records) = [] := by
        refine List.filter_eq_nil_iff.2 fun r hr => ?_
        rcases List.mem_cons.1 hr with rfl | hr
        · simp [hlater]
        · simp [hall r hr]
      have hself : snap.later (record :: records) = record :: records := by
        refine List.filter_eq_self.2 fun r hr => ?_
        rcases List.mem_cons.1 hr with rfl | hr
        · exact hlater
        · exact hall r hr
      rw [hnone, hself, List.nil_append]
    · have hold : snap.old (record :: records) = record :: snap.old records :=
        List.filter_cons_of_pos (by simpa using hlater)
      have hskip : snap.later (record :: records) = snap.later records :=
        List.filter_cons_of_neg hlater
      rw [hold, hskip, List.cons_append, ih hrest]

end Snapshot

/-! ### Recovery -/

section Recovery

variable {env : Env}

theorem recomputeLockExpiries_aside (clients : List Pubkey) :
    (recomputeLockExpiries clients).Along Aside := by
  induction clients with
  | nil => exact .pure _
  | cons client clients ih =>
    exact .bind (fun s => .setVault
      ((refreshClientMaxLockExpiresAt_keeps .standing client).bookings s.vault)) fun _ => ih

/-- The state that replay starts from has what the snapshot has. -/
structure Restored (snap : Snapshot) (s b : AppState) : Prop where
  outside : Outside s b
  reservations : b.vault.reservations = snap.vault.reservations
  receiptNonce : b.vault.receiptNonce = snap.vault.receiptNonce
  withdrawNonce : b.vault.withdrawNonce = snap.vault.withdrawNonce

theorem applySnapshot_restored (snap : Snapshot) (s : AppState) :
    (applySnapshot snap).Returns s fun _ b => Restored snap s b := by
  refine .modify_bind (.get_bind fun a b hrun => ?_)
  have haside := Returns.of_leaves (recomputeLockExpiries_aside
    (s.restore snap).vault.clientBalances.keys (s.restore snap)) a b hrun
  have hrestore : Outside s (s.restore snap) := ⟨rfl, rfl, rfl, rfl, le_rfl⟩
  exact ⟨trans_of Outside hrestore haside.toOutside, congrArg Bookings.reservations haside.bookings,
    congrArg Bookings.receiptNonce haside.bookings, congrArg Bookings.withdrawNonce haside.bookings⟩

/-- **What a recovery did, where it succeeds.**  Without a snapshot it is one from the snapshot of
an enclave that did nothing. -/
theorem recover_rebuilt (clock : ℕ → ℤ) (snapshot : Option Snapshot) {s : AppState}
    (hvault : s.vault = .new) :
    (recover env clock snapshot s.wal.records).Returns s fun _ r => ∃ b,
      Restored (snapshot.getD (captureSnapshot .new)) s b ∧
      Rebuilt env ((snapshot.getD (captureSnapshot .new)).later s.wal.records) b r := by
  cases snapshot with
  | none =>
    have hempty : Restored (captureSnapshot .new) s s := by
      refine ⟨refl_of Outside s, ?_, ?_, ?_⟩ <;>
      · rw [hvault]
        rfl
    exact (replayAppStateFrom_rebuilt clock none s.wal.records s).mono fun _ r hr => ⟨s, hempty, hr⟩
  | some snap =>
    exact .bind (applySnapshot_restored snap s) fun _ b hb =>
      (replayAppStateFrom_rebuilt clock snap.includedWalSeqno s.wal.records b).mono fun _ r hr =>
        ⟨b, hb, hr⟩

end Recovery

/-! ### What every step keeps -/

namespace Machine

variable {env : Env} {m m' : Machine}

/-- The log tells the reservations, what left the enclave is in the log, and the snapshots are what
the log said. -/
structure Safe (env : Env) (m : Machine) : Prop where
  recorded : m.app.Recorded env
  ordered : m.app.wal.Ordered
  nonces : NoncesUsed env m.app
  snapshots : ∀ snap ∈ m.snapshots, snap.Faithful env m.app.wal

theorem Safe.new (env : Env) : Safe env new where
  recorded := .new env
  ordered := ⟨.nil, by simp [Machine.new, AppState.new]⟩
  nonces := .new env
  snapshots := by simp [Machine.new]

theorem Safe.task (h : Safe env m) (task : Task env) :
    Safe env { m with app := task.next m.app } ∧
      Grow m.app.vault.reservations (task.next m.app).vault.reservations := by
  have hmoves := task.moves h.recorded.ids
  obtain ⟨hrecorded, es, happends, htells⟩ := Moves.recorded hmoves h.recorded
  obtain ⟨rs, hrs, -, hge⟩ := happends.records
  refine ⟨⟨hrecorded, h.ordered.appends happends,
    Moves.noncesUsed hmoves h.nonces, fun snap hsnap => ?_⟩, (htells.grow h.recorded.booked).2⟩
  exact (h.snapshots snap hsnap).grow happends.seqno_le hrs hge

theorem Safe.snapshot (h : Safe env m) :
    Safe env { m with snapshots := m.snapshots ++ [captureSnapshot m.app] } := by
  refine ⟨h.recorded, h.ordered, h.nonces, fun snap hsnap => ?_⟩
  rcases List.mem_append.1 hsnap with hsnap | hsnap
  · exact h.snapshots snap hsnap
  · rw [List.mem_singleton.1 hsnap]
    exact .capture h.recorded h.ordered h.nonces

theorem issuedNonce_receiptNonce {e : WalEntry} {n : ℕ} (h : e.issuedNonce? = some n) :
    e.receiptNonce? = some n := by
  cases e <;> first | exact h | cases h

theorem authorizedNonce_raised {e : WalEntry} {n : ℕ} (h : e.authorizedNonce? = some n) :
    e.raisedWithdrawNonce? = some n := by
  cases e <;> first | exact h | cases h

/-- What is durable after a crash in the middle of a task. -/
theorem Safe.crashed (h : Safe env m) (task : Task env) (n : ℕ) {seqno : ℕ}
    (hseqno : (task.next m.app).wal.seqno ≤ seqno) :
    let c := m.app.crashed env (task.next m.app) n seqno
    ∃ reservations, Tells env ∅ (c.wal.records.map (·.entry)) reservations ∧
      Grow m.app.vault.reservations reservations ∧
      Grow reservations (task.next m.app).vault.reservations ∧ c.wal.Ordered ∧
      ∀ snap : Snapshot, snap.Faithful env m.app.wal → snap.Faithful env c.wal := by
  intro c
  have hmoves := task.moves h.recorded.ids
  obtain ⟨-, es, happends, htells⟩ := Moves.recorded hmoves h.recorded
  obtain ⟨rs, hrs, hentries, hge⟩ := happends.records
  have hrecords : c.wal.records = m.app.wal.records ++ rs.take n := by
    rw [AppState.crashed_wal_records, hrs, List.take_length_add_append]
  obtain ⟨reservations, hfirst, hrest⟩ := htells.take n
  have htold : Tells env ∅ (c.wal.records.map (·.entry)) reservations := by
    rw [hrecords, List.map_append, List.map_take, hentries]
    exact h.recorded.tells.trans hfirst
  obtain ⟨hpair, hlt⟩ := h.ordered.appends happends
  refine ⟨reservations, htold, (hfirst.grow h.recorded.booked).2,
    (hrest.grow (htold.grow booked_empty).1).2, ⟨?_, ?_⟩, fun snap hsnap => ?_⟩
  · exact hpair.sublist (List.take_sublist _ _)
  · exact fun record hmem => (hlt record (List.mem_of_mem_take hmem)).trans_le hseqno
  · exact hsnap.grow (happends.seqno_le.trans hseqno) hrecords
      fun record hmem => hge record (List.mem_of_mem_take hmem)

/-- The counters of a recovered enclave are above the nonces in its log. -/
theorem Safe.recovered_nonces {rules : Rules} (h : Safe env m) {s' : AppState}
    (hmoves : Moves env rules m.app s') {n seqno : ℕ} {app b : AppState} {snap : Snapshot}
    (hwal : app.wal = (m.app.crashed env s' n seqno).wal)
    (hsent : app.sent = (m.app.crashed env s' n seqno).sent)
    (hreleased : app.released = (m.app.crashed env s' n seqno).released)
    (hordered : (m.app.crashed env s' n seqno).wal.records.Pairwise fun r r' => r.seqno < r'.seqno)
    (hsnap : snap.Faithful env (m.app.crashed env s' n seqno).wal)
    (hrestored : Restored snap (m.app.crashed env s' n seqno) b)
    (hrebuilt : Rebuilt env (snap.later (m.app.crashed env s' n seqno).wal.records) b app) :
    NoncesUsed env app := by
  set c := m.app.crashed env s' n seqno with hc
  have hnonces : NoncesUsed env s' := Moves.noncesUsed hmoves h.nonces
  have hsub : ∀ e, c.wal.Has e → s'.wal.Has e := fun e ⟨record, hmem, he⟩ =>
    ⟨record, List.mem_of_mem_take hmem, he⟩
  have hparts : ∀ e, c.wal.Has e → ∃ record, record.entry = e ∧
      (record ∈ snap.old c.wal.records ∨ record ∈ snap.later c.wal.records) := by
    rintro e ⟨record, hmem, he⟩
    rw [← snap.old_append_later hordered] at hmem
    exact ⟨record, he, List.mem_append.1 hmem⟩
  have hhas : ∀ e, c.wal.records.any (·.entry = e) = true → app.wal.Has e := by
    intro e hany
    obtain ⟨record, hmem, he⟩ := List.any_eq_true.1 hany
    exact ⟨record, hwal ▸ hmem, by simpa using he⟩
  constructor
  · intro e he k hk
    obtain ⟨record, rfl, hmem | hmem⟩ := hparts e (hwal ▸ he)
    · have hlt := hsnap.issued record hmem k hk
      rw [← hrestored.receiptNonce] at hlt
      exact hlt.trans_le hrebuilt.receiptNonce_le
    · exact hrebuilt.receiptNonce record hmem k (issuedNonce_receiptNonce hk)
  · intro e he k hk
    obtain ⟨record, rfl, hmem | hmem⟩ := hparts e (hwal ▸ he)
    · have hlt := hsnap.authorized record hmem k hk
      rw [← hrestored.withdrawNonce] at hlt
      exact hlt.trans_le hrebuilt.withdrawNonce_le
    · exact hrebuilt.withdrawNonce record hmem k (authorizedNonce_raised hk)
  · exact fun e e' he he' =>
      hnonces.authorizedOnce e e' (hsub e (hwal ▸ he)) (hsub e' (hwal ▸ he'))
  · intro r hr
    rw [hsent] at hr
    exact hhas _ (List.mem_filter.1 hr).2
  · rw [hsent]
    exact hnonces.sentOnce.sublist List.filter_sublist
  · intro w hw
    rw [hreleased] at hw
    exact hhas _ (List.mem_filter.1 hw).2

theorem Safe.crash (h : Safe env m) (task : Task env) (n : ℕ) {seqno : ℕ}
    (hseqno : (task.next m.app).wal.seqno ≤ seqno) {snapshot : Option Snapshot}
    (hsnapshot : ∀ snap, snapshot = some snap → snap ∈ m.snapshots) (clock : ℕ → ℤ)
    {app : AppState}
    (hrun : (recover env clock snapshot (m.app.crashed env (task.next m.app) n seqno).wal.records).run
      (m.app.crashed env (task.next m.app) n seqno) = (.ok (), app)) :
    Safe env { m with app } ∧ Grow m.app.vault.reservations app.vault.reservations ∧
      Grow app.vault.reservations (task.next m.app).vault.reservations := by
  obtain ⟨reservations, htold, hgrow, hgrow', hordered, hfaithful⟩ := h.crashed task n hseqno
  obtain ⟨b, hrestored, hrebuilt⟩ := recover_rebuilt clock snapshot rfl _ _ hrun
  set c := m.app.crashed env (task.next m.app) n seqno with hc
  set snap := snapshot.getD (captureSnapshot .new) with hsnap
  have hsnapFaithful : snap.Faithful env c.wal := by
    cases hs : snapshot with
    | none =>
      rw [hsnap, hs]
      exact .empty c.wal
    | some snap' =>
      rw [hsnap, hs]
      exact hfaithful snap' (h.snapshots snap' (hsnapshot snap' hs))
  have hsplit : (snap.old c.wal.records).map (·.entry) ++ (snap.later c.wal.records).map (·.entry)
      = c.wal.records.map (·.entry) := by
    rw [← List.map_append, snap.old_append_later hordered.1]
  have hbase : b.vault.reservations
      = ((snap.old c.wal.records).map (·.entry)).foldl (WalEntry.onReservations env) ∅ :=
    hrestored.reservations.trans hsnapFaithful.tells.eq_foldl
  have hlater : Tells env b.vault.reservations ((snap.later c.wal.records).map (·.entry))
      reservations := by
    have hsplitted := htold
    rw [← hsplit] at hsplitted
    obtain ⟨m₁, hfirst, hrest⟩ := hsplitted.take ((snap.old c.wal.records).map (·.entry)).length
    rw [List.take_left] at hfirst
    rw [List.drop_left] at hrest
    rwa [hbase, ← hfirst.eq_foldl]
  have hreservations : app.vault.reservations = reservations :=
    hrebuilt.reservations.trans hlater.eq_foldl.symm
  have hwal : app.wal = c.wal := hrebuilt.outside.wal.trans hrestored.outside.wal
  have hmoves := task.moves h.recorded.ids
  refine ⟨⟨⟨?_, fun key r hr => ?_⟩, hwal ▸ hordered, ?_, fun snap' hsnap' => ?_⟩,
    hreservations ▸ hgrow, hreservations ▸ hgrow'⟩
  · rw [hwal, hreservations]
    exact htold
  · rw [hreservations] at hr
    obtain ⟨r', hr', -⟩ := hgrow' key r hr
    have hdrawn : (task.next m.app).drawn ≤ app.drawn :=
      hrestored.outside.drawn.trans hrebuilt.outside.drawn
    exact ((Moves.recorded hmoves h.recorded).1.ids key r' hr').mono hdrawn
  · exact h.recovered_nonces hmoves hwal (hrebuilt.outside.sent.trans hrestored.outside.sent)
      (hrebuilt.outside.released.trans hrestored.outside.released) hordered.1 hsnapFaithful
      hrestored hrebuilt
  · exact hwal ▸ hfaithful snap' (h.snapshots snap' hsnap')

/-- **Every step keeps it**, and no reservation is lost. -/
theorem Step.safe (hstep : Step env m m') (h : Safe env m) :
    Safe env m' ∧ Grow m.app.vault.reservations m'.app.vault.reservations := by
  obtain ⟨_, hdoes⟩ := hstep
  cases hdoes with
  | task _ done => exact h.task done
  | snapshot => exact ⟨h.snapshot, .refl _⟩
  | crash _ cut n seqno hseqno hsnapshot clock hrun =>
    obtain ⟨hsafe, hgrow, -⟩ := h.crash cut n hseqno hsnapshot clock hrun
    exact ⟨hsafe, hgrow⟩

/-- So does every run. -/
theorem Steps.safe (hsteps : Steps env m m') (h : Safe env m) :
    Safe env m' ∧ Grow m.app.vault.reservations m'.app.vault.reservations := by
  induction hsteps with
  | refl => exact ⟨h, .refl _⟩
  | tail _ hlast ih =>
    obtain ⟨hsafe, hgrow⟩ := hlast.safe ih.1
    exact ⟨hsafe, ih.2.trans hgrow⟩

/-- It holds of every machine that can come from a first start. -/
theorem Reachable.safe (h : Reachable env m) : Safe env m := (Steps.safe h (.new env)).1

end Machine

end Subly402
