/-
# The books across crashes

What `Machine` does to the money, over runs whose tasks are regular.  The log tells the
books of the running enclave, and a restart reads it back, from wherever a snapshot was
captured and however much of the last task it has (`RegularSteps.chronicled`).  So what
is owed to whom never depends on crashes: every movement of money stands for one entry
of the log.
-/

import Subly402.Enclave.Crash
import Subly402.Enclave.Recovery
import Subly402.Ledger.Chronicle
import Subly402.Ledger.CreditIds

namespace Subly402

open Lib
open Lib.Prog (Returns)

variable {env : Env} {s : AppState} {supply : Supply} {snapshot : Option Snapshot} {l : Ledger}

/-! ### Regular tasks -/

/-- What the enclave relies on when it runs a task. -/
def Task.Relies {env : Env} (s : AppState) : Task env → Prop
  | .op (.settle _ _) => True
  | .op operation => operation.Told s
  | .reserve req _ => 0 < req.amount ∧ ∃ provider, s.vault.providers[req.providerId]? = some provider
  | .receipt .. => True
  | .seed .. | .tidy .. => False

/-- A regular task.  The deposits of a client stay below the bound of a `u64`, as the supply of the
token does. -/
structure Task.Regular {env : Env} (s : AppState) (task : Task env) : Prop where
  relies : task.Relies s
  fits : ∀ client, ((task.next s).vault.balance client).totalDeposited < u64Bound

/-- The log tells all that a regular task does. -/
theorem Task.Regular.logged {task : Task env} (h : task.Regular s) (hs : AppInv env s)
    (halive : s.vault.ledger.CreditsAlive) : Logged env s (task.next s) := by
  cases task with
  | op op =>
    refine (step_effect hs op).logged ?_
    have hrelies := h.relies
    cases op with
    | settle => exact halive
    | _ => exact hrelies
  | reserve req t =>
    obtain ⟨hpos, provider, hprovider⟩ := h.relies
    simp only [next]
    split
    · next client hclient =>
      exact (Handlers.reserveAndLog_effect hs req t hclient hprovider : Effect ..).logged hpos
    · exact .refl env s
  | receipt => exact leaves_issueParticipantReceiptLocked ..
  | seed | tidy => exact h.relies.elim

/-! ### Recovery -/

section Recovery

variable {env : Env} {l l' : Ledger} {s : AppState}

/-- The refreshes after a snapshot leave the books. -/
theorem recomputeLockExpiries_follows (h : Follows l s) (clients : List Pubkey) :
    (recomputeLockExpiries clients).Returns s fun _ b => Follows l b := by
  induction clients generalizing s with
  | nil => exact .pure h
  | cons client clients ih =>
    obtain ⟨e, he⟩ | ⟨_, v, hv, balance, hb, rfl⟩ :=
      refreshClientMaxLockExpiresAt_clean client s.vault
    · intro _ _ hrun
      simp [recomputeLockExpiries, he, Except.mapError] at hrun
    · exact .run_bind (by simp [hv, Except.mapError]; exact ⟨rfl, rfl⟩) (ih (h.refresh hb _))

/-- **Where replaying a part of the log succeeds, the books are what that part explains.** -/
theorem replayAppStateFrom_follows (h : Follows l s) (hw : l.WellFormed) (hsums : l.Conserved)
    (clock : ℕ → ℤ) {after : Option ℕ} {records : List WalRecord}
    (hexp : Explains env supply l
      ((records.filter fun record => after.all (· < record.seqno)).map (·.entry)) l')
    (hfit : ∀ c, (l'.account c).deposited < u64Bound) :
    (replayAppStateFrom env clock after records).Returns s fun _ r => Follows l' r := by
  refine .bind (hexp.returns hw hsums hfit h rfl) fun _ r hr => .get_bind ?_
  refine (Returns.of_reaches (hr.reaches_refreshClients fun c hc => ?_)).mono fun _ _ h => h.follows
  exact Option.isSome_iff_exists.1 (by simpa using hc)

/-- A restart from a snapshot, or from none, begins with the books of the snapshot. -/
theorem recover_follows (hvault : s.vault = .new) {snap : Snapshot}
    (hsnap : snap = snapshot.getD (captureSnapshot .new)) (hinv : AppInv env (s.restore snap))
    (clock : ℕ → ℤ)
    (hexp : Explains env supply (s.restore snap).vault.ledger
      ((snap.later s.wal.records).map (·.entry)) l')
    (hfit : ∀ c, (l'.account c).deposited < u64Bound) :
    (recover env clock snapshot s.wal.records).Returns s fun _ r => Follows l' r := by
  have hfollows : Follows (s.restore snap).vault.ledger (s.restore snap) :=
    ⟨rfl, hinv.onRecord, hinv.nonces⟩
  cases snapshot with
  | none =>
    subst hsnap
    have hbooks : s.vault.ledger = (s.restore (captureSnapshot .new)).vault.ledger := by
      rw [hvault]
      rfl
    refine replayAppStateFrom_follows ⟨hbooks, fun client hc => ?_, fun n w hw => ?_⟩ hinv.shape
      hinv.sums clock hexp hfit
    · obtain ⟨balance, hb⟩ := hinv.onRecord client hc
      exact ⟨balance, hvault ▸ hb⟩
    · rw [hvault]
      exact hinv.nonces n w hw
  | some snap' =>
    subst hsnap
    refine .bind (.modify_bind (.get_bind (recomputeLockExpiries_follows hfollows _)))
      fun _ b hb => ?_
    exact replayAppStateFrom_follows hb hinv.shape hinv.sums clock hexp hfit

/-- The books after a restart are in order. -/
theorem Follows.inv {r : AppState} {es : List WalEntry} (h : Follows l' r) (hs : AppInv env s)
    (hexp : Explains env supply s.vault.ledger es l') (hdrawn : s.drawn ≤ supply.ids)
    (hids : supply.ids = r.drawn) (hfit : ∀ c, (l'.account c).deposited < u64Bound) :
    AppInv env r := by
  obtain ⟨hbooks, honRecord, hnonces⟩ := h
  subst hbooks
  exact ⟨hexp.evolves.wellFormed hs.shape, hexp.evolves.conserved hs.shape hs.sums,
    hids ▸ hexp.evolves.ids hs.ids hdrawn, hnonces, honRecord, hfit⟩

end Recovery

/-! ### Regular runs -/

/-- The invariant is about the vault and the supply of ids. -/
theorem AppInv.of_vault {s' : AppState} (h : AppInv env s) (hvault : s'.vault = s.vault)
    (hdrawn : s.drawn ≤ s'.drawn) : AppInv env s' := by
  constructor <;> rw [hvault]
  · exact h.shape
  · exact h.sums
  · exact h.ids.imp fun _ hid => hid.mono hdrawn
  · exact h.nonces
  · exact h.onRecord
  · exact h.fits

/-- What a client has deposited never goes down. -/
theorem Evolves.deposited_le {l' : Ledger} (h : Evolves env supply l l') (client : Pubkey) :
    (l.account client).deposited ≤ (l'.account client).deposited := by
  induction h with
  | refl => exact le_rfl
  | dropCredit _ _ ih => exact ih
  | @event l' ev _ _ _ ih => exact ih.trans (l'.deposited_le_apply ev client)

/-- The vault has the books, but for the index of payment ids. -/
def VaultState.Shows (v : VaultState) (l : Ledger) : Prop :=
  v.ledger = l.reindexed v.paymentIdIndex

theorem VaultState.Shows.of_reindexed {v : VaultState} {index : FiniteMap String String}
    (h : v.ledger = l.reindexed index) : v.Shows l := by
  have hindex : v.paymentIdIndex = index := congrArg Ledger.paymentIdIndex h
  rw [Shows, hindex, h]

/-- A snapshot is captured in order. -/
theorem AppInv.capture (h : AppInv env s) :
    AppInv env (s.setVault (captureSnapshot s).vault) :=
  ⟨h.shape, h.sums, h.ids, h.nonces, h.onRecord, h.fits⟩

/-- And brought back so, with a new index of payment ids. -/
theorem AppInv.restore {s' : AppState} {snap : Snapshot} (h : AppInv env (s.setVault snap.vault))
    (hdrawn : s.drawn ≤ s'.drawn) :
    AppInv env (s'.restore snap) := by
  have hids : snap.vault.ledger.IdsIn (env.Drawn s'.drawn) := h.ids.imp fun _ hid => hid.mono hdrawn
  obtain ⟨hshape, hsums, -, hnonces, honRecord, hfits⟩ := h
  exact ⟨⟨hshape.1, hshape.2, hshape.3, hshape.4, hshape.5, hshape.6, hshape.7⟩,
    ⟨hsums.locked, hsums.total⟩, ⟨hids.1, hids.2, hids.3, hids.4, hids.5, hids.6⟩, hnonces,
    honRecord, hfits⟩

namespace Machine

/-- The entries in the log. -/
def entries (m : Machine) : List WalEntry := m.app.wal.records.map (·.entry)

/-- One step, where a task that runs or is cut short is regular. -/
def RegularStep (env : Env) (m m' : Machine) : Prop :=
  ∃ task, (∀ t, task = some t → t.Regular m.app) ∧ Does env task m m'

/-- Any number of them. -/
abbrev RegularSteps (env : Env) : Machine → Machine → Prop := Relation.ReflTransGen (RegularStep env)

variable {env : Env} {books : ℕ → Ledger} {m m' : Machine}

/-- The log tells the books, now and when the snapshots were captured. -/
structure Chronicled (env : Env) (books : ℕ → Ledger) (m : Machine) : Prop where
  start : books 0 = VaultState.new.ledger
  log : ∃ hi, Chronicle env ⟨0, m.app.drawn, 0, hi⟩ books m.entries
  inv : AppInv env m.app
  shows : m.app.vault.Shows (books m.entries.length)
  snapshots : ∀ snap ∈ m.snapshots, AppInv env (m.app.setVault snap.vault) ∧
    snap.vault.Shows (books (snap.old m.app.wal.records).length)

/-- The log tells the books of the start, and nothing. -/
theorem Chronicled.new (env : Env) : Chronicled env (fun _ => VaultState.new.ledger) new where
  start := rfl
  log := ⟨0, fun k e he => by simp [Machine.entries, Machine.new, AppState.new] at he⟩
  inv := (RunInv.new env).toAppInv
  shows := rfl
  snapshots := by simp [Machine.new]

/-- The log explains all books. -/
theorem Chronicled.explains (h : Chronicled env books m) :
    ∃ supply, Explains env supply VaultState.new.ledger m.entries (books m.entries.length) := by
  obtain ⟨hi, hlog⟩ := h.log
  have hexp := Chronicle.explains (List.nil_append m.entries ▸ hlog)
  exact ⟨_, h.start ▸ hexp⟩

/-- Every credit is worth something. -/
theorem Chronicled.alive (h : Chronicled env books m) : m.app.vault.ledger.CreditsAlive := by
  obtain ⟨supply, hexp⟩ := h.explains
  rw [h.shows]
  refine (hexp.alive ?_).credits
  rw [VaultState.ledger_new]
  constructor <;> simp [Ledger.CreditsAlive]

/-- **A regular task keeps the chronicle, and adds to it.** -/
theorem Chronicled.task (h : Chronicled env books m) (hsafe : Safe env m) {task : Task env}
    (htask : task.Regular m.app) : ∃ books' es, (∀ k ≤ m.entries.length, books' k = books k) ∧
      m.app.wal.Appends es (task.next m.app).wal ∧
      Chronicled env books' { m with app := task.next m.app } := by
  have hlogged := htask.logged h.inv h.alive
  obtain ⟨es, happends, -, hexp⟩ := hlogged.log
  obtain ⟨hi, hlog⟩ := h.log
  -- the books that the log tells move as those of the vault
  obtain ⟨index, hexp⟩ := hexp.reindexed (books m.entries.length).paymentIdIndex
  rw [h.shows] at hexp
  set supply : Supply := ⟨0, (task.next m.app).drawn, 0, max hi (task.next m.app).vault.withdrawNonce⟩
  replace hlog : Chronicle env supply books m.entries :=
    hlog.mono ⟨le_rfl, hlogged.still.drawn, le_rfl, le_max_left _ _⟩
  obtain ⟨books', hsame, hlast, hbooks'⟩ := hlog.extend
    (hexp.mono ⟨Nat.zero_le _, le_rfl, Nat.zero_le _, le_max_right _ _⟩)
  have hentries : entries { m with app := task.next m.app } = m.entries ++ es := happends.entries
  refine ⟨books', es, hsame, happends, ?_, ⟨_, hentries ▸ hbooks'⟩, ?_, ?_, fun snap hsnap => ?_⟩
  · rw [hsame 0 (Nat.zero_le _), h.start]
  · exact hlogged.inv h.inv htask.fits
  · rw [hentries, hlast]
    rfl
  · obtain ⟨hinv, hshows⟩ := h.snapshots snap hsnap
    obtain ⟨rs, hrs, -, hge⟩ := happends.records
    have hold : snap.old (task.next m.app).wal.records = snap.old m.app.wal.records := by
      rw [hrs, (hsafe.snapshots snap hsnap).old_append hge]
    refine ⟨hinv.of_vault rfl hlogged.still.drawn, ?_⟩
    rw [hold, hsame _ ?_]
    · exact hshows
    · rw [Machine.entries, List.length_map]
      exact List.length_filter_le _ _

/-- The snapshot that a restart takes, or an empty one. -/
theorem Chronicled.restores (h : Chronicled env books m) {wal : Wal}
    (hold : ∀ snap ∈ m.snapshots, snap.old wal.records = snap.old m.app.wal.records)
    (hsnapshot : ∀ snap, snapshot = some snap → snap ∈ m.snapshots)
    (hdrawn : m.app.drawn ≤ s.drawn) :
    AppInv env (s.restore (snapshot.getD (captureSnapshot .new))) ∧
      (snapshot.getD (captureSnapshot .new)).vault.Shows
        (books ((snapshot.getD (captureSnapshot .new)).old wal.records).length) := by
  cases snapshot with
  | none =>
    have hnone : (captureSnapshot .new).old wal.records = [] :=
      List.filter_eq_nil_iff.2 fun _ _ => by simp [Wal.lastSeqno, AppState.new]
    refine ⟨(RunInv.new env).toAppInv.capture.restore (Nat.zero_le _), ?_⟩
    rw [Option.getD_none, hnone, List.length_nil, h.start]
    rfl
  | some snap =>
    obtain ⟨hinv, hshows⟩ := h.snapshots snap (hsnapshot snap rfl)
    exact ⟨hinv.restore hdrawn, by rwa [Option.getD_some, hold snap (hsnapshot snap rfl)]⟩

/-- **A restart from the first records of the log has the books that they tell.** -/
theorem Chronicled.restart (h : Chronicled env books m) {c : AppState} (hvault : c.vault = .new)
    (hdrawn : m.app.drawn ≤ c.drawn) {rest : List WalRecord}
    (hordered : c.wal.records.Pairwise fun r r' => r.seqno < r'.seqno)
    (hrecords : m.app.wal.records = c.wal.records ++ rest)
    (hold : ∀ snap ∈ m.snapshots, snap.old c.wal.records = snap.old m.app.wal.records)
    (hsnapshot : ∀ snap, snapshot = some snap → snap ∈ m.snapshots) (clock : ℕ → ℤ) {app : AppState}
    (hrun : (recover env clock snapshot c.wal.records).run c = (.ok (), app)) :
    Chronicled env books { m with app } := by
  obtain ⟨b, hrestored, hrebuilt⟩ := recover_rebuilt clock snapshot hvault _ _ hrun
  obtain ⟨hinv, hshows⟩ := h.restores hold hsnapshot hdrawn
  obtain ⟨hi, hlog⟩ := h.log
  set snap := snapshot.getD (captureSnapshot .new) with hsnap
  have hwal : app.wal = c.wal := hrebuilt.outside.wal.trans hrestored.outside.wal
  have hdrawn' : c.drawn ≤ app.drawn := hrestored.outside.drawn.trans hrebuilt.outside.drawn
  have hentries : m.entries = entries { m with app } ++ rest.map (·.entry) := by
    rw [Machine.entries, hrecords, List.map_append, ← hwal]
    rfl
  have hsplit : entries { m with app }
      = (snap.old c.wal.records).map (·.entry) ++ (snap.later c.wal.records).map (·.entry) := by
    rw [← List.map_append, snap.old_append_later hordered, ← hwal]
    rfl
  replace hlog : Chronicle env ⟨0, app.drawn, 0, hi⟩ books _ :=
    (hentries ▸ hlog).mono ⟨le_rfl, hdrawn.trans hdrawn', le_rfl, le_rfl⟩
  -- the records after the snapshot explain the books from the snapshot on
  have hexp := Chronicle.explains (hsplit ▸ hlog.left)
  rw [← hsplit, List.length_map] at hexp
  obtain ⟨index, hexp⟩ := hexp.reindexed (rebuildPaymentIdIndex snap.vault.reservations)
  have hbooks : (c.restore snap).vault.ledger = (books (snap.old c.wal.records).length).reindexed
      (rebuildPaymentIdIndex snap.vault.reservations) :=
    congrArg (Ledger.reindexed · (rebuildPaymentIdIndex snap.vault.reservations)) hshows
  rw [← hbooks] at hexp
  have hfit : ∀ client, ((books (entries { m with app }).length).account client).deposited
      < u64Bound := by
    intro client
    have hle := hlog.explains.evolves.deposited_le client
    have hlt := h.inv.fits client
    rw [h.shows, hentries] at hlt
    exact hle.trans_lt hlt
  have hfollows := recover_follows hvault hsnap hinv clock hexp hfit _ _ hrun
  refine ⟨h.start, ⟨hi, hlog.left⟩, hfollows.inv hinv hexp hdrawn' rfl hfit,
    .of_reindexed hfollows.books, fun snap' hsnap' => ?_⟩
  obtain ⟨hinv', hshows'⟩ := h.snapshots snap' hsnap'
  refine ⟨hinv'.of_vault rfl (hdrawn.trans hdrawn'), ?_⟩
  rw [hwal, hold snap' hsnap']
  exact hshows'

/-- **A regular step keeps the chronicle, and adds to it.** -/
theorem Chronicled.step (h : Chronicled env books m) (hsafe : Safe env m)
    (hstep : RegularStep env m m') : ∃ books', (∀ k ≤ m.entries.length, books' k = books k) ∧
      Chronicled env books' m' ∧ ∃ es, m'.entries = m.entries ++ es := by
  obtain ⟨_, hregular, hdoes⟩ := hstep
  cases hdoes with
  | task _ task =>
    obtain ⟨books', es, hsame, happends, h'⟩ := h.task hsafe (hregular task rfl)
    exact ⟨books', hsame, h', es, happends.entries⟩
  | snapshot =>
    refine ⟨books, fun _ _ => rfl, { h with snapshots := fun snap hsnap => ?_ }, [], by simp; rfl⟩
    rcases List.mem_append.1 hsnap with hsnap | hsnap
    · exact h.snapshots snap hsnap
    · rw [List.mem_singleton.1 hsnap, Snapshot.old_capture hsafe.ordered]
      refine ⟨h.inv.capture, ?_⟩
      have hlength : m.app.wal.records.length = m.entries.length := (List.length_map _).symm
      rw [hlength]
      exact h.shows
  | crash _ task n seqno hseqno hsnapshot clock hrun =>
    obtain ⟨books', es, hsame, happends, h'⟩ := h.task hsafe (hregular task rfl)
    obtain ⟨-, -, -, -, hordered, -⟩ := hsafe.crashed task n hseqno
    obtain ⟨rs, hrs, -, hge⟩ := happends.records
    have hrecords : (m.app.crashed env (task.next m.app) n seqno).wal.records
        = m.app.wal.records ++ rs.take n := by
      rw [AppState.crashed_wal_records, hrs, List.take_length_add_append]
    have hold : ∀ snap ∈ m.snapshots, ∀ k, snap.old (m.app.wal.records ++ rs.take k)
        = snap.old m.app.wal.records := fun snap hsnap k =>
      (hsafe.snapshots snap hsnap).old_append fun r hr => hge r (List.mem_of_mem_take hr)
    obtain ⟨b, hrestored, hrebuilt⟩ := recover_rebuilt clock _ rfl _ _ hrun
    have hrest : (task.next m.app).wal.records
        = (m.app.crashed env (task.next m.app) n seqno).wal.records ++ rs.drop n := by
      rw [hrecords, List.append_assoc, List.take_append_drop, hrs]
    refine ⟨books', hsame, h'.restart (c := m.app.crashed env (task.next m.app) n seqno) rfl le_rfl
      hordered.1 hrest (fun snap hsnap => ?_) hsnapshot clock hrun, (rs.take n).map (·.entry), ?_⟩
    · rw [hrecords, hold snap hsnap n, hrs, ← hold snap hsnap rs.length, List.take_length]
    · rw [Machine.entries, hrebuilt.outside.wal.trans hrestored.outside.wal, hrecords, List.map_append]
      rfl

/-- **The log tells the books of every regular run**, and goes on telling them. -/
theorem RegularSteps.chronicled (hsteps : RegularSteps env m m') (hsafe : Safe env m)
    (h : Chronicled env books m) : ∃ books', (∀ k ≤ m.entries.length, books' k = books k) ∧
      Chronicled env books' m' ∧ ∃ es, m'.entries = m.entries ++ es := by
  suffices hboth : Safe env m' ∧ ∃ books', (∀ k ≤ m.entries.length, books' k = books k) ∧
      Chronicled env books' m' ∧ ∃ es, m'.entries = m.entries ++ es from hboth.2
  induction hsteps with
  | refl => exact ⟨hsafe, books, fun _ _ => rfl, h, [], by simp⟩
  | tail _ hlast ih =>
    obtain ⟨hsafe', books', hsame, h', es, hes⟩ := ih
    obtain ⟨books'', hsame', h'', es', hes'⟩ := h'.step hsafe' hlast
    refine ⟨?_, books'', fun k hk => ?_, h'', es ++ es', ?_⟩
    · exact (Step.safe ⟨_, hlast.choose_spec.2⟩ hsafe').1
    · rw [hsame' k (hk.trans (by simp [hes])), hsame k hk]
    · rw [hes', hes, List.append_assoc]

end Machine

/-! ### What closing a reservation does -/

/-- Where the amount of a reservation goes when the entry closes it: back to the client, or to the
credit of the provider, which names the settlement from then on. -/
def WalEntry.MovesAmount (r : Reservation) (l l' : Ledger) : WalEntry → Prop
  | .reservationCancelled _ _ | .reservationExpired _ =>
    l'.account = Function.update l.account r.client ((l.account r.client).release r.amount) ∧
      l'.credits = l.credits
  | .settlementCommitted settlementId _ _ _ _ =>
    l'.account = Function.update l.account r.client ((l.account r.client).spend r.amount) ∧
      ∃ provider, l.providers[r.providerId]? = some provider ∧
        l'.credits = l.credits.insert r.providerId (creditProvider r.providerId
          provider.settlementTokenAccount r.amount settlementId 0 l.credits[r.providerId]?)
  | _ => False

/-- **An entry that closes a reservation moves its amount.** -/
theorem Says.closing {l' : Ledger} {e : WalEntry} {id : String} (h : Says env supply l e l')
    (hc : e.closed? = some id) :
    ∃ r, l.reservations[id]? = some r ∧ r.status = .reserved ∧ e.MovesAmount r l l' := by
  cases h with
  | note hnote => cases e <;> simp_all [WalEntry.isNote, WalEntry.closed?]
  | event he _ hmeans =>
    cases hmeans with
    | cancel | expire =>
      cases hc
      obtain ⟨-, r, hr, hst⟩ := he
      refine ⟨r, hr, hst, ?_⟩
      simp only [Ledger.apply, hr]
      exact ⟨rfl, rfl⟩
    | settle settlementId t =>
      cases hc
      obtain ⟨-, r, provider, hr, hst, hp⟩ := he
      refine ⟨r, hr, hst, ?_⟩
      simp only [Ledger.apply, Ledger.settle, hr, hp]
      exact ⟨rfl, provider, hp, rfl⟩
    | register hread => cases e <;> simp_all [decodeRegistration, WalEntry.closed?]
    | _ => cases hc

end Subly402
