/-
# Every deposit is found

The deposit detector (`enclave/src/deposit_detector.rs`) is one task.  It catches up with
the finalized transactions after `last_processed_signature`, page by page; then it
subscribes, and handles what is finalized from then on; when the connection breaks it
catches up again.  Both ways of delivery move the same cursor.
-/

import Subly402.Lib.Pages
import Subly402.Enclave.BalanceSync

namespace Subly402

open Lib

namespace Deposits

/-! ### The world -/

/-- `SIGNATURE_PAGE_LIMIT`. -/
def signaturePageLimit : ℕ := 1000

/-- Where the detector's task is. -/
inductive Phase where
  | idle
  /-- `fetch_balance_sync_events` asks for pages, and has these signatures, newest first. -/
  | paging (mark : Option String) (infos : List String)
  /-- It looks the transactions up, oldest first. -/
  | fetching (todo : List String) (events : List BalanceSyncEvent)
  /-- `process_new_deposits` applies the events. -/
  | applying (events : List BalanceSyncEvent)
  | connecting
  /-- The subscription is open; what was finalized before it, and what it has still to deliver. -/
  | live (past queue : List Tx)

/-- The enclave, the finalized transactions that mention the vault's token account, oldest first,
and the detector's task. -/
structure World where
  app : AppState
  history : List Tx
  phase : Phase
  /-- What was added to whose deposits on account of which transaction (ghost). -/
  credited : List (String × Pubkey × ℕ)

/-- What happens in the world.  Every question to the chain may go unanswered. -/
inductive Act (env : Env) where
  | finalize (tx : Tx)
  | op (op : Op env) (other : op.signature? = none)
  | catchUp
  | page (answered : Bool)
  | fetch (answered : Bool)
  | apply (now : ℤ)
  | subscribe (acknowledged : Bool)
  | notify (answered : Bool) (now : ℤ)
  | disconnect

/-- What the client's deposits grew by. -/
def gain (s s' : AppState) (event : BalanceSyncEvent) : List (Pubkey × ℕ) :=
  if s.vault.deposited event.client < s'.vault.deposited event.client then
    [(event.client, s'.vault.deposited event.client - s.vault.deposited event.client)]
  else []

namespace World

/-- Before anything happened. -/
def new : World where
  app := .new
  history := []
  phase := .idle
  credited := []

variable (w : World)

/-- The signatures of the finalized transactions. -/
def signatures : List String := w.history.map (·.signature)

/-- What was credited on account of a transaction. -/
def creditsOf (signature : String) : List (Pubkey × ℕ) :=
  (w.credited.filter (·.1 = signature)).map (·.2)

/-- The transactions that the open subscription has still to deliver. -/
def queue : List Tx :=
  match w.phase with
  | .live _ queue => queue
  | _ => []

/-- The transactions that were finalized before the open subscription. -/
def past : List Tx :=
  match w.phase with
  | .live past _ => past
  | _ => []

/-- Apply an event, and go on as it came out. -/
def handle (env : Env) (event : BalanceSyncEvent) (now : ℤ) (done failed : Phase) : World :=
  let out := (Detector.applyBalanceSyncEvent env event now).run w.app
  { w with
    app := out.2
    phase := match out.1 with
      | .ok _ => done
      | .error _ => failed
    credited := w.credited ++ (gain w.app out.2 event).map (event.signature, ·) }

variable (env : Env) (config : DetectorConfig)

/-- A catch-up that has its last page looks the transactions up. -/
def nextPage (mark : Option String) (infos : List String) : Phase :=
  let page := page w.signatures infos.getLast? mark signaturePageLimit
  if page.length < signaturePageLimit then .fetching (infos ++ page).reverse []
  else .paging mark (infos ++ page)

/-- The event of a transaction that is to be looked up. -/
def lookUp (signature : String) : Option BalanceSyncEvent :=
  (w.history.find? (·.signature = signature)).bind (·.parseBalanceSyncTransaction env config)

/-- The world after an act.  A failed catch-up goes on to the subscription. -/
def next : Act env → World
  | .finalize tx =>
    if tx.signature ∉ w.signatures ∧ ∀ d ∈ tx.deposits env config, 0 < d.2 then
      { w with
        history := w.history ++ [tx]
        phase := match w.phase with
          | .live past queue => .live past (queue ++ [tx])
          | phase => phase }
    else w
  | .op op _ => { w with app := w.app.next op }
  | .catchUp =>
    match w.phase with
    | .idle => { w with phase := .paging w.app.lastProcessedSignature [] }
    | _ => w
  | .page answered =>
    match w.phase with
    | .paging mark infos =>
      { w with phase := if answered then w.nextPage mark infos else .connecting }
    | _ => w
  | .fetch answered =>
    match w.phase with
    | .fetching (signature :: todo) events =>
      if signature ∈ w.app.processedSignatures then { w with phase := .fetching todo events }
      else if answered then
        { w with phase := .fetching todo (events ++ (w.lookUp env config signature).toList) }
      else { w with phase := .connecting }
    | .fetching [] events => { w with phase := .applying events }
    | _ => w
  | .apply now =>
    match w.phase with
    | .applying (event :: events) => w.handle env event now (.applying events) .connecting
    | .applying [] => { w with phase := .connecting }
    | _ => w
  | .subscribe acknowledged =>
    match w.phase with
    | .connecting => { w with phase := if acknowledged then .live w.history [] else .idle }
    | _ => w
  | .notify answered now =>
    match w.phase with
    | .live past (tx :: queue) =>
      if tx.failed ∨ tx.signature ∈ w.app.processedSignatures then
        { w with phase := .live past queue }
      else if answered then
        match tx.parseBalanceSyncTransaction env config with
        | some event => w.handle env event now (.live past queue) .idle
        | none => { w with phase := .live past queue }
      else { w with phase := .idle }
    | _ => w
  | .disconnect =>
    match w.phase with
    | .live .. => { w with phase := .idle }
    | _ => w

/-- The world after some acts. -/
def run (acts : List (Act env)) : World := acts.foldl (fun w act => w.next env config act) w

/-- No deposit is credited twice, and those that are not credited are newer than the cursor or
will still be delivered. -/
def Found : Prop :=
  ∀ tx ∈ w.history, (w.creditsOf tx.signature).Sublist (tx.deposits env config) ∧
    (w.creditsOf tx.signature = tx.deposits env config ∨
      tx.signature ∈ newer w.signatures w.app.lastProcessedSignature ∨ tx ∈ w.queue)

/-- The condition.  The detector finds all that a transaction deposits, and when a notification is
handled, no deposit that was finalized before the subscription is missing. -/
def Timely : Act env → Prop
  | .finalize tx => tx.deposits env config = tx.found env config
  | .notify .. => ∀ tx ∈ w.past, tx.deposits env config = [] ∨
      tx.signature ∈ w.app.processedSignatures
  | _ => True

/-- Every act meets the condition where it happens. -/
def TimelyFrom (w : World) : List (Act env) → Prop
  | [] => True
  | act :: acts => w.Timely env config act ∧ (w.next env config act).TimelyFrom acts

end World

/-! ### What an event adds -/

theorem gain_of_same {s s' : AppState} {event : BalanceSyncEvent} (h : s'.memory = s.memory) :
    gain s s' event = [] := by
  simp only [AppState.memory, Prod.mk.injEq] at h
  rw [gain, h.2.2, if_neg (lt_irrefl _)]

theorem gain_of_deposited {s s' : AppState} {event : BalanceSyncEvent}
    (h : s'.vault.deposited event.client = s.vault.deposited event.client + event.deposited)
    (hpos : ∀ d ∈ event.credits, 0 < d.2) : gain s s' event = event.credits := by
  rw [gain, h]
  cases event with
  | deposit event =>
    have hamount : 0 < event.amount := hpos (event.client, event.amount) (by
      simp [BalanceSyncEvent.credits])
    simp [BalanceSyncEvent.deposited, BalanceSyncEvent.credits, BalanceSyncEvent.client, hamount]
  | withdraw event => simp [BalanceSyncEvent.deposited, BalanceSyncEvent.credits]

/-! ### The invariant -/

namespace World

variable {w w' : World} {env : Env} {config : DetectorConfig}

/-- There is nothing left to do for the transaction. -/
def Done (w : World) (env : Env) (config : DetectorConfig) (tx : Tx) : Prop :=
  tx.found env config = [] ∨ tx.signature ∈ w.app.processedSignatures

/-- The event that a catch-up has for a transaction. -/
def pending (w : World) (env : Env) (config : DetectorConfig) (tx : Tx) : Option BalanceSyncEvent :=
  if tx.signature ∈ w.app.processedSignatures then none
  else tx.parseBalanceSyncTransaction env config

/-- What the task has in hand, of the transactions after the cursor. -/
def Tracks (w : World) (env : Env) (config : DetectorConfig) (rest : List Tx) : Phase → Prop
  | .idle | .connecting => True
  | .paging mark infos => mark = w.app.lastProcessedSignature ∧ ∃ missing got new,
      rest = missing ++ (got ++ new) ∧ infos.reverse = got.map (·.signature) ∧
        (got = [] → new = [])
  | .fetching todo events => ∃ looked got new, rest = looked ++ (got ++ new) ∧
      todo = got.map (·.signature) ∧ events = looked.filterMap (w.pending env config)
  | .applying events => ∃ got new, rest = got ++ new ∧
      events = got.filterMap (w.pending env config)
  | .live past queue => ∃ handled, w.history = past ++ (handled ++ queue) ∧
      ∀ tx ∈ handled, w.Done env config tx

structure Inv (env : Env) (config : DetectorConfig) (w : World) : Prop where
  recorded : w.app.Recorded env
  nodup : w.signatures.Nodup
  whole : ∀ tx ∈ w.history, tx.deposits env config = tx.found env config
  positive : ∀ tx ∈ w.history, ∀ d ∈ tx.deposits env config, 0 < d.2
  processed : ∀ signature ∈ w.app.processedSignatures, signature ∈ w.signatures
  credits : ∀ tx ∈ w.history, w.creditsOf tx.signature
    = if tx.signature ∈ w.app.processedSignatures then tx.found env config else []
  noted : ∀ credit ∈ w.credited, credit.1 ∈ w.app.processedSignatures
  cursor : ∃ read rest, w.history = read ++ rest ∧
    EndsAt (read.map (·.signature)) w.app.lastProcessedSignature ∧
    (∀ tx ∈ read, w.Done env config tx) ∧ w.Tracks env config rest w.phase

theorem Inv.new : Inv env config new where
  recorded := .new env
  nodup := .nil
  whole := by simp [World.new]
  positive := by simp [World.new]
  processed := by simp [World.new, AppState.new]
  credits := by simp [World.new]
  noted := by simp [World.new]
  cursor := ⟨[], [], rfl, .inl ⟨rfl, rfl⟩, by simp, trivial⟩

/-- What the invariant says of the deposits. -/
theorem Inv.found (h : Inv env config w) : w.Found env config := by
  intro tx htx
  rw [h.credits tx htx, h.whole tx htx]
  refine ⟨?_, ?_⟩
  · split
    · exact List.Sublist.refl _
    · exact List.nil_sublist _
  by_cases hdone : w.Done env config tx
  · rcases hdone with hnone | hmem
    · simp [hnone]
    · simp [hmem]
  · obtain ⟨read, rest, hhistory, hends, hread, -⟩ := h.cursor
    have hrest : tx ∈ rest := by
      rw [hhistory] at htx
      exact (List.mem_append.1 htx).resolve_left fun hmem => hdone (hread tx hmem)
    have hnodup := h.nodup
    rw [signatures, hhistory, List.map_append] at hnodup
    refine .inr (.inl ?_)
    rw [signatures, hhistory, List.map_append, newer_eq hnodup hends]
    exact List.mem_map_of_mem hrest

/-! ### What keeps it -/

/-- The task goes on, and nothing else changes. -/
theorem Inv.setPhase (h : Inv env config w) {phase : Phase}
    (hphase : ∀ read rest, w.history = read ++ rest →
      EndsAt (read.map (·.signature)) w.app.lastProcessedSignature →
      w.Tracks env config rest w.phase → w.Tracks env config rest phase) :
    Inv env config { w with phase } := by
  obtain ⟨read, rest, hhistory, hends, hread, htracks⟩ := h.cursor
  exact ⟨h.recorded, h.nodup, h.whole, h.positive, h.processed, h.credits, h.noted, read, rest,
    hhistory, hends, hread, hphase read rest hhistory hends htracks⟩

/-- What is tracked depends on the detector's memory and the history only. -/
theorem Tracks.congr {rest : List Tx} {phase : Phase}
    (hprocessed : w'.app.processedSignatures = w.app.processedSignatures)
    (hlast : w'.app.lastProcessedSignature = w.app.lastProcessedSignature)
    (hhistory : w'.history = w.history) (h : w.Tracks env config rest phase) :
    w'.Tracks env config rest phase := by
  have hpending : w'.pending env config = w.pending env config := by
    funext tx
    rw [pending, hprocessed, pending]
  cases phase with
  | idle | connecting => trivial
  | paging mark infos => simpa only [Tracks, hlast] using h
  | fetching todo events => simpa only [Tracks, hpending] using h
  | applying events => simpa only [Tracks, hpending] using h
  | live past queue => simpa only [Tracks, Done, hprocessed, hhistory] using h

/-- The enclave does something else. -/
theorem Inv.setApp (h : Inv env config w) {app : AppState} (hrecorded : app.Recorded env)
    (hprocessed : app.processedSignatures = w.app.processedSignatures)
    (hlast : app.lastProcessedSignature = w.app.lastProcessedSignature) :
    Inv env config { w with app } := by
  obtain ⟨read, rest, hhistory, hends, hread, htracks⟩ := h.cursor
  refine ⟨hrecorded, h.nodup, h.whole, h.positive, ?_, fun tx htx => ?_, ?_, read, rest, hhistory, ?_,
    fun tx htx => ?_, htracks.congr hprocessed hlast rfl⟩
  · rw [hprocessed]
    exact h.processed
  · rw [hprocessed]
    exact h.credits tx htx
  · rw [hprocessed]
    exact h.noted
  · rw [hlast]
    exact hends
  · rw [Done, hprocessed]
    exact hread tx htx

/-- A transaction that is finalized is ahead of the cursor. -/
theorem Inv.finalize (h : Inv env config w) {tx : Tx} (hnew : tx.signature ∉ w.signatures)
    (hpos : ∀ d ∈ tx.deposits env config, 0 < d.2)
    (hwhole : tx.deposits env config = tx.found env config) {phase : Phase}
    (hphase : phase = match w.phase with
      | .live past queue => .live past (queue ++ [tx])
      | phase => phase) :
    Inv env config { w with history := w.history ++ [tx], phase } := by
  have hunmarked : tx.signature ∉ w.app.processedSignatures := fun hmem => hnew (h.processed _ hmem)
  obtain ⟨read, rest, hhistory, hends, hread, htracks⟩ := h.cursor
  refine ⟨h.recorded, ?_, ?_, ?_, fun signature hmem => ?_, ?_, h.noted, read, rest ++ [tx], ?_,
    hends, hread, ?_⟩
  · simp only [signatures, List.map_append, List.map_singleton]
    exact h.nodup.append (List.nodup_singleton _) (by simpa using hnew)
  · simp only [List.forall_mem_append, List.forall_mem_singleton]
    exact ⟨h.whole, hwhole⟩
  · simp only [List.forall_mem_append, List.forall_mem_singleton]
    exact ⟨h.positive, hpos⟩
  · simp only [signatures, List.map_append]
    exact List.mem_append_left _ (h.processed signature hmem)
  · simp only [List.forall_mem_append, List.forall_mem_singleton]
    refine ⟨h.credits, ?_⟩
    rw [if_neg hunmarked, creditsOf, List.map_eq_nil_iff, List.filter_eq_nil_iff]
    intro credit hcredit
    have hne : credit.1 ≠ tx.signature := fun heq => hunmarked (heq ▸ h.noted credit hcredit)
    simpa using hne
  · rw [hhistory, List.append_assoc]
  · subst hphase
    cases hw : w.phase with
    | idle | connecting => trivial
    | paging mark infos =>
      rw [hw] at htracks
      obtain ⟨hmark, missing, got, new, rfl, hinfos, hgot⟩ := htracks
      cases got with
      | nil => exact ⟨hmark, missing ++ [tx], [], [], by simp [hgot rfl], hinfos, fun _ => rfl⟩
      | cons a got => exact ⟨hmark, missing, a :: got, new ++ [tx], by simp, hinfos, by simp⟩
    | fetching todo events =>
      rw [hw] at htracks
      obtain ⟨looked, got, new, rfl, htodo, hevents⟩ := htracks
      exact ⟨looked, got, new ++ [tx], by simp, htodo, hevents⟩
    | applying events =>
      rw [hw] at htracks
      obtain ⟨got, new, rfl, hevents⟩ := htracks
      exact ⟨got, new ++ [tx], by simp, hevents⟩
    | live past queue =>
      rw [hw] at htracks
      obtain ⟨handled, hlive, hdone⟩ := htracks
      exact ⟨handled, by simp [hlive], hdone⟩

/-- The event of a transaction of the history is marked and credited. -/
theorem Inv.marked (h : Inv env config w) {read : List Tx} {tx : Tx} {rest : List Tx}
    {event : BalanceSyncEvent} (hhistory : w.history = read ++ tx :: rest)
    (hread : ∀ tx ∈ read, w.Done env config tx)
    (hparse : tx.parseBalanceSyncTransaction env config = some event) {app : AppState}
    (hrecorded : app.Recorded env) (hnew : event.signature ∉ w.app.processedSignatures)
    (hprocessed : app.processedSignatures = insert event.signature w.app.processedSignatures)
    (hlast : app.lastProcessedSignature = some event.signature)
    (hdeposited : app.vault.deposited event.client
      = w.app.vault.deposited event.client + event.deposited) {phase : Phase}
    (hphase : ∀ w' : World, w'.history = w.history →
      w'.app.processedSignatures = insert tx.signature w.app.processedSignatures →
      w'.Tracks env config rest phase) :
    Inv env config
      { w with
        app, phase
        credited := w.credited ++ (gain w.app app event).map (event.signature, ·) } := by
  have hsignature := Tx.signature_of_parse hparse
  have htx : tx ∈ w.history := by simp [hhistory]
  have hgain : gain w.app app event = tx.found env config := by
    rw [Tx.found_of_parse hparse]
    refine gain_of_deposited hdeposited fun d hd => h.positive tx htx d ?_
    rw [h.whole tx htx, Tx.found_of_parse hparse]
    exact hd
  rw [hsignature] at hprocessed hlast hnew ⊢
  have hdone : ∀ t, w.Done env config t → t.found env config = [] ∨
      t.signature ∈ app.processedSignatures := fun t ht =>
    ht.imp_right fun hmem => by rw [hprocessed]; exact Finset.mem_insert_of_mem hmem
  refine ⟨hrecorded, h.nodup, h.whole, h.positive, ?_, fun t ht => ?_, ?_, read ++ [tx], rest, ?_, ?_,
    ?_, hphase _ rfl hprocessed⟩
  · rw [hprocessed, Finset.forall_mem_insert]
    exact ⟨List.mem_map_of_mem htx, h.processed⟩
  · -- the credits of this transaction are new, those of the others as they were
    have hcredits := h.credits t ht
    rw [creditsOf] at hcredits
    rw [creditsOf, List.filter_append, List.map_append, hcredits, hprocessed, hgain]
    by_cases hsame : t.signature = tx.signature
    · have heq : t = tx := List.inj_on_of_nodup_map h.nodup ht htx hsame
      subst heq
      rw [if_neg hnew, if_pos (Finset.mem_insert_self _ _)]
      simp [Function.comp_def, List.filter_map]
    · have hother : ((tx.found env config).map (tx.signature, ·)).filter (·.1 = t.signature) = [] := by
        refine List.filter_eq_nil_iff.2 fun credit hcredit => ?_
        obtain ⟨d, -, rfl⟩ := List.mem_map.1 hcredit
        simpa using Ne.symm hsame
      rw [hother, List.map_nil, List.append_nil]
      simp [Finset.mem_insert, hsame]
  · intro credit hcredit
    rw [hprocessed, Finset.mem_insert]
    rcases List.mem_append.1 hcredit with hmem | hmem
    · exact .inr (h.noted credit hmem)
    · obtain ⟨d, -, rfl⟩ := List.mem_map.1 hmem
      exact .inl rfl
  · rw [hhistory]
    simp
  · exact .inr ⟨tx.signature, read.map (·.signature), hlast, by simp⟩
  · simp only [List.forall_mem_append, List.forall_mem_singleton]
    refine ⟨fun t ht => hdone t (hread t ht), .inr ?_⟩
    rw [hprocessed]
    exact Finset.mem_insert_self _ _

/-- **An event is handled**, where all that is older has been dealt with. -/
theorem Inv.handle (h : Inv env config w) {read : List Tx} {tx : Tx} {rest : List Tx}
    {event : BalanceSyncEvent} (hhistory : w.history = read ++ tx :: rest)
    (hread : ∀ tx ∈ read, w.Done env config tx) (hnew : tx.signature ∉ w.app.processedSignatures)
    (hparse : tx.parseBalanceSyncTransaction env config = some event) (now : ℤ) {done failed : Phase}
    (hdone : ∀ w' : World, w'.history = w.history →
      w'.app.processedSignatures = insert tx.signature w.app.processedSignatures →
      w'.Tracks env config rest done)
    (hfailed : ∀ (w' : World) rest, w'.Tracks env config rest failed) :
    Inv env config (w.handle env event now done failed) := by
  have hmarks : event.Marks w.app ((Detector.applyBalanceSyncEvent env event now).run w.app).2 :=
    Detector.applyBalanceSyncEvent_marks event now w.app
  have hrecorded := Detector.applyBalanceSyncEvent_recorded event now h.recorded
  rw [World.handle]
  rcases hrun : (Detector.applyBalanceSyncEvent env event now).run w.app with ⟨result, app⟩
  rw [hrun] at hmarks hrecorded
  cases hmarks with
  | same hmemory =>
    have hcredited : w.credited ++ (gain w.app app event).map (event.signature, ·) = w.credited := by
      rw [gain_of_same hmemory, List.map_nil, List.append_nil]
    simp only [AppState.memory, Prod.mk.injEq] at hmemory
    cases result with
    | error e =>
      simp only [hcredited]
      exact (h.setApp hrecorded hmemory.1 hmemory.2.1).setPhase fun _ rest _ _ _ => hfailed _ rest
    | ok a =>
      -- a success is marked
      have hmem := Detector.applyBalanceSyncEvent_returns event now w.app a app hrun
      rw [Tx.signature_of_parse hparse, hmemory.1] at hmem
      exact absurd hmem hnew
  | marked hfresh hprocessed hlast hdeposited =>
    refine h.marked hhistory hread hparse hrecorded hfresh hprocessed hlast hdeposited
      fun w' hw' hp' => ?_
    cases result with
    | error e => exact hfailed w' rest
    | ok a => exact hdone w' hw' hp'

/-- A page is the end of what is missing. -/
theorem Inv.page (h : Inv env config w) {mark : Option String} {infos : List String}
    (hw : w.phase = .paging mark infos) :
    Inv env config { w with phase := w.nextPage mark infos } := by
  refine h.setPhase fun read rest hhistory hends htracks => ?_
  rw [hw] at htracks
  obtain ⟨rfl, missing, got, new, rfl, hinfos, hgot⟩ := htracks
  have hlast : infos.getLast? = (got.map (·.signature)).head? := by
    rw [← hinfos, List.head?_reverse]
  have hsignatures : w.signatures = read.map (·.signature) ++ (missing.map (·.signature)
      ++ (got.map (·.signature) ++ new.map (·.signature))) := by
    simp [signatures, hhistory]
  obtain ⟨missing', chunk, hmissing, hpage, hall⟩ := page_eq signaturePageLimit
    (hsignatures ▸ h.nodup) hends fun hnil => by simp [hgot (List.map_eq_nil_iff.1 hnil)]
  obtain ⟨earlier, found, rfl, hearlier, hfound⟩ := List.map_eq_append_iff.1 hmissing
  rw [nextPage, hsignatures, hlast, hpage, List.length_reverse]
  split
  · next hlt =>
    -- the page is not full, so nothing is missing any more
    have hnone : earlier = [] := List.map_eq_nil_iff.1 (hearlier.trans (hall hlt))
    refine ⟨[], found ++ got, new, by simp [hnone], ?_, rfl⟩
    simp [hinfos, ← hfound]
  · next hfull =>
    refine ⟨rfl, earlier, found ++ got, new, by simp, by simp [hinfos, ← hfound], fun hnil => ?_⟩
    exact hgot (List.append_eq_nil_iff.1 hnil).2

theorem Inv.lookUp_eq (h : Inv env config w) {tx : Tx} (htx : tx ∈ w.history) :
    w.lookUp env config tx.signature = tx.parseBalanceSyncTransaction env config := by
  cases hfind : w.history.find? (·.signature = tx.signature) with
  | none => exact absurd (List.find?_eq_none.1 hfind tx htx) (by simp)
  | some t =>
    have hsame : t.signature = tx.signature := by simpa using List.find?_some hfind
    have heq : t = tx :=
      List.inj_on_of_nodup_map h.nodup (List.mem_of_find?_eq_some hfind) htx hsame
    rw [World.lookUp, hfind, heq]
    rfl

theorem Inv.fetch (h : Inv env config w) (answered : Bool) :
    Inv env config (w.next env config (.fetch answered : Act env)) := by
  simp only [World.next]
  split
  · next signature todo events hw =>
    have hstep : ∀ found : List BalanceSyncEvent, (∀ tx ∈ w.history, tx.signature = signature →
        (w.pending env config tx).toList = found) →
        Inv env config { w with phase := .fetching todo (events ++ found) } := by
      intro found hfound
      refine h.setPhase fun read rest hhistory _ htracks => ?_
      rw [hw] at htracks
      obtain ⟨looked, got, new, rfl, htodo, rfl⟩ := htracks
      cases got with
      | nil => cases htodo
      | cons tx got =>
        rw [List.map_cons, List.cons.injEq] at htodo
        refine ⟨looked ++ [tx], got, new, by simp, htodo.2, ?_⟩
        rw [List.filterMap_append, ← hfound tx (by simp [hhistory]) htodo.1.symm]
        cases hp : w.pending env config tx <;> simp [hp]
    split
    · next hmem =>
      have hskip := hstep [] fun tx _ heq => by simp [pending, heq, hmem]
      rwa [List.append_nil] at hskip
    · next hnew =>
      split
      · exact hstep _ fun tx htx heq => by rw [← heq, h.lookUp_eq htx, pending, if_neg (heq ▸ hnew)]
      · exact h.setPhase fun _ _ _ _ _ => trivial
  · next events hw =>
    refine h.setPhase fun read rest _ _ htracks => ?_
    rw [hw] at htracks
    obtain ⟨looked, got, new, rfl, htodo, hevents⟩ := htracks
    exact ⟨looked, got ++ new, rfl, hevents⟩
  · exact h

/-- The next event of a catch-up is that of the first transaction with something left to do. -/
theorem Inv.apply (h : Inv env config w) (now : ℤ) :
    Inv env config (w.next env config (.apply now : Act env)) := by
  simp only [World.next]
  split
  · next event events hw =>
    obtain ⟨read, rest, hhistory, hends, hread, htracks⟩ := h.cursor
    rw [hw] at htracks
    obtain ⟨got, new, rfl, hevents⟩ := htracks
    obtain ⟨idle, tx, later, rfl, hidle, htx, hlater⟩ := List.filterMap_eq_cons_iff.1 hevents.symm
    have hnew : tx.signature ∉ w.app.processedSignatures := fun hmem => by
      simp [pending, hmem] at htx
    have hparse : tx.parseBalanceSyncTransaction env config = some event := by
      rwa [pending, if_neg hnew] at htx
    have hsplit : w.history = (read ++ idle) ++ tx :: (later ++ new) := by simp [hhistory]
    refine h.handle hsplit (fun t ht => ?_) hnew hparse now (fun w' _ hprocessed => ?_)
      fun _ _ => trivial
    · rcases List.mem_append.1 ht with ht | ht
      · exact hread t ht
      · have hnone := hidle t ht
        rw [pending] at hnone
        split at hnone
        · next hmem => exact .inr hmem
        · exact .inl (Tx.found_of_parse_none hnone)
    · -- the events that are left are those of other transactions
      refine ⟨later, new, rfl, hlater.symm.trans (List.filterMap_congr fun t ht => ?_)⟩
      have hne : t.signature ≠ tx.signature := by
        have hnodup := h.nodup
        rw [signatures, hsplit, List.map_append, List.map_cons] at hnodup
        have hnot := (List.nodup_cons.1 (List.nodup_append.1 hnodup).2.1).1
        exact fun heq => hnot (heq ▸ List.mem_map_of_mem (List.mem_append_left _ ht))
      simp [pending, hprocessed, hne]
  · exact h.setPhase fun _ _ _ _ _ => trivial
  · exact h

/-- A notification, where nothing from before the subscription is missing. -/
theorem Inv.notify (h : Inv env config w) (answered : Bool) (now : ℤ)
    (htimely : w.Timely env config (.notify answered now)) :
    Inv env config (w.next env config (.notify answered now)) := by
  simp only [World.next]
  split
  · next past tx queue hw =>
    obtain ⟨_, _, -, -, -, htracks⟩ := h.cursor
    rw [hw] at htracks
    obtain ⟨handled, hhistory, hhandled⟩ := htracks
    have hskip : w.Done env config tx →
        Inv env config { w with phase := .live past queue } := fun hdone => by
      refine h.setPhase fun _ _ _ _ _ => ⟨handled ++ [tx], by simp [hhistory], ?_⟩
      simp only [List.forall_mem_append, List.forall_mem_singleton]
      exact ⟨hhandled, hdone⟩
    split
    · next hor =>
      refine hskip (hor.imp_left fun hfailed => ?_)
      exact Tx.found_of_parse_none (by simp [Tx.parseBalanceSyncTransaction, hfailed])
    · next hnot =>
      have hnew : tx.signature ∉ w.app.processedSignatures := fun hmem => hnot (.inr hmem)
      split
      · split
        · next event hparse =>
          have hsplit : w.history = (past ++ handled) ++ tx :: queue := by simp [hhistory]
          refine h.handle hsplit (fun t ht => ?_) hnew hparse now (fun w' hw' hprocessed => ?_)
            fun _ _ => trivial
          · rcases List.mem_append.1 ht with ht | ht
            · have hpast := htimely t (by simpa [World.past, hw] using ht)
              rwa [h.whole t (by simp [hhistory, ht])] at hpast
            · exact hhandled t ht
          · refine ⟨handled ++ [tx], by simp [hw', hhistory], ?_⟩
            simp only [List.forall_mem_append, List.forall_mem_singleton, Done, hprocessed]
            exact ⟨fun t ht => (hhandled t ht).imp_right (Finset.mem_insert_of_mem ·),
              .inr (Finset.mem_insert_self _ _)⟩
        · next hparse => exact hskip (.inl (Tx.found_of_parse_none hparse))
      · exact h.setPhase fun _ _ _ _ _ => trivial
  · exact h

/-- **What every act keeps**, where the condition holds. -/
theorem Inv.next (h : Inv env config w) (act : Act env) (hact : w.Timely env config act) :
    Inv env config (w.next env config act) := by
  cases act with
  | finalize tx =>
    simp only [World.next]
    split
    · next hnew => exact h.finalize hnew.1 hnew.2 hact rfl
    · exact h
  | op op other =>
    obtain ⟨hprocessed, hlast, hrecorded⟩ := AppState.next_memory h.recorded other
    exact h.setApp hrecorded hprocessed hlast
  | catchUp =>
    simp only [World.next]
    split
    · refine h.setPhase fun _ rest _ _ _ => ⟨rfl, rest, [], [], by simp, rfl, fun _ => rfl⟩
    · exact h
  | page answered =>
    simp only [World.next]
    split
    · next hw =>
      split
      · exact h.page hw
      · exact h.setPhase fun _ _ _ _ _ => trivial
    · exact h
  | fetch answered => exact h.fetch answered
  | apply now => exact h.apply now
  | subscribe acknowledged =>
    simp only [World.next]
    split
    · split
      · exact h.setPhase fun _ _ _ _ _ => ⟨[], by simp, by simp⟩
      · exact h.setPhase fun _ _ _ _ _ => trivial
    · exact h
  | notify answered now => exact h.notify answered now hact
  | disconnect =>
    simp only [World.next]
    split
    · exact h.setPhase fun _ _ _ _ _ => trivial
    · exact h

/-- **Every deposit is found**: in every run that meets the condition, each finalized deposit is
credited once, or is newer than the cursor or still to be delivered. -/
theorem run_found (env : Env) (config : DetectorConfig) (acts : List (Act env))
    (h : new.TimelyFrom env config acts) : (new.run env config acts).Found env config := by
  have hrun : ∀ (acts : List (Act env)) w, Inv env config w → w.TimelyFrom env config acts →
      Inv env config (w.run env config acts) := by
    intro acts
    induction acts with
    | nil => exact fun _ hw _ => hw
    | cons act acts ih => exact fun w hw hacts => ih _ (hw.next act hacts.1) hacts.2
  exact (hrun acts new .new h).found

end World

namespace Shop

/-- The program and the vault's token account. -/
def config : DetectorConfig := { programId := .fill 7, vaultTokenAccount := .fill 9 }

/-- A deposit of five by the key of ones. -/
def pay : Instruction :=
  { programId := some (.fill 7), data := List.replicate 8 0 ++ leBytes 8 5
    accounts := [some (.fill 1), some (.fill 8), some (.fill 2), some (.fill 9)] }

/-- A transaction with one such deposit. -/
def tx (signature : String) : Tx :=
  { signature, slot := 1, failed := false, instructions := [pay], inner := [] }

/-- A catch-up that finds one transaction, up to the subscription. -/
def caughtUp : List (Act Subly402.Shop.world) :=
  [.finalize (tx "a"), .catchUp, .page true, .fetch true, .fetch true, .apply 0, .apply 0]

/-- The next transaction comes over the subscription. -/
def delivered : List (Act Subly402.Shop.world) :=
  caughtUp ++ [.subscribe true, .finalize (tx "b"), .notify true 1]

/-- A transaction is finalized between the catch-up and the subscription. -/
def gap : List (Act Subly402.Shop.world) :=
  caughtUp ++ [.finalize (tx "b"), .subscribe true, .finalize (tx "c"), .notify true 1]

end Shop

/-- A deposit that is delivered. -/
theorem World.run_found_delivered :
    World.new.TimelyFrom Subly402.Shop.world Shop.config Shop.delivered ∧
      (World.new.run Subly402.Shop.world Shop.config Shop.delivered).Found Subly402.Shop.world
        Shop.config := by
  have h : World.new.TimelyFrom Subly402.Shop.world Shop.config Shop.delivered := by
    refine ⟨?_, trivial, trivial, trivial, trivial, trivial, trivial, trivial, ?_, ?_, trivial⟩ <;>
      (rw [World.Timely]; decide +kernel)
  exact ⟨h, World.run_found _ _ _ h⟩

/-- The deposit that was finalized in the gap is not credited, and no catch-up will find it. -/
theorem World.gap_lost :
    ¬ (World.new.run Subly402.Shop.world Shop.config Shop.gap).Found Subly402.Shop.world
        Shop.config ∧
      (World.new.run Subly402.Shop.world Shop.config Shop.gap).app.vault.deposited (.fill 1) = 10 := by
  refine ⟨fun h => ?_, by decide +kernel⟩
  have hmem : Shop.tx "b" ∈ (World.new.run Subly402.Shop.world Shop.config Shop.gap).history := by
    decide +kernel
  obtain hcredited | hnewer | hqueue := (h (Shop.tx "b") hmem).2
  · exact absurd hcredited (by decide +kernel)
  · exact absurd hnewer (by decide +kernel)
  · exact absurd hqueue (by decide +kernel)

end Deposits
end Subly402
