/-
# The store of the watchtower

`watchtower/src/receipt_store.rs` under concurrent requests.  A request compares its nonce
with the stored one, inserts its receipt, collects the entries of the map and writes them
to the file, and between any two of these other requests run.  A restart loads the file.
-/

import Subly402.Watchtower.Receipts
import Subly402.Lib.Runs

namespace Subly402
namespace Watchtower

open Lib Chain

/-- `storage_key`. -/
def ReceiptKey.storageKey (env : Env) (key : ReceiptKey) : String :=
  env.pubkeyToString key.vault ++ ":" ++ env.pubkeyToString key.participant ++ ":"
    ++ toString key.participantKind

/-- The receipts in memory, by storage key. -/
abbrev Receipts := FiniteMap String StoredReceipt

namespace Receipts

/-- The comparison of `store_receipt`. -/
def shouldStore (receipts : Receipts) (storageKey : String) (receipt : StoredReceipt) : Bool :=
  match receipts[storageKey]? with
  | some existing => decide (existing.nonce < receipt.nonce)
  | none => true

/-- `get_nonce`. -/
def getNonce (receipts : Receipts) (storageKey : String) : ℕ :=
  (receipts[storageKey]?).elim 0 StoredReceipt.nonce

/-- `load_from_disk`, where the file exists. -/
def loadFromDisk (file : Option (List (String × StoredReceipt))) : Receipts :=
  (file.getD []).foldl (fun receipts (key, receipt) => receipts.insert key receipt) ∅

/-- No nonce is lower than before. -/
def Grows (receipts receipts' : Receipts) : Prop :=
  ∀ entry ∈ receipts.toList, entry.2.nonce ≤ receipts'.getNonce entry.1

instance (receipts receipts' : Receipts) : Decidable (receipts.Grows receipts') :=
  inferInstanceAs (Decidable (∀ entry ∈ receipts.toList, _))

theorem grows_iff {receipts receipts' : Receipts} : receipts.Grows receipts' ↔
    ∀ storageKey, receipts.getNonce storageKey ≤ receipts'.getNonce storageKey := by
  constructor
  · intro h k
    unfold getNonce
    cases hget : receipts[k]? with
    | none => exact Nat.zero_le _
    | some receipt => exact h (k, receipt) (FiniteMap.mem_toList_iff.2 hget)
  · rintro h ⟨k, receipt⟩ hmem
    have hget : receipts[k]? = some receipt := FiniteMap.mem_toList_iff.1 hmem
    have hle := h k
    rwa [getNonce, hget] at hle

theorem Grows.refl (receipts : Receipts) : receipts.Grows receipts :=
  grows_iff.2 fun _ => le_rfl

/-- **An insertion that finds its comparison true only raises nonces.** -/
theorem grows_insert {receipts : Receipts} {storageKey : String} {receipt : StoredReceipt}
    (h : receipts.shouldStore storageKey receipt = true) :
    receipts.Grows (receipts.insert storageKey receipt) := by
  refine grows_iff.2 fun k => ?_
  unfold getNonce
  rw [FiniteMap.lookup_insert]
  split
  · next hk =>
    subst hk
    unfold shouldStore at h
    cases hget : receipts[k]? with
    | none => exact Nat.zero_le _
    | some existing =>
      rw [hget] at h
      exact (of_decide_eq_true h).le
  · exact le_rfl

@[simp]
theorem getNonce_insert_self (receipts : Receipts) (storageKey : String) (receipt : StoredReceipt) :
    getNonce (receipts.insert storageKey receipt) storageKey = receipt.nonce := by
  simp [getNonce]

/-- What was collected loads as it was. -/
theorem loadFromDisk_toList (receipts : Receipts) : loadFromDisk (some receipts.toList) = receipts :=
  FiniteMap.foldl_insert_toList receipts

end Receipts

/-! ### Requests that run at the same time -/

/-- Where a request that found its receipt newer is. -/
inductive Phase where
  | inserting
  | collecting
  | writing (entries : List (String × StoredReceipt))
  | responding

/-- A request of `post_store_receipt` under way. -/
structure Task where
  key : ReceiptKey
  receipt : StoredReceipt
  phase : Phase

/-- The watchtower: its memory, the file as the last completed write left it, the requests under way,
and what was acknowledged as stored (ghost). -/
structure World where
  receipts : Receipts
  file : Option (List (String × StoredReceipt))
  tasks : FiniteMap ℕ Task
  nextTask : ℕ
  acked : List (ReceiptKey × ℕ)

/-- What happens: a request comes and is compared, a request under way takes its next step, and a
restart. -/
inductive Act where
  | request (req : StoredReceipt) (vaultSigner : Bytes32)
  | advance (task : ℕ) (completed : Bool)
  | restart

namespace World

/-- Before anything happened. -/
def new : World := { receipts := ∅, file := none, tasks := ∅, nextTask := 0, acked := [] }

/-- The request goes on. -/
def setTask (w : World) (id : ℕ) (task : Task) : World :=
  { w with tasks := w.tasks.insert id task }

variable (env : Env) (expectedVault : Option Pubkey)

/-- `post_store_receipt` up to the comparison of `store_receipt`. -/
def compare (w : World) (req : StoredReceipt) (vaultSigner : Bytes32) : World :=
  match validateStoreReceiptRequestInner env req expectedVault vaultSigner with
  | .error _ => w
  | .ok (key, receipt) =>
    if w.receipts.shouldStore (key.storageKey env) receipt then
      { w.setTask w.nextTask ⟨key, receipt, .inserting⟩ with nextTask := w.nextTask + 1 }
    else w

/-- The next step of a request under way; `completed` is whether a write completes. -/
def advance (w : World) (id : ℕ) (completed : Bool) (task : Task) : World :=
  match task.phase with
  | .inserting =>
    { w.setTask id { task with phase := .collecting } with
      receipts := w.receipts.insert (task.key.storageKey env) task.receipt }
  | .collecting => w.setTask id { task with phase := .writing w.receipts.toList }
  | .writing entries =>
    { w.setTask id { task with phase := .responding } with
      file := if completed then some entries else w.file }
  | .responding =>
    { w with tasks := w.tasks.erase id, acked := (task.key, task.receipt.nonce) :: w.acked }

/-- The watchtower after something happened. -/
def next (w : World) : Act → World
  | .request req vaultSigner => w.compare env expectedVault req vaultSigner
  | .advance id completed =>
    match w.tasks[id]? with
    | none => w
    | some task => w.advance env id completed task
  | .restart => { w with receipts := .loadFromDisk w.file, tasks := ∅ }

/-- What the next step of a request needs not to lose anything: an insertion finds its comparison
still true, and a write completes and finds no nonce in the file that is newer than those it has
collected. -/
def StepSerial (w : World) (completed : Bool) (task : Task) : Prop :=
  match task.phase with
  | .inserting => w.receipts.shouldStore (task.key.storageKey env) task.receipt = true
  | .writing entries =>
    completed = true ∧ (Receipts.loadFromDisk w.file).Grows (.loadFromDisk (some entries))
  | _ => True

instance (w : World) (completed : Bool) (task : Task) :
    Decidable (w.StepSerial env completed task) := by
  unfold StepSerial
  split <;> infer_instance

/-- The condition for a step. -/
def Serial (w : World) : Act → Prop
  | .advance id completed => ∀ task ∈ w.tasks[id]?, w.StepSerial env completed task
  | _ => True

instance (w : World) : DecidablePred (w.Serial env)
  | .advance id completed =>
    inferInstanceAs (Decidable (∀ task ∈ w.tasks[id]?, w.StepSerial env completed task))
  | .request .. | .restart => .isTrue trivial

/-- **The watchtower never goes back**: it holds at least every nonce it acknowledged. -/
def Keeps (w : World) : Prop :=
  ∀ ack ∈ w.acked, ack.2 ≤ w.receipts.getNonce (ack.1.storageKey env)

end World

/-! ### What every step keeps -/

section Keeps

variable {env : Env} {expectedVault : Option Pubkey}

/-- A request that has come so far is in memory, in what it writes, or in the file. -/
def Task.Safe (env : Env) (receipts : Receipts) (file : Option (List (String × StoredReceipt)))
    (task : Task) : Prop :=
  match task.phase with
  | .inserting => True
  | .collecting => task.receipt.nonce ≤ receipts.getNonce (task.key.storageKey env)
  | .writing entries => task.receipt.nonce ≤ receipts.getNonce (task.key.storageKey env) ∧
    task.receipt.nonce ≤ (Receipts.loadFromDisk (some entries)).getNonce (task.key.storageKey env)
  | .responding => task.receipt.nonce ≤ receipts.getNonce (task.key.storageKey env) ∧
    task.receipt.nonce ≤ (Receipts.loadFromDisk file).getNonce (task.key.storageKey env)

theorem Task.Safe.mono {receipts receipts' : Receipts}
    {file file' : Option (List (String × StoredReceipt))} {task : Task}
    (hmemory : receipts.Grows receipts')
    (hfile : (Receipts.loadFromDisk file).Grows (.loadFromDisk file'))
    (h : task.Safe env receipts file) : task.Safe env receipts' file' := by
  have hmemory := Receipts.grows_iff.1 hmemory
  have hfile := Receipts.grows_iff.1 hfile
  obtain ⟨key, receipt, phase⟩ := task
  cases phase with
  | inserting => trivial
  | collecting => exact le_trans h (hmemory _)
  | writing entries => exact ⟨h.1.trans (hmemory _), h.2⟩
  | responding => exact ⟨h.1.trans (hmemory _), h.2.trans (hfile _)⟩

/-- What was acknowledged is in memory and in the file. -/
structure World.Inv (env : Env) (w : World) : Prop where
  memory : ∀ ack ∈ w.acked, ack.2 ≤ w.receipts.getNonce (ack.1.storageKey env)
  file : ∀ ack ∈ w.acked, ack.2 ≤ (Receipts.loadFromDisk w.file).getNonce (ack.1.storageKey env)
  tasks : ∀ (id : ℕ) (task : Task), w.tasks[id]? = some task → task.Safe env w.receipts w.file

namespace World

variable {w : World}

/-- A step in which memory and file grow, and one request goes on. -/
theorem Inv.grow (h : w.Inv env) {id : ℕ} {task : Task} {receipts : Receipts}
    {file : Option (List (String × StoredReceipt))} (hmemory : w.receipts.Grows receipts)
    (hfile : (Receipts.loadFromDisk w.file).Grows (.loadFromDisk file))
    (htask : task.Safe env receipts file) :
    Inv env { w with receipts, file, tasks := w.tasks.insert id task } := by
  refine ⟨fun ack hack => ?_, fun ack hack => ?_, fun id' task' htask' => ?_⟩
  · exact (h.memory ack hack).trans (Receipts.grows_iff.1 hmemory _)
  · exact (h.file ack hack).trans (Receipts.grows_iff.1 hfile _)
  · obtain ⟨rfl, rfl⟩ | htask' := FiniteMap.lookup_insert_cases htask'
    · exact htask
    · exact (h.tasks id' task' htask').mono hmemory hfile

/-- A request that comes in. -/
theorem Inv.compare (h : w.Inv env) (req : StoredReceipt) (vaultSigner : Bytes32) :
    (w.compare env expectedVault req vaultSigner).Inv env := by
  unfold World.compare
  split
  · exact h
  · next key receipt _ =>
    have hsafe : Task.Safe env w.receipts w.file ⟨key, receipt, .inserting⟩ := trivial
    split
    · have hgrow : Inv env (w.setTask w.nextTask ⟨key, receipt, .inserting⟩) :=
        h.grow (.refl _) (.refl _) hsafe
      exact ⟨hgrow.memory, hgrow.file, hgrow.tasks⟩
    · exact h

/-- A request that goes on. -/
theorem Inv.advance (h : w.Inv env) {id : ℕ} {completed : Bool} {task : Task}
    (htask : w.tasks[id]? = some task) (hserial : w.StepSerial env completed task) :
    (w.advance env id completed task).Inv env := by
  have hsafe := h.tasks id task htask
  obtain ⟨key, receipt, phase⟩ := task
  cases phase with
  | inserting =>
    exact h.grow (Receipts.grows_insert hserial) (.refl _) (by simp [Task.Safe])
  | collecting =>
    refine h.grow (.refl _) (.refl _) ⟨hsafe, ?_⟩
    rw [Receipts.loadFromDisk_toList]
    exact hsafe
  | writing entries =>
    obtain ⟨rfl, hgrows⟩ := hserial
    exact h.grow (.refl _) hgrows hsafe
  | responding =>
    refine ⟨?_, ?_, fun id' task' htask' => ?_⟩
    · rintro ack (- | ⟨-, hack⟩)
      · exact hsafe.1
      · exact h.memory ack hack
    · rintro ack (- | ⟨-, hack⟩)
      · exact hsafe.2
      · exact h.file ack hack
    · exact h.tasks id' task' (FiniteMap.lookup_of_erase htask')

/-- **No step that meets the condition loses what was acknowledged.** -/
theorem Inv.next (act : Act) (h : w.Inv env) (hserial : w.Serial env act) :
    (w.next env expectedVault act).Inv env := by
  cases act with
  | request req vaultSigner => exact h.compare req vaultSigner
  | advance id completed =>
    change Inv env (match w.tasks[id]? with | none => w | some task => w.advance env id completed task)
    split
    · exact h
    · next task htask => exact h.advance htask (hserial task htask)
  | restart =>
    -- memory is the file from now on
    exact ⟨h.file, h.file, fun id task htask => by simp [World.next] at htask⟩

/-- **The watchtower never goes back**, in any interleaving of requests and restarts whose steps
meet the condition. -/
theorem run_keeps {acts : List Act}
    (h : AllSteps (World.next env expectedVault) (World.Serial env) new acts) :
    (runSteps (World.next env expectedVault) new acts).Keeps env := by
  have hnew : new.Inv env := ⟨by simp [new], by simp [new], fun id task htask => by
    simp [new] at htask⟩
  exact (AllSteps.keep (fun w act hinv hserial => hinv.next act hserial) hnew h).memory

/-- A nonce that was acknowledged and is not held. -/
theorem not_keeps {key : ReceiptKey} {nonce held : ℕ} (hack : (key, nonce) ∈ w.acked)
    (hheld : w.receipts.getNonce (key.storageKey env) = held) (hlt : held < nonce) :
    ¬ w.Keeps env := by
  intro hkeeps
  have hle := hkeeps _ hack
  rw [hheld] at hle
  exact absurd hle (Nat.not_le.2 hlt)

end World

end Keeps

/-! ### Requests to run -/

namespace Sample

/-- The steps of a request up to its answer. -/
def finish (task : ℕ) : List Act := List.replicate 4 (.advance task true)

/-- Two requests one after the other, and a restart. -/
def inTurn : List Act :=
  .request (receiptOf 5) (.fill 8) :: finish 0 ++ .request (receiptOf 7) (.fill 8) :: finish 1
    ++ [.restart]

/-- The older receipt is compared first and inserted last. -/
def raced : List Act :=
  .request (receiptOf 5) (.fill 8) :: .request (receiptOf 7) (.fill 8) :: finish 1
    ++ [.advance 0 true]

/-- The older request collects the entries before the newer receipt comes, writes them after it was
acknowledged, and the watchtower restarts. -/
def overtaken : List Act :=
  .request (receiptOf 5) (.fill 8) :: .advance 0 true :: .advance 0 true ::
    .request (receiptOf 7) (.fill 8) :: finish 1 ++ [.advance 0 true, .restart]

/-- The client's key. -/
def clientKey : ReceiptKey := ⟨.fill 9, .fill 1, 0⟩

/-- The watchtower after a run. -/
def after (acts : List Act) : World := runSteps (World.next env (some (.fill 9))) World.new acts

end Sample

/-- Requests in turn are kept across a restart. -/
theorem World.run_keeps_inTurn :
    AllSteps (World.next Sample.env (some (.fill 9))) (World.Serial Sample.env) World.new
      Sample.inTurn ∧
    (Sample.clientKey, 7) ∈ (Sample.after Sample.inTurn).acked ∧
    (Sample.after Sample.inTurn).Keeps Sample.env := by
  have hserial : AllSteps (World.next Sample.env (some (.fill 9))) (World.Serial Sample.env)
      World.new Sample.inTurn := by decide +kernel
  have hacked : (Sample.clientKey, 7) ∈ (Sample.after Sample.inTurn).acked := by decide +kernel
  have hkeeps := World.run_keeps hserial
  exact ⟨hserial, hacked, hkeeps⟩

/-- **Both updates are lost**: the watchtower has acknowledged the seventh receipt and holds the
fifth, once because the older insertion came last, and once because the older write did. -/
theorem World.replaced :
    ((Sample.clientKey, 7) ∈ (Sample.after Sample.raced).acked ∧
      ¬ (Sample.after Sample.raced).Keeps Sample.env) ∧
    (Sample.clientKey, 7) ∈ (Sample.after Sample.overtaken).acked ∧
      ¬ (Sample.after Sample.overtaken).Keeps Sample.env := by
  have hraced : (Sample.clientKey, 7) ∈ (Sample.after Sample.raced).acked := by decide +kernel
  have hfifth : (Sample.after Sample.raced).receipts.getNonce
      (Sample.clientKey.storageKey Sample.env) = 5 := by decide +kernel
  have hovertaken : (Sample.clientKey, 7) ∈ (Sample.after Sample.overtaken).acked := by
    decide +kernel
  have hfile : (Sample.after Sample.overtaken).receipts.getNonce
      (Sample.clientKey.storageKey Sample.env) = 5 := by decide +kernel
  exact ⟨⟨hraced, World.not_keeps hraced hfifth (by decide)⟩, hovertaken,
    World.not_keeps hovertaken hfile (by decide)⟩

end Watchtower
end Subly402
