/-
# Client receipts while channels are open

A finalized request moves its amount to the provider's side of the channel
(`provider_earned`).  A client receipt reads the client's aggregate figures, and those
count the whole deposit of an open channel as locked until the channel is closed, so the
receipt still states what the provider has earned.  `post_receipt` moreover reads the
figures before it waits for `persistence_lock`, so between the read and the signature
anything may happen (`Act`).
-/

import Subly402.Enclave.Deliveries
import Subly402.Enclave.HandlerMoves
import Subly402.Lib.Runs

namespace Subly402

open Lib
open Lib.Prog (okOr)

/-- What the client's open channels owe their providers. -/
def VaultState.openEarned (v : VaultState) (client : Pubkey) : ℕ :=
  FiniteMap.total (fun channel => if channel.client = client then channel.balance.providerEarned
    else 0) v.activeChannels

/-- What a client is entitled to by a receipt, and its providers by the books the receipt was
signed on: for settled payments, closed channels and finalized requests of open channels. -/
def SignedReceipt.entitled (r : SignedReceipt) (client : Pubkey) : ℕ :=
  r.receipt.freeBalance + r.receipt.lockedBalance
    + FiniteMap.total (Ledger.paidFor client) r.vault.reservations
    + (r.vault.closedChannels.map (Ledger.closedFor client)).sum
    + r.vault.openEarned client

/-- The client's deposits, less its withdrawals, cover what it and its providers are entitled to. -/
def SignedReceipt.Backed (r : SignedReceipt) (client : Pubkey) : Prop :=
  r.entitled client
    ≤ (r.vault.balance client).totalDeposited - (r.vault.balance client).totalWithdrawn

instance (r : SignedReceipt) (client : Pubkey) : Decidable (r.Backed client) :=
  inferInstanceAs (Decidable (_ ≤ _))

/-- The receipt states the client's balance on the books it was signed on. -/
def SignedReceipt.Current (r : SignedReceipt) (client : Pubkey) : Prop :=
  r.receipt.freeBalance = (r.vault.balance client).free ∧
    r.receipt.lockedBalance = (r.vault.balance client).locked

/-! ### Receipts on request -/

/-- What `post_receipt` has read when it waits for the lock. -/
structure ReceiptValues where
  client : Pubkey
  recipientAta : Pubkey
  freeBalance : ℕ
  lockedBalance : ℕ
  maxLockExpiresAt : ℤ

/-- `post_receipt` up to the lock, for a request that has been authenticated. -/
def Handlers.postReceiptRead (client recipientAta : Pubkey) : AppM ReceiptValues := do
  let balance ← okOr (← get).vault.clientBalances[client]? .clientNotFound
  return { client, recipientAta, freeBalance := balance.free, lockedBalance := balance.locked
           maxLockExpiresAt := balance.maxLockExpiresAt }

/-- `post_receipt` under the lock. -/
def Handlers.postReceiptIssue (env : Env) (v : ReceiptValues) (now : ℤ) : AppM ParticipantReceipt :=
  issueParticipantReceiptLocked env (.client v.client) v.client participantKindClient
    v.recipientAta v.freeBalance v.lockedBalance v.maxLockExpiresAt now

/-- The enclave, with the calls of `post_receipt` that wait for the lock. -/
structure ReceiptDesk where
  app : AppState
  waiting : List ReceiptValues

/-- An operation, or a call of `post_receipt`: its read, and later its turn under the lock. -/
inductive Act (env : Env) where
  | op (operation : Op env)
  | read (client recipientAta : Pubkey)
  | issue (call : ℕ) (now : ℤ)

/-- The enclave after an act. -/
def ReceiptDesk.next {env : Env} (d : ReceiptDesk) : Act env → ReceiptDesk
  | .op operation => { d with app := d.app.next operation }
  | .read client recipientAta =>
    match (Handlers.postReceiptRead client recipientAta).run d.app with
    | (.ok v, app) => { app, waiting := d.waiting ++ [v] }
    | (.error _, app) => { d with app }
  | .issue call now =>
    match d.waiting[call]? with
    | some v =>
      { app := ((Handlers.postReceiptIssue env v now).run d.app).2, waiting := d.waiting.eraseIdx call }
    | none => d

/-- The enclave after a run of acts. -/
def runActs (env : Env) (acts : List (Act env)) : ReceiptDesk :=
  runSteps ReceiptDesk.next ⟨.new, []⟩ acts

variable {env : Env}

/-- The figures are those that a read of the run has found. -/
def ReceiptValues.ReadIn (v : ReceiptValues) (acts : List (Act env)) : Prop :=
  ∃ earlier, earlier ++ [.read v.client v.recipientAta] <+: acts ∧
    v.freeBalance = ((runActs env earlier).app.vault.balance v.client).free ∧
    v.lockedBalance = ((runActs env earlier).app.vault.balance v.client).locked

/-- What was read stays read. -/
theorem ReceiptValues.ReadIn.append {v : ReceiptValues} {acts : List (Act env)} (h : v.ReadIn acts)
    (act : Act env) : v.ReadIn (acts ++ [act]) := by
  obtain ⟨earlier, hprefix, hvalues⟩ := h
  exact ⟨earlier, hprefix.trans (List.prefix_append acts [act]), hvalues⟩

/-- The receipt states the books, or what a read of the run has found. -/
def SignedReceipt.Founded (r : SignedReceipt) (acts : List (Act env)) : Prop :=
  r.States env ∨ ∃ v : ReceiptValues, v.ReadIn acts ∧ r.holder = .client v.client ∧
    r.receipt.freeBalance = v.freeBalance ∧ r.receipt.lockedBalance = v.lockedBalance

/-- What holds after a run of acts. -/
structure ActsInv (acts : List (Act env)) : Prop where
  app : RunInv env (runActs env acts).app
  waiting : ∀ v ∈ (runActs env acts).waiting, v.ReadIn acts
  signed : ∀ r ∈ (runActs env acts).app.signed, r.vault.ledger.Conserved ∧ r.Founded acts

/-- A receipt is as well founded later. -/
theorem SignedReceipt.Founded.append {r : SignedReceipt} {acts : List (Act env)}
    (h : r.Founded acts) (act : Act env) : r.Founded (acts ++ [act]) := by
  rcases h with hstates | ⟨v, hv, hstated⟩
  · exact .inl hstates
  · exact .inr ⟨v, hv.append act, hstated⟩

/-- The state after one act more. -/
theorem runActs_snoc (acts : List (Act env)) (act : Act env) :
    runActs env (acts ++ [act]) = (runActs env acts).next act := by
  simp [runActs, runSteps]

/-- What an operation signs states the books. -/
theorem AppState.next_states {s : AppState} (hids : s.IdsDrawn env) (op : Op env) :
    ∀ r ∈ (s.next op).signed, r ∈ s.signed ∨ r.States env := by
  have hmoves : Moves env (.registering env fun _ _ => True) s (s.next op) :=
    next_registering hids fun _ _ _ => trivial
  refine hmoves.keep (P := fun t => ∀ r ∈ t.signed, r ∈ s.signed ∨ r.States env)
    (fun r hr => .inl hr) fun t u hmove ht => ?_
  obtain ⟨hsigned, -⟩ | ⟨r, hstates, hsigned, -, -⟩ := hmove.providers
  · rwa [hsigned]
  · intro r' hr'
    rw [hsigned, List.mem_append, List.mem_singleton] at hr'
    rcases hr' with hr' | rfl
    · exact ht r' hr'
    · exact .inr hstates

/-- The receipt is added to what was signed. -/
theorem issueParticipantReceiptLocked_signs {holder : Holder} {participant : Pubkey} {kind : ℕ}
    {recipientAta : Pubkey} {free locked : ℕ} {maxLock now : ℤ} {s : AppState} :
    (issueParticipantReceiptLocked env holder participant kind recipientAta free locked maxLock
      now).Leaves s fun u => u.signed = s.signed
        ++ [s.receiptOf holder participant kind recipientAta free locked maxLock now] := by
  refine .run_bind (run_onVault nextReceiptNonce s) (.get_bind (.set_bind (.append_bind rfl rfl ?_)))
  refine .bind (P := fun u => u.signed = s.signed
    ++ [s.receiptOf holder participant kind recipientAta free locked maxLock now]) ?_
    (fun _ hu => hu) fun _ _ hu => .append_bind rfl hu (.pure hu)
  rw [Prog.Leaves, replicateReceiptToWatchtower_run]
  rfl

section Step

variable {acts : List (Act env)} (h : ActsInv acts)
include h

/-- Operations sign receipts of the books they leave. -/
theorem ActsInv.op (operation : Op env) : ActsInv (acts ++ [.op operation]) := by
  have hstep := (step_effect h.app.toAppInv operation).sound
  refine ⟨?_, fun v hv => ?_, fun r hr => ?_⟩
  · rw [runActs_snoc]
    exact hstep.runInv h.app
  · rw [runActs_snoc] at hv
    exact (h.waiting v hv).append _
  · rw [runActs_snoc] at hr
    rcases hstep.signed r hr with hold | hbooks
    · exact (h.signed r hold).imp_right fun hr => hr.append _
    · refine ⟨hbooks.conserved h.app.shape h.app.sums, ?_⟩
      rcases AppState.next_states h.app.ids.reservations operation r hr with hold | hstates
      · exact (h.signed r hold).2.append _
      · exact .inl hstates

/-- A read changes nothing, and finds the balance of the moment. -/
theorem ActsInv.read (client recipientAta : Pubkey) : ActsInv (acts ++ [.read client recipientAta]) := by
  have hkeep : (runActs env (acts ++ [.read client recipientAta])).app = (runActs env acts).app ∧
      ∀ v ∈ (runActs env (acts ++ [.read client recipientAta])).waiting,
        v ∈ (runActs env acts).waiting ∨ v.ReadIn (acts ++ [.read client recipientAta]) := by
    rw [runActs_snoc, ReceiptDesk.next]
    cases hb : (runActs env acts).app.vault.clientBalances[client]? with
    | none =>
      simp only [Handlers.postReceiptRead, Prog.run_bind, Prog.run_get, hb, Prog.run_okOr_none]
      exact ⟨trivial, fun v hv => .inl hv⟩
    | some balance =>
      simp only [Handlers.postReceiptRead, Prog.run_bind, Prog.run_get, hb, Prog.run_okOr_some,
        Prog.run_pure]
      refine ⟨trivial, fun v hv => ?_⟩
      rcases List.mem_append.1 hv with hv | hv
      · exact .inl hv
      · obtain rfl := List.mem_singleton.1 hv
        exact .inr ⟨acts, List.prefix_rfl, by rw [VaultState.balance_eq hb],
          by rw [VaultState.balance_eq hb]⟩
  obtain ⟨happ, hwaiting⟩ := hkeep
  refine ⟨happ ▸ h.app, fun v hv => ?_, fun r hr => ?_⟩
  · rcases hwaiting v hv with hv | hread
    · exact (h.waiting v hv).append _
    · exact hread
  · rw [happ] at hr
    exact (h.signed r hr).imp_right fun hr => hr.append _

/-- A call that gets the lock signs what it has read, on the books as they are now. -/
theorem ActsInv.issue (call : ℕ) (now : ℤ) : ActsInv (acts ++ [.issue call now]) := by
  cases hv : (runActs env acts).waiting[call]? with
  | none =>
    have hsame : runActs env (acts ++ [.issue call now]) = runActs env acts := by
      rw [runActs_snoc, ReceiptDesk.next, hv]
    exact ⟨hsame ▸ h.app, fun v hv => (h.waiting v (hsame ▸ hv)).append _,
      fun r hr => (h.signed r (hsame ▸ hr)).imp_right fun hr => hr.append _⟩
  | some v =>
    have hnext : runActs env (acts ++ [.issue call now])
        = ⟨((Handlers.postReceiptIssue env v now).run (runActs env acts).app).2,
          (runActs env acts).waiting.eraseIdx call⟩ := by
      rw [runActs_snoc, ReceiptDesk.next, hv]
    have hlogged : Logged env (runActs env acts).app
        ((Handlers.postReceiptIssue env v now).run (runActs env acts).app).2 :=
      leaves_issueParticipantReceiptLocked ..
    have hsigned : ((Handlers.postReceiptIssue env v now).run
        (runActs env acts).app).2.signed = (runActs env acts).app.signed
          ++ [(runActs env acts).app.receiptOf (.client v.client) v.client participantKindClient
            v.recipientAta v.freeBalance v.lockedBalance v.maxLockExpiresAt now] :=
      issueParticipantReceiptLocked_signs
    refine ⟨?_, fun v' hv' => ?_, fun r hr => ?_⟩
    · rw [hnext]
      exact hlogged.toSound.runInv h.app
    · rw [hnext] at hv'
      exact (h.waiting v' (List.mem_of_mem_eraseIdx hv')).append _
    · rw [hnext, hsigned, List.mem_append, List.mem_singleton] at hr
      rcases hr with hr | rfl
      · exact (h.signed r hr).imp_right fun hr => hr.append _
      · exact ⟨h.app.sums, .inr ⟨v, (h.waiting v (List.mem_of_getElem? hv)).append _, rfl, rfl, rfl⟩⟩

end Step

/-- **What holds after every run of acts.** -/
theorem runActs_inv (acts : List (Act env)) : ActsInv acts := by
  induction acts using List.reverseRecOn with
  | nil => exact ⟨.new env, fun _ hv => (List.not_mem_nil hv).elim,
      fun _ hr => (List.not_mem_nil hr).elim⟩
  | append_singleton acts act ih =>
    cases act with
    | op operation => exact ih.op operation
    | read client recipientAta => exact ih.read client recipientAta
    | issue call now => exact ih.issue call now

/-! ### What a receipt and the earnings come to -/

/-- A receipt of the books states the balance. -/
theorem SignedReceipt.States.current {r : SignedReceipt} {client : Pubkey} (h : r.States env)
    (hholder : r.holder = .client client) : r.Current client := by
  rw [SignedReceipt.States, hholder] at h
  obtain ⟨balance, hb, -, -, -, hfree, hlocked, -⟩ := h
  rw [SignedReceipt.Current, VaultState.balance_eq hb]
  exact ⟨hfree, hlocked⟩

/-- On books that balance, what is beyond the balance is beyond the deposits. -/
theorem SignedReceipt.backed_iff {r : SignedReceipt} (hbooks : r.vault.ledger.Conserved)
    (client : Pubkey) : r.Backed client ↔
      r.receipt.freeBalance + r.receipt.lockedBalance + r.vault.openEarned client
        ≤ (r.vault.balance client).free + (r.vault.balance client).locked := by
  have htotal := (VaultState.balances_of_conserved hbooks client).total
  rw [SignedReceipt.Backed, SignedReceipt.entitled]
  omega

/-- No open channel of the client has earnings where they add up to nothing. -/
theorem VaultState.openEarned_eq_zero_iff {v : VaultState} {client : Pubkey} :
    v.openEarned client = 0 ↔ ∀ (channelId : String) (channel : ChannelState),
      v.activeChannels[channelId]? = some channel → channel.client = client →
        channel.balance.providerEarned = 0 := by
  constructor
  · intro h channelId channel hch hclient
    have hle := FiniteMap.le_total hch fun channel : ChannelState =>
      if channel.client = client then channel.balance.providerEarned else 0
    rw [if_pos hclient] at hle
    rw [openEarned] at h
    omega
  · intro h
    refine FiniteMap.total_eq_zero fun channelId channel hch => ?_
    split
    · next hclient => exact h channelId channel hch hclient
    · rfl

/-- **When a client receipt is backed**, over every run of operations and calls of `post_receipt`
and every client receipt of it: just when the total it states and the earnings in the client's open
channels fit into the client's balance.  A receipt states the balance of the books it was signed
on, and then it is backed just when no open channel of the client has a finalized request, or it
states the balance that a call of `post_receipt` has found earlier. -/
theorem receipt_backed_iff (env : Env) (acts : List (Act env)) (client : Pubkey) (r : SignedReceipt)
    (hr : r ∈ (runActs env acts).app.signed) (hholder : r.holder = .client client) :
    (r.Backed client ↔
      r.receipt.freeBalance + r.receipt.lockedBalance + r.vault.openEarned client
        ≤ (r.vault.balance client).free + (r.vault.balance client).locked) ∧
    (r.Current client → (r.Backed client ↔ ∀ (channelId : String) (channel : ChannelState),
      r.vault.activeChannels[channelId]? = some channel → channel.client = client →
        channel.balance.providerEarned = 0)) ∧
    (r.Current client ∨ ∃ earlier recipientAta, earlier ++ [.read client recipientAta] <+: acts ∧
      r.receipt.freeBalance = ((runActs env earlier).app.vault.balance client).free ∧
      r.receipt.lockedBalance = ((runActs env earlier).app.vault.balance client).locked) := by
  obtain ⟨hbooks, hfounded⟩ := (runActs_inv acts).signed r hr
  have hbacked := SignedReceipt.backed_iff hbooks client
  refine ⟨hbacked, fun ⟨hfree, hlocked⟩ => ?_, ?_⟩
  · rw [← VaultState.openEarned_eq_zero_iff, hbacked, hfree, hlocked]
    omega
  · rcases hfounded with hstates | ⟨v, ⟨earlier, hprefix, hfree, hlocked⟩, hclient, hf, hl⟩
    · exact .inl (hstates.current hholder)
    · obtain rfl : v.client = client := by
        rw [hholder] at hclient
        cases hclient
        rfl
      exact .inr ⟨earlier, v.recipientAta, hprefix, hf.trans hfree, hl.trans hlocked⟩

/-- Up to the delivery every receipt of the client is backed. -/
theorem receipt_backed_iff_toy : ∃ r ∈ (runActs Toy.world (Toy.ops.map .op)).app.signed,
    r.holder = .client (.fill 1) ∧ r.receipt.lockedBalance = 4 ∧ r.Backed (.fill 1) := by
  have hmem : ∃ r ∈ (runActs Toy.world (Toy.ops.map .op)).app.signed,
      r.holder = .client (.fill 1) ∧ r.receipt.lockedBalance = 4 ∧
      r.receipt.freeBalance + r.receipt.lockedBalance + r.vault.openEarned (.fill 1)
        ≤ (r.vault.balance (.fill 1)).free + (r.vault.balance (.fill 1)).locked := by decide +kernel
  obtain ⟨r, hr, hholder, hlocked, hfits⟩ := hmem
  exact ⟨r, hr, hholder, hlocked,
    (receipt_backed_iff Toy.world (Toy.ops.map .op) (.fill 1) r hr hholder).1.2 hfits⟩

namespace Toy

/-- The seller reveals the secret, and the request of three is finalized. -/
def finalized : List (Act world) :=
  ops.map .op ++ [.op (.channelFinalize "ch_" (hexEncode (Bytes32.fill 2).bytes) ⟨4, 4⟩)]

/-- The client has deposited five.  The receipt that it gets when the request of three has been
finalized states one free and four locked, and the seller has earned three. -/
theorem paid_twice : ∃ r ∈ (runActs world finalized).app.signed, r.holder = .client (.fill 1) ∧
    r.receipt ∈ (runActs world finalized).app.sent ∧ r.receipt.freeBalance = 1 ∧
    r.receipt.lockedBalance = 4 ∧ r.vault.openEarned (.fill 1) = 3 ∧
    (r.vault.balance (.fill 1)).totalDeposited = 5 ∧ ¬ r.Backed (.fill 1) := by
  decide +kernel

/-- The client asks for a receipt, the channel is closed, and then the request gets the lock: the
receipt states five where the client has two left and no channel is open. -/
example : ∃ r ∈ (runActs world (finalized
      ++ [.read (.fill 1) (.fill 9), .op (.channelClose "ch_" ⟨5, 5⟩), .issue 0 6])).app.signed,
    r.holder = .client (.fill 1) ∧ r.receipt.freeBalance = 1 ∧ r.receipt.lockedBalance = 4 ∧
      (r.vault.balance (.fill 1)).free = 2 ∧ (r.vault.balance (.fill 1)).locked = 0 ∧
      r.vault.activeChannels.toList = [] ∧ ¬ r.Backed (.fill 1) := by
  decide +kernel

end Toy

end Subly402
