/-
# Paid or released

A withdrawal leaves the enclave's books in one of two ways.  The client spends the
authorisation on chain, and the detector finds the transaction once it is finalized; or
the authorisation expires, and the sweep of `reservation_expiry_loop`
(`enclave/src/batch.rs`) returns the amount to the client.
-/

import Subly402.Chain.Withdraw
import Subly402.Enclave.HandlerMoves

namespace Subly402

open Lib
open Lib.Prog (Leaves Along Same)

/-- The operation is not about a withdrawal that the chain was asked about. -/
def Op.isOther {env : Env} : Op env → Bool
  | .withdrawal .. | .expireWithdrawal .. => false
  | _ => true

/-! ### Authorisations that are handed out -/

/-- Only withdrawals from a nonce on are handed out. -/
def Rules.from (withdrawNonce : ℕ) : Rules :=
  { Rules.free with releases := fun n => withdrawNonce ≤ n }

/-- An operation hands out an authorisation under a new nonce, if any. -/
theorem AppState.next_released {env : Env} {s : AppState} (hs : AppInv env s) (op : Op env) :
    s.released ⊆ (s.next op).released ∧
      ∀ a ∈ (s.next op).released, a ∈ s.released ∨ s.vault.withdrawNonce ≤ a.withdrawNonce := by
  have hadmits : (Rules.from s.vault.withdrawNonce).Admits s op :=
    ⟨fun _ _ _ _ _ _ _ => trivial, fun _ _ _ => trivial, fun _ _ _ => trivial, fun _ _ => trivial,
      le_refl _, fun _ _ => trivial⟩
  refine Moves.keep (P := fun t => s.released ⊆ t.released ∧ ∀ a ∈ t.released, a ∈ s.released ∨
    s.vault.withdrawNonce ≤ a.withdrawNonce) (AppState.next_moves hadmits hs.ids.reservations)
    ⟨fun _ ha => ha, fun _ ha => .inl ha⟩ fun t u hmove ht => ?_
  cases hmove with
  | release _ hrule =>
    refine ⟨fun a ha => List.mem_append_left _ (ht.1 ha), fun a ha => ?_⟩
    rcases List.mem_append.1 ha with ha | ha
    · exact ht.2 a ha
    · rw [List.mem_singleton.1 ha]
      exact .inr hrule
  | _ => exact ht

namespace Withdrawals

/-! ### The world -/

/-- The enclave and the vault program.  They have one clock. -/
structure World where
  app : AppState
  now : ℤ
  vault : Chain.VaultConfig
  tokens : Chain.Tokens
  /-- The withdrawals that succeeded on chain, oldest first. -/
  landed : List WithdrawEvent
  /-- How many of them are finalized. -/
  finalized : ℕ
  /-- The clock when the loop's round began. -/
  sweepNow : ℤ
  /-- What the sweep has still to look at. -/
  todo : List PendingWithdrawal
  /-- The first of these, once the chain was found to have no record of it. -/
  cleared : Option ℕ
  /-- The withdrawals whose amount the sweep has returned (ghost). -/
  returned : List ℕ

/-- The seeds of the account that records a withdrawal's nonce. -/
def seeds (event : WithdrawEvent) : Pubkey × ℕ := (event.client, event.withdrawNonce)

instance : LawfulBEq (Pubkey × ℕ) := inferInstance

/-- What the detector reads off a call that succeeded. -/
@[simps]
def eventOf (call : Chain.WithdrawCall) (signature : String) (slot : ℕ) : WithdrawEvent where
  signature
  client := call.client
  recipientAta := call.clientTokenAccount
  amount := call.amount
  withdrawNonce := call.withdrawNonce
  expiresAt := call.expiresAt
  slot

/-- The message that the enclave signs. -/
def messageOf (vaultConfig : Pubkey) (a : PendingWithdrawal) : List UInt8 :=
  Chain.withdrawMessage a.client a.recipientAta a.amount a.withdrawNonce a.expiresAt vaultConfig

namespace World

/-- Before anything happened. -/
def new (vault : Chain.VaultConfig) (tokens : Chain.Tokens) (now : ℤ) : World where
  app := .new
  now
  vault
  tokens
  landed := []
  finalized := 0
  sweepNow := now
  todo := []
  cleared := none
  returned := []

variable (w : World)

/-- The finalized withdrawals. -/
def final : List WithdrawEvent := w.landed.take w.finalized

/-- Signatures of the vault's key are not forged: of the messages of this length, it has signed
those of the authorisations that the enclave handed out.  (Its receipts and vouchers are longer.)
The enclave has their terms in integers of the format. -/
def Genuine : Option Chain.Ed25519Check → Prop
  | none => True
  | some check => check.publicKey = w.vault.vaultSignerPubkey → check.message.length = 120 →
    ∃ a ∈ w.app.released, Chain.TermsFit a.amount a.withdrawNonce a.expiresAt ∧
      check.message = messageOf w.vault.key a

instance : DecidablePred w.Genuine
  | none => .isTrue trivial
  | some _ => inferInstanceAs (Decidable (_ → _))

/-- The pending withdrawals whose time was over when the round began. -/
def expired : List PendingWithdrawal :=
  (w.app.vault.pendingWithdrawals.toList.map (·.2)).filter fun p => p.expiresAt < w.sweepNow

/-- The withdrawal was pending and is not any more. -/
def Gone (s s' : AppState) (withdrawNonce : ℕ) : Prop :=
  s.vault.pendingWithdrawals[withdrawNonce]?.isSome ∧
    s'.vault.pendingWithdrawals[withdrawNonce]? = none

instance (s s' : AppState) (withdrawNonce : ℕ) : Decidable (Gone s s' withdrawNonce) :=
  inferInstanceAs (Decidable (_ ∧ _))

end World

/-- What happens in the world.  Operations of the enclave come at any time with any clock readings;
the vault and its tokens may change by anything else that happens on chain. -/
inductive Act (env : Env) where
  | wait (seconds : ℕ)
  | op (op : Op env) (other : op.isOther)
  | outside (vault : Chain.VaultConfig) (tokens : Chain.Tokens)
  | land (call : Chain.WithdrawCall) (check : Option Chain.Ed25519Check) (signature : String)
      (slot : ℕ)
  | finalize (count : ℕ)
  | detect (index : ℕ) (now : ℤ)
  | tick
  | collect
  | ask (answered : Bool)
  | release (later : ℤ)

namespace World

variable {env : Env}

/-- The world after an act.  `ask` is `withdraw_nonce_recorded_onchain`, which reads finalized
state; where the chain does not answer, the withdrawal stays locked. -/
def next (w : World) : Act env → World
  | .wait seconds => { w with now := w.now + seconds }
  | .op op _ => { w with app := w.app.next op }
  | .outside vault tokens =>
    { w with
      vault := { vault with key := w.vault.key, vaultSignerPubkey := w.vault.vaultSignerPubkey }
      tokens }
  | .land call check signature slot =>
    if w.Genuine check then
      match Chain.withdraw w.vault check call w.now w.tokens (w.landed.map seeds) with
      | .ok (vault, tokens) =>
        { w with vault, tokens, landed := w.landed ++ [eventOf call signature slot] }
      | .error _ => w
    else w
  | .finalize count => { w with finalized := w.finalized + count }
  | .detect index now =>
    match w.final[index]? with
    | some event => { w with app := w.app.next (.withdrawal event now : Op env) }
    | none => w
  | .tick => if w.todo = [] then { w with sweepNow := w.now } else w
  | .collect => if w.todo = [] then { w with todo := w.expired } else w
  | .ask answered =>
    match w.todo, w.cleared with
    | p :: todo, none =>
      if answered then
        if (p.client, p.withdrawNonce) ∈ w.final.map seeds then { w with todo }
        else { w with cleared := some p.withdrawNonce }
      else { w with todo }
    | _, _ => w
  | .release later =>
    match w.cleared with
    | some n =>
      let app := w.app.next (.expireWithdrawal n ⟨w.sweepNow, later⟩ : Op env)
      { w with
        app
        todo := w.todo.tail
        cleared := none
        returned := if Gone w.app app n then w.returned ++ [n] else w.returned }
    | none => w

/-- The world after some acts. -/
def run (w : World) (acts : List (Act env)) : World := acts.foldl next w

/-- No withdrawal was both released by the enclave and paid by the chain. -/
def Exclusive (w : World) : Prop := ∀ n ∈ w.returned, ∀ e ∈ w.landed, e.withdrawNonce ≠ n

/-- The condition: when the sweep asks about a withdrawal, its transaction is finalized, if there
is one. -/
def Prompt (w : World) : Act env → Prop
  | .ask _ => ∀ p ∈ w.todo.head?, ∀ e ∈ w.landed, seeds e = (p.client, p.withdrawNonce) → e ∈ w.final
  | _ => True

/-- Every act meets the condition where it happens. -/
def PromptFrom (w : World) : List (Act env) → Prop
  | [] => True
  | act :: acts => w.Prompt act ∧ (w.next act).PromptFrom acts

/-! ### What every act keeps -/

/-- The withdrawal can not be spent any more, and was not. -/
structure Past (w : World) (n : ℕ) : Prop where
  nonce : n < w.app.vault.withdrawNonce
  expired : ∀ a ∈ w.app.released, a.withdrawNonce = n → a.expiresAt < w.now
  unpaid : ∀ e ∈ w.landed, e.withdrawNonce ≠ n

/-- The sweep looks at a withdrawal whose time is over. -/
structure Due (w : World) (p : PendingWithdrawal) : Prop where
  nonce : p.withdrawNonce < w.app.vault.withdrawNonce
  expired : p.expiresAt < w.now
  released : ∀ a ∈ w.app.released, a.withdrawNonce = p.withdrawNonce → a = p

structure Inv (env : Env) (w : World) : Prop where
  app : RunInv env w.app
  clock : w.sweepNow ≤ w.now
  landed : ∀ e ∈ w.landed, ∃ a ∈ w.app.released, seeds e = (a.client, a.withdrawNonce)
  todo : ∀ p ∈ w.todo, w.Due p
  past : ∀ n, n ∈ w.returned ∨ w.cleared = some n → w.Past n

variable {w w' : World}

theorem Inv.new (vault : Chain.VaultConfig) (tokens : Chain.Tokens) (now : ℤ) :
    Inv env (new vault tokens now) where
  app := .new env
  clock := le_rfl
  landed := by simp [World.new]
  todo := by simp [World.new]
  past := by simp [World.new]

/-- Time goes on, authorisations are handed out under new nonces only, and nothing lands. -/
structure Later (w w' : World) : Prop where
  now : w.now ≤ w'.now
  nonce : w.app.vault.withdrawNonce ≤ w'.app.vault.withdrawNonce
  kept : ∀ a ∈ w.app.released, a ∈ w'.app.released
  fresh : ∀ a ∈ w'.app.released, a ∈ w.app.released ∨ w.app.vault.withdrawNonce ≤ a.withdrawNonce
  landed : w'.landed = w.landed

variable {n : ℕ} {p : PendingWithdrawal}

theorem Later.same (happ : w'.app = w.app) (hnow : w'.now = w.now) (hlanded : w'.landed = w.landed) :
    Later w w' where
  now := hnow.ge
  nonce := by rw [happ]
  kept a ha := by rwa [happ]
  fresh a ha := .inl (by rwa [happ] at ha)
  landed := hlanded

/-- An operation of the enclave. -/
theorem Later.op (h : AppInv env w.app) (op : Op env) :
    Later w { w with app := w.app.next op } where
  now := le_rfl
  nonce := (step_effect h op).sound.still.withdrawNonce
  kept _ ha := (AppState.next_released h op).1 ha
  fresh := (AppState.next_released h op).2
  landed := rfl

theorem Past.later (h : w.Past n) (hlater : Later w w') : w'.Past n where
  nonce := h.nonce.trans_le hlater.nonce
  expired a ha hn := by
    rcases hlater.fresh a ha with ha | ha
    · exact (h.expired a ha hn).trans_le hlater.now
    · have := h.nonce
      omega
  unpaid := hlater.landed ▸ h.unpaid

theorem Due.later (h : w.Due p) (hlater : Later w w') : w'.Due p where
  nonce := h.nonce.trans_le hlater.nonce
  expired := h.expired.trans_le hlater.now
  released a ha hn := by
    rcases hlater.fresh a ha with ha | ha
    · exact h.released a ha hn
    · have := h.nonce
      omega

/-- A step in which nothing lands and the sweep does not go on. -/
theorem Inv.later (h : Inv env w) (happ : RunInv env w'.app) (hlater : Later w w')
    (hsweep : w'.sweepNow = w.sweepNow) (htodo : w'.todo = w.todo)
    (hcleared : w'.cleared = w.cleared) (hreturned : w'.returned = w.returned) : Inv env w' where
  app := happ
  clock := hsweep ▸ h.clock.trans hlater.now
  landed e he := by
    obtain ⟨a, ha, hseeds⟩ := h.landed e (hlater.landed ▸ he)
    exact ⟨a, hlater.kept a ha, hseeds⟩
  todo p hp := (h.todo p (htodo ▸ hp)).later hlater
  past n hn := (h.past n (by rwa [hreturned, hcleared] at hn)).later hlater

theorem Inv.op (h : Inv env w) (op : Op env) : Inv env { w with app := w.app.next op } :=
  h.later ((step_effect h.app.toAppInv op).sound.runInv h.app) (.op h.app.toAppInv op) rfl rfl rfl
    rfl

/-- A withdrawal that lands spends an authorisation whose time is not over. -/
theorem lands {call : Chain.WithdrawCall} {check : Option Chain.Ed25519Check}
    {used : List (Pubkey × ℕ)} {vault : Chain.VaultConfig} {tokens : Chain.Tokens}
    (hgenuine : w.Genuine check)
    (h : Chain.withdraw w.vault check call w.now w.tokens used = .ok (vault, tokens)) :
    ∃ a ∈ w.app.released, a.client = call.client ∧ a.withdrawNonce = call.withdrawNonce ∧
      w.now ≤ a.expiresAt := by
  obtain ⟨htime, -, -, verified, rfl, hkey, hmessage⟩ := Chain.withdraw_ok h
  obtain ⟨a, ha, hfit, hsigned⟩ :=
    hgenuine hkey (by rw [hmessage, Chain.length_withdrawMessage])
  obtain ⟨hclient, -, -, hnonce, hexpires⟩ :=
    Chain.withdrawMessage_injective hfit call.fits (hsigned.symm.trans hmessage)
  exact ⟨a, ha, hclient, hnonce, hexpires ▸ htime⟩

theorem Inv.land (h : Inv env w) {call : Chain.WithdrawCall} {check : Option Chain.Ed25519Check}
    {vault : Chain.VaultConfig} {tokens : Chain.Tokens} (hgenuine : w.Genuine check)
    (hland : Chain.withdraw w.vault check call w.now w.tokens (w.landed.map seeds)
      = .ok (vault, tokens)) (signature : String) (slot : ℕ) :
    Inv env { w with vault, tokens, landed := w.landed ++ [eventOf call signature slot] } := by
  obtain ⟨a, ha, hclient, hnonce, htime⟩ := lands hgenuine hland
  refine ⟨h.app, h.clock, fun e he => ?_, fun p hp => ?_, fun n hn => ?_⟩
  · rcases List.mem_append.1 he with he | he
    · exact h.landed e he
    · rw [List.mem_singleton.1 he]
      exact ⟨a, ha, by simp [seeds, hclient, hnonce]⟩
  · obtain ⟨hlt, hexpired, hreleased⟩ := h.todo p hp
    exact ⟨hlt, hexpired, hreleased⟩
  · obtain ⟨hlt, hexpired, hunpaid⟩ := h.past n hn
    refine ⟨hlt, hexpired, fun e he => ?_⟩
    rcases List.mem_append.1 he with he | he
    · exact hunpaid e he
    · -- the chain does not accept an authorisation whose time is over
      rw [List.mem_singleton.1 he]
      rintro rfl
      exact absurd (hexpired a ha hnonce) (not_lt.2 htime)

/-- What a sweep looks at was handed out as it is pending. -/
theorem Inv.collect (h : Inv env w) : Inv env { w with todo := w.expired } where
  app := h.app
  clock := h.clock
  landed := h.landed
  todo p hp := by
    obtain ⟨hmem, hlt⟩ := List.mem_filter.1 hp
    obtain ⟨⟨n, q⟩, hq, rfl⟩ := List.mem_map.1 hmem
    have hpending := FiniteMap.mem_toList_iff.1 hq
    have hkey : q.withdrawNonce = n := h.app.shape.pending_key n q hpending
    subst hkey
    refine ⟨h.app.nonces _ q hpending, (of_decide_eq_true hlt).trans_le h.clock, fun a ha hn => ?_⟩
    exact ((h.app.released a ha).2 q (hn ▸ hpending)).symm
  past n hn := (h.past n hn).later (.same rfl rfl rfl)

/-- The sweep goes on to the next withdrawal. -/
theorem Inv.skip (h : Inv env w) {todo : List PendingWithdrawal} (htodo : todo ⊆ w.todo) :
    Inv env { w with todo } where
  app := h.app
  clock := h.clock
  landed := h.landed
  todo p hp := (h.todo p (htodo hp)).later (.same rfl rfl rfl)
  past n hn := (h.past n hn).later (.same rfl rfl rfl)

/-- The chain has no final record of a withdrawal, and so no record. -/
theorem Inv.clear (h : Inv env w) (hp : p ∈ w.todo)
    (hprompt : ∀ e ∈ w.landed, seeds e = (p.client, p.withdrawNonce) → e ∈ w.final)
    (hunseen : (p.client, p.withdrawNonce) ∉ w.final.map seeds) :
    Inv env { w with cleared := some p.withdrawNonce } := by
  refine ⟨h.app, h.clock, h.landed, fun q hq => (h.todo q hq).later (.same rfl rfl rfl), ?_⟩
  rintro n (hn | hn)
  · exact (h.past n (.inl hn)).later (.same rfl rfl rfl)
  · cases hn
    obtain ⟨hlt, hexpired, hreleased⟩ := h.todo p hp
    refine ⟨hlt, fun a ha hn => hreleased a ha hn ▸ hexpired, fun e he hn => ?_⟩
    obtain ⟨a, ha, hseeds⟩ := h.landed e he
    have hnonce : a.withdrawNonce = p.withdrawNonce := (congrArg Prod.snd hseeds).symm.trans hn
    rw [hreleased a ha hnonce] at hseeds
    exact hunseen (hseeds ▸ List.mem_map_of_mem (hprompt e he hseeds))

/-- The amount is returned, or the enclave refuses. -/
theorem Inv.release (h : Inv env w) (hcleared : w.cleared = some n) (op : Op env)
    {returned : List ℕ} (hreturned : ∀ k ∈ returned, k ∈ w.returned ∨ k = n) :
    Inv env { w with
      app := w.app.next op, todo := w.todo.tail, cleared := none, returned } := by
  have hop := h.op op
  refine ⟨hop.app, hop.clock, hop.landed, fun p hp => ?_, fun k hk => ?_⟩
  · exact (hop.todo p (List.mem_of_mem_tail hp)).later (.same rfl rfl rfl)
  · rcases hk with hk | hk
    · rcases hreturned k hk with hk | rfl
      · exact (hop.past k (.inl hk)).later (.same rfl rfl rfl)
      · exact (hop.past k (.inr hcleared)).later (.same rfl rfl rfl)
    · cases hk

/-- **What every act keeps**, where the chain is prompt. -/
theorem Inv.next (h : Inv env w) (act : Act env) (hprompt : w.Prompt act) : Inv env (w.next act) := by
  cases act with
  | wait seconds =>
    have hnow : w.now ≤ w.now + seconds := by omega
    exact h.later h.app ⟨hnow, le_rfl, fun _ ha => ha, fun _ ha => .inl ha, rfl⟩ rfl rfl rfl rfl
  | op op other => exact h.op op
  | outside vault tokens => exact h.later h.app (.same rfl rfl rfl) rfl rfl rfl rfl
  | land call check signature slot =>
    simp only [World.next]
    split
    · next hgenuine =>
      split
      · next hland => exact h.land hgenuine hland signature slot
      · exact h
    · exact h
  | finalize count => exact h.later h.app (.same rfl rfl rfl) rfl rfl rfl rfl
  | detect index now =>
    simp only [World.next]
    split
    · next event _ => exact h.op (.withdrawal event now)
    · exact h
  | tick =>
    simp only [World.next]
    split
    · exact ⟨h.app, le_rfl, h.landed, fun p hp => (h.todo p hp).later (.same rfl rfl rfl),
        fun n hn => (h.past n hn).later (.same rfl rfl rfl)⟩
    · exact h
  | collect =>
    simp only [World.next]
    split
    · exact h.collect
    · exact h
  | ask answered =>
    simp only [World.next]
    split
    · next p todo htodo hcleared =>
      have htail : todo ⊆ w.todo := htodo ▸ List.subset_cons_self p todo
      split
      · split
        · exact h.skip htail
        · next hunseen =>
          have hhead : w.todo.head? = some p := by rw [htodo]; rfl
          exact h.clear (htodo ▸ List.mem_cons_self) (hprompt p hhead) hunseen
      · exact h.skip htail
    · exact h
  | release later =>
    simp only [World.next]
    split
    · next n hn =>
      refine h.release hn (.expireWithdrawal n ⟨w.sweepNow, later⟩) fun k hk => ?_
      split at hk
      · simpa using hk
      · exact .inl hk
    · exact h

/-- **No withdrawal is both paid and released**, in every run in which the transactions that the
sweep asks about are finalized. -/
theorem run_exclusive (env : Env) (vault : Chain.VaultConfig) (tokens : Chain.Tokens) (now : ℤ)
    (acts : List (Act env)) (h : (new vault tokens now).PromptFrom acts) :
    ((new vault tokens now).run acts).Exclusive := by
  have hrun : ∀ (acts : List (Act env)) w, Inv env w → w.PromptFrom acts → Inv env (w.run acts) := by
    intro acts
    induction acts with
    | nil => exact fun _ hw _ => hw
    | cons act acts ih => exact fun w hw hprompt => ih (w.next act) (hw.next act hprompt.1) hprompt.2
  exact fun n hn => ((hrun acts _ (.new vault tokens now) h).past n (.inl hn)).unpaid

end World

/-! ### The amount comes back -/

namespace Shop

/-- The client spends its authorisation. -/
def call : Chain.WithdrawCall :=
  { client := .fill 1, clientTokenAccount := .fill 2, vaultTokenAccount := .fill 7, amount := 5
    withdrawNonce := 1, expiresAt := 301, fits := by decide }

def check : Chain.Ed25519Check :=
  { publicKey := .fill 8, signature := []
    message := Chain.withdrawMessage (.fill 1) (.fill 2) 5 1 301 (.fill 9) }

/-- The client deposits five, asks for them back, spends the authorisation at its last moment, and
a sweep begins. -/
def spent : List (Act Subly402.Shop.world) :=
  [.op (.deposit ⟨Subly402.Shop.deposit, Subly402.Shop.deposit_mem⟩ 0) rfl, .wait 1,
    .op (.withdrawAuth (.fill 1) (.fill 2) 5 ⟨1, 1⟩) rfl, .wait 300,
    .land call (some check) "out" 2, .wait 1, .tick, .collect]

/-- The transaction is finalized before the sweep asks. -/
def prompt : List (Act Subly402.Shop.world) := spent ++ [.finalize 1, .ask true, .release 302]

/-- It is finalized after the sweep has asked. -/
def slow : List (Act Subly402.Shop.world) := spent ++ [.ask true, .finalize 1, .release 302]

end Shop

/-- A transaction finalized in time. -/
theorem World.run_exclusive_prompt :
    (World.new Chain.Exit.vault Chain.Exit.tokens 0).PromptFrom Shop.prompt ∧
      ((World.new Chain.Exit.vault Chain.Exit.tokens 0).run Shop.prompt).Exclusive := by
  have h : (World.new Chain.Exit.vault Chain.Exit.tokens 0).PromptFrom Shop.prompt := by
    refine ⟨trivial, trivial, trivial, trivial, trivial, trivial, trivial, trivial, trivial, ?_,
      trivial, trivial⟩
    rw [World.Prompt]
    decide +kernel
  exact ⟨h, World.run_exclusive _ _ _ _ _ h⟩

/-- The chain paid five, and the client has five free in the enclave. -/
theorem World.slow_paid_twice :
    ¬ ((World.new Chain.Exit.vault Chain.Exit.tokens 0).run Shop.slow).Exclusive ∧
    (((World.new Chain.Exit.vault Chain.Exit.tokens 0).run Shop.slow).app.vault.balance (.fill 1)).free
      = 5 := by
  refine ⟨fun h => ?_, by decide +kernel⟩
  have hreturned : ((World.new Chain.Exit.vault Chain.Exit.tokens 0).run Shop.slow).returned = [1] := by
    decide +kernel
  have hlanded : ((World.new Chain.Exit.vault Chain.Exit.tokens 0).run Shop.slow).landed
      = [eventOf Shop.call "out" 2] := by
    decide +kernel
  exact h 1 (by rw [hreturned]; simp) (eventOf Shop.call "out" 2) (by rw [hlanded]; simp) rfl

end Withdrawals
end Subly402
