/-
# What a transaction moves

A finalized transaction moves money of the vault by the `deposit` and `withdraw`
instructions of the vault program that name the vault's token account: among its own
instructions, and among those that other programs invoked while it ran.  `Tx.movements` is
that list.  The program accepts the token account only together with the vault it belongs
to (`address = vault_config.vault_token_account`), so that the token account tells the
vault.
-/

import Subly402.Enclave.BalanceSync

namespace Subly402

open Lib

/-! ### Transactions -/

/-- `CompiledInstruction`: the program and the accounts are numbers of keys. -/
structure CompiledInstruction where
  programIdIndex : ℕ
  accounts : List ℕ
  data : List UInt8
deriving DecidableEq

/-- The numbers are those of keys. -/
def CompiledInstruction.Within (n : ℕ) (i : CompiledInstruction) : Prop :=
  i.programIdIndex < n ∧ ∀ index ∈ i.accounts, index < n

instance (n : ℕ) (i : CompiledInstruction) : Decidable (i.Within n) :=
  inferInstanceAs (Decidable (_ ∧ _))

/-- The instruction with its keys. -/
def CompiledInstruction.lookUp (keys : List Pubkey) (i : CompiledInstruction) : Instruction :=
  { programId := keys[i.programIdIndex]?, data := i.data, accounts := i.accounts.map (keys[·]?) }

/-- A finalized transaction: the keys it carries, and those that were loaded from address
tables. -/
structure FinalizedTx where
  signature : String
  slot : ℕ
  failed : Bool
  staticKeys : List Pubkey
  writable : List Pubkey
  readonly : List Pubkey
  instructions : List CompiledInstruction
  inner : List CompiledInstruction
  within : ∀ i ∈ instructions ++ inner,
    i.Within (staticKeys ++ writable ++ readonly).length

namespace FinalizedTx

/-- The keys that the numbers are about. -/
def keys (tx : FinalizedTx) : List Pubkey := tx.staticKeys ++ tx.writable ++ tx.readonly

/-- The transaction with all keys looked up. -/
def resolved (tx : FinalizedTx) : Tx :=
  { signature := tx.signature, slot := tx.slot, failed := tx.failed
    instructions := tx.instructions.map (·.lookUp tx.keys), inner := tx.inner.map (·.lookUp tx.keys) }

end FinalizedTx

/-- `EncodedConfirmedTransactionWithStatusMeta`, as far as it is read. -/
structure EncodedTx where
  signature : String
  slot : ℕ
  failed : Bool
  staticKeys : List Pubkey
  loadedAddresses : Option (List String × List String)
  instructions : List CompiledInstruction
  inner : List CompiledInstruction

namespace EncodedTx

variable (env : Env) (tx : EncodedTx)

/-- `parse_loaded_addresses`: both lists, or nothing. -/
def parseLoadedAddresses : Option (List Pubkey × List Pubkey) := do
  let (writable, readonly) ← tx.loadedAddresses
  let writable ← writable.mapM env.pubkeyFromStr
  let readonly ← readonly.mapM env.pubkeyFromStr
  return (writable, readonly)

/-- `AccountKeys`. -/
def accountKeys : List Pubkey :=
  match tx.parseLoadedAddresses env with
  | some (writable, readonly) => tx.staticKeys ++ writable ++ readonly
  | none => tx.staticKeys

/-- The transaction as the loop sees it. -/
def resolved : Tx :=
  { signature := tx.signature, slot := tx.slot, failed := tx.failed
    instructions := tx.instructions.map (·.lookUp (tx.accountKeys env))
    inner := tx.inner.map (·.lookUp (tx.accountKeys env)) }

/-- `parse_balance_sync_transaction`. -/
def parseBalanceSyncTransaction (config : DetectorConfig) : Option BalanceSyncEvent :=
  (tx.resolved env).parseBalanceSyncTransaction env config

end EncodedTx

/-- What an RPC node answers. -/
def FinalizedTx.encode (env : Env) (tx : FinalizedTx) : EncodedTx :=
  { signature := tx.signature, slot := tx.slot, failed := tx.failed, staticKeys := tx.staticKeys
    loadedAddresses := some (tx.writable.map env.pubkeyToString, tx.readonly.map env.pubkeyToString)
    instructions := tx.instructions, inner := tx.inner }

theorem mapM_pubkeyFromStr (env : Env) (keys : List Pubkey) :
    (keys.map env.pubkeyToString).mapM env.pubkeyFromStr = some keys := by
  induction keys with
  | nil => rfl
  | cons key keys ih =>
    rw [List.map_cons, List.mapM_cons, env.pubkeyFromStr_toString, ih]
    rfl

/-- **The keys from address tables are read back as they are.** -/
theorem FinalizedTx.resolved_encode (env : Env) (tx : FinalizedTx) :
    (tx.encode env).resolved env = tx.resolved := by
  have hloaded : (tx.encode env).parseLoadedAddresses env = some (tx.writable, tx.readonly) := by
    unfold EncodedTx.parseLoadedAddresses encode
    simp only [Option.bind_eq_bind, Option.bind_some, mapM_pubkeyFromStr]
    rfl
  have hkeys : (tx.encode env).accountKeys env = tx.keys := by
    unfold EncodedTx.accountKeys
    rw [hloaded]
    rfl
  unfold EncodedTx.resolved resolved
  rw [hkeys]
  rfl

/-! ### Movements -/

/-- A movement of the vault's money. -/
inductive Movement where
  | deposit (client : Pubkey) (amount : ℕ)
  | withdraw (client : Pubkey) (amount : ℕ)
deriving DecidableEq

namespace Movement

def amount : Movement → ℕ
  | deposit _ amount | withdraw _ amount => amount

/-- What the movement adds to a client's balance. -/
def credit (client : Pubkey) : Movement → ℕ
  | deposit c amount => if c = client then amount else 0
  | withdraw _ _ => 0

/-- What the movement takes from a client's balance. -/
def debit (client : Pubkey) : Movement → ℕ
  | deposit _ _ => 0
  | withdraw c amount => if c = client then amount else 0

end Movement

/-- All that a client is credited with. -/
def credited (client : Pubkey) (movements : List Movement) : ℕ :=
  (movements.map (·.credit client)).sum

/-- All that a client is debited with. -/
def debited (client : Pubkey) (movements : List Movement) : ℕ :=
  (movements.map (·.debit client)).sum

/-- The movement of an event. -/
def BalanceSyncEvent.movement : BalanceSyncEvent → Movement
  | .deposit event => .deposit event.client event.amount
  | .withdraw event => .withdraw event.client event.amount

/-- What an instruction moves: `deposit` from the first account to the fourth, `withdraw` from the
third to the first. -/
def Instruction.movement? (env : Env) (config : DetectorConfig) (i : Instruction) :
    Option Movement :=
  if i.Calls env config "deposit" 16 then
    if i.account 3 = some config.vaultTokenAccount then
      (i.account 0).map fun client => .deposit client (i.u64At 8)
    else none
  else if i.Calls env config "withdraw" 32 then
    if i.account 2 = some config.vaultTokenAccount then
      (i.account 0).map fun client => .withdraw client (i.u64At 8)
    else none
  else none

namespace Tx

variable (env : Env) (config : DetectorConfig) (tx : Tx)

/-- What the transaction moves, its own instructions first. -/
def movements : List Movement :=
  if tx.failed then [] else (tx.instructions ++ tx.inner).filterMap (·.movement? env config)

/-- What is left after the first movement among its own instructions. -/
def passedOver : List Movement :=
  if tx.failed then []
  else (tx.instructions.filterMap (·.movement? env config)).drop 1 ++
    tx.inner.filterMap (·.movement? env config)

end Tx

/-! ### One instruction -/

section Decoding

variable {env : Env} {config : DetectorConfig} {keys : List Pubkey} {i : CompiledInstruction}

/-- An account of an instruction with enough accounts. -/
theorem CompiledInstruction.account_lookUp (h : i.Within keys.length) {n : ℕ}
    (hn : n < i.accounts.length) : ∃ key, (i.lookUp keys).account n = some key := by
  have hlt : i.accounts.get ⟨n, hn⟩ < keys.length := h.2 _ (List.get_mem _ _)
  refine ⟨keys.get ⟨_, hlt⟩, ?_⟩
  unfold Instruction.account lookUp
  rw [List.getElem?_map, List.getElem?_eq_getElem hn]
  exact List.getElem?_eq_getElem hlt

/-- **The detector decodes an instruction as the program does.** -/
theorem CompiledInstruction.parse_lookUp (h : i.Within keys.length) (tx : Tx) :
    ((i.lookUp keys).parse env config tx).map BalanceSyncEvent.movement
      = (i.lookUp keys).movement? env config := by
  unfold Instruction.parse Instruction.movement?
  split
  · next hcalls =>
    have hfour : 4 ≤ i.accounts.length := by simpa [lookUp] using hcalls.2.2.2
    obtain ⟨client, hclient⟩ := account_lookUp h (show 0 < i.accounts.length by omega)
    obtain ⟨token, htoken⟩ := account_lookUp h (show 3 < i.accounts.length by omega)
    unfold Instruction.depositTerms
    simp only [hclient, htoken, Option.bind_eq_bind, Option.bind_some, Option.some.injEq,
      Option.map_some]
    split <;> rfl
  · split
    · next hcalls =>
      have hfour : 4 ≤ i.accounts.length := by simpa [lookUp] using hcalls.2.2.2
      obtain ⟨client, hclient⟩ := account_lookUp h (show 0 < i.accounts.length by omega)
      obtain ⟨token, htoken⟩ := account_lookUp h (show 2 < i.accounts.length by omega)
      obtain ⟨recipient, hrecipient⟩ := account_lookUp h (show 3 < i.accounts.length by omega)
      unfold Instruction.withdrawTerms
      simp only [hclient, htoken, hrecipient, Option.bind_eq_bind, Option.bind_some,
        Option.some.injEq, Option.map_some]
      split <;> rfl
    · rfl

end Decoding

/-! ### The whole transaction -/

namespace FinalizedTx

variable (env : Env) (config : DetectorConfig) (tx : FinalizedTx)

/-- The movement that the detector finds, if there is one. -/
def found : List Movement :=
  (((tx.encode env).parseBalanceSyncTransaction env config).map (·.movement)).toList

/-- The detector credits and debits every client with what the transaction moves. -/
def Accounted : Prop :=
  ∀ client, credited client (tx.found env config)
      = credited client (tx.resolved.movements env config) ∧
    debited client (tx.found env config) = debited client (tx.resolved.movements env config)

variable {env config tx}

/-- The detector finds the first movement among the transaction's own instructions. -/
theorem found_eq : tx.found env config =
    if tx.failed then []
    else ((tx.resolved.instructions.filterMap (·.movement? env config)).take 1) := by
  unfold found EncodedTx.parseBalanceSyncTransaction
  rw [resolved_encode]
  unfold Tx.parseBalanceSyncTransaction
  have hfailed : tx.resolved.failed = tx.failed := rfl
  rw [hfailed]
  split
  · rfl
  · have hparse : ∀ i ∈ tx.resolved.instructions,
        (i.parse env config tx.resolved).map BalanceSyncEvent.movement = i.movement? env config := by
      intro i hi
      obtain ⟨compiled, hcompiled, rfl⟩ := List.mem_map.1 hi
      exact CompiledInstruction.parse_lookUp (tx.within compiled (List.mem_append_left _ hcompiled)) _
    rw [← List.filterMap_congr hparse, ← List.head?_filterMap, ← List.map_filterMap,
      ← List.map_take, List.take_one, Option.toList_map]

/-- All movements are the one that is found and those that are passed over. -/
theorem movements_eq :
    tx.resolved.movements env config
      = tx.found env config ++ tx.resolved.passedOver env config := by
  rw [found_eq]
  unfold Tx.movements Tx.passedOver
  have hfailed : tx.resolved.failed = tx.failed := rfl
  rw [hfailed]
  split
  · rfl
  · rw [List.filterMap_append, ← List.append_assoc, List.take_append_drop]

end FinalizedTx

theorem credited_append (client : Pubkey) (ms ms' : List Movement) :
    credited client (ms ++ ms') = credited client ms + credited client ms' := by
  simp [credited]

theorem debited_append (client : Pubkey) (ms ms' : List Movement) :
    debited client (ms ++ ms') = debited client ms + debited client ms' := by
  simp [debited]

/-- Movements that add up to nothing for everybody are of nothing. -/
theorem amounts_eq_zero_iff (ms : List Movement) :
    (∀ client, credited client ms = 0 ∧ debited client ms = 0) ↔ ∀ m ∈ ms, m.amount = 0 := by
  constructor
  · intro h m hm
    cases m with
    | deposit client amount =>
      have hzero := (h client).1
      unfold credited at hzero
      rw [List.sum_eq_zero_iff] at hzero
      simpa [Movement.credit, Movement.amount] using hzero _ (List.mem_map_of_mem hm)
    | withdraw client amount =>
      have hzero := (h client).2
      unfold debited at hzero
      rw [List.sum_eq_zero_iff] at hzero
      simpa [Movement.debit, Movement.amount] using hzero _ (List.mem_map_of_mem hm)
  · intro h client
    unfold credited debited
    rw [List.sum_eq_zero_iff, List.sum_eq_zero_iff]
    refine ⟨fun n hn => ?_, fun n hn => ?_⟩ <;> obtain ⟨m, hm, rfl⟩ := List.mem_map.1 hn <;>
      have hzero := h m hm <;> cases m <;>
      simp_all [Movement.amount, Movement.credit, Movement.debit]

/-- **When the detector accounts for all of a transaction.** -/
theorem accounted_iff (env : Env) (config : DetectorConfig) (tx : FinalizedTx) :
    tx.Accounted env config ↔ ∀ m ∈ tx.resolved.passedOver env config, m.amount = 0 := by
  rw [← amounts_eq_zero_iff]
  refine forall_congr' fun client => ?_
  rw [FinalizedTx.movements_eq, credited_append, debited_append]
  omega

namespace Shop

/-- A deposit of five: the depositor, the vault, the depositor's token account, that of the vault
and the token program. -/
def depositFive : CompiledInstruction :=
  { programIdIndex := 3, accounts := [0, 1, 2, 6, 5], data := List.replicate 8 0 ++ leBytes 8 5 }

/-- A transaction that deposits five twice, and five more through another program.  It carries the
keys of the three programs, and the key of the vault's token account is loaded from an address
table. -/
def threeDeposits : FinalizedTx :=
  { signature := "tx", slot := 1, failed := false
    staticKeys := [.fill 1, .fill 8, .fill 2, .fill 7, .fill 6, .fill 5], writable := [.fill 9]
    readonly := []
    instructions := [depositFive, depositFive, { programIdIndex := 4, accounts := [0], data := [] }]
    inner := [depositFive], within := by decide }

/-- **Two of three deposits are not counted.** -/
theorem deposits_passed_over :
    threeDeposits.found world ⟨.fill 7, .fill 9⟩ = [.deposit (.fill 1) 5] ∧
      threeDeposits.resolved.movements world ⟨.fill 7, .fill 9⟩
        = [.deposit (.fill 1) 5, .deposit (.fill 1) 5, .deposit (.fill 1) 5] ∧
      ¬ threeDeposits.Accounted world ⟨.fill 7, .fill 9⟩ := by
  have h : threeDeposits.found world ⟨.fill 7, .fill 9⟩ = [.deposit (.fill 1) 5] ∧
      threeDeposits.resolved.movements world ⟨.fill 7, .fill 9⟩
        = [.deposit (.fill 1) 5, .deposit (.fill 1) 5, .deposit (.fill 1) 5] := by
    decide +kernel
  refine ⟨h.1, h.2, fun haccounted => ?_⟩
  have hcredited := (haccounted (.fill 1)).1
  rw [h.1, h.2] at hcredited
  exact absurd hcredited (by decide)

end Shop

end Subly402
