/-
# The vault's tokens

What holds of the token account of a vault over every sequence of instructions, with any
signers and accounts: **`Site.run_conserves`**.  The balance is what was paid in less
what was paid out, the counters of `VaultConfig` are the totals, every withdrawal had an
authorisation of the vault's key, and no nonce of a client was used twice.
-/

import Subly402.Chain.Site

namespace Subly402
namespace Chain

open Lib

/-! ### Sums of transfers -/

/-- The amounts of the transfers with a property. -/
def sumWhere (p : Transfer → Bool) (transfers : List Transfer) : ℕ :=
  ((transfers.filter p).map (·.amount)).sum

/-- No transfers. -/
@[simp]
theorem sumWhere_nil (p : Transfer → Bool) : sumWhere p [] = 0 := rfl

/-- Sums add. -/
@[simp]
theorem sumWhere_append (p : Transfer → Bool) (ts us : List Transfer) :
    sumWhere p (ts ++ us) = sumWhere p ts + sumWhere p us := by
  simp [sumWhere]

/-- The first transfer. -/
@[simp]
theorem sumWhere_cons (p : Transfer → Bool) (t : Transfer) (ts : List Transfer) :
    sumWhere p (t :: ts) = (if p t then t.amount else 0) + sumWhere p ts := by
  unfold sumWhere
  by_cases h : p t <;> simp [h]

/-- The transfer is of the kind. -/
def Transfer.isOf (kind : TransferKind) (t : Transfer) : Bool := t.kind = kind

/-- The transfer is of the kind, and not to the account itself. -/
def Transfer.leaves (address : Pubkey) (kind : TransferKind) (t : Transfer) : Bool :=
  t.kind = kind ∧ t.target ≠ address

/-- A transfer's kind. -/
@[simp]
theorem Transfer.isOf_iff {kind : TransferKind} {t : Transfer} :
    t.isOf kind = true ↔ t.kind = kind := decide_eq_true_iff

/-- A transfer that leaves the account. -/
@[simp]
theorem Transfer.leaves_iff {address : Pubkey} {kind : TransferKind} {t : Transfer} :
    t.leaves address kind = true ↔ t.kind = kind ∧ t.target ≠ address := decide_eq_true_iff

/-- What left the account. -/
def paidOut (address : Pubkey) (transfers : List Transfer) : ℕ :=
  sumWhere (·.leaves address .withdrawn) transfers + sumWhere (·.leaves address .settled) transfers
    + sumWhere (·.leaves address .forceSettled) transfers

/-- One more payment. -/
theorem paidOut_append (address : Pubkey) (ts : List Transfer) {kind : TransferKind}
    (hkind : kind ≠ .deposited) (amount : ℕ) (target : Pubkey) :
    paidOut address (ts ++ [⟨kind, amount, target⟩])
      = paidOut address ts + if target = address then 0 else amount := by
  by_cases hself : target = address <;> cases kind <;> simp [paidOut, hself] at hkind ⊢ <;> omega

/-! ### The account -/

/-- The account has what was paid in less what was paid out. -/
structure Balanced (address owner : Pubkey) (tokens : Tokens) (transfers : List Transfer) : Prop where
  exists_balance : ∃ balance, tokens.Holds address owner balance ∧
    balance + paidOut address transfers = sumWhere (·.isOf .deposited) transfers

namespace Balanced

variable {address owner : Pubkey} {tokens tokens' : Tokens} {transfers : List Transfer} {amount : ℕ}

/-- A deposit keeps the balance. -/
theorem receive (h : Balanced address owner tokens transfers) {source target : Pubkey}
    (hne : source ≠ address) (htransfer : tokens.transfer source address amount = .ok tokens') :
    Balanced address owner tokens' (transfers ++ [⟨.deposited, amount, target⟩]) := by
  obtain ⟨balance, hholds, hbalance⟩ := h
  refine ⟨balance + amount, hholds.receive hne htransfer, ?_⟩
  have hout : paidOut address (transfers ++ [⟨.deposited, amount, target⟩])
      = paidOut address transfers := by simp [paidOut]
  rw [hout, sumWhere_append, ← hbalance]
  simp
  omega

/-- A payment keeps the balance. -/
theorem pay (h : Balanced address owner tokens transfers) {kind : TransferKind} {target : Pubkey}
    (hkind : kind ≠ .deposited) (htransfer : tokens.transfer address target amount = .ok tokens') :
    Balanced address owner tokens' (transfers ++ [⟨kind, amount, target⟩]) := by
  obtain ⟨balance, hholds, hbalance⟩ := h
  obtain ⟨balance', hholds', hpaid⟩ := hholds.pay htransfer
  refine ⟨balance', hholds', ?_⟩
  rw [paidOut_append address transfers hkind, sumWhere_append, ← hbalance]
  simp [hkind]
  omega

/-- The account keeps what it has while other accounts change. -/
theorem congr (h : Balanced address owner tokens transfers)
    (hkept : tokens'[address]? = tokens[address]?) : Balanced address owner tokens' transfers := by
  obtain ⟨balance, ⟨account, haccount, howner, hamount⟩, hbalance⟩ := h
  exact ⟨balance, ⟨account, hkept.trans haccount, howner, hamount⟩, hbalance⟩

end Balanced

/-- The loop of `settle_vault`, entry by entry. -/
theorem Balanced.payEntries {address owner : Pubkey} {tokens' : Tokens} {total' : ℕ} :
    ∀ {entries : List (SettlementEntry × AccountMeta)} {tokens : Tokens} {total : ℕ}
      {transfers : List Transfer}, Balanced address owner tokens transfers →
      Runtime.payEntries address entries tokens total = .ok (tokens', total') →
      let settled : List Transfer := entries.map fun e => ⟨.settled, e.1.amount, e.2.pubkey⟩
      Balanced address owner tokens' (transfers ++ settled) ∧
        total' = total + sumWhere (·.isOf .settled) settled
  | [], tokens, total, transfers, h, hpaid => by
    cases hpaid
    simpa using h
  | (entry, account) :: rest, tokens, total, transfers, h, hpaid => by
    simp only [Runtime.payEntries, bind_eq_ok] at hpaid
    obtain ⟨_, -, _, -, _, -, tokens₁, htransfer, _, -, hrest⟩ := hpaid
    have hfirst : Balanced address owner tokens₁
        (transfers ++ [⟨.settled, entry.amount, account.pubkey⟩]) := h.pay nofun htransfer
    obtain ⟨hbalanced, htotal⟩ := hfirst.payEntries hrest
    refine ⟨by simpa using hbalanced, ?_⟩
    rw [htotal, List.map_cons, sumWhere_cons]
    simp [Transfer.isOf, Nat.add_assoc]

/-! ### Every sequence of instructions -/

/-- The withdrawal had a signature of the key over exactly its terms, and was in time. -/
def Withdrawal.Authorised (verifies : Ed25519Check → Bool) (vaultSigner vaultConfig : Pubkey)
    (w : Withdrawal) : Prop :=
  w.clock ≤ w.call.expiresAt ∧ ∃ check, w.check = some check ∧ verifies check = true ∧
    check.publicKey = vaultSigner ∧
    check.message = withdrawMessage w.call.client w.call.clientTokenAccount w.call.amount
      w.call.withdrawNonce w.call.expiresAt vaultConfig

namespace Site

variable {rt : Runtime} {verifies : Ed25519Check → Bool} {vaultConfig vaultToken vaultSigner : Pubkey}
  {s s' : Site}

/-- The total of the transfers of a kind. -/
def total (s : Site) (kind : TransferKind) : ℕ := sumWhere (·.isOf kind) s.transfers

/-- What the transfers of a kind took out of the vault's token account. -/
def totalOut (s : Site) (kind : TransferKind) : ℕ :=
  sumWhere (·.leaves s.vault.vaultTokenAccount kind) s.transfers

/-- What every event keeps. -/
structure Inv (verifies : Ed25519Check → Bool) (vaultConfig vaultToken vaultSigner : Pubkey)
    (s : Site) : Prop where
  key : s.vault.key = vaultConfig
  vaultTokenAccount : s.vault.vaultTokenAccount = vaultToken
  vaultSignerPubkey : s.vault.vaultSignerPubkey = vaultSigner
  balanced : Balanced vaultToken vaultConfig s.tokens s.transfers
  deposited : s.vault.lifetimeDeposited = s.total .deposited
  withdrawn : s.vault.lifetimeWithdrawn = s.total .withdrawn
  settled : s.vault.lifetimeSettled = s.total .settled
  nonces : s.usedNonces = s.withdrawals.map (·.seeds)
  once : s.usedNonces.Nodup
  authorised : ∀ w ∈ s.withdrawals, w.Authorised verifies vaultSigner vaultConfig

/-- An account that belongs to somebody who signs is not the vault's. -/
theorem Inv.address_ne (h : Inv verifies vaultConfig vaultToken vaultSigner s)
    {address signer : Pubkey} (hsigner : signer ≠ s.vault.key)
    (howner : ∃ a, s.tokens[address]? = some a ∧ a.owner = signer) : address ≠ vaultToken := by
  rintro rfl
  obtain ⟨a, ha, rfl⟩ := howner
  obtain ⟨_, ⟨account, haccount, howner, -⟩, -⟩ := h.balanced
  rw [haccount] at ha
  cases ha
  exact hsigner (howner.trans h.key.symm)

/-- The transfers of a settlement are settlements. -/
theorem total_settlements (accounts : List AccountMeta) (entries : List SettlementEntry)
    {kind : TransferKind} (hkind : kind ≠ .settled) :
    sumWhere (·.isOf kind) (settlements accounts entries) = 0 := by
  have hnone : (settlements accounts entries).filter (·.isOf kind) = [] := by
    refine List.filter_eq_nil_iff.2 fun t ht => ?_
    obtain ⟨e, -, rfl⟩ := List.mem_map.1 ht
    simpa using hkind.symm
  rw [sumWhere, hnone]
  rfl

/-- One change keeps the invariant. -/
theorem Inv.change (h : Inv verifies vaultConfig vaultToken vaultSigner s) {event : Event}
    (hchange : Change rt verifies s event s') :
    Inv verifies vaultConfig vaultToken vaultSigner s' := by
  cases hchange with
  | deposit call tokens _ hsigner howner htransfer =>
    rw [h.vaultTokenAccount] at htransfer
    refine ⟨h.key, h.vaultTokenAccount, h.vaultSignerPubkey,
      h.balanced.receive (h.address_ne hsigner howner) htransfer, ?_, ?_, ?_, h.nonces, h.once,
      h.authorised⟩
    · simp [total, h.deposited]
    · simp [total, h.withdrawn]
    · simp [total, h.settled]
  | withdraw tx call check tokens _ hverified hauthorised _ hunused htransfer =>
    rw [h.vaultTokenAccount] at htransfer
    rw [h.vaultSignerPubkey, h.key] at hauthorised
    refine ⟨h.key, h.vaultTokenAccount, h.vaultSignerPubkey, h.balanced.pay nofun htransfer,
      ?_, ?_, ?_, ?_, ?_, fun w hw => ?_⟩
    · simp [total, h.deposited]
    · simp [total, h.withdrawn]
    · simp [total, h.settled]
    · simp [h.nonces, Withdrawal.seeds]
    · exact h.once.append (List.nodup_singleton _) (by simpa using hunused)
    · rcases List.mem_append.1 hw with hw | hw
      · exact h.authorised w hw
      · rw [List.mem_singleton.1 hw]
        exact ⟨hauthorised.2.2, check, rfl, hverified.2, hauthorised.1, hauthorised.2.1⟩
  | settle tx accounts args tokens total hpaid =>
    rw [h.vaultTokenAccount] at hpaid
    obtain ⟨hbalanced, htotal⟩ := h.balanced.payEntries hpaid
    refine ⟨h.key, h.vaultTokenAccount, h.vaultSignerPubkey, hbalanced, ?_, ?_, ?_, h.nonces, h.once,
      h.authorised⟩
    · simp [Site.total, h.deposited, total_settlements]
    · simp [Site.total, h.withdrawn, total_settlements]
    · rw [Nat.zero_add] at htotal
      simp only [Site.total, sumWhere_append, h.settled, htotal]
      rfl
  | finalize address vaultToken recipient amount request tokens htransfer =>
    rw [h.vaultTokenAccount] at htransfer
    refine ⟨h.key, h.vaultTokenAccount, h.vaultSignerPubkey, h.balanced.pay nofun htransfer,
      ?_, ?_, ?_, h.nonces, h.once, h.authorised⟩
    · simp [total, h.deposited]
    · simp [total, h.withdrawn]
    · simp [total, h.settled]
  | elsewhere tokens hkept =>
    rw [h.vaultTokenAccount] at hkept
    exact { h with balanced := h.balanced.congr hkept }
  | pause | announce | retire | rotate | record => exact { h with }

/-- One act keeps the invariant. -/
theorem Inv.next (h : Inv verifies vaultConfig vaultToken vaultSigner s) (act : Act) :
    Inv verifies vaultConfig vaultToken vaultSigner (s.next rt verifies act) := by
  have hafter : Inv verifies vaultConfig vaultToken vaultSigner (s.after act.wait) := { h with }
  rcases next_cases s act with heq | hchange
  · rw [heq]
    exact hafter
  · exact hafter.change hchange

/-- A new vault has an empty account. -/
theorem Inv.opened {governance usdcMint : Pubkey} {auditor : Bytes32} {before tokens : Tokens}
    {vault : GovernedVault} (h : initializeVault governance vaultConfig usdcMint vaultToken
      vaultSigner auditor before = .ok (vault, tokens)) (clock : ℤ) :
    Inv verifies vaultConfig vaultToken vaultSigner (opened vault tokens clock) := by
  simp only [initializeVault, bind_eq_ok] at h
  obtain ⟨_, -, hout⟩ := h
  cases hout
  exact ⟨rfl, rfl, rfl, ⟨0, ⟨_, Std.ExtTreeMap.getElem?_insert_self, rfl, rfl⟩, rfl⟩, rfl, rfl, rfl,
    rfl, List.nodup_nil, by simp [Site.opened]⟩

/-- **The tokens of a vault.** -/
theorem run_conserves {governance usdcMint : Pubkey} {auditor : Bytes32} {before tokens : Tokens}
    {vault : GovernedVault} (h : initializeVault governance vaultConfig usdcMint vaultToken
      vaultSigner auditor before = .ok (vault, tokens)) (clock : ℤ) (acts : List Act) :
    let s := (Site.opened vault tokens clock).run rt verifies acts
    (∃ account, s.tokens[vaultToken]? = some account ∧
      (account.amount : ℤ) = s.total .deposited - s.totalOut .withdrawn - s.totalOut .settled
        - s.totalOut .forceSettled) ∧
      s.vault.lifetimeDeposited = s.total .deposited ∧
      s.vault.lifetimeWithdrawn = s.total .withdrawn ∧
      s.vault.lifetimeSettled = s.total .settled ∧
      (∀ w ∈ s.withdrawals, w.Authorised verifies vaultSigner vaultConfig) ∧
      (s.withdrawals.map (·.seeds)).Nodup := by
  intro s
  have hs : Inv verifies vaultConfig vaultToken vaultSigner s :=
    runSteps_keep (fun _ act hs => hs.next act) (Inv.opened h clock) acts
  obtain ⟨balance, ⟨account, haccount, -, rfl⟩, hbalance⟩ := hs.balanced
  refine ⟨⟨account, haccount, ?_⟩, hs.deposited, hs.withdrawn, hs.settled, hs.authorised,
    hs.nonces ▸ hs.once⟩
  simp only [total, totalOut, hs.vaultTokenAccount]
  unfold paidOut at hbalance
  omega

/-- A deposit of ten tokens and a withdrawal of four. -/
theorem run_conserves_sample :
    let acts : List Act := [⟨0, .deposit Sample.deposit⟩, ⟨5, Sample.withdraw⟩]
    let s := (Site.opened Sample.vault Sample.tokens 0).run Sample.rt Sample.verifies acts
    s.transfers = [⟨.deposited, 10, .fill 7⟩, ⟨.withdrawn, 4, .fill 2⟩] ∧
      ∃ account, s.tokens[(.fill 7 : Pubkey)]? = some account ∧
        (account.amount : ℤ) = s.total .deposited - s.totalOut .withdrawn - s.totalOut .settled
          - s.totalOut .forceSettled :=
  ⟨by decide +kernel, (run_conserves Sample.initializeVault_eq 0 _).1⟩

end Site

end Chain
end Subly402
