/-
# Withdrawals that are refused

`apply_withdrawal` of the detector takes the pending withdrawal out of the vault, lowers
the client's balance, and only then compares the event with the authorisation it has taken
out.  Each error has its own way back:
-/

import Subly402.Enclave.ErrorReplies

namespace Subly402

open Lib
open Lib.Prog (Leaves)

/-- The entry says that a withdrawal was applied. -/
def WalEntry.isWithdrawApplied : WalEntry → Bool
  | .withdrawApplied .. => true
  | _ => false

/-- The balances and the pending withdrawals. -/
def VaultState.moneyOut (v : VaultState) :
    FiniteMap Pubkey ClientBalance × FiniteMap ℕ PendingWithdrawal :=
  (v.clientBalances, v.pendingWithdrawals)

namespace Detector

/-- A call that fails, and logs no applied withdrawal, changes no balance and no pending
withdrawal. -/
def FailsCleanly (env : Env) (s : AppState) (event : WithdrawEvent) (now : ℤ) : Prop :=
  ∀ e u, (applyWithdrawal env event now).run s = (.error e, u) →
    (∀ entry ∈ s.newEntries u, entry.isWithdrawApplied = false) →
    u.vault.moneyOut = s.vault.moneyOut

variable {env : Env} {s : AppState} {event : WithdrawEvent}

/-- Without a durable entry about an applied withdrawal, balances and withdrawals are as they
were. -/
def Unmoved (s u : AppState) : Prop :=
  (∀ entry ∈ s.newEntries u, entry.isWithdrawApplied = false) →
    u.vault.moneyOut = s.vault.moneyOut

/-- A step that has logged the withdrawal, and whatever comes after. -/
theorem unmoved_of_logged {t u : AppState} {entry : WalEntry} (hwal : t.wal = s.wal.store entry)
    (hentry : entry.isWithdrawApplied = true) (h : Logged env t u) : Unmoved s u := by
  intro hquiet
  obtain ⟨es, happends, -⟩ := h.log
  have hnew : s.newEntries u = entry :: es := by
    have hall : s.wal.Appends ([entry] ++ es) u.wal :=
      Wal.Appends.trans (.store (.nil s.wal) entry) (hwal ▸ happends)
    exact hall.newEntries
  have hfalse := hquiet entry (hnew ▸ List.mem_cons_self)
  rw [hentry] at hfalse
  cases hfalse

/-- **A genuine event leaves balances and withdrawals alone, or is logged.** -/
theorem applyWithdrawal_unmoved (hs : AppInv env s) (hgenuine : Genuine s event) (now : ℤ) :
    (applyWithdrawal env event now).Leaves s (Unmoved s) := by
  refine .get_bind ?_
  split
  · exact .pure fun _ => rfl
  cases hw : s.vault.pendingWithdrawals[event.withdrawNonce]? with
  | none =>
    exact .of_run (by rw [Prog.run_bind, run_onVault, run_applyWithdrawal_absent hw]; rfl)
      fun _ => rfl
  | some w =>
    obtain ⟨balance, hb, hle, hlt⟩ := hs.withdrawable hw
    have hnonce : w.withdrawNonce = event.withdrawNonce := hs.shape.pending_key _ _ hw
    refine .onVault_run_bind (run_applyWithdrawal hw hb hlt) ?_
    refine .failIf_bind (fun hmismatch => (hmismatch (hgenuine w hw)).elim) fun _ => ?_
    have hroll := run_rollbackAppliedWithdrawal (hnonce ▸ hw) hb hle
    rw [hnonce] at hroll
    refine .append_bind hroll (fun _ => rfl) (.modify_bind ?_)
    exact (leaves_refresh_receipt env event.client now (fun t => .pure (.refl env t)) _).mono
      fun u hu => unmoved_of_logged rfl rfl hu

/-- An event with other terms takes the pending withdrawal away and fails. -/
theorem run_applyWithdrawal_mismatch (hs : AppInv env s)
    (hnew : event.signature ∉ s.processedSignatures) {w : PendingWithdrawal}
    (hw : s.vault.pendingWithdrawals[event.withdrawNonce]? = some w) (hterms : ¬ event.Matches w)
    (now : ℤ) :
    ∃ e v, (applyWithdrawal env event now).run s = (.error e, s.setVault v) ∧
      v.pendingWithdrawals[event.withdrawNonce]? = none := by
  obtain ⟨balance, hb, hle, hlt⟩ := hs.withdrawable hw
  refine ⟨.internal ("withdraw event mismatch for nonce " ++ toString event.withdrawNonce),
    ((s.vault.dropPending event.withdrawNonce).noteLockedSub balance.locked w.amount).setBalance
      w.client (balance.withdraw w.amount), ?_, ?_⟩
  · unfold applyWithdrawal
    simp [hnew, Subly402.run_applyWithdrawal hw hb hlt, hterms]
  · rw [VaultState.setBalance_pendingWithdrawals, VaultState.noteLockedSub_pendingWithdrawals,
      VaultState.dropPending_pendingWithdrawals, FiniteMap.lookup_erase, if_pos rfl]

/-- **When a failed withdrawal changes nothing**, in every state of a run: where its transaction
was seen before, or the withdrawal under its nonce, if there is one, has the terms of the
event. -/
theorem failed_withdrawal_iff (env : Env) (ops : List (Op env)) (event : WithdrawEvent) (now : ℤ) :
    FailsCleanly env (run env ops) event now ↔
      event.signature ∈ (run env ops).processedSignatures ∨ Genuine (run env ops) event := by
  have hs := (run_inv ops).toAppInv
  constructor
  · intro h
    by_cases hnew : event.signature ∈ (run env ops).processedSignatures
    · exact .inl hnew
    · refine .inr fun w hw => ?_
      by_contra hterms
      obtain ⟨e, v, hrun, hgone⟩ := run_applyWithdrawal_mismatch hs hnew hw hterms now
      have hquiet : ∀ entry ∈ (run env ops).newEntries ((run env ops).setVault v),
          entry.isWithdrawApplied = false := by
        have hnone : (run env ops).newEntries ((run env ops).setVault v) = [] :=
          Wal.Appends.newEntries (.nil _)
        rw [hnone]
        exact fun _ hmem => (List.not_mem_nil hmem).elim
      have hsame := congrArg Prod.snd (h e _ hrun hquiet)
      have hgone' : (run env ops).vault.pendingWithdrawals[event.withdrawNonce]? = none := by
        have hpending : v.pendingWithdrawals = (run env ops).vault.pendingWithdrawals := hsame
        rw [← hpending]
        exact hgone
      rw [hw] at hgone'
      cases hgone'
  · rintro (hseen | hgenuine) e u hrun hquiet
    · unfold applyWithdrawal at hrun
      simp [hseen] at hrun
    · have hleaves := applyWithdrawal_unmoved hs hgenuine now
      rw [Leaves, hrun] at hleaves
      exact hleaves hquiet

end Detector

namespace Shop

/-- The client deposits five, and is authorised to withdraw one. -/
def authorised : List (Op world) :=
  [.deposit ⟨deposit, deposit_mem⟩ 0, .withdrawAuth (.fill 1) (.fill 1) 1 ⟨3, 3⟩]

/-- An event under the nonce of that authorisation, with another amount. -/
def otherAmount : WithdrawEvent :=
  { signature := "tx2", client := .fill 1, recipientAta := .fill 1, amount := 2, withdrawNonce := 1
    expiresAt := 303, slot := 2 }

/-- **A refused withdrawal that is gone**: the event fails, nothing is logged, and the client has
neither the locked unit nor the pending withdrawal any more. -/
theorem refused_and_gone :
    let s := run world authorised
    let out := (Detector.applyWithdrawal world otherAmount 5).run s
    out.1.toOption = none ∧ s.newEntries out.2 = [] ∧
      (s.vault.balance (.fill 1)).locked = 1 ∧ (out.2.vault.balance (.fill 1)).locked = 0 ∧
      (s.vault.pendingWithdrawals[1]?).isSome ∧ out.2.vault.pendingWithdrawals[1]? = none := by
  decide +kernel

end Shop

end Subly402
