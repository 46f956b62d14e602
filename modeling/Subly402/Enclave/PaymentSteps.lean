/-
# The payment handlers, step by step

Each handler of `Subly402.Enclave.Handlers`, from any state of the enclave between two
handlers, leaves the books as its log entries say (`Logged`): where a check or the
append fails it leaves them as they were, and otherwise it makes the one event that
it logs.
-/

import Subly402.Enclave.Handlers
import Subly402.Enclave.Steps

namespace Subly402

open Lib
open Lib.Prog (okOr failIf Leaves)

variable {env : Env} {s : AppState}

/-- A fresh id names no reservation. -/
theorem AppInv.no_reservation (hs : AppInv env s) {n : ℕ} (hn : s.drawn ≤ n) (kind : IdKind) :
    s.vault.ledger.reservations[env.freshId kind n]? = none := by
  cases h : s.vault.ledger.reservations[env.freshId kind n]? with
  | none => rfl
  | some r => exact (Env.not_drawn_freshId kind hn (hs.ids.reservations _ r h)).elim

/-- What a reserved payment of the books says about the vault. -/
theorem AppInv.reserved (hs : AppInv env s) {key : String} {r : Reservation}
    (hr : s.vault.reservations[key]? = some r) (hst : r.status = .reserved) :
    ∃ balance, s.vault.clientBalances[r.client]? = some balance ∧ r.amount ≤ balance.locked := by
  obtain ⟨balance, hb⟩ := hs.onRecord r.client (.inl ⟨key, r, hr, rfl⟩)
  have hle := hs.sums.reserved_le hr hst
  rw [VaultState.Known.account hb] at hle
  exact ⟨balance, hb, hle⟩

/-- What a pending withdrawal says about the vault. -/
theorem AppInv.pending (hs : AppInv env s) {n : ℕ} {w : PendingWithdrawal}
    (hw : s.vault.pendingWithdrawals[n]? = some w) :
    ∃ balance, s.vault.clientBalances[w.client]? = some balance ∧ w.amount ≤ balance.locked := by
  obtain ⟨balance, hb⟩ := hs.onRecord w.client (.inr (.inl ⟨n, w, hw, rfl⟩))
  have hle := hs.sums.pending_le hw
  rw [VaultState.Known.account hb] at hle
  exact ⟨balance, hb, hle⟩

/-- The next withdrawal nonce is free. -/
theorem AppInv.no_pending (hs : AppInv env s) :
    s.vault.pendingWithdrawals[s.vault.withdrawNonce]? = none := by
  cases hw : s.vault.pendingWithdrawals[s.vault.withdrawNonce]? with
  | none => rfl
  | some w => exact (lt_irrefl _ (hs.nonces _ w hw)).elim

/-- Handing out the signature over an authorisation that is pending, or was. -/
theorem Logged.release (env : Env) (s : AppState) {w : PendingWithdrawal}
    (hlt : w.withdrawNonce < s.vault.withdrawNonce)
    (hpending : ∀ w', s.vault.pendingWithdrawals[w.withdrawNonce]? = some w' → w' = w) :
    Logged env s (s.pushReleased w) where
  still := .of_vault (fun _ h => h) rfl le_rfl le_rfl rfl rfl
  evolves := .refl _
  signed _ hr := .inl hr
  onRecord hs := hs
  released hs w' hw' := by
    rcases List.mem_append.1 hw' with hw' | hw'
    · exact hs w' hw'
    · rw [List.mem_singleton.1 hw']
      exact ⟨hlt, hpending⟩
  deposits hs := hs
  log := ⟨[], .nil _, by simp, .nil _⟩

namespace Handlers

/-! ### Verify -/

/-- A reservation that is told where its amount is not zero. -/
theorem reserveAndLog_effect (hs : AppInv env s) (req : VerifyRequest) {client : Pubkey} (t : Times)
    (hclient : env.pubkeyFromStr req.client = some client) {provider : ProviderRegistration}
    (hprovider : s.vault.providers[req.providerId]? = some provider) :
    (reserveAndLog env req client t).Leaves s (Effect env (0 < req.amount) s) := by
  have hdrawn : Logged env s s.draw.draw := (Logged.draw env s).trans (.draw env _)
  refine .run_bind (run_newId ..) (.run_bind (run_newId ..)
    (.failIf_bind (fun _ => hdrawn.effect) fun _ => ?_))
  refine .onVault_bind (reserveBalance_clean client req.amount s.vault) hdrawn.effect
    fun _ v ⟨balance, hb, hle, hv⟩ => ?_
  subst hv
  refine .append_bind (run_releaseBalance_reserved hb hle) ?_ (.modify_bind ?_)
  · -- the append failed, and the release undoes the reservation
    exact (hdrawn.trans (.skip env _)).effect
  · refine Effect.then (hdrawn.trans_effect (.commit _ (.of_vault
      (.reserve (req.reservation client (env.freshId .verification s.drawn)
        (env.freshId .reservation (s.drawn + 1)) t.now))
      (fun _ h => VaultState.known_setBalance _ h) rfl le_rfl rfl ?_ ⟨?_, rfl, rfl, ?_, ?_⟩
      ⟨?_, by rintro _ ⟨⟩, by rintro _ ⟨⟩⟩ ?_) (by simp) (fun hpos => ?_) rfl rfl rfl))
      (leaves_refresh_receipt env client t.later fun t =>
        .get_bind (.okOr_bind (.refl env t) fun _ _ => .pure (.refl env t)))
    · simp [Ledger.apply, VaultState.balance_eq hb]
    · simpa [VaultState.balance_eq hb] using hle
    · exact hs.no_reservation le_rfl .verification
    · exact ⟨provider, hprovider⟩
    · simpa [LedgerEvent.newIds] using
        Env.drawn_freshId (n := s.drawn + 2) .verification (by omega)
    · rintro _ ⟨⟩
      exact VaultState.known_setBalance_self _ _
    · exact .reserve (r := req.reservation client _ _ t.now) hclient (hexDecode32_hexEncode _)
        (hexDecode32_hexEncode _) rfl hpos

/-- **Verifying is a sound step, and a logged one where the amount is positive.** -/
theorem postVerify_effect (hs : AppInv env s) (req : VerifyRequest) (t : Times) :
    (postVerify env req t).Leaves s (Effect env (0 < req.amount) s) := by
  have hrefl : Effect env (0 < req.amount) s s := (Logged.refl env s).effect
  refine .okOr_bind hrefl fun client hclient => .get_bind <| .okOr_bind hrefl
    fun provider hprovider => .get_bind ?_
  split
  · -- a payment id that was used: nothing happens
    split
    · exact .pure hrefl
    · exact .throw hrefl
  · exact reserveAndLog_effect hs req t hclient hprovider

/-! ### Expiry -/

/-- The expiry of a reservation is logged before it is made. -/
theorem expireReservedReservation_logged (hs : AppInv env s) (verificationId : String)
    (t : Times) :
    (expireReservedReservation env verificationId t).Leaves s (Logged env s) := by
  refine .get_bind <| .okOr_bind (.refl env s) fun r hr => ?_
  split
  · exact .pure (.refl env s)
  · next hcond =>
    obtain ⟨hst, -⟩ := not_or.1 hcond
    rw [not_not] at hst
    obtain ⟨balance, hb, hle⟩ := hs.reserved hr hst
    refine .append_bind rfl (Logged.skip env s) (.get_bind (.okOr_some_bind hr ?_))
    rw [expireReservedReservation.expireStored, if_neg (not_not.2 hst)]
    refine .modify_bind (.onVault_run_bind (run_releaseBalance hb) ?_)
    rw [VaultState.noteLockedSub_of_le hle]
    refine Logged.then (.commit_vault (.of_vault (.release verificationId .expired)
      (fun _ h => VaultState.known_setBalance _ h) rfl le_rfl rfl ?_ ⟨.inr rfl, r, hr, hst⟩
      (.of_none rfl rfl) (by rintro _ ⟨⟩)) (.expire _) rfl)
      (leaves_refresh_receipt env r.client t.later fun t => .pure (.refl env t))
    simp [Ledger.apply, hr, VaultState.balance_eq hb]
    rfl

/-- The expiry of a withdrawal is logged before it is made. -/
theorem expirePending_logged (hs : AppInv env s) (withdrawNonce : ℕ) (t : Times) :
    (expirePending env withdrawNonce t).Leaves s (Logged env s) := by
  refine .get_bind ?_
  split
  · exact .pure (.refl env s)
  · next w hw =>
    split
    · exact .pure (.refl env s)
    · obtain ⟨balance, hb, hle⟩ := hs.pending hw
      refine .append_bind rfl (Logged.skip env s) (.onVault_run_bind
        (run_expirePendingWithdrawal hw hb) ?_)
      rw [VaultState.noteLockedSub_of_le hle]
      refine Logged.then (.commit_vault (.of_vault (.expireWithdrawal withdrawNonce)
        (fun _ h => VaultState.known_setBalance _ h) rfl le_rfl rfl ?_ ⟨w, hw⟩ (.of_none rfl rfl)
        (by rintro _ ⟨⟩)) (.expireWithdrawal hw (env.pubkeyFromStr_toString _)) rfl)
        (leaves_refresh_receipt env w.client t.later fun t => .pure (.refl env t))
      simp [Ledger.apply, hw, VaultState.balance_eq hb]

/-! ### Cancel -/

/-- A cancellation is made and logged, or taken back. -/
theorem postCancel_logged (hs : AppInv env s) (verificationId reason : String) (t : Times) :
    (postCancel env verificationId reason t).Leaves s (Logged env s) := by
  refine .get_bind <| .okOr_bind (.refl env s) fun r hr => ?_
  split
  · exact .pure (.refl env s)
  · refine .failIf_bind (fun _ => .refl env s) fun hst => ?_
    rw [not_not] at hst
    obtain ⟨balance, hb, hle⟩ := hs.reserved hr hst
    refine .onVault_run_bind (run_releaseBalance hb) ?_
    rw [VaultState.noteLockedSub_of_le hle]
    refine .append_bind (run_reserveBalance_released hb hle) ?_
      (.get_bind (.okOr_some_bind hr (.modify_bind ?_)))
    · -- the append failed, and the amount is reserved again
      exact .skip env s
    · refine Logged.then (.commit_vault (.of_vault (.release verificationId .cancelled)
        (fun _ h => VaultState.known_setBalance _ h) rfl le_rfl rfl ?_ ⟨.inl rfl, r, hr, hst⟩
        (.of_none rfl rfl) (by rintro _ ⟨⟩)) (.cancel _ _) rfl)
        (leaves_refresh_receipt env r.client t.later fun t => .pure (.refl env t))
      simp [Ledger.apply, hr, VaultState.balance_eq hb]

/-! ### Withdraw -/

/-- **Authorising a withdrawal is a sound step, and a logged one where the amount is
positive.** -/
theorem postWithdrawAuth_effect (hs : AppInv env s) (client recipientAta : Pubkey) (amount : ℕ)
    (t : Times) :
    (postWithdrawAuth env client recipientAta amount t).Leaves s
      (Effect env (0 < amount) s) := by
  let v := s.vault.setWithdrawNonce (s.vault.withdrawNonce + 1)
  let w := newWithdrawal client recipientAta amount s.vault.withdrawNonce t.now
  have hbump : Logged env s (s.setVault v) :=
    .quiet (.of_vault (fun _ h => h) rfl le_rfl (Nat.le_succ _) rfl rfl) rfl
      (fun _ h => .inl h) rfl rfl (.nil _) (by simp)
  have hfree := hs.no_pending
  refine .onVault_run_bind (run_nextWithdrawNonce s.vault) ?_
  refine .onVault_bind (authorizeWithdrawal_clean w v) hbump.effect
    fun _ v' ⟨balance, hb, hle, hv'⟩ => ?_
  subst hv'
  replace hb : s.vault.clientBalances[client]? = some balance := hb
  replace hle : amount ≤ balance.free := hle
  have hcommit : Effect env (0 < amount) s ((s.setWal (s.wal.store (.withdrawAuthorized
      (env.pubkeyToString client) (env.pubkeyToString recipientAta) amount s.vault.withdrawNonce
      w.issuedAt w.expiresAt))).setVault
        ((v.setBalance client (balance.reserve amount)).setPending s.vault.withdrawNonce w)) := by
    refine .commit _ (.of_vault (.authorize w) (fun _ h => VaultState.known_setBalance _ h) rfl
      (Nat.le_succ _) rfl ?_ ⟨?_, hfree⟩ ⟨?_, ?_, by rintro _ ⟨⟩⟩ ?_)
      (by simp) (fun hpos => ?_) rfl rfl rfl
    · simp [Ledger.apply, v, w, VaultState.balance_eq hb]
    · simpa [w, VaultState.balance_eq hb] using hle
    · simp [LedgerEvent.newIds]
    · rintro _ ⟨⟩
      exact ⟨le_rfl, Nat.lt_succ_self _⟩
    · rintro _ ⟨⟩
      exact VaultState.known_setBalance_self _ _
    · exact .authorize (w := w) (env.pubkeyFromStr_toString _) (env.pubkeyFromStr_toString _) hpos
  refine .append_bind (@run_rollbackAuthorizedWithdrawal balance v w hb hle hfree) ?_ ?_
  · -- the append failed, and the authorisation is taken back; its nonce stays used
    exact (hbump.trans (.skip env _)).effect
  · refine .bind (leaves_refresh env client _) (fun _ h => hcommit.trans_logged h) fun _ t₁ h₁ => ?_
    refine .bind (leaves_issueClientReceiptLocked env client t.later t₁)
      (fun _ h => hcommit.trans_logged (h₁.trans h)) fun _ t₂ h₂ => ?_
    have hlogged := h₁.trans h₂
    refine .of_run rfl ((hcommit.trans_logged hlogged).trans_logged
      (.release env t₂ ?_ fun w' hw' => ?_))
    · exact (Nat.lt_succ_self _).trans_le hlogged.still.withdrawNonce
    · have hold := hlogged.evolves.pending_of_lt (Nat.lt_succ_self _) hw'
      simpa [w] using hold.symm

end Handlers

end Subly402
