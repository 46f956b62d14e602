/-
# Settling, step by step

`post_settle` moves the money before it logs, in two maps and the history, and takes
it back where the append fails.  Taking it back restores the books, with one
exception: `rollback_settle_payment` drops a credit that is left with nothing to pay,
so a provider whose credit was worth nothing before loses the ids in it
(`run_rollbackSettle`).  Where every credit is worth something (`CreditsAlive`) the
handler is a logged step, and in any case a sound one.
-/

import Subly402.Ledger.Credits
import Subly402.Enclave.PaymentSteps

namespace Subly402

open Lib
open Lib.Prog (okOr failIf Leaves)

/-- The vault after `settleBegin`. -/
def VaultState.settleBegun (v : VaultState) (r : Reservation) (balance : ClientBalance)
    (provider : ProviderRegistration) (settlementId : String) (now : ℤ) : VaultState :=
  ((v.setBalance r.client (balance.spend r.amount)).credit provider r.providerId r.amount
    settlementId now).setHistory settlementId
      { settlementId, client := r.client, provider := provider.settlementTokenAccount
        amount := r.amount, timestamp := now }

namespace Handlers

variable {env : Env} {s : AppState} {r : Reservation} {verificationId settlementId : String}
  {balance : ClientBalance} {provider : ProviderRegistration}

/-- **Rolling a settlement back** restores the vault, except that it drops a credit that has
nothing to pay. -/
theorem run_rollbackSettle {v : VaultState} {now : ℤ}
    (hb : v.clientBalances[r.client]? = some balance) (hle : r.amount ≤ balance.locked)
    (hhistory : v.settlementHistory[settlementId]? = none)
    (hcredit : ∀ c, v.providerCredits[r.providerId]? = some c → settlementId ∉ c.settlementIds) :
    (rollbackSettle (.of r verificationId settlementId now)).run
        (v.settleBegun r balance provider settlementId now)
      = (.ok (), if v.hasSpentCredit r.providerId then v.dropCredit r.providerId else v) := by
  have hb' : ((v.settleBegun r balance provider settlementId now).dropHistory
      settlementId).clientBalances[r.client]? = some (balance.spend r.amount) := by
    simp [VaultState.settleBegun, VaultState.credit]
  have hc' : ((v.settleBegun r balance provider settlementId now).dropHistory
      settlementId).providerCredits[r.providerId]? = some (creditProvider r.providerId
        provider.settlementTokenAccount r.amount settlementId now v.providerCredits[r.providerId]?) := by
    simp [VaultState.settleBegun, VaultState.credit]
  have hrun : (rollbackSettle (.of r verificationId settlementId now)).run
      (v.settleBegun r balance provider settlementId now) = _ :=
    run_rollbackSettlePayment hb' hc'
  rw [hrun]
  refine Prod.ext rfl ?_
  cases hc : v.providerCredits[r.providerId]? with
  | none =>
    have hspent : ((creditProvider r.providerId provider.settlementTokenAccount r.amount
        settlementId now none).without settlementId r.amount).isSpent := by
      simp [creditProvider, ProviderCredit.without, ProviderCredit.isSpent]
    ext1 <;> simp [hspent, VaultState.hasSpentCredit, hc, VaultState.settleBegun,
      VaultState.credit, ClientBalance.spend, Nat.sub_add_cancel hle, FiniteMap.insert_lookup hb,
      FiniteMap.erase_absent hhistory, FiniteMap.erase_absent hc]
  | some c =>
    have hwithout : (creditProvider r.providerId provider.settlementTokenAccount r.amount
        settlementId now (some c)).without settlementId r.amount = c := by
      have hfilter : c.settlementIds.filter (fun id => !decide (id = settlementId))
          = c.settlementIds := by
        refine List.filter_eq_self.2 fun id hid => ?_
        have hne : id ≠ settlementId := fun heq => hcredit c hc (heq ▸ hid)
        simp [hne]
      simp [creditProvider, ProviderCredit.without, List.filter_append, hfilter]
    by_cases hspent : c.isSpent
    · ext1 <;> simp [hwithout, hspent, VaultState.hasSpentCredit, hc, VaultState.settleBegun,
        VaultState.credit, ClientBalance.spend, Nat.sub_add_cancel hle,
        FiniteMap.insert_lookup hb, FiniteMap.erase_absent hhistory]
    · ext1 <;> simp [hwithout, hspent, VaultState.hasSpentCredit, hc, VaultState.settleBegun,
        VaultState.credit, ClientBalance.spend, Nat.sub_add_cancel hle,
        FiniteMap.insert_lookup hb, FiniteMap.erase_absent hhistory, FiniteMap.insert_lookup hc]

/-- Settling a reservation that is neither settled nor overdue. -/
theorem run_settleBegin {t : Times} (hr : s.vault.reservations[verificationId]? = some r)
    (hst : r.status = .reserved) (hnow : t.now ≤ r.expiresAt)
    (hb : s.vault.clientBalances[r.client]? = some balance) (hle : r.amount ≤ balance.locked)
    (hp : s.vault.providers[r.providerId]? = some provider) :
    (settleBegin env verificationId settlementId t).run s
      = (.ok (some (.of r verificationId settlementId t.now)),
          s.setVault (s.vault.settleBegun r balance provider settlementId t.now)) := by
  have hsettle : (settlePayment r.client r.amount r.providerId settlementId t.now).run s.vault
      = _ := run_settlePayment hb hp
  rw [VaultState.noteLockedSub_of_le hle] at hsettle
  simp [settleBegin, hr, hst, not_lt.2 hnow, hsettle, VaultState.credit, hp,
    VaultState.settleBegun]

/-- What `settleBegin` can do: refuse; expire an overdue reservation and refuse; find the
reservation settled; or move the money. -/
theorem settleBegin_cases (hs : AppInv env s)
    (hr : s.vault.reservations[verificationId]? = some r) (settlementId : String) (t : Times) :
    (∃ e, r.status ≠ .reserved ∧
      (settleBegin env verificationId settlementId t).run s = (.error e, s)) ∨
    (∃ e, r.expiresAt < t.now ∧ (settleBegin env verificationId settlementId t).run s
      = (.error e, ((expireReservedReservation env verificationId t).run s).2)) ∨
    (r.status = .settledOffchain ∧
      (settleBegin env verificationId settlementId t).run s = (.ok none, s)) ∨
    ∃ balance provider, s.vault.clientBalances[r.client]? = some balance ∧
      r.amount ≤ balance.locked ∧ s.vault.providers[r.providerId]? = some provider ∧
      r.status = .reserved ∧ t.now ≤ r.expiresAt ∧
      (settleBegin env verificationId settlementId t).run s
        = (.ok (some (.of r verificationId settlementId t.now)),
            s.setVault (s.vault.settleBegun r balance provider settlementId t.now)) := by
  cases hst : r.status with
  | settledOffchain => exact .inr (.inr (.inl ⟨rfl, by simp [settleBegin, hr, hst]⟩))
  | expired => exact .inl ⟨_, nofun, by simp [settleBegin, hr, hst]; rfl⟩
  | cancelled | batchedOnchain => exact .inl ⟨_, nofun, by simp [settleBegin, hr, hst]; rfl⟩
  | reserved =>
    by_cases hnow : r.expiresAt < t.now
    · refine .inr (.inl ?_)
      cases hrun : (expireReservedReservation env verificationId t).run s with
      | mk out s' =>
        cases out with
        | error e => exact ⟨e, hnow, by simp [settleBegin, hr, hst, hnow, hrun]⟩
        | ok b => exact ⟨_, hnow, by simp [settleBegin, hr, hst, hnow, hrun]; rfl⟩
    · obtain ⟨balance, hb, hle⟩ := hs.reserved hr hst
      obtain ⟨provider, hp⟩ := hs.shape.reservation_provider _ _ hr
      exact .inr (.inr (.inr ⟨balance, provider, hb, hle, hp, rfl, not_lt.1 hnow,
        run_settleBegin hr hst (not_lt.1 hnow) hb hle hp⟩))

/-- `post_settle` from its append on, after the money moved. -/
theorem settleEnd_effect
    (hr : s.vault.reservations[verificationId]? = some r) (hst : r.status = .reserved)
    (hb : s.vault.clientBalances[r.client]? = some balance) (hle : r.amount ≤ balance.locked)
    (hp : s.vault.providers[r.providerId]? = some provider)
    (hfresh : s.vault.ledger.FreshSettlement settlementId)
    (hdrawn : env.Drawn s.drawn settlementId) (now : ℤ) (t : Times) :
    (settleEnd env (.of r verificationId settlementId now) t).Leaves
      (s.setVault (s.vault.settleBegun r balance provider settlementId now))
      (Effect env s.vault.ledger.CreditsAlive s) := by
  have hcredit : ∀ c, s.vault.providerCredits[r.providerId]? = some c →
      settlementId ∉ c.settlementIds := fun c hc =>
    hfresh.credits r.providerId c.untimed (by simp [hc])
  refine .append_bind (run_rollbackSettle hb hle hfresh.history hcredit) ?_
    (.get_bind (.okOr_some_bind hr (.modify_bind ?_)))
  · split
    · next hspent =>
      -- the credit was worth nothing, and goes with the rollback
      have hlost : Sound env s (s.setVault (s.vault.dropCredit r.providerId)) :=
        { still := .of_vault (fun _ h => h) rfl le_rfl le_rfl rfl rfl
          evolves := by
            rw [AppState.setVault_vault, VaultState.ledger_dropCredit]
            exact (Evolves.refl _).dropCredit r.providerId
          signed := fun _ hr => .inl hr
          onRecord := fun hs client hc => hs client hc
          released := fun hs => hs
          deposits := fun hs => hs.keep subset_rfl fun _ => rfl }
      refine ⟨hlost.trans (Logged.skip env _).toSound, fun halive => ?_⟩
      · obtain ⟨c, hc, hc'⟩ := (Option.any_eq_true _ _).1 hspent
        have := halive r.providerId c.untimed (by simp [hc])
        simp_all [ProviderCredit.isSpent]
    · exact (Logged.skip env s).effect
  · refine Leaves.mono (R := Logged env s) (Logged.then (.commit_vault (.of_vault
      (.settle verificationId settlementId now) (fun _ h => VaultState.known_setBalance _ h) rfl
      le_rfl rfl ?_ ⟨hfresh, r, provider, hr, hst, hp⟩ ⟨?_, by rintro _ ⟨⟩, by rintro _ ⟨⟩⟩
      (by rintro _ ⟨⟩)) (.settle settlementId now hr) rfl)
      (leaves_refresh_receipt env r.client t.later fun t' =>
        .logged_bind (leaves_issueProviderReceiptLocked env r.providerId t.later t') fun _ t' =>
          .pure (.refl env t'))) fun _ h => h.effect
    · simp [Ledger.apply, Ledger.settle, hr, hp, VaultState.settleBegun, VaultState.balance_eq hb]
    · simpa [LedgerEvent.newIds] using hdrawn

/-- **Settling is a sound step, and a logged one where every credit is worth something.** -/
theorem postSettle_effect (hs : AppInv env s) (verificationId : String) (t : Times) :
    (postSettle env verificationId t).Leaves s (Effect env s.vault.ledger.CreditsAlive s) := by
  refine .get_bind <| .okOr_bind (Logged.refl env s).effect fun r hr => .run_bind (run_newId ..) ?_
  have hdraw := Logged.draw env s
  have hfresh : s.draw.vault.ledger.FreshSettlement (env.freshId .settlement s.drawn) :=
    hs.ids.fresh (Env.not_drawn_freshId _ le_rfl)
  obtain ⟨e, -, hrun⟩ | ⟨e, -, hrun⟩ | ⟨-, hrun⟩ | ⟨balance, provider, hb, hle, hp, hst, -, hrun⟩ :=
    settleBegin_cases (hdraw.inv hs hs.fits) hr (env.freshId .settlement s.drawn) t
  · exact .of_run (by rw [Prog.run_bind, hrun]) hdraw.effect
  · exact .of_run (by rw [Prog.run_bind, hrun])
      (hdraw.trans (expireReservedReservation_logged (hdraw.inv hs hs.fits) verificationId t)).effect
  · refine .run_bind hrun ((hdraw.then fun t' => ?_).mono fun _ h => h.effect)
    exact .logged_bind (leaves_issueProviderReceiptLocked env r.providerId t.later t') fun _ t' =>
      .pure (.refl env t')
  · refine .run_bind hrun ((settleEnd_effect (s := s.draw) hr hst hb hle hp hfresh
      (Env.drawn_freshId _ (Nat.lt_succ_self _)) t.now t).mono fun _ h => ?_)
    exact hdraw.trans_effect h

end Handlers

end Subly402
