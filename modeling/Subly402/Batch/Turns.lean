/-
# Runs with the planner in them

The batch loop looks at the vault every ten seconds, and each look may file records and
take settlements out of credits; the expiry task drops old records that no credit names.
A `Turn` is an operation of the enclave, such a look or such a clean-up, and `runTurns` a
run of them in any order.
-/

import Subly402.Batch.Cursors
import Subly402.Enclave.Assets

namespace Subly402

open Lib

namespace Batch

/-- What the planner relies on: credits of registered providers, that name each settlement
once. -/
structure CreditsSound (l : Ledger) : Prop where
  filed : l.CreditsFiled
  names : l.NamesOnce

section Tended

variable {v v' : VaultState}

theorem Tended.ledger (h : Tended v v') :
    v'.ledger = { v.ledger with credits := v'.ledger.credits, history := v'.ledger.history } := by
  rw [h.same]
  rfl

theorem Tended.ledger_credits (h : Tended v v') {key : String} {c' : ProviderCredit}
    (hc' : v'.ledger.credits[key]? = some c') :
    ∃ c, v.ledger.credits[key]? = some c ∧ c'.SameHolder c ∧
      c'.settlementIds.Sublist c.settlementIds := by
  rw [VaultState.ledger_credits_lookup] at hc'
  obtain ⟨d', hd', rfl⟩ := Option.map_eq_some_iff.1 hc'
  obtain ⟨d, hd, hsame, hsub⟩ := h.credits key d' hd'
  refine ⟨d.untimed, ?_, ⟨hsame.providerId, hsame.account⟩, hsub⟩
  rw [VaultState.ledger_credits_lookup, hd, Option.map_some]

theorem Names.ledger {providerId settlementId : String} (h : Names v providerId settlementId) :
    ∃ (key : String) (c : ProviderCredit), v.ledger.credits[key]? = some c ∧
      c.providerId = providerId ∧ settlementId ∈ c.settlementIds := by
  obtain ⟨key, credit, hcredit, hp, hid⟩ := h
  refine ⟨key, credit.untimed, ?_, hp, hid⟩
  rw [VaultState.ledger_credits_lookup, hcredit, Option.map_some]

/-- A record is made with the account that the provider has registered. -/
theorem reconstruct_paysTo {providerId settlementId : String} {record : SettlementRecord}
    (h : reconstructSettlementRecord v providerId settlementId = some record) :
    v.ledger.PaysTo providerId record := by
  unfold reconstructSettlementRecord at h
  simp only [Option.bind_eq_bind, Option.bind_eq_some_iff] at h
  obtain ⟨⟨key, r⟩, -, h⟩ := h
  simp only at h
  split at h
  · cases h
  · obtain ⟨provider, hp, hrecord⟩ := Option.bind_eq_some_iff.1 h
    obtain rfl := Option.some.inj hrecord
    exact ⟨provider, hp, rfl⟩

/-- **What the planner relies on is kept.** -/
theorem Tended.credits_sound (h : Tended v v') (hv : CreditsSound v.ledger) :
    CreditsSound v'.ledger where
  filed := by
    intro key c' hc'
    obtain ⟨c, hc, hsame, -⟩ := h.ledger_credits hc'
    obtain ⟨provider, hp, hof⟩ := hv.filed key c hc
    refine ⟨provider, ?_, hsame.providerId.trans hof.providerId, hsame.account.trans hof.account⟩
    rw [h.ledger]
    exact hp
  names := by
    refine hv.names.shrink (fun key c' hc' => ?_) (fun key c id record hc hid hrecord => ?_)
      fun key p hp => ?_
    · obtain ⟨c, hc, -, hsub⟩ := h.ledger_credits hc'
      exact ⟨c, hc, hsub⟩
    · rcases h.new id record hrecord with hold | ⟨providerId, hnamed, hmade⟩
      · exact .inl hold
      · -- the credit that the record was made for is the one that names the settlement
        obtain ⟨key', c', hc', hp, hid'⟩ := hnamed.ledger
        obtain ⟨provider, -, hof⟩ := hv.filed key' c' hc'
        have hkey : key = key' := hv.names.once key key' c c' id hc hc' hid hid'
        have hkey' : providerId = key := by rw [← hp, hof.providerId, hkey]
        exact .inr (hkey' ▸ reconstruct_paysTo hmade)
    · rw [h.ledger]
      exact hp

end Tended

end Batch

/-- **The invariant of the enclave is kept by what tends the history and the credits.** -/
theorem RunInv.tended {env : Env} {s : AppState} {v' : VaultState} (hs : RunInv env s)
    (h : Batch.Tended s.vault v') : RunInv env (s.setVault v') where
  shape := by
    have hshape := hs.shape
    rw [AppState.setVault_vault, h.ledger]
    exact ⟨hshape.1, hshape.2, hshape.3, hshape.4, hshape.5, hshape.6, hshape.7⟩
  sums := by
    have hsums := hs.sums
    rw [AppState.setVault_vault, h.ledger]
    exact ⟨hsums.locked, hsums.total⟩
  ids := by
    have hids : v'.ledger.IdsIn (env.Drawn s.drawn) := by
      refine ⟨?_, ?_, fun key c' hc' id hid => ?_, fun id record hrecord => ?_, ?_, ?_⟩
      · rw [h.ledger]; exact hs.ids.reservations
      · rw [h.ledger]; exact hs.ids.settled
      · obtain ⟨c, hc, -, hsub⟩ := h.ledger_credits hc'
        exact hs.ids.credited key c hc id (hsub.subset hid)
      · rcases h.new id record hrecord with hold | ⟨providerId, hnamed, -⟩
        · exact hs.ids.history id record hold
        · obtain ⟨key, c, hc, -, hid⟩ := hnamed.ledger
          exact hs.ids.credited key c hc id hid
      · rw [h.ledger]; exact hs.ids.channels
      · rw [h.ledger]; exact hs.ids.closed
    exact hids
  nonces := by
    rw [AppState.setVault_vault, h.same]
    exact hs.nonces
  onRecord client hholds := by
    rw [AppState.setVault_vault, h.ledger] at hholds
    have hknown : s.vault.Known client := hs.onRecord client hholds
    rw [AppState.setVault_vault, h.same]
    exact hknown
  fits client := by
    rw [AppState.setVault_vault, h.ledger]
    exact hs.fits client
  exact := by
    rw [AppState.setVault_vault, h.same]
    exact hs.exact
  released := by
    intro w hw
    rw [AppState.setVault_vault, h.same]
    exact hs.released w hw
  deposits := hs.deposits.keep (fun _ hx => hx) fun client => by
    rw [AppState.setVault_vault, h.ledger]

namespace Batch

/-! ### Turns -/

/-- `SETTLEMENT_HISTORY_MAX_AGE_SEC`. -/
def settlementHistoryMaxAgeSec : ℤ := 1800

/-- The records that the expiry task drops: older than the maximum age, and named by no credit. -/
def staleSids (v : VaultState) (now : ℤ) : List String :=
  let referencedSettlementIds := (creditList v).flatMap (·.settlementIds)
  (v.settlementHistory.toList.filter fun e => now - e.2.timestamp > settlementHistoryMaxAgeSec ∧
    e.2.settlementId ∉ referencedSettlementIds).map fun e => e.2.settlementId

/-- The clean-up of the settlement history in `reservation_expiry_loop`. -/
def cleanUpHistory (v : VaultState) (now : ℤ) : VaultState :=
  (staleSids v now).foldl (fun v settlementId => v.dropHistory settlementId) v

/-- Dropping records tends the vault. -/
theorem tended_dropHistory {v : VaultState} : ∀ (settlementIds : List String) (v' : VaultState),
    Tended v v' → Tended v (settlementIds.foldl (fun v id => v.dropHistory id) v')
  | [], _, h => h
  | settlementId :: rest, v', h =>
    tended_dropHistory rest _ ⟨by rw [h.same]; rfl, FiniteMap.forall_erase h.new, h.credits⟩

/-- The clean-up only drops records. -/
theorem cleanUpHistory_tended (v : VaultState) (now : ℤ) : Tended v (cleanUpHistory v now) :=
  tended_dropHistory _ v ⟨rfl, fun _ _ => .inl, fun _ c hc => ⟨c, hc, ⟨rfl, rfl⟩, .refl _⟩⟩

/-- An operation of the enclave, a look of the batch loop at the vault, or a clean-up of the
settlement history. -/
inductive Turn (env : Env) where
  | op (o : Op env)
  | plan (batchTimestamp : ℤ) (mode : BatchBuildMode) (config : BatchPrivacyConfig)
  | cleanUp (now : ℤ)

variable {env : Env}

/-- The enclave after a turn. -/
def Turn.next (s : AppState) : Turn env → AppState
  | .op o => s.next o
  | .plan batchTimestamp mode config =>
    s.setVault (buildProviderBatchCursors s.vault batchTimestamp mode config).2
  | .cleanUp now => s.setVault (cleanUpHistory s.vault now)

/-- The enclave after a run of turns. -/
def runTurns (env : Env) (turns : List (Turn env)) : AppState := runSteps Turn.next .new turns

/-- What holds between two turns. -/
structure TurnInv (env : Env) (s : AppState) : Prop where
  app : RunInv env s
  credits : CreditsSound s.vault.ledger

theorem TurnInv.new (env : Env) : TurnInv env .new where
  app := .new env
  credits := by
    rw [AppState.new, VaultState.ledger_new]
    refine ⟨fun key c hc => ?_, fun key c hc => ?_, fun key _ c _ _ hc => ?_, fun key c _ _ hc => ?_⟩
      <;> simp at hc

theorem TurnInv.next {s : AppState} (h : TurnInv env s) (turn : Turn env) :
    TurnInv env (Turn.next s turn) := by
  cases turn with
  | op o =>
    have hsound := (step_effect h.app.toAppInv o).sound
    exact ⟨hsound.runInv h.app, hsound.evolves.creditsFiled h.credits.filed,
      hsound.evolves.namesOnce h.credits.names⟩
  | plan batchTimestamp mode config =>
    have hplanned := (built batchTimestamp mode config s.vault).planned.toTended
    exact ⟨h.app.tended hplanned, hplanned.credits_sound h.credits⟩
  | cleanUp now =>
    have htended := cleanUpHistory_tended s.vault now
    exact ⟨h.app.tended htended, htended.credits_sound h.credits⟩

/-- **What the planner finds in every run.** -/
theorem runTurns_sound (env : Env) (turns : List (Turn env)) : TurnInv env (runTurns env turns) :=
  runSteps_keep (P := TurnInv env) (fun _ turn h => h.next turn) (.new env) turns

/-! ### The settlements of the credits -/

variable {v : VaultState}

theorem creditsSound_lookup (h : CreditsSound v.ledger) {key : String} {c : ProviderCredit}
    (hc : v.providerCredits[key]? = some c) :
    v.ledger.credits[key]? = some c.untimed ∧ c.providerId = key ∧ c.settlementIds.Nodup := by
  have hlookup : v.ledger.credits[key]? = some c.untimed := by
    rw [VaultState.ledger_credits_lookup, hc, Option.map_some]
  obtain ⟨provider, -, hof⟩ := h.filed key c.untimed hlookup
  exact ⟨hlookup, hof.providerId, h.names.nodup key c.untimed hlookup⟩

/-- A settlement is named by one provider. -/
theorem CreditsSound.names_unique (h : CreditsSound v.ledger) {providerId providerId' id : String}
    (hn : Names v providerId id) (hn' : Names v providerId' id) : providerId = providerId' := by
  obtain ⟨key, c, hc, rfl, hid⟩ := hn
  obtain ⟨key', c', hc', rfl, hid'⟩ := hn'
  obtain ⟨hlookup, hkey, -⟩ := creditsSound_lookup h hc
  obtain ⟨hlookup', hkey', -⟩ := creditsSound_lookup h hc'
  rw [hkey, hkey']
  exact h.names.once key key' c.untimed c'.untimed id hlookup hlookup' hid hid'

/-- **The credits name each settlement once.** -/
theorem CreditsSound.nodup_ids (h : CreditsSound v.ledger) :
    ((creditList v).flatMap (·.settlementIds)).Nodup := by
  unfold creditList
  rw [List.flatMap_map]
  refine List.nodup_flatMap.2 ⟨fun e he => ?_, ?_⟩
  · exact (creditsSound_lookup h (FiniteMap.mem_toList_iff.1 he)).2.2
  · refine (FiniteMap.nodup_toList v.providerCredits).imp_of_mem fun {e e'} he he' hne id hid hid' => ?_
    have hc := FiniteMap.mem_toList_iff.1 he
    have hc' := FiniteMap.mem_toList_iff.1 he'
    have hkey : e.1 = e'.1 := h.names.once e.1 e'.1 e.2.untimed e'.2.untimed id
      (creditsSound_lookup h hc).1 (creditsSound_lookup h hc').1 hid hid'
    rw [hkey, hc'] at hc
    exact hne (Prod.ext hkey (Option.some.inj hc).symm)

end Batch
end Subly402
