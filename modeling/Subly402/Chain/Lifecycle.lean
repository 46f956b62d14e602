/-
# The exit window

The status of a vault over every sequence of instructions, under a clock that does not
go back.  The status moves from Active to Paused or Migrating and from these to Retired,
and deposits succeed in an active vault only.
-/

import Subly402.Chain.Site

namespace Subly402
namespace Chain

open Lib

/-- How far a vault is in its life. -/
def statusRank (status : ℕ) : ℕ :=
  if status = vaultStatusActive then 0 else if status = vaultStatusRetired then 2 else 1

/-- The moves of the status. -/
inductive StatusMove : ℕ → ℕ → Prop where
  | stay (status : ℕ) : StatusMove status status
  | pause : StatusMove vaultStatusActive vaultStatusPaused
  | migrate : StatusMove vaultStatusActive vaultStatusMigrating
  | retirePaused : StatusMove vaultStatusPaused vaultStatusRetired
  | retireMigrating : StatusMove vaultStatusMigrating vaultStatusRetired

/-- The status is the same, or a later one. -/
def StatusForward (status status' : ℕ) : Prop :=
  status = status' ∨ statusRank status < statusRank status'

theorem StatusForward.trans {a b c : ℕ} (hab : StatusForward a b) (hbc : StatusForward b c) :
    StatusForward a c := by
  rcases hab with rfl | hab
  · exact hbc
  · rcases hbc with rfl | hbc
    · exact .inr hab
    · exact .inr (hab.trans hbc)

/-- A move leads forward. -/
theorem StatusMove.forward {status status' : ℕ} (h : StatusMove status status') :
    StatusForward status status' := by
  cases h with
  | stay => exact .inl rfl
  | _ => exact .inr (by decide)

namespace Site

variable {rt : Runtime} {verifies : Ed25519Check → Bool} {s s' : Site}

/-! ### One step -/

/-- An event moves the status as the governance instructions do. -/
theorem Change.statusMove {event : Event} (h : Change rt verifies s event s') :
    StatusMove s.vault.status s'.vault.status := by
  cases h with
  | pause _ hactive => exact hactive ▸ .pause
  | announce _ _ _ hactive => exact hactive ▸ .migrate
  | retire _ hclosing =>
    rcases hclosing with hpaused | ⟨hmigrating, -⟩
    · exact hpaused ▸ .retirePaused
    · exact hmigrating ▸ .retireMigrating
  | _ => exact .stay _

theorem next_statusMove (s : Site) (act : Act) :
    StatusMove s.vault.status (s.next rt verifies act).vault.status := by
  rcases next_cases s act with heq | hchange
  · rw [heq]
    exact .stay _
  · exact hchange.statusMove

/-- A deposit that succeeds finds the vault active. -/
theorem active_of_deposit {call : DepositCall} (h : s.apply rt verifies (.deposit call) = .ok s') :
    s.vault.status = vaultStatusActive := by
  cases apply_change h with
  | deposit _ _ hactive => exact hactive
  | record _ hrecords => cases hrecords

/-- The vault has announced its deadline, and is not retired before it has passed. -/
structure Leaving (deadline : ℤ) (s : Site) : Prop where
  exitDeadline : s.vault.exitDeadline = deadline
  status : s.vault.status = vaultStatusMigrating ∨
    s.vault.status = vaultStatusRetired ∧ deadline < s.clock

/-- An announcement that succeeds opens the exit window. -/
theorem leaving_of_announce {governance successorVault : Pubkey} {deadline : ℤ}
    (h : s.apply rt verifies (.announceMigration governance successorVault deadline) = .ok s') :
    s'.Leaving deadline := by
  cases apply_change h with
  | announce => exact ⟨rfl, .inl rfl⟩
  | record _ hrecords => cases hrecords

/-- The act does not retire a migrating vault at the second of its deadline. -/
def OffDeadline (s : Site) (act : Act) : Prop :=
  ∀ governance, act.event = .retireVault governance → s.vault.status = vaultStatusMigrating →
    s.clock + act.wait ≠ s.vault.exitDeadline

variable {deadline : ℤ}

theorem Leaving.after (h : s.Leaving deadline) (wait : ℕ) : (s.after wait).Leaving deadline := by
  refine ⟨h.exitDeadline, h.status.imp_right fun ⟨hretired, hpast⟩ => ⟨hretired, ?_⟩⟩
  show deadline < s.clock + wait
  omega

/-- A step keeps the window open, unless it retires the vault at the deadline. -/
theorem Leaving.next (h : s.Leaving deadline) {act : Act} (hact : s.OffDeadline act) :
    (s.next rt verifies act).Leaving deadline := by
  have hafter := h.after act.wait
  have hactive : (s.after act.wait).vault.status ≠ vaultStatusActive := by
    intro hactive
    have hactive : s.vault.status = vaultStatusActive := hactive
    rcases h.status with hstatus | ⟨hstatus, -⟩ <;> rw [hactive] at hstatus <;> cases hstatus
  rcases next_cases s act with heq | hchange
  · rw [heq]
    exact hafter
  generalize hevent : act.event = event at hchange
  generalize s.next rt verifies act = s' at hchange
  cases hchange with
  | pause _ hstatus => exact absurd hstatus hactive
  | announce _ _ _ hstatus => exact absurd hstatus hactive
  | retire governance hclosing =>
    refine ⟨h.exitDeadline, .inr ⟨rfl, ?_⟩⟩
    rcases h.status with hstatus | ⟨-, hpast⟩
    · -- the vault was migrating, so that the deadline is reached and is not now
      have hne : s.clock + act.wait ≠ s.vault.exitDeadline := hact governance hevent hstatus
      have hreached : s.vault.exitDeadline ≤ s.clock + act.wait := by
        rcases hclosing with hpaused | ⟨-, hreached⟩
        · have hpaused : s.vault.status = vaultStatusPaused := hpaused
          rw [hstatus] at hpaused
          cases hpaused
        · exact hreached
      have hdeadline := h.exitDeadline
      show deadline < s.clock + act.wait
      omega
    · show deadline < s.clock + act.wait
      omega
  | _ => exact ⟨hafter.exitDeadline, hafter.status⟩

/-- **Up to the deadline a withdrawal has the outcome that it has in an active vault.** -/
theorem Leaving.withdraw_eq (h : s.Leaving deadline) {clock : ℤ} (hclock : s.clock ≤ clock)
    (hopen : clock ≤ deadline) (check : Option Ed25519Check) (call : WithdrawCall)
    (tokens : Tokens) (used : List (Pubkey × ℕ)) :
    withdraw s.vault.toVaultConfig check call clock tokens used
      = (fun out => ({ out.1 with status := s.vault.status }, out.2)) <$>
        withdraw { s.vault.toVaultConfig with status := vaultStatusActive } check call clock tokens
          used := by
  rcases h.status with hstatus | ⟨-, hpast⟩
  · refine withdraw_of_migrating hstatus ?_ check call tokens used
    rw [h.exitDeadline]
    exact hopen
  · omega

/-! ### Runs -/

/-- The vault is not retired, and up to the deadline a withdrawal has the outcome that it has in
an active vault. -/
def ExitOpen (s : Site) (deadline : ℤ) : Prop :=
  s.vault.status ≠ vaultStatusRetired ∧
    ∀ (wait : ℕ) (check : Option Ed25519Check) (call : WithdrawCall), s.clock + wait ≤ deadline →
      withdraw s.vault.toVaultConfig check call (s.clock + wait) s.tokens s.usedNonces
        = (fun out => ({ out.1 with status := s.vault.status }, out.2)) <$>
          withdraw { s.vault.toVaultConfig with status := vaultStatusActive } check call
            (s.clock + wait) s.tokens s.usedNonces

theorem Leaving.exitOpen (h : s.Leaving deadline) (hclock : s.clock ≤ deadline) :
    s.ExitOpen deadline := by
  refine ⟨fun hretired => ?_, fun wait check call hopen =>
    h.withdraw_eq (by omega) hopen check call s.tokens s.usedNonces⟩
  rcases h.status with hstatus | ⟨-, hpast⟩
  · rw [hretired] at hstatus
    cases hstatus
  · omega

/-- The status only moves forward in a run. -/
theorem run_forward (s : Site) (acts : List Act) {k n : ℕ} (hkn : k ≤ n) :
    StatusForward (s.run rt verifies (acts.take k)).vault.status
      (s.run rt verifies (acts.take n)).vault.status :=
  runSteps_keep_from
    (P := fun t : Site => StatusForward (s.run rt verifies (acts.take k)).vault.status t.vault.status)
    (.inl rfl) (fun _ act _ ht => ht.trans (next_statusMove _ act).forward) hkn

/-- The status moves by one of the moves at a time. -/
theorem run_statusMove (s : Site) (acts : List Act) (n : ℕ) :
    StatusMove (s.run rt verifies (acts.take n)).vault.status
      (s.run rt verifies (acts.take (n + 1))).vault.status := by
  unfold run
  cases hact : acts[n]? with
  | none =>
    rw [runSteps_take_succ_of_none hact]
    exact .stay _
  | some act =>
    rw [runSteps_take_succ hact]
    exact next_statusMove _ act

/-- **The life of a vault and its exit window.** -/
theorem run_exit_window (rt : Runtime) (verifies : Ed25519Check → Bool) (s : Site) (acts : List Act)
    (hoff : AllSteps (next rt verifies) OffDeadline s acts) :
    let state n := s.run rt verifies (acts.take n)
    (∀ n, StatusMove (state n).vault.status (state (n + 1)).vault.status) ∧
      (∀ k n, k ≤ n → StatusForward (state k).vault.status (state n).vault.status) ∧
      (∀ n wait call s', ((state n).after wait).apply rt verifies (.deposit call) = .ok s' →
        (state n).vault.status = vaultStatusActive) ∧
      ∀ k wait governance successorVault deadline s',
        acts[k]? = some ⟨wait, .announceMigration governance successorVault deadline⟩ →
        ((state k).after wait).apply rt verifies
          (.announceMigration governance successorVault deadline) = .ok s' →
        ∀ n, k < n → (state n).clock ≤ deadline → (state n).ExitOpen deadline := by
  intro state
  refine ⟨run_statusMove s acts, fun k n hkn => run_forward s acts hkn,
    fun n wait call s' hdeposit => (active_of_deposit hdeposit :), ?_⟩
  intro k wait governance successorVault deadline s' hact hannounce n hkn hclock
  -- the window is open after the announcement, and every later step keeps it open
  have hopened : (state (k + 1)).Leaving deadline := by
    have hstate : state (k + 1) = s' := (runSteps_take_succ hact).trans (next_of_ok hannounce)
    rw [hstate]
    exact leaving_of_announce hannounce
  have hleaving : (state n).Leaving deadline :=
    runSteps_keep_from (P := Leaving deadline) hopened
      (fun m act hm ht => ht.next (hoff.at hm)) hkn
  exact hleaving.exitOpen hclock

/-- A vault that is retired one second after its deadline: a withdrawal at the deadline. -/
theorem run_exit_window_sample :
    let acts : List Act := [⟨0, .deposit Sample.deposit⟩,
      ⟨0, .announceMigration (.fill 3) (.fill 5) 100⟩, ⟨100, Sample.withdraw⟩,
      ⟨1, .retireVault (.fill 3)⟩]
    let s := Site.opened Sample.vault Sample.tokens 0
    (s.run Sample.rt Sample.verifies acts).vault.status = vaultStatusRetired ∧
      (s.run Sample.rt Sample.verifies (acts.take 3)).clock = 100 ∧
      (s.run Sample.rt Sample.verifies (acts.take 3)).ExitOpen 100 := by
  intro acts s
  have hoff : AllSteps (next Sample.rt Sample.verifies) OffDeadline s acts := by
    refine ⟨nofun, nofun, nofun, fun _ _ _ => ?_, trivial⟩
    decide +kernel
  have hok : (((s.run Sample.rt Sample.verifies (acts.take 1)).after 0).apply Sample.rt
      Sample.verifies (.announceMigration (.fill 3) (.fill 5) 100)).toOption.isSome = true := by
    decide +kernel
  have hclock : (s.run Sample.rt Sample.verifies (acts.take 3)).clock = 100 := by decide +kernel
  cases hannounce : ((s.run Sample.rt Sample.verifies (acts.take 1)).after 0).apply Sample.rt
      Sample.verifies (.announceMigration (.fill 3) (.fill 5) 100) with
  | error e =>
    rw [hannounce] at hok
    cases hok
  | ok s' =>
    exact ⟨by decide +kernel, hclock, (run_exit_window Sample.rt Sample.verifies s acts hoff).2.2.2 1 0
      (.fill 3) (.fill 5) 100 s' rfl hannounce 3 (by decide) hclock.le⟩

/-- **A vault that is retired at the second of its deadline**: an authorised withdrawal in that
second is refused, and would have been paid a moment before. -/
theorem retired_at_deadline :
    let open_ := (Site.opened Sample.vault Sample.tokens 0).run Sample.rt Sample.verifies
      [⟨0, .deposit Sample.deposit⟩, ⟨0, .announceMigration (.fill 3) (.fill 5) 100⟩]
    let retired := open_.next Sample.rt Sample.verifies ⟨100, .retireVault (.fill 3)⟩
    retired.vault.exitDeadline = 100 ∧ retired.clock = 100 ∧
      retired.vault.status = vaultStatusRetired ∧
      ((open_.after 100).apply Sample.rt Sample.verifies Sample.withdraw).map (fun _ => ()) = .ok () ∧
      (retired.apply Sample.rt Sample.verifies Sample.withdraw).map (fun _ => ())
        = .error .vaultInactive := by
  decide +kernel

end Site

end Chain
end Subly402
