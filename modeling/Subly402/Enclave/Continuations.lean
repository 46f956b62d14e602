/-
# Runs that go on

A run and a longer one that starts with it.  The books move by allowed events with channel
ids and nonces that were not drawn before (**`run_refines`**), so what the enclave handed out
stands: a withdrawal authorisation (`run_authorisations_stand`) and an open channel
(`run_channels_continue`).
-/

import Subly402.Enclave.Run

namespace Subly402

open Lib

variable {env : Env}

/-- The longer run is a sound step from the shorter one. -/
theorem run_append_sound (ops ops' : List (Op env)) :
    Sound env (run env ops) (run env (ops ++ ops')) := by
  induction ops' using List.reverseRecOn with
  | nil =>
    rw [List.append_nil]
    exact (Logged.refl env _).toSound
  | append_singleton ops' op ih =>
    change Sound env _ (List.foldl _ _ _)
    rw [← List.append_assoc, List.foldl_append]
    exact ih.trans (step_effect (run_inv (ops ++ ops')).toAppInv op).sound

/-- **A run that goes on refines the ledger**, from the books that it has reached. -/
theorem run_refines (env : Env) (ops ops' : List (Op env)) :
    Evolves env ((run env ops).supply (run env (ops ++ ops')))
      (run env ops).vault.ledger (run env (ops ++ ops')).vault.ledger :=
  (run_append_sound ops ops').evolves

/-- **Every balance is backed.**  What a client has, owes and has taken out adds up to deposits of
the chain that are its own, and no deposit is counted twice. -/
theorem run_backed (env : Env) (ops : List (Op env)) :
    let v := (run env ops).vault
    ∃ applied ⊆ env.deposits,
      (∀ e ∈ applied, e.signature ∈ (run env ops).processedSignatures) ∧
      ∀ client, (v.balance client).free + (v.balance client).locked
          + FiniteMap.total (Ledger.paidFor client) v.reservations
          + (v.closedChannels.map (Ledger.closedFor client)).sum + (v.balance client).totalWithdrawn
        = ∑ e ∈ applied with e.client = client, e.amount := by
  intro v
  obtain ⟨applied, hsub, hdone, hsum⟩ := (run_inv ops).deposits
  refine ⟨applied, hsub, hdone, fun client => ?_⟩
  obtain ⟨-, htotal, hle⟩ : v.Balances client :=
    VaultState.balances_of_conserved (run_inv ops).sums client
  have hdeposited : (v.balance client).totalDeposited
      = ∑ e ∈ applied with e.client = client, e.amount := hsum client
  omega

/-! ### Authorisations -/

/-- What one state has released is pending in the other as it was, or is over. -/
def AppState.Stands (s s' : AppState) : Prop :=
  ∀ w ∈ s.released, w.withdrawNonce < s'.vault.withdrawNonce ∧
    ∀ w', s'.vault.pendingWithdrawals[w.withdrawNonce]? = some w' →
      w' = w ∧ s.vault.pendingWithdrawals[w.withdrawNonce]? = some w

/-- **A released authorisation stands.**  Its nonce is never given out again, and once it is no
longer pending it never is again. -/
theorem run_authorisations_stand (env : Env) (ops ops' : List (Op env)) :
    (run env ops).Stands (run env (ops ++ ops')) := by
  intro w hw
  have hsound := run_append_sound ops ops'
  obtain ⟨hlt, hsame⟩ := (run_inv ops).released w hw
  refine ⟨hlt.trans_le hsound.still.withdrawNonce, fun w' hw' => ?_⟩
  have hbefore := hsound.evolves.pending_of_lt hlt hw'
  obtain rfl := hsame w' hbefore
  exact ⟨rfl, hbefore⟩

/-! ### Channels -/

/-- What a channel keeps while it is open. -/
structure ChannelState.Continues (channel channel' : ChannelState) : Prop where
  client : channel'.client = channel.client
  providerId : channel'.providerId = channel.providerId
  sum : channel'.balance.sum = channel.balance.sum
  earned : channel.balance.providerEarned ≤ channel'.balance.providerEarned
  nonce : channel.nonce ≤ channel'.nonce
  used : channel.usedRequestIds ⊆ channel'.usedRequestIds

namespace ChannelState.Continues

variable {a b c : ChannelState}

theorem refl (a : ChannelState) : a.Continues a := ⟨rfl, rfl, rfl, le_rfl, le_rfl, subset_rfl⟩

theorem trans (h : a.Continues b) (h' : b.Continues c) : a.Continues c where
  client := h'.client.trans h.client
  providerId := h'.providerId.trans h.providerId
  sum := h'.sum.trans h.sum
  earned := h.earned.trans h'.earned
  nonce := h.nonce.trans h'.nonce
  used := h.used.trans h'.used

theorem of_untimed (h : a.untimed.Continues b.untimed) : a.Continues b :=
  ⟨h.client, h.providerId, h.sum, h.earned, h.nonce, h.used⟩

/-- One event turns a channel into one that continues it. -/
theorem of_turns {curve : Curve} {l : Ledger} {key : String} {ev : LedgerEvent}
    (he : l.Enabled curve ev) (ha : a.Ok) (hl : l.channels[key]? = some a)
    (h : Ledger.Turns key a ev b) : a.Continues b.untimed := by
  cases h with
  | submit requestId amount requestHash =>
    obtain ⟨a', hl', -, -, hle⟩ := he
    obtain rfl : a = a' := Option.some.inj (hl.symm.trans hl')
    refine ⟨rfl, rfl, ?_, le_rfl, Nat.le_succ _, Finset.subset_insert _ _⟩
    simp only [ChannelState.untimed, ChannelState.lockRequest, ChannelBalance.sum]
    omega
  | deliver => exact ⟨rfl, rfl, rfl, le_rfl, Nat.le_succ _, subset_rfl⟩
  | finalize | expireRequest =>
    obtain ⟨a', request, hl', hst, hr⟩ := he
    obtain rfl : a = a' := Option.some.inj (hl.symm.trans hl')
    have hlocked := ha.clientLocked_eq (by simp [hst]) hr
    refine ⟨rfl, rfl, ?_, ?_, Nat.le_succ _, subset_rfl⟩ <;>
      simp only [ChannelState.untimed, ChannelState.payProvider, ChannelState.refundClient,
        ChannelBalance.sum, Ledger.activeAmount, hr, Option.map_some, Option.getD_some] <;>
      omega

end ChannelState.Continues

/-- A channel whose id was drawn before is one that was there before. -/
theorem Evolves.channel {supply : Supply} {l l' : Ledger} (h : Evolves env supply l l')
    (hl : l.WellFormed) {key : String} (hdrawn : env.Drawn supply.since key) :
    ∀ {channel' : ChannelState}, l'.channels[key]? = some channel' →
      ∃ channel, l.channels[key]? = some channel ∧ channel.Continues channel' := by
  induction h with
  | refl => exact fun hch => ⟨_, hch, .refl _⟩
  | dropCredit _ _ ih => exact ih
  | event hevolves he hfrom ih =>
    intro channel' hch
    rcases Ledger.channel_apply he hch with
      hch | ⟨_, _, _, rfl, -⟩ | ⟨middle, turned, hmiddle, hturns, rfl⟩
    · exact ih hch
    · -- a new channel has an id that was not drawn
      exact (hfrom.channel _ rfl hdrawn).elim
    · obtain ⟨channel, hbefore, hcontinues⟩ := ih hmiddle
      have hok := (hevolves.wellFormed hl).channel_ok key middle hmiddle
      exact ⟨channel, hbefore, hcontinues.trans (.of_turns he hok hmiddle hturns)⟩

/-- The open channels of a state whose ids the earlier state had drawn were open in it. -/
def AppState.ChannelsContinue (env : Env) (s s' : AppState) : Prop :=
  ∀ key channel', s'.vault.activeChannels[key]? = some channel' → env.Drawn s.drawn key →
    ∃ channel, s.vault.activeChannels[key]? = some channel ∧ channel.Continues channel'

/-- **Channels continue.**  While it is open a channel keeps its parties and its money, of which
the provider's part only grows, and once it is closed no channel gets its id. -/
theorem run_channels_continue (env : Env) (ops ops' : List (Op env)) :
    (∀ key channel, (run env ops).vault.activeChannels[key]? = some channel →
      channel.Ok ∧ env.Drawn (run env ops).drawn key) ∧
    (run env ops).ChannelsContinue env (run env (ops ++ ops')) := by
  have hinv := run_inv ops
  refine ⟨fun key channel hch => ?_, fun key channel' hch hdrawn => ?_⟩
  · have hbook : (run env ops).vault.ledger.channels[key]? = some channel.untimed := by simp [hch]
    exact ⟨(hinv.shape.channel_ok key _ hbook).of_untimed, hinv.ids.channels key _ hbook⟩
  · have hlater : (run env (ops ++ ops')).vault.ledger.channels[key]? = some channel'.untimed := by
      simp [hch]
    obtain ⟨book, hbook, hcontinues⟩ :=
      (run_append_sound ops ops').evolves.channel hinv.shape hdrawn hlater
    rw [VaultState.ledger_channels_lookup] at hbook
    obtain ⟨channel, hbefore, rfl⟩ := Option.map_eq_some_iff.1 hbook
    exact ⟨channel, hbefore, hcontinues.of_untimed⟩

end Subly402
