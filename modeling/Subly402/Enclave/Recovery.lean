/-
# Recovery from the log

A run of the enclave whose operations are regular is told by its log
(`run_logged`), and a log that tells a run rebuilds its books
(`Explains.replays`).  Together: **`replayAppState_run`**, a crash loses nothing that
the books have.
-/

import Subly402.Enclave.Run
import Subly402.Enclave.ReplaySteps

namespace Subly402

open Lib
open Lib.Prog (orReturn Reaches)

variable {env : Env}

/-- The event is of a withdrawal whose authorisation was handed out. -/
def AppState.Authorised (s : AppState) (event : WithdrawEvent) : Prop :=
  ∃ w ∈ s.released, w.withdrawNonce = event.withdrawNonce ∧ event.Matches w

/-- What the enclave relies on when it runs an operation. -/
def Op.Regular (s : AppState) : Op env → Prop
  | .verify req _ => 0 < req.amount
  | .withdrawAuth _ _ amount _ => 0 < amount
  | .channelOpen _ _ initialDeposit _ => 0 < initialDeposit
  | .registerProvider req => req.ReplaysAsIs env
  | .withdrawal event _ => s.Authorised event
  | _ => True

/-- Every operation of a run is regular where it happens. -/
def RegularFrom (s : AppState) : List (Op env) → Prop
  | [] => True
  | op :: ops => op.Regular s ∧ RegularFrom (s.next op) ops

/-- The books are as the log tells from the start. -/
theorem told_of_regular {s : AppState} (hs : RunInv env s) (hlog : Logged env .new s) {op : Op env}
    (h : op.Regular s) : op.Told s := by
  cases op with
  | settle =>
    obtain ⟨es, -, -, hexp⟩ := hlog.log
    refine (hexp.alive ?_).credits
    rw [AppState.new, VaultState.ledger_new]
    constructor <;> simp [Ledger.CreditsAlive]
  | withdrawal event =>
    obtain ⟨w, hmem, hnonce, hmatch⟩ := h
    intro w' hw'
    rw [← hnonce] at hw'
    rwa [(hs.released w hmem).2 w' hw']
  | registerProvider | verify | withdrawAuth | channelOpen => exact h
  | _ => trivial

/-- **The log tells a regular run.** -/
theorem run_logged {ops : List (Op env)} (h : RegularFrom .new ops) :
    Logged env .new (run env ops) := by
  have hrun : ∀ s : AppState, RunInv env s → Logged env .new s → RegularFrom s ops →
      Logged env .new (ops.foldl AppState.next s) := by
    clear h
    induction ops with
    | nil => exact fun s _ hlog _ => hlog
    | cons op ops ih =>
      intro s hs hlog ⟨hop, hops⟩
      have hstep := (step_effect hs.toAppInv op).logged (told_of_regular hs hlog hop)
      exact ih (s.next op) (hstep.runInv hs) (hlog.trans hstep) hops
  exact hrun .new (.new env) (.refl env .new) h

/-- Replay starts where a run starts. -/
theorem Follows.new : Follows AppState.new.vault.ledger .new :=
  ⟨rfl, by simp [AppState.new, VaultState.ledger_new, Ledger.Holds],
    by simp [AppState.new, VaultState.ledger_new]⟩

/-- The state `r` has all that the live enclave's log is about: its books, the transactions it
remembers, and counters above every nonce that it logged. -/
structure AppState.Rebuilds (live r : AppState) : Prop where
  books : r.vault.ledger = live.vault.ledger
  processed : r.processedSignatures = live.processedSignatures
  withdrawNonce : ∀ record ∈ live.wal.records, ∀ n, record.entry.withdrawNonce? = some n →
    n < r.vault.withdrawNonce
  receiptNonce : ∀ record ∈ live.wal.records, ∀ n, record.entry.receiptNonce? = some n →
    n < r.vault.receiptNonce

/-- **Replaying the log of a regular run rebuilds it.** -/
theorem replayAppState_run (env : Env) {ops : List (Op env)} (h : RegularFrom .new ops)
    {clock : ℕ → ℤ} (hclock : SteadyClock clock) :
    (replayAppState env clock (run env ops).wal.records).Reaches .new
      (run env ops).Rebuilds := by
  obtain ⟨es, happends, hprocessed, hexp⟩ := (run_logged h).log
  have hnew := RunInv.new env
  have hfit : ∀ c, ((run env ops).vault.ledger.account c).deposited < u64Bound := fun c =>
    (run_inv ops).fits c
  have hrecords : (run env ops).wal.records.map (·.entry) = es := happends.entries
  have htime : AppState.new.InTime clock 0 := by simp [AppState.InTime, AppState.new, VaultState.new]
  have hreplay := (hexp.replays hnew.shape hnew.sums hfit hclock .new htime hrecords).mono
    fun _ h => h.1
  have hall : ((run env ops).wal.records.filter fun record => (none : Option ℕ).all (· < record.seqno))
      = (run env ops).wal.records := by simp
  rw [replayAppState, replayAppStateFrom, hall]
  refine hreplay.bind fun _ r hr => .get_bind ?_
  have hmem : ∀ record ∈ (run env ops).wal.records, record.entry ∈ es := fun record hrecord =>
    hrecords ▸ List.mem_map_of_mem hrecord
  refine (hr.reaches_refreshClients fun c hc => ?_).mono fun r hr => ⟨hr.follows.books, ?_,
    fun record hrecord => hr.withdrawNonce.2 _ (hmem record hrecord),
    fun record hrecord => hr.receiptNonce.2 _ (hmem record hrecord)⟩
  · exact Option.isSome_iff_exists.1 (by simpa using hc)
  · rw [hr.processed, hprocessed]

/-- The log of a shop replays. -/
theorem replayAppState_run_shop : RegularFrom .new Shop.ops ∧ SteadyClock (fun _ => 0) ∧
    (replayAppState Shop.world (fun _ => 0) (run Shop.world Shop.ops).wal.records).Reaches .new
      (run Shop.world Shop.ops).Rebuilds := by
  have hregular : RegularFrom .new Shop.ops :=
    ⟨trivial, fun parsed h => (RegisterProviderRequest.decode_entry_iff h).2 (by decide),
      (by decide : 0 < 3), trivial, Nat.one_pos, trivial⟩
  have hclock : SteadyClock (fun _ => 0) := fun _ _ _ => (by decide : 0 ≤ 0 + requestExpirySec)
  exact ⟨hregular, hclock, replayAppState_run Shop.world hregular hclock⟩

/-! ### Registrations

The registration of a run is assumed to read back from its entry.  Which do is decided
by the request alone. -/

/-- A request that registers a provider. -/
inductive RegistrationRequest where
  | register (req : RegisterProviderRequest)
  | openSeller (payload : Handlers.OpenPayment)

namespace RegistrationRequest

def handle (env : Env) : RegistrationRequest → AppM Unit
  | register req => Handlers.postRegisterProvider env req
  | openSeller payload => Handlers.ensureOpenProviderRegistered env payload

def providerId : RegistrationRequest → String
  | register req => req.providerId
  | openSeller payload => payload.providerId

/-- No credential besides the one that the auth mode uses.  An open seller has none. -/
def NoSpareCredential : RegistrationRequest → Prop
  | register req => req.NoSpareCredential
  | openSeller _ => True

/-- What an accepted request logs and inserts. -/
def Registers (env : Env) (entry : WalEntry) (provider : ProviderRegistration) :
    RegistrationRequest → Prop
  | register req => ∃ parsed, req.parse env = .ok parsed ∧ entry = req.entry parsed ∧
      provider = req.registration parsed
  | openSeller payload => ∃ account mint, env.pubkeyFromStr payload.payTo = some account ∧
      env.pubkeyFromStr payload.assetMint = some mint ∧ entry = payload.entry ∧
      provider = payload.registration account mint

variable {request : RegistrationRequest} {s : AppState} {entry : WalEntry}
  {provider : ProviderRegistration}

/-- An accepted request either finds an open seller registered, or logs and inserts. -/
theorem returns_handle : (request.handle env).Returns s fun _ s' => s' = s ∨
    ∃ entry provider, request.Registers env entry provider ∧
      s' = (s.setWal (s.wal.store entry)).setVault
        (s.vault.setProvider request.providerId provider) := by
  cases request with
  | register req =>
    refine .orReturn_bind fun parsed hparsed => .get_bind <| .failIf_bind fun _ => .append_bind ?_
    exact .of_run rfl (.inr ⟨_, _, ⟨parsed, hparsed, rfl, rfl⟩, rfl⟩)
  | openSeller payload =>
    refine .get_bind ?_
    split
    · exact .of_run rfl (.inl rfl)
    · refine .okOr_bind fun account haccount => .okOr_bind fun mint hmint => .append_bind ?_
      exact .of_run rfl (.inr ⟨_, _, ⟨account, mint, haccount, hmint, rfl, rfl⟩, rfl⟩)

/-- The entry reads back as what was inserted where the request has no spare credential. -/
theorem Registers.decode_iff (h : request.Registers env entry provider) :
    decodeRegistration env entry = some (.ok provider) ↔ request.NoSpareCredential := by
  cases request with
  | register req =>
    obtain ⟨parsed, hparsed, rfl, rfl⟩ := h
    exact RegisterProviderRequest.decode_entry_iff hparsed
  | openSeller payload =>
    obtain ⟨account, mint, haccount, hmint, rfl, rfl⟩ := h
    exact iff_true_intro (Handlers.OpenPayment.decode_entry haccount hmint)

/-- Replaying the entry inserts what was inserted where the entry reads back as that. -/
theorem Registers.reaches_iff (h : request.Registers env entry provider) (now : ℤ)
    (r : AppState) :
    ((replayEntry env now entry).Reaches r fun r' =>
        r'.vault.providers[request.providerId]? = some provider) ↔
      decodeRegistration env entry = some (.ok provider) := by
  obtain ⟨result, hresult⟩ : ∃ result, decodeRegistration env entry = some result := by
    cases request with
    | register req => obtain ⟨parsed, -, rfl, -⟩ := h; exact ⟨_, rfl⟩
    | openSeller payload => obtain ⟨_, _, -, -, rfl, -⟩ := h; exact ⟨_, rfl⟩
  have hentry : replayEntry env now entry = (do
      let registration ← orReturn result
      modify fun s => s.setVault (s.vault.setProvider request.providerId registration)) := by
    cases request with
    | register req =>
      obtain ⟨parsed, -, rfl, -⟩ := h
      simp only [RegisterProviderRequest.entry, replayEntry] at hresult ⊢
      rw [hresult]; rfl
    | openSeller payload =>
      obtain ⟨_, _, -, -, rfl, -⟩ := h
      simp only [Handlers.OpenPayment.entry, replayEntry] at hresult ⊢
      rw [hresult]; rfl
  rw [hentry, hresult]
  cases result with
  | error e => simp [Reaches]
  | ok registration => simp [Reaches]

end RegistrationRequest

/-- **A registration survives recovery where its request has no spare credential, and nowhere
else.**  The record that an accepted request logged replays, from any state and at any time, as
the registration that the handler inserted, exactly if the request has no credential besides the
one its auth mode uses. -/
theorem registration_replays_iff (env : Env) (request : RegistrationRequest) {s s' : AppState}
    (haccepted : (request.handle env).run s = (.ok (), s')) {record : WalRecord}
    (hrecord : s'.wal.records = s.wal.records ++ [record]) :
    ∃ provider, s'.vault.providers[request.providerId]? = some provider ∧ ∀ now r,
      ((replayEntry env now record.entry).Reaches r fun r' =>
          r'.vault.providers[request.providerId]? = some provider) ↔
        request.NoSpareCredential := by
  obtain rfl | ⟨entry, provider, hregisters, rfl⟩ :=
    RegistrationRequest.returns_handle () s' haccepted
  · simp at hrecord
  · obtain rfl : record = ⟨s.wal.seqno, entry⟩ := by
      simpa [Wal.store, eq_comm] using hrecord
    exact ⟨provider, by simp, fun now r =>
      (hregisters.reaches_iff now r).trans hregisters.decode_iff⟩

/-- A seller's registration replays. -/
theorem registration_replays_iff_seller :
    ∃ s' record, ((RegistrationRequest.register Shop.seller).handle Shop.world).run .new
        = (.ok (), s') ∧ s'.wal.records = AppState.new.wal.records ++ [record] ∧
      ∃ provider, s'.vault.providers["shop"]? = some provider ∧ ∀ now r,
        ((replayEntry Shop.world now record.entry).Reaches r fun r' =>
          r'.vault.providers["shop"]? = some provider) ↔ Shop.seller.NoSpareCredential := by
  have hok : (((RegistrationRequest.register Shop.seller).handle Shop.world).run .new).1
      = .ok () := by decide +kernel
  have hone : (((RegistrationRequest.register Shop.seller).handle Shop.world).run
      .new).2.wal.records.length = 1 := by decide +kernel
  obtain ⟨record, hrecord⟩ := List.length_eq_one_iff.1 hone
  exact ⟨_, record, Prod.ext hok rfl, hrecord,
    registration_replays_iff Shop.world (.register Shop.seller) (Prod.ext hok rfl) hrecord⟩

/-- A seller with an api key and, to spare, a fingerprint that is not hex. -/
def Shop.spareSeller : RegisterProviderRequest :=
  { Shop.seller with
    authMode := "bearer", apiKeyHash := hexEncode (Bytes32.fill 4).bytes
    mtlsCertFingerprint := some "zz" }

/-- The enclave accepts that seller, and then never starts again. -/
theorem spareSeller_lost :
    (((RegistrationRequest.register Shop.spareSeller).handle Shop.world).run .new).1 = .ok () ∧
      ((replayAppState Shop.world (fun _ => 0)
        (((RegistrationRequest.register Shop.spareSeller).handle Shop.world).run
          .new).2.wal.records).run .new).1
        = .error "invalid provider mtls_cert_fingerprint in WAL: " := by
  decide +kernel

end Subly402
