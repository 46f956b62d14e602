/-
# The audit records of a chunk

`record_audit` creates one account for each record.  The address of an account has an
index, from 0 to 255, and the records of a call are to take indices one after the other.
The loop carries the index it expects next, as an optional value that `checked_add` gives:
after the index 255 it is `None`, and `None` also means that no index is expected, as at
the first record.
-/

import Subly402.Batch.Pairing
import Subly402.Lib.Runs

namespace Subly402
namespace Chain

open Lib

variable {indices : List ℕ} {key : Pubkey} {s s' : Accounts}

/-! ### Indices -/

/-- The indices are one after the other. -/
def Consecutive (indices : List ℕ) : Prop := ∃ first, indices = List.range' first indices.length

/-- `index.checked_add(1)` of a `u8`. -/
def nextIndex (index : ℕ) : Option ℕ := if index < 255 then some (index + 1) else none

/-- The indices pass the check of the loop. -/
def Follows : Option ℕ → List ℕ → Prop
  | _, [] => True
  | next, index :: rest => (∀ expected ∈ next, index = expected) ∧ Follows (nextIndex index) rest

theorem consecutive_singleton (index : ℕ) : Consecutive [index] := ⟨index, rfl⟩

theorem consecutive_cons_cons {a b : ℕ} {rest : List ℕ} :
    Consecutive (a :: b :: rest) ↔ b = a + 1 ∧ Consecutive (b :: rest) := by
  constructor
  · rintro ⟨first, hrange⟩
    simp only [List.length_cons, List.range'_succ, List.cons.injEq] at hrange
    obtain ⟨rfl, rfl, hrest⟩ := hrange
    refine ⟨rfl, a + 1, ?_⟩
    rw [List.length_cons, List.range'_succ]
    exact congrArg _ hrest
  · rintro ⟨rfl, first, hrange⟩
    simp only [List.length_cons, List.range'_succ, List.cons.injEq] at hrange
    obtain ⟨rfl, hrest⟩ := hrange
    refine ⟨a, ?_⟩
    rw [List.length_cons, List.length_cons, List.range'_succ, List.range'_succ]
    exact congrArg _ (congrArg _ hrest)

/-- **The check of the loop**: with 255 at the end only, the indices are one after the other. -/
theorem Follows.consecutive_iff {next : Option ℕ} (h : Follows next indices)
    (hbound : ∀ index ∈ indices, index < 256) :
    Consecutive indices ↔ 255 ∉ indices.dropLast := by
  induction indices generalizing next with
  | nil => exact ⟨fun _ => List.not_mem_nil, fun _ => ⟨0, rfl⟩⟩
  | cons index rest ih =>
    cases rest with
    | nil => exact ⟨fun _ => List.not_mem_nil, fun _ => consecutive_singleton index⟩
    | cons second rest =>
      have hrest := ih h.2 fun i hi => hbound i (List.mem_cons_of_mem _ hi)
      have hindex : index < 256 := hbound index List.mem_cons_self
      have hsecond : second < 256 := hbound second (by simp)
      have hexpected : ∀ expected ∈ nextIndex index, second = expected := h.2.1
      rw [consecutive_cons_cons, hrest, List.dropLast_cons_cons, List.mem_cons, not_or]
      refine and_congr_left fun _ => ?_
      constructor
      · rintro rfl hlast
        omega
      · intro hnot
        exact hexpected _ (by rw [nextIndex, if_pos (by omega)]; rfl)

/-! ### The loop -/

/-- The indices of the records at these accounts, in their order. -/
def Accounts.auditIndices (s : Accounts) (accounts : List AccountMeta) : List ℕ :=
  accounts.filterMap fun account => (s.audits[account.pubkey]?).map AuditRecord.index

namespace Runtime

variable (rt : Runtime)

/-- The record as it is stored. -/
def stored (vaultKey : Pubkey) (auditorEpoch batchId index bump : ℕ) (record : AuditRecordData) :
    AuditRecord :=
  { bump, vault := vaultKey, batchId, index, encryptedSender := record.encryptedSender
    encryptedAmount := record.encryptedAmount, provider := record.provider
    timestamp := record.timestamp, auditorEpoch }

/-- The loop of `record_audit` that ran to its end, with the indices it found. -/
inductive Creates (vaultKey : Pubkey) (auditorEpoch batchId : ℕ) :
    List (AuditRecordData × AccountMeta) → Option ℕ → FiniteMap Pubkey AuditRecord → List ℕ →
      FiniteMap Pubkey AuditRecord → Prop where
  | nil (next audits) : Creates vaultKey auditorEpoch batchId [] next audits [] audits
  | cons {record account rest next audits index bump indices final}
      (haddress : rt.findAuditAddress vaultKey batchId index = (account.pubkey, bump))
      (hindex : index < 256) (hnext : ∀ expected ∈ next, index = expected)
      (hfree : audits[account.pubkey]? = none)
      (hrest : Creates vaultKey auditorEpoch batchId rest (nextIndex index)
        (audits.insert account.pubkey (stored vaultKey auditorEpoch batchId index bump record))
        indices final) :
      Creates vaultKey auditorEpoch batchId ((record, account) :: rest) next audits
        (index :: indices) final

variable {rt} {vaultKey : Pubkey} {auditorEpoch batchId : ℕ}

/-- The index found is that of the address. -/
theorem resolveAuditIndex_eq_ok {accountKey : Pubkey} {index bump : ℕ}
    (h : rt.resolveAuditIndex vaultKey batchId accountKey = .ok (index, bump)) :
    index < 256 ∧ rt.findAuditAddress vaultKey batchId index = (accountKey, bump) := by
  obtain ⟨found, hmem, hfound⟩ := List.exists_of_findSome?_eq_some (okOrElse_eq_ok.1 h)
  dsimp only at hfound
  split at hfound
  · next haddress =>
    cases hfound
    exact ⟨List.mem_range.1 hmem, Prod.ext haddress rfl⟩
  · cases hfound

theorem createRecords_creates {entries : List (AuditRecordData × AccountMeta)} {next : Option ℕ}
    {audits final : FiniteMap Pubkey AuditRecord}
    (h : rt.createRecords vaultKey auditorEpoch batchId entries next audits = .ok final) :
    ∃ indices, rt.Creates vaultKey auditorEpoch batchId entries next audits indices final := by
  induction entries generalizing next audits with
  | nil =>
    cases h
    exact ⟨[], .nil _ _⟩
  | cons entry rest ih =>
    obtain ⟨record, account⟩ := entry
    simp only [createRecords, bind_eq_ok, requireThat_eq_ok] at h
    obtain ⟨⟨index, bump⟩, hresolve, _, hnext, _, ⟨-, hfree⟩, hrest⟩ := h
    obtain ⟨hindex, haddress⟩ := resolveAuditIndex_eq_ok hresolve
    obtain ⟨indices, hcreates⟩ := ih hrest
    exact ⟨index :: indices, .cons haddress hindex hnext hfree hcreates⟩

namespace Creates

variable {entries : List (AuditRecordData × AccountMeta)} {next : Option ℕ} {indices : List ℕ}
  {audits final : FiniteMap Pubkey AuditRecord}

section Loop

variable (h : rt.Creates vaultKey auditorEpoch batchId entries next audits indices final)
include h

theorem follows : Follows next indices := by
  induction h with
  | nil => trivial
  | cons haddress hindex hnext hfree hrest ih => exact ⟨hnext, ih⟩

theorem lt_256 : ∀ index ∈ indices, index < 256 := by
  induction h with
  | nil => nofun
  | cons haddress hindex hnext hfree hrest ih => exact List.forall_mem_cons.2 ⟨hindex, ih⟩

/-- A record that is there stays as it is. -/
theorem keeps {record : AuditRecord} (hkey : audits[key]? = some record) :
    final[key]? = some record := by
  induction h with
  | nil => exact hkey
  | @cons data account rest next audits index bump indices final haddress hindex hnext hfree hrest ih =>
    have hne : key ≠ account.pubkey := by
      rintro rfl
      rw [hfree] at hkey
      cases hkey
    exact ih ((FiniteMap.lookup_insert_of_ne audits _ hne).trans hkey)

/-- No other account changes. -/
theorem others (hkey : key ∉ entries.map fun entry => entry.2.pubkey) :
    final[key]? = audits[key]? := by
  induction h with
  | nil => rfl
  | cons haddress hindex hnext hfree hrest ih =>
    rw [List.map_cons, List.mem_cons, not_or] at hkey
    rw [ih hkey.2, FiniteMap.lookup_insert_of_ne _ _ hkey.1]

/-- An account that is to be created is not there yet. -/
theorem absent : ∀ entry ∈ entries, audits[entry.2.pubkey]? = none := by
  induction h with
  | nil => exact fun entry hentry => absurd hentry List.not_mem_nil
  | @cons record account rest next audits index bump indices final haddress hindex hnext hfree hrest ih =>
    refine List.forall_mem_cons.2 ⟨hfree, fun entry hentry => ?_⟩
    have hlater := ih entry hentry
    rw [FiniteMap.lookup_insert] at hlater
    split at hlater
    · cases hlater
    · exact hlater

/-- No account is created twice. -/
theorem nodup : (entries.map fun entry => entry.2.pubkey).Nodup := by
  induction h with
  | nil => exact List.nodup_nil
  | @cons record account rest next audits index bump indices final haddress hindex hnext hfree hrest ih =>
    refine List.nodup_cons.2 ⟨fun hmem => ?_, ih⟩
    obtain ⟨entry, hentry, heq⟩ := List.mem_map.1 hmem
    have hlater := hrest.absent entry hentry
    rw [heq, FiniteMap.lookup_insert, if_pos rfl] at hlater
    cases hlater

omit h in
/-- The record of the first entry stays to the end. -/
theorem head_record {record : AuditRecordData} {account : AccountMeta} {index bump : ℕ}
    (h : rt.Creates vaultKey auditorEpoch batchId entries next
      (audits.insert account.pubkey (stored vaultKey auditorEpoch batchId index bump record))
      indices final) :
    final[account.pubkey]? = some (stored vaultKey auditorEpoch batchId index bump record) :=
  h.keeps (by rw [FiniteMap.lookup_insert, if_pos rfl])

/-- At the end, each account has the record with the index of its address. -/
theorem records : ∀ entry ∈ entries, ∃ index bump,
      rt.findAuditAddress vaultKey batchId index = (entry.2.pubkey, bump) ∧
      final[entry.2.pubkey]? = some (stored vaultKey auditorEpoch batchId index bump entry.1) := by
  induction h with
  | nil => exact fun entry hentry => absurd hentry List.not_mem_nil
  | cons haddress hindex hnext hfree hrest ih =>
    exact List.forall_mem_cons.2 ⟨⟨_, _, haddress, hrest.head_record⟩, ih⟩

/-- The indices of the records are those that were found. -/
theorem filterMap_index :
    (entries.filterMap fun entry => (final[entry.2.pubkey]?).map AuditRecord.index) = indices := by
  induction h with
  | nil => rfl
  | cons haddress hindex hnext hfree hrest ih =>
    rw [List.filterMap_cons, hrest.head_record, ih]
    rfl

/-- The accounts are those of the indices. -/
theorem addresses : (entries.map fun entry => entry.2.pubkey)
      = indices.map fun index => (rt.findAuditAddress vaultKey batchId index).1 := by
  induction h with
  | nil => rfl
  | cons haddress hindex hnext hfree hrest ih =>
    rw [List.map_cons, List.map_cons, ih, haddress]

end Loop

end Creates

/-! ### A call -/

/-- A call of `record_audit`: the transaction it stands in, its place, its accounts and its
arguments. -/
structure AuditCall where
  instructions : List Instruction
  current : ℕ
  vaultSigner : AccountMeta
  vaultConfig : AccountMeta
  sysvar : AccountMeta
  systemProgram : AccountMeta
  remaining : List AccountMeta
  args : ChunkArgs AuditRecordData

variable (rt) in
/-- What the call does. -/
def AuditCall.run (call : AuditCall) (s : Accounts) : Except VaultError Accounts :=
  rt.recordAudit call.instructions call.current
    (call.vaultSigner :: call.vaultConfig :: call.sysvar :: call.systemProgram :: call.remaining)
    call.args s

/-- **An accepted call**: the loop ran to its end over the records, each with its account. -/
theorem AuditCall.run_eq_ok {call : AuditCall} (h : call.run rt s = .ok s') :
    call.args.entries ≠ [] ∧ call.remaining.length = call.args.entries.length ∧
    ∃ epoch indices audits, rt.Creates call.vaultConfig.pubkey epoch call.args.batchId
        (call.args.entries.zip call.remaining) none s.audits indices audits ∧
      s' = { s with audits } := by
  simp only [AuditCall.run, recordAudit, bind_eq_ok, requireThat_eq_ok] at h
  obtain ⟨_, -, vault, -, _, -, _, -, _, ⟨hnonempty, -⟩, _, -, _, -, _, hlength, audits, hcreate,
    hout⟩ := h
  cases hout
  obtain ⟨indices, hcreates⟩ := createRecords_creates hcreate
  exact ⟨hnonempty, hlength, vault.auditorEpoch, indices, audits, hcreates, rfl⟩

/-- The accounts of the records are the remaining accounts. -/
theorem map_snd_entries {call : AuditCall}
    (h : call.remaining.length = call.args.entries.length) :
    (call.args.entries.zip call.remaining).map Prod.snd = call.remaining :=
  List.map_snd_zip h.le

/-- What an accepted call leaves: every account it was given is new and has a record of the vault
and the batch, with the index of its address. -/
structure AuditCall.Recorded (rt : Runtime) (call : AuditCall) (s s' : Accounts) : Prop where
  count : (s'.auditIndices call.remaining).length = call.args.entries.length
  bound : ∀ index ∈ s'.auditIndices call.remaining, index < 256
  nodup : (call.remaining.map AccountMeta.pubkey).Nodup
  fresh : ∀ account ∈ call.remaining, s.audits[account.pubkey]? = none
  record : ∀ account ∈ call.remaining, ∃ record, s'.audits[account.pubkey]? = some record ∧
    record.vault = call.vaultConfig.pubkey ∧ record.batchId = call.args.batchId ∧
    (rt.findAuditAddress record.vault record.batchId record.index).1 = account.pubkey
  others : ∀ key : Pubkey, key ∉ call.remaining.map AccountMeta.pubkey →
    s'.audits[key]? = s.audits[key]?
  keeps : ∀ (key : Pubkey) (record : AuditRecord), s.audits[key]? = some record →
    s'.audits[key]? = some record

theorem AuditCall.auditIndices_eq {call : AuditCall} {epoch : ℕ}
    {audits : FiniteMap Pubkey AuditRecord}
    (hlength : call.remaining.length = call.args.entries.length)
    (hcreates : rt.Creates call.vaultConfig.pubkey epoch call.args.batchId
      (call.args.entries.zip call.remaining) none s.audits indices audits)
    (hs' : s' = { s with audits }) : s'.auditIndices call.remaining = indices := by
  subst hs'
  calc Accounts.auditIndices { s with audits } call.remaining
    _ = Accounts.auditIndices { s with audits }
        ((call.args.entries.zip call.remaining).map Prod.snd) := by rw [map_snd_entries hlength]
    _ = indices := by
      rw [Accounts.auditIndices, List.filterMap_map]
      exact hcreates.filterMap_index

theorem AuditCall.recorded {call : AuditCall} (h : call.run rt s = .ok s') :
    call.Recorded rt s s' := by
  obtain ⟨-, hlength, epoch, indices, audits, hcreates, hs'⟩ := AuditCall.run_eq_ok h
  have hindices := AuditCall.auditIndices_eq hlength hcreates hs'
  have hsnd := map_snd_entries hlength
  have hkeys : (call.args.entries.zip call.remaining).map (fun entry => entry.2.pubkey)
      = call.remaining.map AccountMeta.pubkey := by
    rw [← hsnd, List.map_map, hsnd]
    rfl
  -- every remaining account is that of a record
  have hentry : ∀ account ∈ call.remaining, ∃ data,
      (data, account) ∈ call.args.entries.zip call.remaining := by
    intro account haccount
    rw [← hsnd] at haccount
    obtain ⟨⟨data, _⟩, hmem, rfl⟩ := List.mem_map.1 haccount
    exact ⟨data, hmem⟩
  refine ⟨?_, ?_, ?_, ?_, ?_, ?_, ?_⟩
  · rw [hindices, ← List.length_map, ← hcreates.addresses, List.length_map, List.length_zip, hlength,
      min_self]
  · rw [hindices]
    exact hcreates.lt_256
  · rw [← hkeys]
    exact hcreates.nodup
  · intro account haccount
    obtain ⟨data, hmem⟩ := hentry account haccount
    exact hcreates.absent _ hmem
  · intro account haccount
    obtain ⟨data, hmem⟩ := hentry account haccount
    obtain ⟨index, bump, haddress, hfinal⟩ := hcreates.records _ hmem
    subst hs'
    exact ⟨_, hfinal, rfl, rfl, congrArg Prod.fst haddress⟩
  · intro key hkey
    subst hs'
    exact hcreates.others (hkeys ▸ hkey)
  · intro key record hkey
    subst hs'
    exact hcreates.keeps hkey

/-- Different indices of a batch have different addresses. -/
def DistinctIndices (rt : Runtime) : Prop :=
  ∀ vaultKey batchId, Set.InjOn (fun index => (rt.findAuditAddress vaultKey batchId index).1)
    { index | index < 256 }

/-- No account but the last is that of the last index. -/
def AuditCall.EndsAtLast (rt : Runtime) (call : AuditCall) : Prop :=
  ∀ account ∈ call.remaining.dropLast,
    account.pubkey ≠ (rt.findAuditAddress call.vaultConfig.pubkey call.args.batchId 255).1

instance (rt : Runtime) (call : AuditCall) : Decidable (call.EndsAtLast rt) :=
  inferInstanceAs (Decidable (∀ account ∈ call.remaining.dropLast, _))

/-- **The indices of an accepted call** are one after the other exactly if no account but the last
has the index 255. -/
theorem AuditCall.consecutive_iff (hdistinct : DistinctIndices rt) {call : AuditCall}
    (h : call.run rt s = .ok s') :
    Consecutive (s'.auditIndices call.remaining) ↔ call.EndsAtLast rt := by
  obtain ⟨-, hlength, epoch, indices, audits, hcreates, hs'⟩ := AuditCall.run_eq_ok h
  rw [AuditCall.auditIndices_eq hlength hcreates hs',
    hcreates.follows.consecutive_iff hcreates.lt_256]
  have haddresses : call.remaining.dropLast.map AccountMeta.pubkey = indices.dropLast.map
      fun index => (rt.findAuditAddress call.vaultConfig.pubkey call.args.batchId index).1 := by
    rw [List.map_dropLast, List.map_dropLast, ← hcreates.addresses, ← map_snd_entries hlength,
      List.map_map, map_snd_entries hlength]
    rfl
  constructor
  · intro hnot account haccount haddress
    have hmem := List.mem_map_of_mem (f := AccountMeta.pubkey) haccount
    rw [haddresses, List.mem_map] at hmem
    obtain ⟨index, hindex, hsame⟩ := hmem
    have hbound := hcreates.lt_256 index (List.mem_of_mem_dropLast hindex)
    have heq : index = 255 := hdistinct _ _ hbound (by decide) (hsame.trans haddress)
    exact hnot (heq ▸ hindex)
  · intro hends hlast
    have hmem := List.mem_map_of_mem (f := fun index =>
      (rt.findAuditAddress call.vaultConfig.pubkey call.args.batchId index).1) hlast
    rw [← haddresses, List.mem_map] at hmem
    obtain ⟨account, haccount, haddress⟩ := hmem
    exact hends account haccount haddress

/-! ### Runs -/

/-- The accounts and, for the proofs, every audit account created so far with its record. -/
structure Trail where
  accounts : Accounts
  created : List (Pubkey × AuditRecord)

/-- What happens: a call of `record_audit`, or anything that leaves the audit accounts alone, which
is all that the program's other instructions do.  A call in a transaction that fails later is a
call that is refused. -/
inductive Happening where
  | call (call : AuditCall)
  | elsewhere (vaults : FiniteMap Pubkey VaultConfig) (tokens : Tokens) (clock : ℤ)

variable (rt) in
/-- The trail after a happening. -/
def Trail.next (t : Trail) : Happening → Trail
  | .call call =>
    match call.run rt t.accounts with
    | .ok accounts =>
      { accounts
        created := t.created ++ call.remaining.filterMap fun account =>
          (accounts.audits[account.pubkey]?).map (account.pubkey, ·) }
    | .error _ => t
  | .elsewhere vaults tokens clock =>
    { t with accounts := { t.accounts with vaults, tokens, clock } }

/-- The created accounts are as they were created, each at the address of its record. -/
structure Trail.Inv (rt : Runtime) (t : Trail) : Prop where
  nodup : (t.created.map Prod.fst).Nodup
  stored : ∀ entry ∈ t.created, t.accounts.audits[entry.1]? = some entry.2
  address : ∀ entry ∈ t.created,
    (rt.findAuditAddress entry.2.vault entry.2.batchId entry.2.index).1 = entry.1

/-- The accounts a call creates, with their records. -/
theorem AuditCall.Recorded.filterMap {call : AuditCall} (h : call.Recorded rt s s') :
    ∃ added : List (Pubkey × AuditRecord),
      (call.remaining.filterMap fun account =>
        (s'.audits[account.pubkey]?).map (account.pubkey, ·)) = added ∧
      added.map Prod.fst = call.remaining.map AccountMeta.pubkey ∧
      ∀ entry ∈ added, s'.audits[entry.1]? = some entry.2 ∧
        (rt.findAuditAddress entry.2.vault entry.2.batchId entry.2.index).1 = entry.1 := by
  refine ⟨_, rfl, ?_, ?_⟩
  · have hsome : ∀ account ∈ call.remaining, ((s'.audits[account.pubkey]?).map
        (account.pubkey, ·)).map Prod.fst = some account.pubkey := by
      intro account haccount
      obtain ⟨record, hrecord, -⟩ := h.record account haccount
      rw [hrecord]
      rfl
    rw [List.map_filterMap, List.filterMap_congr hsome, List.filterMap_eq_map']
  · intro entry hentry
    obtain ⟨account, haccount, hentry⟩ := List.mem_filterMap.1 hentry
    obtain ⟨record, hrecord, -, -, haddress⟩ := h.record account haccount
    rw [hrecord] at hentry
    cases hentry
    exact ⟨hrecord, haddress⟩

theorem Trail.inv_next {t : Trail} (h : t.Inv rt) (happening : Happening) :
    (t.next rt happening).Inv rt := by
  cases happening with
  | elsewhere vaults tokens clock => exact ⟨h.nodup, h.stored, h.address⟩
  | call call =>
    unfold Trail.next
    dsimp only
    split
    · next accounts hrun =>
      have hrecorded := AuditCall.recorded hrun
      obtain ⟨added, hadded, hkeys, hentries⟩ := hrecorded.filterMap
      rw [hadded]
      refine ⟨?_, ?_, ?_⟩
      · rw [List.map_append, hkeys]
        refine List.nodup_append.2 ⟨h.nodup, hrecorded.nodup, ?_⟩
        -- an account that is there is not created
        rintro _ hold _ hnew rfl
        obtain ⟨entry, hentry, rfl⟩ := List.mem_map.1 hold
        obtain ⟨account, haccount, heq⟩ := List.mem_map.1 hnew
        have hfresh := hrecorded.fresh account haccount
        rw [heq, h.stored entry hentry] at hfresh
        cases hfresh
      · intro entry hentry
        rcases List.mem_append.1 hentry with hold | hnew
        · exact hrecorded.keeps _ _ (h.stored entry hold)
        · exact (hentries entry hnew).1
      · intro entry hentry
        rcases List.mem_append.1 hentry with hold | hnew
        · exact h.address entry hold
        · exact (hentries entry hnew).2
    · exact h

/-- A record stays as it is. -/
theorem Trail.keeps_next {t : Trail} {record : AuditRecord}
    (h : t.accounts.audits[key]? = some record) (happening : Happening) :
    (t.next rt happening).accounts.audits[key]? = some record := by
  cases happening with
  | elsewhere vaults tokens clock => exact h
  | call call =>
    unfold Trail.next
    dsimp only
    split
    · next accounts hrun => exact (AuditCall.recorded hrun).keeps key record h
    · exact h

/-- Each address of a vault, a batch and an index is created at most once. -/
theorem Trail.Inv.nodup_triples {t : Trail} (h : t.Inv rt) :
    (t.created.map fun entry => (entry.2.vault, entry.2.batchId, entry.2.index)).Nodup := by
  refine List.Nodup.of_map (fun triple => (rt.findAuditAddress triple.1 triple.2.1 triple.2.2).1) ?_
  rw [List.map_map]
  have hkeys : t.created.map ((fun triple => (rt.findAuditAddress triple.1 triple.2.1 triple.2.2).1) ∘
      fun entry => (entry.2.vault, entry.2.batchId, entry.2.index)) = t.created.map Prod.fst :=
    List.map_congr_left h.address
  rw [hkeys]
  exact h.nodup

/-- **The audit records of a chunk.**  An accepted call records a nonempty list of new accounts of
its vault and batch; their indices are one after the other exactly if no account but the last has
the index 255.  Over every run, each account is created at most once and stays as it is. -/
theorem record_audit_trail (rt : Runtime) (hdistinct : DistinctIndices rt) :
    (∀ (call : AuditCall) (s s' : Accounts), call.run rt s = .ok s' →
      call.Recorded rt s s' ∧
      (Consecutive (s'.auditIndices call.remaining) ↔ call.EndsAtLast rt)) ∧
    ∀ (accounts : Accounts) (before later : List Happening),
      let t := runSteps (Trail.next rt) ⟨accounts, []⟩ before
      (t.created.map fun entry => (entry.2.vault, entry.2.batchId, entry.2.index)).Nodup ∧
      (∀ entry ∈ t.created, t.accounts.audits[entry.1]? = some entry.2) ∧
      ∀ (key : Pubkey) (record : AuditRecord), t.accounts.audits[key]? = some record →
        (runSteps (Trail.next rt) t later).accounts.audits[key]? = some record := by
  refine ⟨fun call s s' h => ⟨AuditCall.recorded h, AuditCall.consecutive_iff hdistinct h⟩, ?_⟩
  intro accounts before later t
  have hstart : Trail.Inv rt ⟨accounts, []⟩ :=
    ⟨List.nodup_nil, fun _ h => absurd h List.not_mem_nil, fun _ h => absurd h List.not_mem_nil⟩
  have hinv : t.Inv rt :=
    runSteps_keep (P := Trail.Inv rt) (fun t happening h => Trail.inv_next h happening) hstart before
  refine ⟨hinv.nodup_triples, hinv.stored, fun key record hkey => ?_⟩
  exact runSteps_keep (P := fun t : Trail => t.accounts.audits[key]? = some record)
    (fun t happening h => Trail.keeps_next h happening) hkey later

end Runtime

namespace Payout

/-- Three tokens for the provider, with two records. -/
def pairHash : Bytes32 := computeBatchChunkHash rt.sha256 1 [entry] [record, record]

/-- `settle_vault` of the chunk with two records. -/
def pairSettle : Instruction :=
  { settle with
    data := rt.instructionDiscriminator "settle_vault"
      ++ (ChunkArgs.codec SettlementEntry.codec).encode ⟨1, pairHash, [entry]⟩ }

/-- `record_audit` of that chunk with the accounts of two indices. -/
def pairAudit (first second : UInt8) : Instruction :=
  { audit with
    accounts := audit.accounts.take 4 ++ [⟨.fill first, false, true⟩, ⟨.fill second, false, true⟩]
    data := rt.instructionDiscriminator "record_audit"
      ++ (ChunkArgs.codec AuditRecordData.codec).encode ⟨1, pairHash, [record, record]⟩ }

/-- The call of `record_audit` in that transaction. -/
def pairCall (first second : UInt8) : Runtime.AuditCall :=
  { instructions := [pairSettle, pairAudit first second], current := 1
    vaultSigner := ⟨.fill 8, true, true⟩, vaultConfig := ⟨.fill 9, false, false⟩
    sysvar := ⟨.fill 23, false, false⟩, systemProgram := ⟨.fill 22, false, false⟩
    remaining := [⟨.fill first, false, true⟩, ⟨.fill second, false, true⟩]
    args := ⟨1, pairHash, [record, record]⟩ }

/-- The indices that the call leaves, if it is accepted. -/
def pairIndices (first second : UInt8) : Option (List ℕ) :=
  ((pairCall first second).run rt accounts).toOption.map
    fun s => s.auditIndices (pairCall first second).remaining

theorem distinctIndices : Runtime.DistinctIndices rt := by
  intro vaultKey batchId i hi j hj h
  have hhead : some (UInt8.ofNat i) = some (UInt8.ofNat j) :=
    congrArg (fun key : Pubkey => key.bytes.head?) h
  have hbytes : i % 256 = j % 256 := by
    simpa using congrArg UInt8.toNat (Option.some.inj hhead)
  rwa [Nat.mod_eq_of_lt hi, Nat.mod_eq_of_lt hj] at hbytes

theorem pair_accepted {first second : UInt8} (h : pairIndices first second = some indices) :
    ∃ s', (pairCall first second).run rt accounts = .ok s' ∧
      s'.auditIndices (pairCall first second).remaining = indices := by
  unfold pairIndices at h
  cases hrun : (pairCall first second).run rt accounts with
  | error e => simp [hrun, Except.toOption] at h
  | ok s' => exact ⟨s', rfl, by simpa [hrun, Except.toOption] using h⟩

/-- Two records at the indices 0 and 1. -/
theorem record_audit_trail_pair :
    ∃ s', (pairCall 0 1).run rt accounts = .ok s' ∧
      Consecutive (s'.auditIndices (pairCall 0 1).remaining) := by
  obtain ⟨s', hrun, -⟩ := pair_accepted (show pairIndices 0 1 = some [0, 1] by decide +kernel)
  exact ⟨s', hrun, (((Runtime.record_audit_trail rt distinctIndices).1 _ _ _ hrun).2).2
    (by decide +kernel)⟩

/-- **The index wraps around**: a transaction whose records have the indices 255 and 0 is
accepted. -/
theorem wrapped_chunk :
    Runtime.DistinctIndices rt ∧ received [pairSettle, pairAudit 255 0] = some 3 ∧
    ∃ s', (pairCall 255 0).run rt accounts = .ok s' ∧
      s'.auditIndices (pairCall 255 0).remaining = [255, 0] ∧
      ¬ Consecutive (s'.auditIndices (pairCall 255 0).remaining) := by
  obtain ⟨s', hrun, hindices⟩ :=
    pair_accepted (show pairIndices 255 0 = some [255, 0] by decide +kernel)
  refine ⟨distinctIndices, by decide +kernel, s', hrun, hindices, ?_⟩
  rw [hindices, consecutive_cons_cons]
  omega

end Payout

end Chain
end Subly402
