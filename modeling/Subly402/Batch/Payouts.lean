/-
# What the chunks of a batch pay

`build_batch_chunks` cuts the prepared settlements, and `aggregate_settlements` adds up what
a chunk pays to each account, in an ordered map with checked additions.  Nothing is lost in
either: **`payouts_preserved`** says how the chunks lie, what a chunk transfers, when the
addition fails, and that every account gets the sum of its settlements over all chunks.
-/

import Subly402.Batch.Plan

namespace Subly402
namespace Batch

open Lib

variable {i : ℕ} {chunk : BatchChunk} {entries : List PreparedSettlement}
  {transfers : List BatchSettlementEntry}

/-! ### Where a chunk starts -/

section Chunks

variable {entries : List PreparedSettlement}

/-- A chunk starts where those before it end. -/
theorem startIndex_cutChunks {base extra left chunkIdx start : ℕ}
    (hfit : start + (left * base + (min (chunkIdx + left) extra - min chunkIdx extra)) ≤ entries.length)
    (h : (cutChunks entries base extra left chunkIdx start)[i]? = some chunk) :
    chunk.startIndex = (start +
      (((cutChunks entries base extra left chunkIdx start).take i).flatMap (·.entries)).length)
        % 256 := by
  induction left generalizing chunkIdx start i with
  | zero => cases h
  | succ left ih =>
    have hmul : (left + 1) * base = left * base + base := Nat.succ_mul left base
    rw [cutChunks] at h ⊢
    cases i with
    | zero =>
      cases h
      rfl
    | succ i =>
      rw [List.getElem?_cons_succ] at h
      rw [List.take_succ_cons, List.flatMap_cons, List.length_append]
      have hsize : ((entries.drop start).take
          (base + if chunkIdx < extra then 1 else 0)).length
            = base + if chunkIdx < extra then 1 else 0 := by
        rw [List.length_take, List.length_drop]
        split <;> omega
      simp only [hsize]
      rw [ih ?_ h, Nat.add_assoc]
      split <;> omega

/-- **A chunk starts after as many entries as the chunks before it have.** -/
theorem startIndex_buildBatchChunks (h : (buildBatchChunks entries)[i]? = some chunk) :
    chunk.startIndex = (((buildBatchChunks entries).take i).flatMap (·.entries)).length % 256 := by
  unfold buildBatchChunks at h ⊢
  split at h
  · cases h
  next hne =>
  rw [if_neg hne]
  have hpos := List.length_pos_of_ne_nil hne
  simp only [maxAtomicSettlementsWithAudit] at h ⊢
  obtain ⟨count, hcount⟩ : ∃ count, (entries.length + 2 - 1) / 2 = count := ⟨_, rfl⟩
  rw [hcount] at h ⊢
  have hsum : count * (entries.length / count) + entries.length % count = entries.length :=
    Nat.div_add_mod _ _
  have hextra : entries.length % count < count := Nat.mod_lt _ (by omega)
  have hstart := startIndex_cutChunks (by omega) h
  rwa [Nat.zero_add] at hstart

/-- A chunk has entries, so those before it are fewer than all. -/
theorem length_take_chunks_lt (h : (buildBatchChunks entries)[i]? = some chunk) :
    (((buildBatchChunks entries).take i).flatMap (·.entries)).length < entries.length := by
  obtain ⟨_, -, -, hone, -, -⟩ := mem_buildBatchChunks (List.mem_of_getElem? h)
  have hall := congrArg List.length (flatMap_buildBatchChunks entries)
  have hnext : (((buildBatchChunks entries).take (i + 1)).flatMap (·.entries)).length
      ≤ ((buildBatchChunks entries).flatMap (·.entries)).length :=
    ((List.take_sublist _ _).flatMap _).length_le
  rw [List.take_add_one, h, List.flatMap_append, List.length_append, Option.toList_some,
    List.flatMap_singleton] at hnext
  omega

end Chunks

/-! ### Adding up -/

/-- What the settlements pay to an account. -/
def paidTo (account : Pubkey) (entries : List PreparedSettlement) : ℕ :=
  ((entries.filter fun p => p.providerTokenAccount = account).map (·.amount)).sum

theorem paidTo_cons (account : Pubkey) (p : PreparedSettlement) (entries : List PreparedSettlement) :
    paidTo account (p :: entries)
      = (if p.providerTokenAccount = account then p.amount else 0) + paidTo account entries := by
  unfold paidTo
  rw [List.filter_cons]
  by_cases h : p.providerTokenAccount = account <;> simp [h]

/-- The total that an account has in the map. -/
def totalOf (aggregated : FiniteMap Pubkey Total) (account : Pubkey) : ℕ :=
  (aggregated[account]?).elim 0 Total.val

/-- The loop adds the settlements of an account to its total, and has totals only for accounts
of settlements. -/
theorem addSettlements_ok (pubkeyToString : Pubkey → String) :
    ∀ (entries : List PreparedSettlement) (aggregated result : FiniteMap Pubkey Total),
      addSettlements pubkeyToString entries aggregated = .ok result →
      ∀ account : Pubkey, totalOf result account = totalOf aggregated account + paidTo account entries ∧
        ((result[account]?).isSome →
          (aggregated[account]?).isSome ∨ ∃ p ∈ entries, p.providerTokenAccount = account)
  | [], aggregated, result, h, account => by
    cases h
    exact ⟨rfl, .inl⟩
  | p :: entries, aggregated, result, h, account => by
    unfold addSettlements at h
    simp only at h
    split at h
    · next hlt =>
      obtain ⟨htotal, hsome⟩ := addSettlements_ok pubkeyToString entries _ result h account
      refine ⟨?_, fun hresult => ?_⟩
      · rw [htotal, paidTo_cons]
        unfold totalOf
        rw [FiniteMap.lookup_insert]
        by_cases haccount : account = p.providerTokenAccount
        · subst haccount
          simp only [if_true, Option.elim_some]
          omega
        · rw [if_neg haccount, if_neg (Ne.symm haccount)]
          omega
      · rcases hsome hresult with hold | ⟨q, hq, hqa⟩
        · rw [FiniteMap.lookup_insert] at hold
          split at hold
          · next haccount => exact .inr ⟨p, List.mem_cons_self, haccount.symm⟩
          · exact .inl hold
        · exact .inr ⟨q, List.mem_cons_of_mem _ hq, hqa⟩
    · cases h

/-- **A transfer pays an account of the chunk what its settlements add up to.** -/
theorem transfer_eq_paidTo {pubkeyToString : Pubkey → String}
    (h : aggregateSettlements pubkeyToString entries = .ok transfers)
    {transfer : BatchSettlementEntry} (hmem : transfer ∈ transfers) :
    transfer.amount = paidTo transfer.providerTokenAccount entries ∧
      ∃ p ∈ entries, p.providerTokenAccount = transfer.providerTokenAccount := by
  obtain ⟨aggregated, hadd, hout⟩ := bind_eq_ok.1 h
  cases hout
  obtain ⟨⟨account, total⟩, he, rfl⟩ := List.mem_map.1 hmem
  have hlookup : aggregated[account]? = some total := FiniteMap.mem_toList_iff.1 he
  obtain ⟨htotal, hsome⟩ := addSettlements_ok pubkeyToString entries ∅ aggregated hadd account
  unfold totalOf at htotal
  rw [hlookup] at htotal hsome
  refine ⟨?_, (hsome rfl).resolve_left (by simp)⟩
  simpa using htotal

section Aggregate

variable (pubkeyToString : Pubkey → String)

theorem totalOf_insert (aggregated : FiniteMap Pubkey Total) (account account' : Pubkey)
    (total : Total) : totalOf (aggregated.insert account total) account'
      = if account' = account then total.val else totalOf aggregated account' := by
  unfold totalOf
  rw [FiniteMap.lookup_insert]
  split <;> rfl

/-- **The additions succeed exactly where every total fits.** -/
theorem addSettlements_isOk_iff (entries : List PreparedSettlement)
    (aggregated : FiniteMap Pubkey Total) :
    (∃ result, addSettlements pubkeyToString entries aggregated = .ok result) ↔
      ∀ account, totalOf aggregated account + paidTo account entries < 2 ^ 64 := by
  constructor
  · rintro ⟨result, hresult⟩ account
    rw [← (addSettlements_ok pubkeyToString entries aggregated result hresult account).1, totalOf]
    cases result[account]? with
    | none => exact Nat.two_pow_pos 64
    | some total => exact total.lt
  · intro hfits
    induction entries generalizing aggregated with
    | nil => exact ⟨aggregated, rfl⟩
    | cons p entries ih =>
      have hp := hfits p.providerTokenAccount
      rw [paidTo_cons, if_pos rfl, totalOf] at hp
      unfold addSettlements
      simp only
      rw [dif_pos (by omega)]
      refine ih _ fun account => ?_
      have haccount := hfits account
      rw [paidTo_cons] at haccount
      rw [totalOf_insert]
      by_cases heq : account = p.providerTokenAccount
      · subst heq
        rw [if_pos rfl] at haccount ⊢
        unfold totalOf at haccount
        simp only
        omega
      · rw [if_neg heq]
        omega

/-- **`aggregate_settlements` fails exactly where an account is paid more than a `u64`.** -/
theorem aggregateSettlements_error_iff (entries : List PreparedSettlement) :
    (∃ error, aggregateSettlements pubkeyToString entries = .error error) ↔
      ∃ account, 2 ^ 64 ≤ paidTo account entries := by
  have hok := addSettlements_isOk_iff pubkeyToString entries ∅
  have hempty : ∀ account, totalOf ∅ account = 0 := fun account => by simp [totalOf]
  unfold aggregateSettlements
  cases hadd : addSettlements pubkeyToString entries ∅ with
  | ok result =>
    have hfits := hok.1 ⟨result, hadd⟩
    refine iff_of_false (fun ⟨error, h⟩ => by cases h) fun ⟨account, hover⟩ => ?_
    have haccount := hfits account
    rw [hempty] at haccount
    omega
  | error error =>
    refine iff_of_true ⟨error, rfl⟩ ?_
    by_contra hnone
    simp only [not_exists, not_le] at hnone
    obtain ⟨result, hresult⟩ := hok.2 fun account => by
      rw [hempty, Nat.zero_add]
      exact hnone account
    rw [hadd] at hresult
    cases hresult

/-- An account that was entered keeps an entry. -/
theorem addSettlements_mem {aggregated result : FiniteMap Pubkey Total}
    (h : addSettlements pubkeyToString entries aggregated = .ok result) {account : Pubkey}
    (hentered : (aggregated[account]?).isSome ∨ ∃ p ∈ entries, p.providerTokenAccount = account) :
    (result[account]?).isSome := by
  induction entries generalizing aggregated with
  | nil =>
    cases h
    rcases hentered with hold | ⟨p, hp, -⟩
    · exact hold
    · cases hp
  | cons p entries ih =>
    unfold addSettlements at h
    simp only at h
    split at h
    · refine ih h ?_
      rw [FiniteMap.lookup_insert]
      rcases hentered with hold | ⟨q, hq, hqa⟩
      · left
        split
        · rfl
        · exact hold
      · rcases List.mem_cons.1 hq with rfl | hq
        · exact .inl (by rw [if_pos hqa.symm]; rfl)
        · exact .inr ⟨q, hq, hqa⟩
    · cases h

/-- What the transfers pay to an account. -/
def received (account : Pubkey) (transfers : List BatchSettlementEntry) : ℕ :=
  ((transfers.filter fun t => t.providerTokenAccount = account).map (·.amount)).sum

/-- The transfers of a list of settlements: accounts in strictly increasing order, each with the
sum of its settlements. -/
structure Transfers (entries : List PreparedSettlement) (transfers : List BatchSettlementEntry) :
    Prop where
  increasing : transfers.Pairwise fun t t' =>
    compare t.providerTokenAccount t'.providerTokenAccount = .lt
  exact : ∀ t ∈ transfers, t.amount = paidTo t.providerTokenAccount entries
  accounts : ∀ account, (∃ t ∈ transfers, t.providerTokenAccount = account) ↔
    ∃ p ∈ entries, p.providerTokenAccount = account

theorem aggregateSettlements_transfers
    (h : aggregateSettlements pubkeyToString entries = .ok transfers) :
    Transfers entries transfers where
  increasing := by
    obtain ⟨aggregated, -, hout⟩ := bind_eq_ok.1 h
    cases hout
    exact List.pairwise_map.2 Std.ExtTreeMap.ordered_keys_toList
  exact t ht := (transfer_eq_paidTo h ht).1
  accounts account := by
    constructor
    · rintro ⟨t, ht, rfl⟩
      exact (transfer_eq_paidTo h ht).2
    · intro hentered
      obtain ⟨aggregated, hadd, hout⟩ := bind_eq_ok.1 h
      cases hout
      obtain ⟨total, htotal⟩ :=
        Option.isSome_iff_exists.1 (addSettlements_mem pubkeyToString hadd (.inr hentered))
      refine ⟨⟨account, total.val, total.lt⟩, ?_, rfl⟩
      exact List.mem_map.2 ⟨(account, total), FiniteMap.mem_toList_iff.2 htotal, rfl⟩

theorem paidTo_eq_zero {account : Pubkey} (h : ¬ ∃ p ∈ entries, p.providerTokenAccount = account) :
    paidTo account entries = 0 := by
  unfold paidTo
  rw [List.filter_eq_nil_iff.2 fun p hp => ?_]
  · rfl
  · simpa using fun heq => h ⟨p, hp, heq⟩

/-- An account is in one transfer at most. -/
theorem received_eq_of_mem
    (hincreasing : transfers.Pairwise fun t t' =>
      compare t.providerTokenAccount t'.providerTokenAccount = .lt)
    {t : BatchSettlementEntry} (ht : t ∈ transfers) :
    received t.providerTokenAccount transfers = t.amount := by
  induction transfers with
  | nil => cases ht
  | cons first transfers ih =>
    obtain ⟨hfirst, hrest⟩ := List.pairwise_cons.1 hincreasing
    unfold received
    rw [List.filter_cons]
    rcases List.mem_cons.1 ht with rfl | ht
    · have hnone : transfers.filter (fun t' => t'.providerTokenAccount = t.providerTokenAccount)
          = [] := by
        refine List.filter_eq_nil_iff.2 fun t' ht' => ?_
        have hlt := hfirst t' ht'
        intro heq
        rw [of_decide_eq_true heq, Std.ReflOrd.compare_self] at hlt
        cases hlt
      simp [hnone]
    · have hne : first.providerTokenAccount ≠ t.providerTokenAccount := by
        intro heq
        have hlt := hfirst t ht
        rw [heq, Std.ReflOrd.compare_self] at hlt
        cases hlt
      rw [if_neg (by simpa using hne)]
      exact ih hrest ht

/-- **Every account gets the sum of its settlements.** -/
theorem Transfers.received (h : Transfers entries transfers) (account : Pubkey) :
    received account transfers = paidTo account entries := by
  by_cases hmem : ∃ t ∈ transfers, t.providerTokenAccount = account
  · obtain ⟨t, ht, rfl⟩ := hmem
    rw [received_eq_of_mem h.increasing ht, h.exact t ht]
  · rw [paidTo_eq_zero (mt (h.accounts account).2 hmem), Batch.received,
      List.filter_eq_nil_iff.2 fun t ht => ?_]
    · rfl
    · simpa using fun heq => hmem ⟨t, ht, heq⟩

theorem paidTo_append (account : Pubkey) (xs ys : List PreparedSettlement) :
    paidTo account (xs ++ ys) = paidTo account xs + paidTo account ys := by
  unfold paidTo
  rw [List.filter_append, List.map_append, List.sum_append]

/-- Over several lists, every account gets the sum of all its settlements. -/
theorem received_flatten {chunks : List BatchChunk} {transfers : List (List BatchSettlementEntry)}
    (h : List.Forall₂ (fun chunk ts => Transfers chunk.entries ts) chunks transfers)
    (account : Pubkey) :
    (transfers.map (received account)).sum = paidTo account (chunks.flatMap (·.entries)) := by
  induction h with
  | nil => rfl
  | cons hchunk _ ih =>
    rw [List.map_cons, List.sum_cons, List.flatMap_cons, paidTo_append, ih, hchunk.received account]

end Aggregate

/-- **Chunking and aggregation preserve payouts**, for every list of prepared settlements. -/
theorem payouts_preserved (pubkeyToString : Pubkey → String) (entries : List PreparedSettlement) :
    (buildBatchChunks entries).flatMap (·.entries) = entries ∧
    (∀ chunk ∈ buildBatchChunks entries, 1 ≤ chunk.entries.length ∧
      chunk.entries.length ≤ maxAtomicSettlementsWithAudit) ∧
    (∀ chunk ∈ buildBatchChunks entries, ∀ chunk' ∈ buildBatchChunks entries,
      chunk.entries.length ≤ chunk'.entries.length + 1) ∧
    (entries.length ≤ 256 → ∀ i chunk, (buildBatchChunks entries)[i]? = some chunk →
      chunk.startIndex = (((buildBatchChunks entries).take i).flatMap (·.entries)).length) ∧
    (∀ chunk ∈ buildBatchChunks entries,
      (∀ transfers, aggregateSettlements pubkeyToString chunk.entries = .ok transfers →
        Transfers chunk.entries transfers) ∧
      ((∃ error, aggregateSettlements pubkeyToString chunk.entries = .error error) ↔
        ∃ account, 2 ^ 64 ≤ paidTo account chunk.entries)) ∧
    (∀ transfers, List.Forall₂
        (fun chunk ts => aggregateSettlements pubkeyToString chunk.entries = .ok ts)
        (buildBatchChunks entries) transfers →
      ∀ account, (transfers.map (received account)).sum = paidTo account entries) := by
  refine ⟨flatMap_buildBatchChunks entries, fun chunk hchunk => ?_,
    fun chunk hchunk chunk' hchunk' => ?_,
    fun hsmall i chunk hchunk => ?_, fun chunk _ => ⟨fun transfers h =>
      aggregateSettlements_transfers pubkeyToString h, ?_⟩, fun transfers h account => ?_⟩
  · obtain ⟨_, -, -, hone, htwo, -⟩ := mem_buildBatchChunks hchunk
    exact ⟨hone, htwo⟩
  · obtain ⟨_, -, -, -, htwo, -⟩ := mem_buildBatchChunks hchunk
    obtain ⟨_, -, -, hone, -, -⟩ := mem_buildBatchChunks hchunk'
    unfold maxAtomicSettlementsWithAudit at htwo
    omega
  · have hlt := length_take_chunks_lt hchunk
    rw [startIndex_buildBatchChunks hchunk]
    exact Nat.mod_eq_of_lt (by omega)
  · exact aggregateSettlements_error_iff pubkeyToString chunk.entries
  · rw [← flatMap_buildBatchChunks entries]
    refine received_flatten (h.imp fun chunk ts hts => ?_) account
    exact aggregateSettlements_transfers pubkeyToString hts

end Batch
end Subly402
