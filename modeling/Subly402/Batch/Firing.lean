/-
# What a decision to fire submits

The loop decides on the cursors: it counts providers, and looks at the age of the oldest
settlement.  What is submitted is decided later, on chunks of two settlements, by the
accounts that a chunk pays.  The two agree on less than the source's comment on
`build_provider_batch_cursors` says.
-/

import Subly402.Batch.Anonymity
import Subly402.Batch.Jitter

namespace Subly402
namespace Batch

open Lib

/-! ### Where the chunks are cut -/

section Chunks

variable {entries : List PreparedSettlement}

/-- The chunk of two settlements from an even number on. -/
def pairChunk (entries : List PreparedSettlement) (k : ℕ) : BatchChunk :=
  { startIndex := 2 * k % 256, entries := (entries.drop (2 * k)).take 2 }

/-- The loop cuts off two settlements at a time, where the sizes are two, or one for the last. -/
theorem cutChunks_eq {base extra : ℕ} : ∀ (left chunkIdx : ℕ),
    (base = 2 ∧ extra = 0 ∨
      base = 1 ∧ extra + 1 = chunkIdx + left ∧ entries.length = 2 * (chunkIdx + left) - 1) →
    cutChunks entries base extra left chunkIdx (2 * chunkIdx)
      = (List.range' chunkIdx left).map (pairChunk entries)
  | 0, _, _ => rfl
  | left + 1, chunkIdx, hsizes => by
    unfold cutChunks
    simp only
    rw [List.range'_succ, List.map_cons]
    rcases hsizes with ⟨rfl, rfl⟩ | ⟨rfl, hextra, hlength⟩
    · rw [if_neg (by omega), ← cutChunks_eq left (chunkIdx + 1) (.inl ⟨rfl, rfl⟩)]
      rfl
    · by_cases hlast : chunkIdx < extra
      · have ih : cutChunks entries 1 extra left (chunkIdx + 1) (2 * (chunkIdx + 1))
            = (List.range' (chunkIdx + 1) left).map (pairChunk entries) :=
          cutChunks_eq left (chunkIdx + 1) (.inr ⟨rfl, by omega, by omega⟩)
        rw [if_pos hlast, ← ih]
        rfl
      · -- the last chunk: one settlement is left
        obtain rfl : left = 0 := by omega
        have hone : (entries.drop (2 * chunkIdx)).length = 1 := by
          rw [List.length_drop]
          omega
        rw [if_neg hlast, pairChunk, List.take_of_length_le (by omega),
          List.take_of_length_le (by omega)]
        rfl

/-- **The settlements with the numbers `2k` and `2k + 1` go together.** -/
theorem buildBatchChunks_eq (entries : List PreparedSettlement) :
    buildBatchChunks entries
      = (List.range' 0 ((entries.length + 1) / 2)).map (pairChunk entries) := by
  unfold buildBatchChunks
  split
  · next hnil => rw [hnil]; rfl
  next hne =>
  have hpos := List.length_pos_of_ne_nil hne
  simp only [maxAtomicSettlementsWithAudit]
  have hcount : (entries.length + 2 - 1) / 2 = (entries.length + 1) / 2 := rfl
  rw [hcount]
  refine cutChunks_eq ((entries.length + 1) / 2) 0 ?_
  rcases Nat.even_or_odd' entries.length with ⟨m, hm | hm⟩
  · have hm' : (entries.length + 1) / 2 = m := by omega
    rw [hm', hm]
    exact .inl ⟨Nat.mul_div_cancel _ (by omega), Nat.mul_mod_left _ _⟩
  · have hm' : (entries.length + 1) / 2 = m + 1 := by omega
    have hdiv : entries.length / (m + 1) = 1 := by
      rw [Nat.div_eq_iff (by omega)]
      omega
    have hmod := Nat.div_add_mod entries.length (m + 1)
    rw [hdiv] at hmod
    rw [hm', hdiv]
    exact .inr ⟨rfl, by omega, by omega⟩

/-- A chunk pays two accounts where its two settlements go to different ones. -/
theorem two_le_providerCount_pairChunk (k : ℕ) :
    2 ≤ (pairChunk entries k).providerCount ↔
      ∃ p q, entries[2 * k]? = some p ∧ entries[2 * k + 1]? = some q ∧
        p.providerTokenAccount ≠ q.providerTokenAccount := by
  have hfirst : (entries.drop (2 * k))[0]? = entries[2 * k]? := by rw [List.getElem?_drop]; rfl
  have hsecond : (entries.drop (2 * k))[1]? = entries[2 * k + 1]? := List.getElem?_drop
  unfold pairChunk BatchChunk.providerCount
  rw [← hfirst, ← hsecond]
  match entries.drop (2 * k) with
  | [] => simp
  | [p] => simp
  | p :: q :: rest =>
    simp only [List.take_succ_cons, List.take_zero, List.map_cons, List.map_nil,
      List.toFinset_cons, List.toFinset_nil, List.getElem?_cons_zero, List.getElem?_cons_succ,
      Option.some.injEq, exists_and_left, exists_eq_left']
    by_cases hsame : p.providerTokenAccount = q.providerTokenAccount
    · simp [hsame]
    · simp [hsame]

end Chunks

/-! ### What is submitted -/

/-- The settlements that the turns select, with their providers. -/
def selection (s : VaultState) (t : ℤ) (config : BatchPrivacyConfig) : List (String × String) :=
  selectBatchSettlementIds (buildProviderBatchCursors s t .auto config).1 maxSettlementsPerTx

/-- The account that a provider has registered. -/
def accountOf (s : VaultState) (providerId : String) : Option Pubkey :=
  (s.providers[providerId]?).map (·.settlementTokenAccount)

/-- Two settlements that go into one chunk go to different accounts. -/
def Mixed (s : VaultState) (t : ℤ) (config : BatchPrivacyConfig) : Prop :=
  ∃ k p q, (selection s t config)[2 * k]? = some p ∧ (selection s t config)[2 * k + 1]? = some q ∧
    accountOf s p.1 ≠ accountOf s q.1

section Submitted

variable {auditor : Auditor} {s : VaultState} {t : Timestamp} {config : BatchPrivacyConfig}

/-- A settlement of the batch goes to the account that its provider has registered. -/
theorem account_of_prepared (hs : CreditsSound s.ledger) {p : PreparedSettlement}
    (hp : p ∈ (prepareBatch auditor s t .auto config).1) :
    accountOf s p.providerId = some p.providerTokenAccount := by
  obtain ⟨record, hentered⟩ := mem_prepared hs hp
  have hpays : s.ledger.PaysTo p.providerId record := by
    have hrecord := hentered.record_eq
    unfold settlementRecord at hrecord
    cases hold : s.settlementHistory[p.settlementId]? with
    | some record' =>
      rw [hold] at hrecord
      obtain rfl := Option.some.inj hrecord
      obtain ⟨key, c, hc, hprovider, hid⟩ := hentered.named
      obtain ⟨hlookup, hkey, -⟩ := creditsSound_lookup hs hc
      rw [← hprovider, hkey]
      exact hs.names.account key c.untimed p.settlementId record' hlookup hid hold
    | none =>
      rw [hold] at hrecord
      exact reconstruct_paysTo hrecord
  obtain ⟨provider, hprovider, haccount⟩ := hpays
  have hlookup : s.providers[p.providerId]? = some provider := hprovider
  unfold accountOf
  rw [hlookup, Option.map_some, hentered.account, haccount]

/-- The settlement with a number in the selection is the one with the number in the batch. -/
theorem selection_lookup (auditor : Auditor) (s : VaultState) (t : Timestamp)
    (config : BatchPrivacyConfig) (n : ℕ) :
    (selection s t.val config)[n]? =
      ((prepareBatch auditor s t .auto config).1[n]?).map fun p => (p.providerId, p.settlementId) := by
  unfold selection
  rw [← map_prepareBatch auditor s t .auto config, List.getElem?_map]

/-- Some chunk pays two accounts where two settlements of one chunk go to different ones. -/
theorem exists_two_le_providerCount (auditor : Auditor) (hs : CreditsSound s.ledger) :
    (∃ chunk ∈ buildBatchChunks (prepareBatch auditor s t .auto config).1, 2 ≤ chunk.providerCount) ↔
      Mixed s t.val config := by
  rw [buildBatchChunks_eq]
  constructor
  · rintro ⟨chunk, hchunk, htwo⟩
    obtain ⟨k, -, rfl⟩ := List.mem_map.1 hchunk
    obtain ⟨p, q, hp, hq, hne⟩ := (two_le_providerCount_pairChunk k).1 htwo
    refine ⟨k, (p.providerId, p.settlementId), (q.providerId, q.settlementId), ?_, ?_, ?_⟩
    · rw [selection_lookup auditor, hp, Option.map_some]
    · rw [selection_lookup auditor, hq, Option.map_some]
    · rw [account_of_prepared hs (List.mem_of_getElem? hp),
        account_of_prepared hs (List.mem_of_getElem? hq)]
      exact fun heq => hne (Option.some.inj heq)
  · rintro ⟨k, p, q, hp, hq, hne⟩
    rw [selection_lookup auditor] at hp hq
    obtain ⟨p', hp', rfl⟩ := Option.map_eq_some_iff.1 hp
    obtain ⟨q', hq', rfl⟩ := Option.map_eq_some_iff.1 hq
    have hlt := (List.getElem?_eq_some_iff.1 hq').1
    refine ⟨_, List.mem_map_of_mem (List.mem_range'_1.2 ⟨Nat.zero_le k, by omega⟩),
      (two_le_providerCount_pairChunk k).2 ⟨p', q', hp', hq', fun heq => hne ?_⟩⟩
    rw [account_of_prepared hs (List.mem_of_getElem? hp'),
      account_of_prepared hs (List.mem_of_getElem? hq'), heq]

/-- A vault with a cursor has something to cut. -/
theorem buildBatchChunks_ne_nil (auditor : Auditor)
    (hcursors : (buildProviderBatchCursors s t.val .auto config).1 ≠ []) :
    buildBatchChunks (prepareBatch auditor s t .auto config).1 ≠ [] := by
  have hselected : selectBatchSettlementIds (buildProviderBatchCursors s t.val .auto config).1
      maxSettlementsPerTx ≠ [] :=
    selectBatchSettlementIds_ne_nil (built t.val .auto config s).good hcursors 19
  rw [← map_prepareBatch auditor s t .auto config] at hselected
  intro hnil
  have hentries := flatMap_buildBatchChunks (prepareBatch auditor s t .auto config).1
  rw [hnil, List.flatMap_nil] at hentries
  exact hselected (by rw [← hentries]; rfl)

/-- **What is submitted from a vault with a cursor.** -/
theorem submitted_ne_nil_iff (hs : CreditsSound s.ledger)
    (hcursors : (buildProviderBatchCursors s t.val .auto config).1 ≠ []) :
    submitted auditor s t config ≠ [] ↔
      config.minBatchProviders ≤ 1 ∨ config.minBatchProviders = 2 ∧ Mixed s t.val config := by
  constructor
  · intro hne
    obtain ⟨chunk, hchunk⟩ := List.exists_mem_of_ne_nil _ hne
    obtain ⟨hbuilt, hcount⟩ := privacyFilter_prepareBatch.1 hchunk
    rcases hcount with hone | hcount
    · exact .inl hone
    · by_cases hthree : 3 ≤ config.minBatchProviders
      · exact absurd (privacyFilter_eq_nil auditor s t hthree) hne
      · by_cases hone : config.minBatchProviders ≤ 1
        · exact .inl hone
        · exact .inr ⟨by omega, (exists_two_le_providerCount auditor hs).1 ⟨chunk, hbuilt, by omega⟩⟩
  · rintro (hone | ⟨htwo, hmixed⟩)
    · obtain ⟨chunk, hchunk⟩ := List.exists_mem_of_ne_nil _
        (buildBatchChunks_ne_nil auditor hcursors)
      exact List.ne_nil_of_mem (privacyFilter_prepareBatch.2 ⟨hchunk, .inl hone⟩)
    · obtain ⟨chunk, hchunk, hcount⟩ := (exists_two_le_providerCount auditor hs).2 hmixed
      exact List.ne_nil_of_mem (privacyFilter_prepareBatch.2 ⟨hchunk, .inr (htwo ▸ hcount)⟩)

end Submitted

/-- The loop looks at a vault. -/
def lookAt (s : VaultState) (t : Timestamp) (config : BatchPrivacyConfig) (lastBatchAt : ℤ)
    (jitter : { j : ℤ // 0 ≤ j ∧ j ≤ maxBatchJitterSec }) : Tick :=
  { now := t.val, lastBatchAt, cursors := (buildProviderBatchCursors s t.val .auto config).1
    sampledJitterSec := jitter.1, jitter_range := jitter.2 }

/-- The loop decides to fire on what it sees. -/
def Fires (s : VaultState) (t : Timestamp) (config : BatchPrivacyConfig) (batchWindowSec : ℤ)
    (lastBatchAt : ℤ) (jitter : { j : ℤ // 0 ≤ j ∧ j ≤ maxBatchJitterSec })
    (deadline : Option ℤ) : Prop :=
  (Cadence.decide ⟨batchWindowSec, config.minBatchProviders⟩ deadline
    (lookAt s t config lastBatchAt jitter)).1 = .fire

instance (s : VaultState) (t : Timestamp) (config : BatchPrivacyConfig) (batchWindowSec : ℤ)
    (lastBatchAt : ℤ) (jitter : { j : ℤ // 0 ≤ j ∧ j ≤ maxBatchJitterSec })
    (deadline : Option ℤ) : Decidable (Fires s t config batchWindowSec lastBatchAt jitter deadline) :=
  inferInstanceAs (Decidable (_ = _))

/-- The loop does not fire without a cursor. -/
theorem cursors_ne_nil_of_fires {s : VaultState} {t : Timestamp} {config : BatchPrivacyConfig}
    {batchWindowSec lastBatchAt : ℤ} {jitter : { j : ℤ // 0 ≤ j ∧ j ≤ maxBatchJitterSec }}
    {deadline : Option ℤ} (h : Fires s t config batchWindowSec lastBatchAt jitter deadline) :
    (buildProviderBatchCursors s t.val .auto config).1 ≠ [] := by
  intro hnil
  unfold Fires Cadence.decide decideBatchAction lookAt at h
  simp only at h
  rw [if_pos (List.length_eq_zero_iff.2 hnil)] at h
  cases h

/-- **When a decision to fire submits something**, in every state that a run reaches. -/
theorem fire_submits_iff (env : Env) (turns : List (Turn env)) (auditor : Auditor) (t : Timestamp)
    (config : BatchPrivacyConfig) (batchWindowSec lastBatchAt : ℤ)
    (jitter : { j : ℤ // 0 ≤ j ∧ j ≤ maxBatchJitterSec }) (deadline : Option ℤ) :
    (Fires (runTurns env turns).vault t config batchWindowSec lastBatchAt jitter deadline →
        submitted auditor (runTurns env turns).vault t config ≠ []) ↔
      (Fires (runTurns env turns).vault t config batchWindowSec lastBatchAt jitter deadline →
        config.minBatchProviders ≤ 1 ∨
          config.minBatchProviders = 2 ∧ Mixed (runTurns env turns).vault t.val config) := by
  have hs := (runTurns_sound env turns).credits
  refine forall_congr' fun hfires => ?_
  exact submitted_ne_nil_iff hs (cursors_ne_nil_of_fires hfires)

end Batch

/-- **A decision to fire that submits nothing**: the settlement of the only provider is overdue,
so that the loop fires at every tick, and its chunk pays one account where two are asked for. -/
theorem Shop.fires_for_nothing :
    Batch.Fires (Batch.runTurns world ((ops.take 4).map .op)).vault overdueTime .default 120 0
        ⟨0, by decide⟩ none ∧
      Batch.submitted auditor (Batch.runTurns world ((ops.take 4).map .op)).vault overdueTime
        .default = [] := by
  decide +kernel

end Subly402
