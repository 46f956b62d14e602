/-
# The store as a map

What the files of `Subly402.Parent.BlobStore` stand for.  An object is put in four steps
that count: the blob is written under a temporary name and renamed, and so is its key.  In
`Holds` the blob decides whether a key is there, the file with the key says its name, and
without that file the name of the blob does.  Temporary files and keys without a blob are
not seen.
-/

import Subly402.Lib.Json
import Subly402.Lib.Runs
import Subly402.Parent.BlobStore

namespace Subly402
namespace Blobs

open Lib

section Map

variable (lib : Libraries)

/-! ### The map -/

/-- Blobs by key. -/
abbrev BlobMap := FiniteMap String (List UInt8)

/-- What a call does to the map. -/
def effect : Call → BlobMap → BlobMap
  | .put key blob, map => map.insert key.text blob.bytes
  | .delete key, map => map.erase key.text
  | .get _, map | .list _, map => map

/-- What a call returns of the map. -/
def Returns (map : BlobMap) : Call → Answer → Prop
  | .put .., answer | .delete _, answer => answer = .done
  | .get key, answer => answer = .blob map[key.text]?
  | .list keyPrefix, answer => ∃ keys, answer = .keys keys ∧ keys.Nodup ∧
      ∀ key, key ∈ keys ↔ key ∈ map ∧ keyPrefix.text.toList <+: key.toList

/-- A call with an answer happened; one without happened or not, and the parent stopped in it. -/
inductive Explains (map : BlobMap) (event : Event) :
    Except ClientError Answer → BlobMap → Prop
  | answered {answer : Answer} (hstop : event.stop = none) (h : Returns map event.call answer) :
      Explains map event (.ok answer) (effect event.call map)
  | dropped (e : ClientError) (hstop : event.stop.isSome) : Explains map event (.error e) map
  | lost (e : ClientError) (hstop : event.stop.isSome) :
      Explains map event (.error e) (effect event.call map)

/-- A run that the map explains. -/
inductive Explained : BlobMap → List (Event × Except ClientError Answer) → Prop
  | nil (map : BlobMap) : Explained map []
  | cons {map map' : BlobMap} {event : Event}
      {answer : Except ClientError Answer} {rest : List (Event × Except ClientError Answer)}
      (h : Explains map event answer map') (hrest : Explained map' rest) :
      Explained map ((event, answer) :: rest)

/-- The length of a listing fits its four bytes. -/
def Fits (disk : Disk Path) (event : Event) : Prop :=
  ∀ keyPrefix, event.call = .list keyPrefix → event.stop = none →
    ∀ entries ∈ listing event.visit disk keyPrefix.text, (lib.json.toVec entries).length < 2 ^ 32

end Map

variable {lib : Libraries} {disk disk' : Disk Path} {map : BlobMap}
  {key : Key}

/-! ### What the files stand for -/

/-- The map from keys to blobs that the files stand for. -/
structure Holds (lib : Libraries) (disk : Disk Path) (map : BlobMap) : Prop where
  blobs : ∀ key : Key, disk[lib.path key]? = map[key.text]?
  sidecars : ∀ (key : Key) (content : List UInt8),
    disk[keySidecarPath (lib.path key)]? = some content → content = utf8 key.text
  only : ∀ path ∈ disk, isBlobPath path → ∃ key : Key, path = lib.path key
  named : ∀ text ∈ map, ∃ key : Key, text = key.text
  sizes : ∀ (text : String) (data : List UInt8), map[text]? = some data →
    data.length ≤ maxBlobSize

namespace Holds

/-- No files, no keys. -/
theorem empty (lib : Libraries) : Holds lib ∅ ∅ := ⟨by simp, by simp, by simp, by simp, by simp⟩

section Writes

variable (h : Holds lib disk map)
include h

/-- Temporary files do not count. -/
theorem agree (hagree : Disk.Agree (isTemporary ·) disk' disk) :
    Holds lib disk' map where
  blobs key := by
    rw [hagree _ (not_isTemporary_of_isBlobPath (isBlobPath_path lib key))]
    exact h.blobs key
  sidecars key content hcontent := by
    rw [hagree _ (not_isTemporary_sidecar _)] at hcontent
    exact h.sidecars key content hcontent
  only path hpath hblob := by
    refine h.only path ?_ hblob
    rw [Std.ExtTreeMap.mem_iff_isSome_getElem?] at hpath ⊢
    rwa [← hagree _ (not_isTemporary_of_isBlobPath hblob)]
  named := h.named
  sizes := h.sizes

/-- A blob is written. -/
theorem insertBlob (key : Key) (blob : Blob) :
    Holds lib (disk.insert (lib.path key) blob.bytes) (map.insert key.text blob.bytes) where
  blobs key' := by simp only [FiniteMap.lookup_insert, path_inj, h.blobs key']
  sidecars key' content hcontent := by
    rw [FiniteMap.lookup_insert_of_ne _ _ (path_ne_sidecar key _).symm] at hcontent
    exact h.sidecars key' content hcontent
  only path hpath hblob := by
    rcases Std.ExtTreeMap.mem_insert.1 hpath with heq | hpath
    · exact ⟨key, (Std.LawfulEqCmp.eq_of_compare heq).symm⟩
    · exact h.only path hpath hblob
  named text htext := by
    rcases Std.ExtTreeMap.mem_insert.1 htext with heq | htext
    · exact ⟨key, (Std.LawfulEqCmp.eq_of_compare heq).symm⟩
    · exact h.named text htext
  sizes := FiniteMap.forall_insert h.sizes blob.length_le

/-- A sidecar is written. -/
theorem insertSidecar (key : Key) :
    Holds lib (disk.insert (keySidecarPath (lib.path key)) (utf8 key.text)) map where
  blobs key' := by
    rw [FiniteMap.lookup_insert_of_ne _ _ (path_ne_sidecar key' _), h.blobs]
  sidecars key' content hcontent := by
    obtain ⟨heq, rfl⟩ | hcontent := FiniteMap.lookup_insert_cases hcontent
    · rw [sidecar_inj.1 heq]
    · exact h.sidecars key' content hcontent
  only path hpath hblob := by
    rcases Std.ExtTreeMap.mem_insert.1 hpath with heq | hpath
    · rw [← Std.LawfulEqCmp.eq_of_compare heq] at hblob
      exact (not_isBlobPath_sidecar _ hblob).elim
    · exact h.only path hpath hblob
  named := h.named
  sizes := h.sizes

/-- A blob is removed. -/
theorem eraseBlob (key : Key) :
    Holds lib (disk.erase (lib.path key)) (map.erase key.text) where
  blobs key' := by simp only [FiniteMap.lookup_erase, path_inj, h.blobs key']
  sidecars key' content hcontent := by
    rw [FiniteMap.lookup_erase_of_ne _ (path_ne_sidecar key _).symm] at hcontent
    exact h.sidecars key' content hcontent
  only path hpath := h.only path (Std.ExtTreeMap.mem_of_mem_erase hpath)
  named text htext := h.named text (Std.ExtTreeMap.mem_of_mem_erase htext)
  sizes := FiniteMap.forall_erase h.sizes

/-- A sidecar is removed. -/
theorem eraseSidecar (key : Key) :
    Holds lib (disk.erase (keySidecarPath (lib.path key))) map where
  blobs key' := by rw [FiniteMap.lookup_erase_of_ne _ (path_ne_sidecar key' _), h.blobs]
  sidecars key' content hcontent := h.sidecars key' content (FiniteMap.lookup_of_erase hcontent)
  only path hpath := h.only path (Std.ExtTreeMap.mem_of_mem_erase hpath)
  named := h.named
  sizes := h.sizes

/-- A key's file is there when the key is. -/
theorem path_mem_iff : lib.path key ∈ disk ↔ key.text ∈ map := by
  rw [Std.ExtTreeMap.mem_iff_isSome_getElem?, Std.ExtTreeMap.mem_iff_isSome_getElem?, h.blobs]

/-! ### Listing -/

/-- A blob's file tells its key. -/
theorem logicalKey (key : Key) :
    logicalKey disk (lib.path key) = some (some key.text) := by
  unfold Blobs.logicalKey
  split
  · next content hcontent => rw [h.sidecars key content hcontent, decodeUtf8_utf8, Option.map_some]
  · rw [Libraries.path, fileName_keyToPath, parseLegacyKey_flatName]

/-- The keys of the blobs among some files, each once. -/
theorem collectEntries (keyPrefix : String) {paths : List Path}
    (hpaths : ∀ path ∈ paths, path ∈ disk) (hnodup : paths.Nodup) :
    ∃ entries, collectEntries disk keyPrefix paths = some entries ∧ entries.Nodup ∧
      ∀ text, text ∈ entries ↔
        (∃ key : Key, text = key.text ∧ lib.path key ∈ paths) ∧ keyPrefix.toList <+: text.toList := by
  induction paths with
  | nil => exact ⟨[], rfl, List.nodup_nil, by simp⟩
  | cons path paths ih =>
    obtain ⟨hpath, hnodup⟩ := List.nodup_cons.1 hnodup
    obtain ⟨entries, hentries, hentriesNodup, hmem⟩ := ih (fun p hp => hpaths p (.tail _ hp)) hnodup
    by_cases hblob : isBlobPath path
    · obtain ⟨key, rfl⟩ := h.only path (hpaths path (.head _)) hblob
      -- another file with this key would be this file
      have hnew : key.text ∉ entries := fun hold => by
        obtain ⟨⟨key', htext, hpath'⟩, -⟩ := (hmem _).1 hold
        rw [← path_inj.2 htext] at hpath'
        exact hpath hpath'
      have hpresent (text : String) :
          (∃ key' : Key, text = key'.text ∧ lib.path key' ∈ lib.path key :: paths) ↔
          text = key.text ∨ ∃ key' : Key, text = key'.text ∧ lib.path key' ∈ paths := by
        simp only [List.mem_cons, path_inj]
        constructor
        · rintro ⟨key', rfl, heq | hmem⟩
          · exact .inl heq
          · exact .inr ⟨key', rfl, hmem⟩
        · rintro (rfl | ⟨key', rfl, hmem⟩)
          · exact ⟨key, rfl, .inl rfl⟩
          · exact ⟨key', rfl, .inr hmem⟩
      have hrun : Blobs.collectEntries disk keyPrefix (lib.path key :: paths)
          = some (if keyPrefix.toList <+: key.text.toList then key.text :: entries else entries) := by
        rw [Blobs.collectEntries, if_pos hblob, h.logicalKey, hentries]
        by_cases hstarts : keyPrefix.toList <+: key.text.toList <;> simp [hstarts, Option.filter]
      refine ⟨_, hrun, ?_⟩
      split
      · next hstarts =>
        refine ⟨List.nodup_cons.2 ⟨hnew, hentriesNodup⟩, fun text => ?_⟩
        rw [List.mem_cons, hmem, hpresent, or_and_right]
        refine or_congr_left ⟨?_, And.left⟩
        rintro rfl
        exact ⟨rfl, hstarts⟩
      · next hstarts =>
        refine ⟨hentriesNodup, fun text => ?_⟩
        rw [hmem, hpresent, or_and_right, or_iff_right]
        rintro ⟨rfl, hyes⟩
        exact hstarts hyes
    · refine ⟨entries, by rw [Blobs.collectEntries, if_neg hblob, hentries], hentriesNodup,
      fun text => ?_⟩
      rw [hmem]
      have hne (key : Key) : lib.path key ≠ path := fun heq => hblob (heq ▸ isBlobPath_path lib key)
      simp only [List.mem_cons, hne, false_or]

/-- A listing has the keys it asks for, once. -/
theorem listing {visit : List Path → List Path}
    (hvisit : ∀ paths, (visit paths).Perm paths) (keyPrefix : String) :
    ∃ keys, listing visit disk keyPrefix = some keys ∧ keys.Nodup ∧
      ∀ text, text ∈ keys ↔ text ∈ map ∧ keyPrefix.toList <+: text.toList := by
  have hperm := hvisit disk.keys
  obtain ⟨entries, hentries, hnodup, hmem⟩ := h.collectEntries keyPrefix
    (fun path hpath => Std.ExtTreeMap.mem_keys.1 (hperm.mem_iff.1 hpath))
    (hperm.nodup_iff.2 Std.ExtTreeMap.nodup_keys)
  have hsorted : (entries.mergeSort (· ≤ ·)).Nodup := (entries.mergeSort_perm _).nodup_iff.2 hnodup
  refine ⟨entries.mergeSort (· ≤ ·), ?_, hsorted, fun text => ?_⟩
  · rw [Blobs.listing, hentries, Option.map_some,
      (List.destutter_eq_self_iff (· ≠ ·) _).2 hsorted.isChain]
  · rw [(entries.mergeSort_perm _).mem_iff, hmem]
    refine and_congr_left fun _ => ⟨?_, fun htext => ?_⟩
    · rintro ⟨key, rfl, hpath⟩
      exact h.path_mem_iff.1 (Std.ExtTreeMap.mem_keys.1 (hperm.mem_iff.1 hpath))
    · obtain ⟨key, rfl⟩ := h.named text htext
      exact ⟨key, rfl, hperm.mem_iff.2 (Std.ExtTreeMap.mem_keys.2 (h.path_mem_iff.2 htext))⟩

/-! ### Steps that stop -/

/-- A put that stops in the blob. -/
theorem putBlob (key : Key) (blob : Blob) (n : ℕ) :
    Holds lib (disk.run ((Disk.replaceFile (withExtension (lib.path key) ['t', 'm', 'p'])
      (lib.path key) blob.bytes).take n)) map ∨
    Holds lib (disk.run ((Disk.replaceFile (withExtension (lib.path key) ['t', 'm', 'p'])
      (lib.path key) blob.bytes).take n)) (map.insert key.text blob.bytes) :=
  (Disk.agree_replaceFile_take (isTemporary ·) (isTemporary_withExtension _)
    (not_isTemporary_of_isBlobPath (isBlobPath_path lib key)) n).imp h.agree
    (h.insertBlob key blob).agree

/-- A put that stops in the key: the map has changed before. -/
theorem putSidecar (key : Key) (n : ℕ) :
    Holds lib (disk.run ((Disk.replaceFile (withExtension (keySidecarPath (lib.path key)) ['t', 'm', 'p'])
      (keySidecarPath (lib.path key)) (utf8 key.text)).take n)) map :=
  (Disk.agree_replaceFile_take (isTemporary ·) (isTemporary_withExtension _) (not_isTemporary_sidecar _)
    n).elim
    h.agree (h.insertSidecar key).agree

/-- A put that stops did nothing or all. -/
theorem put_take (key : Key) (blob : Blob) (n : ℕ) :
    Holds lib (disk.run ((putSteps lib key.text blob.bytes).take n)) map ∨
      Holds lib (disk.run ((putSteps lib key.text blob.bytes).take n))
        (map.insert key.text blob.bytes) := by
  rw [putSteps, List.take_append, Disk.run_append]
  exact (h.putBlob key blob n).imp (·.putSidecar key _) (·.putSidecar key _)

/-- A put writes the blob. -/
theorem put (key : Key) (blob : Blob) :
    Holds lib (disk.run (putSteps lib key.text blob.bytes)) (map.insert key.text blob.bytes) := by
  have hblob := (h.insertBlob key blob).agree (Disk.agree_replaceFile (isTemporary ·)
    (isTemporary_withExtension (lib.path key))
    (not_isTemporary_of_isBlobPath (isBlobPath_path lib key)))
  rw [putSteps, Disk.run_append, ← List.take_length (l := Disk.replaceFile _ (keySidecarPath _) _)]
  exact hblob.putSidecar key _

end Writes

end Holds

/-! ### Every call is explained -/

/-- A call in which the parent stops. -/
theorem Holds.stopped (h : Holds lib disk map) (call : Call) (visit : List Path → List Path) (n : ℕ) :
    Holds lib (disk.run ((handle lib visit disk call.request).1.take n)) map ∨
      Holds lib (disk.run ((handle lib visit disk call.request).1.take n)) (effect call map) := by
  cases call with
  | put key blob => exact h.put_take key blob n
  | get | list => exact .inl (by simpa [Call.request, handle, Disk.run] using h)
  | delete key =>
    simp only [Call.request, handle, effect]
    split
    · rcases n with _ | _ | n
      · exact .inl h
      · exact .inr (h.eraseBlob key)
      · refine .inr ?_
        rw [List.take_of_length_le (by simp)]
        exact (h.eraseBlob key).eraseSidecar key
    · exact .inl (by simpa [Disk.run] using h)

/-- A call that is answered. -/
theorem Holds.answered (h : Holds lib disk map) (event : Event) (hfits : Fits lib disk event)
    (hstop : event.stop = none) : ∃ answer, (exec lib disk event).1 = .ok answer ∧
      Returns map event.call answer ∧ Holds lib (next lib disk event) (effect event.call map) := by
  rw [next, exec_eq]
  obtain ⟨call, requestSizes, responseSizes, visit, hvisit, stop⟩ := event
  obtain rfl : stop = none := hstop
  cases call with
  | put key blob => exact ⟨.done, rfl, rfl, h.put key blob⟩
  | get key =>
    refine ⟨.blob map[key.text]?, ?_, rfl, h⟩
    have hblob : disk[keyToPath lib.sha256 key.text]? = map[key.text]? := h.blobs key
    simp only [Call.request, handle, hblob]
    cases hdata : map[key.text]? with
    | none => rfl
    | some data =>
      have hsize : maxBlobSize < 2 ^ 32 := by decide
      have hle := h.sizes _ data hdata
      simp only [finish, Nat.mod_eq_of_lt (show data.length < 2 ^ 32 by omega), List.take_length]
  | list keyPrefix =>
    obtain ⟨keys, hkeys, hnodup, hmem⟩ := h.listing hvisit keyPrefix.text
    have hlt := hfits keyPrefix rfl rfl keys hkeys
    simp only [Call.request, handle, hkeys, Option.map_some, finish, Nat.mod_eq_of_lt hlt,
      List.take_length, lib.json.fromSlice_toVec]
    exact ⟨.keys keys, rfl, ⟨keys, rfl, hnodup, hmem⟩, h⟩
  | delete key =>
    have hblob : disk[keyToPath lib.sha256 key.text]? = map[key.text]? := h.blobs key
    simp only [Call.request, handle, hblob, effect]
    cases hdata : map[key.text]? with
    | none =>
      rw [FiniteMap.erase_absent hdata]
      exact ⟨.done, rfl, rfl, h⟩
    | some data => exact ⟨.done, rfl, rfl, (h.eraseBlob key).eraseSidecar key⟩

/-- **Every call is explained.** -/
theorem Holds.step (h : Holds lib disk map) {event : Event} (hfits : Fits lib disk event) :
    ∃ map', Explains map event (exec lib disk event).1 map' ∧
      Holds lib (next lib disk event) map' := by
  cases hstop : event.stop with
  | none =>
    obtain ⟨answer, hanswer, hreturns, hnext⟩ := h.answered event hfits hstop
    exact ⟨_, hanswer ▸ .answered hstop hreturns, hnext⟩
  | some n =>
    have hsome : event.stop.isSome := by rw [hstop]; rfl
    have hexec : exec lib disk event = (.error .closed,
        disk.run ((handle lib event.visit disk event.call.request).1.take n)) := by
      rw [exec_eq, hstop]
    rw [next, hexec]
    rcases h.stopped event.call event.visit n with hnext | hnext
    · exact ⟨map, .dropped _ hsome, hnext⟩
    · exact ⟨_, .lost _ hsome, hnext⟩

/-- What is explained fits a frame. -/
theorem Explains.fits {map' : BlobMap} {event : Event}
    (h : Explains map event (exec lib disk event).1 map') : Fits lib disk event := by
  intro keyPrefix hcall hstop entries hentries
  by_contra hlong
  have hlisting : listing event.visit disk keyPrefix.text = some entries := hentries
  have hanswer : (exec lib disk event).1 = .error .invalidData := by
    have hcut := lib.json.fromSlice_take entries ((lib.json.toVec entries).length % 2 ^ 32)
      ((Nat.mod_lt _ (by omega)).trans_le (not_lt.1 hlong))
    simp only [exec_eq, hstop, hcall, Call.request, handle, hlisting, Option.map_some, finish, hcut]
  rw [hanswer] at h
  cases h with
  | dropped _ hsome | lost _ hsome => simp [hstop] at hsome

/-- The same of a run. -/
theorem Explained.fits {events : List Event} (h : Explained map (transcript lib disk events)) :
    AllSteps (next lib) (Fits lib) disk events := by
  induction events generalizing disk map with
  | nil => trivial
  | cons event events ih =>
    cases h with
    | cons hexplains hrest => exact ⟨hexplains.fits, ih hrest⟩

/-- What fits is explained. -/
theorem Holds.explained {events : List Event} (h : Holds lib disk map)
    (hfits : AllSteps (next lib) (Fits lib) disk events) :
    Explained map (transcript lib disk events) := by
  induction events generalizing disk map with
  | nil => exact .nil map
  | cons event events ih =>
    obtain ⟨map', hexplains, hnext⟩ := h.step hfits.1
    exact .cons hexplains (ih hnext hfits.2)

/-- **Every run is explained by a map exactly where every listing fits the four bytes of its
length**; and the parent reads the requests that were sent, however they are cut. -/
theorem store_refines_map_iff (lib : Libraries) (events : List Event) :
    (∀ (call : Call) (pieces : List (List UInt8)), pieces.flatten = call.bytes →
      (readRequest.run pieces).map Prod.fst = some call.request) ∧
    (Explained ∅ (transcript lib ∅ events) ↔ AllSteps (next lib) (Fits lib) ∅ events) :=
  ⟨fun call _ h => (takes_readRequest call).run_eq [] (by rw [h, List.append_nil]),
    Explained.fits, (Holds.empty lib).explained⟩

/-! ### A listing that is too long -/

namespace Sample

/-- The text that `serde_json` writes for some strings. -/
def toVec (items : List String) : List UInt8 :=
  utf8 (String.ofList (Json.array (items.map .string)).render)

theorem toVec_eq_append {items items' : List String} {rest : List UInt8}
    (h : toVec items = toVec items' ++ rest) : items = items' ∧ rest = [] := by
  obtain ⟨t, ht⟩ := Json.isPrefix_of_utf8 h
  obtain rfl := Json.nil_of_render_array ht.symm
  rw [List.append_nil] at ht
  have hitems : (Json.array (items.map .string)) = .array (items'.map .string) :=
    Json.canonical_injective (congrArg String.ofList ht.symm)
  obtain rfl : items = items' :=
    List.map_injective_iff.2 (fun _ _ h => Json.string.inj h) (Json.array.inj hitems)
  exact ⟨rfl, List.append_right_eq_self.1 h.symm⟩

/-- A text is no longer than it is written. -/
theorem length_le_quote (s : String) : s.toList.length ≤ (quote s).length := by
  have hall (l : List Char) : l.length ≤ (escapeAll l).length := by
    induction l with
    | nil => exact Nat.zero_le _
    | cons c l ih =>
      have hne : escape c ≠ [] := fun h => by
        have hread := unescape_escape c []
        rw [h] at hread
        cases hread
      have hpos := List.length_pos_of_ne_nil hne
      unfold escapeAll at ih ⊢
      rw [List.flatMap_cons, List.length_append, List.length_cons]
      omega
  have := hall s.toList
  rw [quote, List.length_cons, List.length_append]
  omega

/-- A list is no shorter than its texts are together. -/
theorem sum_length_le_toVec (items : List String) :
    (items.map (·.toList.length)).sum ≤ (toVec items).length := by
  have hitems (items : List String) :
      (items.map (·.toList.length)).sum ≤ (Json.renderItems (items.map .string)).length := by
    induction items with
    | nil => exact Nat.zero_le _
    | cons item items ih =>
      have := length_le_quote item
      simp only [Json.renderItems, Json.render, List.map_cons, List.sum_cons, List.length_cons,
        List.length_append]
      omega
  refine le_trans ?_ (length_le_length_utf8 _)
  cases items with
  | nil => exact Nat.zero_le _
  | cons item items =>
    have := hitems items
    have := length_le_quote item
    simp only [Json.render, List.map_cons, List.sum_cons, List.length_cons, List.length_append]
    omega

/-- The list with a text. -/
noncomputable def json : StringsJson where
  toVec := toVec
  fromSlice bytes := open Classical in
    if h : ∃ items, toVec items = bytes then some h.choose else none
  fromSlice_toVec items := by
    have hex : ∃ items', toVec items' = toVec items := ⟨items, rfl⟩
    rw [dif_pos hex, Option.some.injEq]
    have hsame : toVec hex.choose = toVec items ++ [] := by rw [hex.choose_spec, List.append_nil]
    exact (toVec_eq_append hsame).1
  fromSlice_take items n hn := by
    refine dif_neg ?_
    rintro ⟨items', h⟩
    have hcut := toVec_eq_append (h ▸ (List.take_append_drop n (toVec items)).symm)
    exact absurd (List.drop_eq_nil_iff.1 hcut.2) (not_le.2 hn)

noncomputable def host (sha256 : List UInt8 → Bytes32) : Libraries := ⟨sha256, json⟩

def vault : VaultAddress where
  text := String.ofList (List.replicate 32 '1')
  base58 c hc := by
    rw [String.toList_ofList] at hc
    rw [List.eq_of_mem_replicate hc]
    decide +kernel
  length_ge := by simp
  length_le := by simp

/-- A call without a stop, in one piece. -/
def event (call : Call) : Event := ⟨call, [], [], id, fun _ => .refl _, none⟩

/-- An entry of the log, without content. -/
def entry (n : ℕ) : Event := event (.put (.wal vault (UInt64.ofNat n)) ⟨[], Nat.zero_le _⟩)

/-- A listing of the log. -/
def entries : Event := event (.list ⟨"wal/", by decide +kernel⟩)

variable (sha256 : List UInt8 → Bytes32)

theorem holds_entries (n : ℕ) :
    ∃ map, Holds (host sha256) (runSteps (next (host sha256)) ∅ ((List.range n).map entry)) map ∧
      ∀ i < n, (Key.wal vault (UInt64.ofNat i)).text ∈ map := by
  induction n with
  | zero => exact ⟨∅, .empty _, by simp⟩
  | succ n ih =>
    obtain ⟨map, hmap, hmem⟩ := ih
    obtain ⟨_, -, -, hnext⟩ := hmap.answered (entry n) (fun _ h => nomatch h) rfl
    rw [List.range_succ, List.map_append, List.map_singleton, runSteps, List.foldl_append]
    refine ⟨_, hnext, fun i hi => ?_⟩
    rcases Nat.lt_succ_iff_lt_or_eq.1 hi with hi | rfl
    · exact Std.ExtTreeMap.mem_insert.2 (.inr (hmem i hi))
    · exact Std.ExtTreeMap.mem_insert_self

theorem text_injOn {i j : ℕ} (hi : i < 2 ^ 64) (hj : j < 2 ^ 64)
    (h : (Key.wal vault (UInt64.ofNat i)).text = (Key.wal vault (UInt64.ofNat j)).text) : i = j := by
  have hpad : zeroPad 20 i = zeroPad 20 j := by
    have htext := congrArg String.toList h
    rw [Key.text, Key.text, UInt64.toNat_ofNat_of_lt' hi, UInt64.toNat_ofNat_of_lt' hj] at htext
    simpa [toList_objectKey] using htext
  have hbound : 2 ^ 64 < 10 ^ 20 := by norm_num
  exact zeroPad_inj (hi.trans hbound) (hj.trans hbound) hpad

/-- The text of an entry's key has 66 characters. -/
theorem length_text {i : ℕ} (hi : i < 2 ^ 64) :
    (Key.wal vault (UInt64.ofNat i)).text.toList.length = 66 := by
  have hbound : 2 ^ 64 < 10 ^ 20 := by norm_num
  have hpad : (zeroPad 20 i).length = 20 := length_zeroPad (by norm_num) (hi.trans hbound)
  have hvault : vault.text.toList.length = 32 := by
    change (String.ofList (List.replicate 32 '1')).toList.length = 32
    rw [String.toList_ofList, List.length_replicate]
  have hfront : "wal/".toList.length = 4 := rfl
  have hkind : "wal".toList.length = 3 := rfl
  rw [Key.text, UInt64.toNat_ofNat_of_lt' hi, toList_objectKey]
  simp only [List.length_append, List.length_cons, List.length_nil, hpad, hvault, hfront, hkind]

/-- A log with so many entries cannot be listed. -/
theorem not_explained {n : ℕ} (hn : 2 ^ 32 ≤ 66 * n) (hmax : n ≤ 2 ^ 64) :
    ¬ Explained ∅ (transcript (host sha256) ∅ ((List.range n).map entry ++ [entries])) := by
  intro h
  obtain ⟨map, hholds, hmem⟩ := holds_entries sha256 n
  obtain ⟨keys, hkeys, -, hkeysMem⟩ := hholds.listing entries.visit_perm "wal/"
  have hact : ((List.range n).map entry ++ [entries])[n]? = some entries := by
    simp
  have hlast := h.fits.at hact
  rw [List.take_left' (by simp)] at hlast
  have hlt : (toVec keys).length < 2 ^ 32 := hlast ⟨"wal/", _⟩ rfl rfl keys hkeys
  let texts := (List.range n).map fun i => (Key.wal vault (UInt64.ofNat i)).text
  have hnodup : texts.Nodup := by
    refine List.nodup_range.map_on fun i hi j hj h => ?_
    rw [List.mem_range] at hi hj
    exact text_injOn (hi.trans_le hmax) (hj.trans_le hmax) h
  have hsub : texts ⊆ keys := by
    intro text htext
    obtain ⟨i, hi, rfl⟩ := List.mem_map.1 htext
    refine (hkeysMem _).2 ⟨hmem i (List.mem_range.1 hi), ?_⟩
    simp [Key.text, toList_objectKey]
  have hsum : (texts.map (·.toList.length)).sum = 66 * n := by
    have hconst : texts.map (·.toList.length) = (List.range n).map fun _ => 66 := by
      rw [List.map_map]
      exact List.map_congr_left fun i hi => length_text ((List.mem_range.1 hi).trans_le hmax)
    rw [hconst]
    simp [Nat.mul_comm]
  obtain ⟨some, hperm, hkept⟩ := hnodup.subperm hsub
  have hle := (hkept.map (·.toList.length)).sum_le_sum fun _ _ => Nat.zero_le _
  rw [(hperm.map _).sum_eq, hsum] at hle
  have := sum_length_le_toVec keys
  omega

/-- **A log of `2 ^ 26` entries cannot be listed**, whatever names the files have. -/
theorem listing_cut : ¬ ∃ sha256 : List UInt8 → Bytes32, Explained ∅
    (transcript (host sha256) ∅ ((List.range (2 ^ 26)).map entry ++ [entries])) :=
  fun ⟨sha256, h⟩ => not_explained sha256 (by decide) (by decide) h

end Sample

end Blobs
end Subly402
