/-
# The store of encrypted objects

The enclave keeps its log, its snapshots and its data key with the parent.
`SnapshotStoreClient` sends one request over a stream of its own; `snapshot_store.rs` of the
parent reads it, however the stream is cut, and keeps each object in a file, with its key
in a file beside it.  The parent may stop after any step of the file system, and then the
client gets no answer (`Event`).
-/

import Subly402.Lib.Disk
import Subly402.Lib.Reads
import Subly402.Lib.SplitText
import Subly402.Lib.ZeroPad

namespace Subly402
namespace Blobs

open Lib

/-! ### Keys -/

/-- The digits of base58. -/
def base58Digits : List Char := "123456789ABCDEFGHJKLMNPQRSTUVWXYZabcdefghijkmnopqrstuvwxyz".toList

/-- The address of a vault, in base58. -/
structure VaultAddress where
  text : String
  base58 : ∀ c ∈ text.toList, c ∈ base58Digits
  length_ge : 32 ≤ text.toList.length
  length_le : text.toList.length ≤ 44

/-- `wal_object_key` and `snapshot_object_key`: the key of a numbered object. -/
def objectKey (keyPrefix kind : String) (seqno : ℕ) : String :=
  String.ofList (keyPrefix.toList.rdropWhile (· = '/')) ++ "/" ++ kind ++ "-" ++
    String.ofList (zeroPad 20 seqno) ++ ".json"

/-- The objects that the enclave stores. -/
inductive Key where
  | wal (vault : VaultAddress) (seqno : UInt64)
  | snapshot (vault : VaultAddress) (seqno : UInt64)
  | dataKey (vault : VaultAddress)

/-- The key of an object. -/
def Key.text : Key → String
  | .wal vault seqno => objectKey ("wal/" ++ vault.text) "wal" seqno.toNat
  | .snapshot vault seqno => objectKey ("snapshot/" ++ vault.text) "snapshot" seqno.toNat
  | .dataKey vault => "meta/" ++ vault.text ++ "/snapshot-data-key.ciphertext"

/-! ### Files -/

/-- A path below the directory of the store, by its components. -/
abbrev Path := List String

/-- `file_name`. -/
def fileName (path : Path) : List Char := (path.getLastD "").toList

/-- `with_file_name`. -/
def withFileName (path : Path) (name : List Char) : Path := path.dropLast ++ [String.ofList name]

/-- `with_extension`. -/
def withExtension (path : Path) (ext : List Char) : Path :=
  withFileName path (match rsplitOnce '.' (fileName path) with
    | some (c :: stem, _) => c :: stem ++ '.' :: ext
    | _ => fileName path ++ '.' :: ext)

/-- `key.replace('/', "_")`. -/
def flatName (key : String) : List Char := key.toList.map fun c => if c = '/' then '_' else c

/-- `key_to_path`. -/
def keyToPath (sha256 : List UInt8 → Bytes32) (key : String) : Path :=
  [String.ofList ((hexEncode (sha256 (utf8 key)).bytes).toList.take 4), String.ofList (flatName key)]

/-- `key_sidecar_path`. -/
def keySidecarPath (path : Path) : Path := withFileName path (fileName path ++ ['.', 'k', 'e', 'y'])

/-- A file that is being written. -/
def isTemporary (path : Path) : Bool := ['.', 't', 'm', 'p'].isSuffixOf (fileName path)

/-- `is_blob_path`. -/
def isBlobPath (path : Path) : Bool :=
  !(isTemporary path || ['.', 'k', 'e', 'y'].isSuffixOf (fileName path))

/-- What the keys of each kind start with, and what follows the address. -/
def keyForms : List (List Char × List Char) :=
  [(['w', 'a', 'l'], ['w', 'a', 'l', '-']),
    (['s', 'n', 'a', 'p', 's', 'h', 'o', 't'], ['s', 'n', 'a', 'p', 's', 'h', 'o', 't', '-']),
    (['m', 'e', 't', 'a'], ['s', 'n', 'a', 'p', 's', 'h', 'o', 't', '-', 'd', 'a', 't', 'a', '-',
      'k', 'e', 'y', '.'])]

/-- `parse_legacy_key`. -/
def parseLegacyKey (name : List Char) : Option String := do
  let (kind, stem) ← keyForms.find? fun form => (form.1 ++ ['_']).isPrefixOf name
  let (vault, object) ← splitOnce ('_' :: stem) (name.drop (kind.length + 1))
  return String.ofList (kind ++ '/' :: (vault ++ '/' :: (stem ++ object)))

/-- The key of a blob: what the file beside it says, or else what its name does.  A file that is
no text is an error. -/
def logicalKey (disk : Disk Path) (path : Path) : Option (Option String) :=
  match disk[keySidecarPath path]? with
  | some content => (decodeUtf8 content).map some
  | none => some (parseLegacyKey (fileName path))

/-- `collect_entries` over the files in the order of the directories. -/
def collectEntries (disk : Disk Path) (keyPrefix : String) : List Path → Option (List String)
  | [] => some []
  | path :: paths =>
    if isBlobPath path then do
      let key ← logicalKey disk path
      let entries ← collectEntries disk keyPrefix paths
      return (key.filter fun key => keyPrefix.toList.isPrefixOf key.toList).toList ++ entries
    else collectEntries disk keyPrefix paths

/-! ### The parent -/

/-- `serde_json` on lists of strings: a list reads back, and a part of its text is no list. -/
structure StringsJson where
  toVec : List String → List UInt8
  fromSlice : List UInt8 → Option (List String)
  fromSlice_toVec : ∀ items, fromSlice (toVec items) = some items
  fromSlice_take : ∀ items n, n < (toVec items).length → fromSlice ((toVec items).take n) = none

/-- The libraries of the parent and the client. -/
structure Libraries where
  sha256 : List UInt8 → Bytes32
  json : StringsJson

/-- A request, as the parent reads it. -/
inductive Request where
  | put (key : String) (data : List UInt8)
  | get (key : String)
  | list (keyPrefix : String)
  | delete (key : String)
  | unknown

def maxBlobSize : ℕ := 64 * 1024 * 1024

def maxKeySize : ℕ := 512

/-- `read_key`. -/
def readKey : Reads String := do
  let len ← readU32Le
  if maxKeySize < len then failure
  let bytes ← readExact len
  StateT.lift (decodeUtf8 bytes)

/-- `read_blob`. -/
def readBlob : Reads (List UInt8) := do
  let len ← readU32Le
  if maxBlobSize < len then failure
  readExact len

/-- What `handle_snapshot_request` reads. -/
def readRequest : Reads Request := do
  let op ← readU8
  if op = 1 then
    let key ← readKey
    let data ← readBlob
    return .put key data
  else if op = 2 then .get <$> readKey
  else if op = 3 then .list <$> readKey
  else if op = 4 then .delete <$> readKey
  else return .unknown

/-- A status and the data with it. -/
abbrev Response := UInt8 × List UInt8

/-- `send_ok`, `send_not_found` and `send_error`. -/
def responseBytes (response : Response) : List UInt8 :=
  response.1 :: (leBytes 4 response.2.length ++ response.2)

section Model

variable (lib : Libraries)

/-- The steps of `handle_put`. -/
def putSteps (key : String) (data : List UInt8) : List (FileOp Path) :=
  let path := keyToPath lib.sha256 key
  let sidecar := keySidecarPath path
  Disk.replaceFile (withExtension path ['t', 'm', 'p']) path data ++
    Disk.replaceFile (withExtension sidecar ['t', 'm', 'p']) sidecar (utf8 key)

/-- What `handle_list` answers with, before it is written as JSON. -/
def listing (visit : List Path → List Path) (disk : Disk Path) (keyPrefix : String) :
    Option (List String) :=
  (collectEntries disk keyPrefix (visit disk.keys)).map fun entries =>
    (entries.mergeSort (· ≤ ·)).destutter (· ≠ ·)

/-- The steps of a handler, and its response.  A handler that fails has none. -/
def handle (visit : List Path → List Path) (disk : Disk Path) :
    Request → List (FileOp Path) × Option Response
  | .put key data => (putSteps lib key data, some (0, []))
  | .get key =>
    ([], some (match disk[keyToPath lib.sha256 key]? with
      | some data => (0, data)
      | none => (1, [])))
  | .list keyPrefix =>
    ([], (listing visit disk keyPrefix).map fun entries => (0, lib.json.toVec entries))
  | .delete key =>
    let path := keyToPath lib.sha256 key
    match disk[path]? with
    | some _ => ([.remove path, .remove (keySidecarPath path)], some (0, []))
    | none => ([], some (1, []))
  | .unknown => ([], some (2, utf8 "unknown operation"))

/-! ### The client -/

/-- A blob within the size limit. -/
structure Blob where
  bytes : List UInt8
  length_le : bytes.length ≤ maxBlobSize

/-- What a listing asks for, within the size limit. -/
structure KeyPrefix where
  text : String
  length_le : (utf8 text).length ≤ maxKeySize

/-- A call of the client. -/
inductive Call where
  | put (key : Key) (blob : Blob)
  | get (key : Key)
  | list (keyPrefix : KeyPrefix)
  | delete (key : Key)

/-- `write_key` and `write_blob`. -/
def frame (bytes : List UInt8) : List UInt8 := leBytes 4 bytes.length ++ bytes

namespace Call

/-- What the client sends. -/
def bytes : Call → List UInt8
  | .put key blob => 1 :: (frame (utf8 key.text) ++ frame blob.bytes)
  | .get key => 2 :: frame (utf8 key.text)
  | .list keyPrefix => 3 :: frame (utf8 keyPrefix.text)
  | .delete key => 4 :: frame (utf8 key.text)

/-- What the parent is to read. -/
def request : Call → Request
  | .put key blob => .put key.text blob.bytes
  | .get key => .get key.text
  | .list keyPrefix => .list keyPrefix.text
  | .delete key => .delete key.text

end Call

/-- What a call returns. -/
inductive Answer where
  | done
  | blob (data : Option (List UInt8))
  | keys (keys : List String)
deriving DecidableEq

/-- How a call fails. -/
inductive ClientError where
  | closed
  | notFoundForPut
  | store (message : String)
  | invalidData
deriving DecidableEq

/-- `read_response`. -/
def readResponse : Reads Response := do
  let status ← readU8
  let len ← readU32Le
  let data ← readExact len
  return (status, data)

/-- What the client makes of a response. -/
def finish (call : Call) : Response → Except ClientError Answer
  | (0, data) =>
    match call with
    | .put .. | .delete _ => .ok .done
    | .get _ => .ok (.blob (some data))
    | .list _ => match lib.json.fromSlice data with
      | some keys => .ok (.keys keys)
      | none => .error .invalidData
  | (1, _) =>
    match call with
    | .put .. => .error .notFoundForPut
    | .get _ => .ok (.blob none)
    | .list _ => .ok (.keys [])
    | .delete _ => .ok .done
  | (2, data) => match decodeUtf8 data with
    | some message => .error (.store message)
    | none => .error .invalidData
  | _ => .error .invalidData

/-- A call: the sizes in which its streams arrive, the order in which the directories are read, and
where the parent stops, if it does, in steps of the file system. -/
structure Event where
  call : Call
  requestSizes : List ℕ
  responseSizes : List ℕ
  visit : List Path → List Path
  visit_perm : ∀ paths, (visit paths).Perm paths
  stop : Option ℕ

/-- A call and what it leaves of the files. -/
def exec (disk : Disk Path) (event : Event) : Except ClientError Answer × Disk Path :=
  match (readRequest.run (cutAt event.requestSizes event.call.bytes)).map Prod.fst with
  | none => (.error .closed, disk)
  | some request =>
    let (ops, response) := handle lib event.visit disk request
    match event.stop, response with
    | some n, _ => (.error .closed, disk.run (ops.take n))
    | none, none => (.error .closed, disk.run ops)
    | none, some response =>
      (match (readResponse.run (cutAt event.responseSizes (responseBytes response))).map Prod.fst with
        | none => .error .closed
        | some response => finish lib event.call response,
      disk.run ops)

/-- The files after a call. -/
def next (disk : Disk Path) (event : Event) : Disk Path := (exec lib disk event).2

/-- The calls of a run, with what they return. -/
def transcript : Disk Path → List Event → List (Event × Except ClientError Answer)
  | _, [] => []
  | disk, event :: events =>
    (event, (exec lib disk event).1) :: transcript (next lib disk event) events

end Model

/-! ### Names tell keys -/

/-- A key is a kind, an address, and a name within the kind, by which its file is no other file of
the store. -/
structure Key.Parts (key : Key) (kind address stem object : List Char) : Prop where
  form : (kind, stem) ∈ keyForms
  base58 : ∀ c ∈ address, c ∈ base58Digits
  slash : '/' ∉ object
  blob : ∀ front : List Char, ¬ ['.', 't', 'm', 'p'] <:+ front ++ object ∧
    ¬ ['.', 'k', 'e', 'y'] <:+ front ++ object
  text : key.text.toList = kind ++ '/' :: (address ++ '/' :: (stem ++ object))
  short : key.text.toList.length ≤ 128

/-- The characters of an object's key. -/
theorem toList_objectKey (vault : VaultAddress) (front kind : String) (seqno : ℕ) :
    (objectKey (front ++ vault.text) kind seqno).toList
      = front.toList ++ (vault.text.toList ++ '/' :: (kind.toList ++ '-' ::
        (zeroPad 20 seqno ++ ['.', 'j', 's', 'o', 'n']))) := by
  have hne : vault.text.toList ≠ [] := fun h => by
    have := vault.length_ge
    simp [h] at this
  have htrim : (front.toList ++ vault.text.toList).rdropWhile (· = '/')
      = front.toList ++ vault.text.toList := by
    refine List.rdropWhile_eq_self_iff.2 fun _ hlast => ?_
    rw [List.getLast_append_of_ne_nil _ hne, decide_eq_true_eq] at hlast
    have hmem := vault.base58 _ (hlast ▸ List.getLast_mem hne)
    exact absurd hmem (by decide +kernel)
  simp [objectKey, htrim]

/-- A padded number has no slash. -/
theorem slash_not_mem_zeroPad (width n : ℕ) : '/' ∉ zeroPad width n := by
  rw [zeroPad, List.mem_append, not_or]
  refine ⟨fun h => absurd (List.eq_of_mem_replicate h) (by decide), fun h => ?_⟩
  have := Nat.isDigit_of_mem_toDigits (by omega) le_rfl h
  revert this
  decide

/-- The parts of a numbered object. -/
theorem Key.Parts.numbered {key : Key} (vault : VaultAddress) (seqno : UInt64)
    {kind stem : List Char} (hform : (kind, stem) ∈ keyForms) (htext : key.text.toList = kind ++ '/' ::
      (vault.text.toList ++ '/' :: (stem ++ (zeroPad 20 seqno.toNat ++ ['.', 'j', 's', 'o', 'n'])))) :
    key.Parts kind vault.text.toList stem (zeroPad 20 seqno.toNat ++ ['.', 'j', 's', 'o', 'n']) where
  form := hform
  base58 := vault.base58
  slash := by simp [slash_not_mem_zeroPad]
  blob front := by simp [← List.append_assoc, ← List.reverse_prefix]
  text := htext
  short := by
    have hforms : ∀ form ∈ keyForms, form.1.length + form.2.length ≤ 22 := by decide
    have hkind : kind.length + stem.length ≤ 22 := hforms _ hform
    have hle := vault.length_le
    have hseqno : seqno.toNat < 10 ^ 20 := seqno.toNat_lt.trans_le (by norm_num)
    simp only [htext, List.length_append, List.length_cons, List.length_nil,
      length_zeroPad (by omega) hseqno]
    omega

/-- Every key has its parts. -/
theorem Key.parts (key : Key) : ∃ kind address stem object, key.Parts kind address stem object := by
  cases key with
  | wal vault seqno =>
    exact ⟨_, _, _, _, .numbered vault seqno (.head _)
      (by simp [Key.text, toList_objectKey])⟩
  | snapshot vault seqno =>
    exact ⟨_, _, _, _, .numbered vault seqno (.tail _ (.head _))
      (by simp [Key.text, toList_objectKey])⟩
  | dataKey vault =>
    have hle := vault.length_le
    refine ⟨_, vault.text.toList, _, ['c', 'i', 'p', 'h', 'e', 'r', 't', 'e', 'x', 't'],
      .tail _ (.tail _ (.head _)), vault.base58, by decide, fun front => ?_, ?_, ?_⟩
    · simp [← List.reverse_prefix]
    · simp [Key.text]
    · simp [Key.text]
      omega

/-- The flat name puts underscores for slashes. -/
theorem flatName_text {key : Key} {kind address stem object : List Char}
    (h : key.Parts kind address stem object) :
    flatName key.text = kind ++ '_' :: (address ++ '_' :: (stem ++ object)) := by
  have hforms : ∀ form ∈ keyForms, '/' ∉ form.1 ∧ '/' ∉ form.2 := by decide
  have hkeep (l : List Char) (hl : '/' ∉ l) :
      l.map (fun c => if c = '/' then '_' else c) = l := by
    refine (List.map_congr_left fun c hc => ?_).trans (List.map_id l)
    exact if_neg fun heq : c = '/' => hl (heq ▸ hc)
  have haddress : '/' ∉ address := fun hmem => absurd (h.base58 _ hmem) (by decide +kernel)
  rw [flatName, h.text]
  simp only [List.map_append, List.map_cons, if_true, hkeep _ (hforms _ h.form).1, hkeep _ haddress,
    hkeep _ (hforms _ h.form).2, hkeep _ h.slash]

/-- **The name of a blob says its key.** -/
theorem parseLegacyKey_flatName (key : Key) : parseLegacyKey (flatName key.text) = some key.text := by
  obtain ⟨kind, address, stem, object, h⟩ := key.parts
  have haddress : '_' ∉ address := fun hmem => absurd (h.base58 _ hmem) (by decide +kernel)
  have hfind : keyForms.find? (fun form => (form.1 ++ ['_']).isPrefixOf (flatName key.text))
      = some (kind, stem) := by
    rw [flatName_text h]
    have hform := h.form
    simp only [keyForms, List.mem_cons, List.not_mem_nil, or_false, Prod.mk.injEq] at hform
    obtain ⟨rfl, rfl⟩ | ⟨rfl, rfl⟩ | ⟨rfl, rfl⟩ := hform <;> simp [keyForms]
  have hdrop : (flatName key.text).drop (kind.length + 1) = address ++ '_' :: stem ++ object := by
    simp [flatName_text h]
  simp only [parseLegacyKey, hfind, hdrop, splitOnce_append haddress, Option.bind_eq_bind,
    Option.bind_some, ← h.text]
  simp

/-! ### Paths -/

/-- A blob's file has the flat name. -/
@[simp]
theorem fileName_keyToPath (sha256 : List UInt8 → Bytes32) (key : String) :
    fileName (keyToPath sha256 key) = flatName key := by simp [fileName, keyToPath]

/-- The file name that was set. -/
@[simp]
theorem fileName_withFileName (path : Path) (name : List Char) :
    fileName (withFileName path name) = name := by simp [fileName, withFileName]

/-- `.tmp` names are temporary. -/
theorem isTemporary_withExtension (path : Path) :
    isTemporary (withExtension path ['t', 'm', 'p']) := by
  rw [isTemporary, withExtension, fileName_withFileName]
  split <;> simp [← List.reverse_prefix]

variable {lib : Libraries} {key key' : Key}

/-- The blob of an object. -/
def Libraries.path (lib : Libraries) (key : Key) : Path := keyToPath lib.sha256 key.text

/-- Flat names tell keys apart. -/
theorem flatName_inj (h : flatName key.text = flatName key'.text) : key.text = key'.text := by
  have hparse := parseLegacyKey_flatName key
  rw [h, parseLegacyKey_flatName] at hparse
  exact (Option.some.inj hparse).symm

/-- Paths tell keys apart. -/
theorem path_inj : lib.path key = lib.path key' ↔ key.text = key'.text :=
  ⟨fun h => flatName_inj (by simpa [Libraries.path] using congrArg fileName h),
    fun h => by rw [Libraries.path, h]; rfl⟩

/-- Sidecar paths tell keys apart. -/
theorem sidecar_inj : keySidecarPath (lib.path key) = keySidecarPath (lib.path key') ↔
    key.text = key'.text :=
  ⟨fun h => flatName_inj (by simpa [keySidecarPath, Libraries.path] using congrArg fileName h),
    fun h => by rw [path_inj.2 h]⟩

/-- A key's path is a blob path. -/
theorem isBlobPath_path (lib : Libraries) (key : Key) : isBlobPath (lib.path key) := by
  obtain ⟨kind, address, stem, object, h⟩ := key.parts
  have hblob := h.blob (kind ++ '_' :: (address ++ '_' :: stem))
  simp only [isBlobPath, isTemporary, Libraries.path, fileName_keyToPath, flatName_text h]
  simpa [← Bool.not_eq_true] using hblob

/-- Blob paths are not temporary. -/
theorem not_isTemporary_of_isBlobPath {path : Path} (h : isBlobPath path) : ¬ isTemporary path := by
  simp only [isBlobPath, Bool.not_eq_true', Bool.or_eq_false_iff] at h
  simp [h.1]

/-- A sidecar is no blob. -/
theorem not_isBlobPath_sidecar (path : Path) : ¬ isBlobPath (keySidecarPath path) := by
  simp [isBlobPath, keySidecarPath]

/-- A sidecar is not temporary. -/
theorem not_isTemporary_sidecar (path : Path) : ¬ isTemporary (keySidecarPath path) := by
  simp [isTemporary, keySidecarPath, ← List.reverse_prefix]

/-- No blob path is a sidecar's. -/
theorem path_ne_sidecar (key : Key) (path : Path) : lib.path key ≠ keySidecarPath path :=
  fun h => not_isBlobPath_sidecar path (h ▸ isBlobPath_path lib key)

/-! ### What is read is what was sent -/

/-- Every key fits the parent's bound. -/
theorem length_utf8_text (key : Key) : (utf8 key.text).length ≤ maxKeySize := by
  obtain ⟨_, _, _, _, h⟩ := key.parts
  have := length_utf8_le key.text
  have := h.short
  unfold maxKeySize
  omega

/-- A framed key is read back. -/
theorem takes_readKey {text : String} (h : (utf8 text).length ≤ maxKeySize) :
    Takes readKey (frame (utf8 text)) text := by
  have hsize : maxKeySize < 2 ^ 32 := by decide
  have hlen := takes_readU32Le (utf8 text).length
  rw [Nat.mod_eq_of_lt (by omega)] at hlen
  refine hlen.bind ?_
  simp only [not_lt.2 h, if_false]
  have hdecode : Takes (StateT.lift (decodeUtf8 (utf8 text))) [] text := fun pieces rest h =>
    ⟨pieces, by rw [decodeUtf8_utf8]; rfl, h⟩
  have hread := (takes_readExact (utf8 text)).bind
    (k := fun bytes => StateT.lift (decodeUtf8 bytes)) hdecode
  rwa [List.append_nil] at hread

/-- A framed blob is read back. -/
theorem takes_readBlob (blob : Blob) : Takes readBlob (frame blob.bytes) blob.bytes := by
  have hsize : maxBlobSize < 2 ^ 32 := by decide
  have hle := blob.length_le
  have hlen := takes_readU32Le blob.bytes.length
  rw [Nat.mod_eq_of_lt (by omega)] at hlen
  refine hlen.bind ?_
  simp only [not_lt.2 hle, if_false]
  exact takes_readExact blob.bytes

/-- **The parent reads exactly the request that was sent.** -/
theorem takes_readRequest (call : Call) : Takes readRequest call.bytes call.request := by
  cases call with
  | put key blob =>
    exact (takes_readU8 1).bind ((takes_readKey (length_utf8_text key)).bind
      ((takes_readBlob blob).map (Request.put key.text)))
  | get key => exact (takes_readU8 2).bind ((takes_readKey (length_utf8_text key)).map _)
  | list keyPrefix => exact (takes_readU8 3).bind ((takes_readKey keyPrefix.length_le).map _)
  | delete key => exact (takes_readU8 4).bind ((takes_readKey (length_utf8_text key)).map _)

/-- The client reads a response up to what its length says. -/
theorem takes_readResponse (status : UInt8) (data : List UInt8) :
    Takes readResponse (status :: (leBytes 4 data.length ++ data.take (data.length % 2 ^ 32)))
      (status, data.take (data.length % 2 ^ 32)) := by
  have hlen : (data.take (data.length % 2 ^ 32)).length = data.length % 2 ^ 32 :=
    List.length_take_of_le (Nat.mod_le _ _)
  have hread := takes_readExact (data.take (data.length % 2 ^ 32))
  rw [hlen] at hread
  exact (takes_readU8 status).bind ((takes_readU32Le data.length).bind (hread.map (status, ·)))

/-- A call, without its streams. -/
theorem exec_eq (disk : Disk Path) (event : Event) : exec lib disk event =
    match event.stop, handle lib event.visit disk event.call.request with
    | some n, (ops, _) => (.error .closed, disk.run (ops.take n))
    | none, (ops, none) => (.error .closed, disk.run ops)
    | none, (ops, some (status, data)) =>
      (finish lib event.call (status, data.take (data.length % 2 ^ 32)), disk.run ops) := by
  have hrequest := (takes_readRequest event.call).run_eq []
    (by rw [flatten_cutAt event.requestSizes, List.append_nil])
  rw [exec, hrequest]
  dsimp only
  rcases handle lib event.visit disk event.call.request with ⟨ops, _ | ⟨status, data⟩⟩
  · cases event.stop <;> rfl
  · have hpieces : (cutAt event.responseSizes (responseBytes (status, data))).flatten
        = (status :: (leBytes 4 data.length ++ data.take (data.length % 2 ^ 32)))
          ++ data.drop (data.length % 2 ^ 32) := by
      simp [flatten_cutAt, responseBytes]
    have hresponse := (takes_readResponse status data).run_eq _ hpieces
    cases event.stop
    · dsimp only
      rw [hresponse]
    · rfl

end Blobs
end Subly402
