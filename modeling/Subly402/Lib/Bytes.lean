/-
# Byte strings and their hexadecimal texts

`Bytes32` is the `[u8; 32]` of keys, hashes and points: a list of bytes that
carries its length, ordered byte by byte so that it can be the key of a map.
-/

import Mathlib

namespace Subly402
namespace Lib

/-- Thirty-two bytes. -/
structure Bytes32 where
  bytes : List UInt8
  length_eq : bytes.length = 32
deriving DecidableEq

namespace Bytes32

/-- Values are their bytes. -/
theorem bytes_injective : Function.Injective bytes := by
  rintro ⟨a, ha⟩ ⟨b, hb⟩ h
  cases h
  rfl

instance : Ord Bytes32 := ⟨fun a b => compare a.bytes b.bytes⟩

instance : Std.TransOrd Bytes32 where
  eq_swap {a b} := Std.OrientedOrd.eq_swap (a := a.bytes) (b := b.bytes)
  isLE_trans {a b c} := Std.TransOrd.isLE_trans (a := a.bytes) (b := b.bytes) (c := c.bytes)

instance : Std.LawfulEqOrd Bytes32 where
  compare_self {a} := Std.ReflOrd.compare_self (a := a.bytes)
  eq_of_compare h := bytes_injective (Std.LawfulEqOrd.eq_of_compare h)

/-- The `try_into` of a byte vector to a `[u8; 32]`. -/
def ofList? (bs : List UInt8) : Option Bytes32 :=
  if h : bs.length = 32 then some ⟨bs, h⟩ else none

/-- The key all of whose bytes are `b`. -/
def fill (b : UInt8) : Bytes32 := ⟨List.replicate 32 b, List.length_replicate⟩

/-- The bytes give the value back. -/
@[simp]
theorem ofList?_bytes (b : Bytes32) : ofList? b.bytes = some b := by
  simp [ofList?, b.length_eq]

/-- Only its bytes give a value. -/
theorem ofList?_eq_some {bs : List UInt8} {b : Bytes32} :
    ofList? bs = some b ↔ bs = b.bytes := by
  constructor
  · intro h
    unfold ofList? at h
    split at h
    · cases h; rfl
    · cases h
  · rintro rfl
    exact ofList?_bytes b

end Bytes32

/-- `to_le_bytes` of an unsigned integer of `width` bytes. -/
def leBytes (width n : ℕ) : List UInt8 :=
  (List.range width).map fun i => UInt8.ofNat (n / 256 ^ i % 256)

/-- A part of a byte string and what follows it. -/
theorem take_drop_append_drop (bytes : List UInt8) (offset width : ℕ) :
    (bytes.drop offset).take width ++ bytes.drop (offset + width) = bytes.drop offset := by
  rw [← List.drop_drop, List.take_append_drop]

/-! ### Texts -/

/-- What the core loop collects. -/
theorem toList_loop (bytes : ByteArray) (i : ℕ) (acc : List UInt8) :
    ByteArray.toList.loop bytes i acc = acc.reverse ++ bytes.data.toList.drop i := by
  induction h : bytes.size - i generalizing i acc with
  | zero =>
    rw [ByteArray.toList.loop.eq_def, if_neg (by omega)]
    have hsize : bytes.data.toList.length ≤ i := by
      have : bytes.data.toList.length = bytes.size := rfl
      omega
    rw [List.drop_eq_nil_of_le hsize, List.append_nil]
  | succ n ih =>
    have hlt : i < bytes.data.toList.length := by
      have : bytes.data.toList.length = bytes.size := rfl
      omega
    rw [ByteArray.toList.loop.eq_def, if_pos (by omega), ih _ _ (by omega),
      List.drop_eq_getElem_cons hlt]
    simp [ByteArray.get!, getElem!_pos bytes.data i hlt]

/-- The bytes of an array as a list. -/
theorem byteArray_toList (bytes : ByteArray) : bytes.toList = bytes.data.toList := by
  rw [ByteArray.toList, toList_loop]
  rfl

/-- `as_bytes`. -/
def utf8 (text : String) : List UInt8 := text.toUTF8.toList

/-- UTF-8 of an append. -/
theorem utf8_append (a b : String) : utf8 (a ++ b) = utf8 a ++ utf8 b := by
  unfold utf8 String.toUTF8
  rw [byteArray_toList, byteArray_toList, byteArray_toList, String.toByteArray_append,
    ByteArray.data_append, Array.toList_append]

/-- UTF-8 tells texts apart. -/
theorem utf8_injective : Function.Injective utf8 := by
  intro a b h
  unfold utf8 String.toUTF8 at h
  rw [byteArray_toList, byteArray_toList] at h
  exact String.toByteArray_inj.1 (ByteArray.ext (Array.toList_inj.1 h))

/-- UTF-8, character by character. -/
theorem utf8_ofList (cs : List Char) :
    utf8 (String.ofList cs) = cs.flatMap String.utf8EncodeChar := by
  unfold utf8 String.toUTF8
  rw [byteArray_toList, String.toByteArray_ofList]
  simp [List.utf8Encode]

/-- The byte size. -/
theorem length_utf8 (text : String) : (utf8 text).length = text.utf8ByteSize := by
  unfold utf8
  rw [byteArray_toList]
  rfl

/-- A text has at least as many bytes as characters. -/
theorem length_le_length_utf8 (cs : List Char) : cs.length ≤ (utf8 (String.ofList cs)).length := by
  rw [length_utf8, String.utf8ByteSize_ofList]
  induction cs with
  | nil => exact Nat.zero_le _
  | cons c cs ih =>
    have hpos := c.utf8Size_pos
    rw [String.utf8Len_cons, List.length_cons]
    omega

/-- A character has at most four bytes. -/
theorem length_utf8_le (text : String) : (utf8 text).length ≤ 4 * text.toList.length := by
  rw [← String.ofList_toList (s := text), length_utf8, String.utf8ByteSize_ofList,
    String.toList_ofList]
  induction text.toList with
  | nil => exact Nat.zero_le _
  | cons c cs ih =>
    have hle := c.utf8Size_le_four
    rw [String.utf8Len_cons, List.length_cons]
    omega

/-- `String::from_utf8`. -/
def decodeUtf8 (bytes : List UInt8) : Option String := String.fromUTF8? ⟨bytes.toArray⟩

/-- UTF-8 is read back. -/
theorem decodeUtf8_utf8 (text : String) : decodeUtf8 (utf8 text) = some text := by
  have hbytes : (⟨(utf8 text).toArray⟩ : ByteArray) = text.toByteArray := by
    unfold utf8 String.toUTF8
    rw [byteArray_toList, Array.toArray_toList]
  rw [decodeUtf8, hbytes, String.fromUTF8?, dif_pos text.isValidUTF8]
  rfl

/-! ### Hexadecimal -/

/-- The digit of a value below sixteen. -/
def hexDigit (n : ℕ) : Char := if n < 10 then Char.ofNat (48 + n) else Char.ofNat (87 + n)

/-- The value of a digit, in either case. -/
def hexValue (c : Char) : Option ℕ :=
  if '0' ≤ c ∧ c ≤ '9' then some (c.toNat - 48)
  else if 'a' ≤ c ∧ c ≤ 'f' then some (c.toNat - 87)
  else if 'A' ≤ c ∧ c ≤ 'F' then some (c.toNat - 55)
  else none

/-- Read digits two at a time. -/
def hexPairs : List Char → Option (List UInt8)
  | [] => some []
  | [_] => none
  | hi :: lo :: rest => do
    let h ← hexValue hi
    let l ← hexValue lo
    let bs ← hexPairs rest
    return UInt8.ofNat (16 * h + l) :: bs

/-- `hex::encode`. -/
def hexEncode (bs : List UInt8) : String :=
  String.ofList (bs.flatMap fun b => [hexDigit (b.toNat / 16), hexDigit (b.toNat % 16)])

/-- `hex::decode`. -/
def hexDecode (s : String) : Option (List UInt8) := hexPairs s.toList

/-- `hex::decode` followed by the conversion to thirty-two bytes. -/
def hexDecode32 (s : String) : Option Bytes32 := (hexDecode s).bind Bytes32.ofList?

/-- Two digits make a byte. -/
theorem length_of_hexPairs {cs : List Char} {bs : List UInt8} (h : hexPairs cs = some bs) :
    cs.length = 2 * bs.length := by
  induction cs using hexPairs.induct generalizing bs with
  | case1 => cases h; rfl
  | case2 => cases h
  | case3 hi lo rest ih =>
    simp only [hexPairs, Option.bind_eq_bind, Option.bind_eq_some_iff] at h
    obtain ⟨_, -, _, -, bs', hbs', hbs⟩ := h
    cases hbs
    simp only [List.length_cons, ih hbs']
    omega

/-- A digit is read back. -/
theorem hexValue_hexDigit {n : ℕ} (h : n < 16) : hexValue (hexDigit n) = some n := by
  have : ∀ i : Fin 16, hexValue (hexDigit i) = some i.val := by decide
  exact this ⟨n, h⟩

/-- **What was encoded decodes to itself.** -/
@[simp]
theorem hexDecode_hexEncode (bs : List UInt8) : hexDecode (hexEncode bs) = some bs := by
  unfold hexDecode hexEncode
  rw [String.toList_ofList]
  induction bs with
  | nil => rfl
  | cons b bs ih =>
    have hb : b.toNat < 256 := b.toNat_lt
    have hlo : b.toNat % 16 < 16 := Nat.mod_lt _ (by decide)
    have hdiv : 16 * (b.toNat / 16) + b.toNat % 16 = b.toNat := Nat.div_add_mod _ _
    simp only [List.flatMap_cons, List.cons_append, List.nil_append, hexPairs,
      hexValue_hexDigit (show b.toNat / 16 < 16 by omega), hexValue_hexDigit hlo, ih]
    change some (UInt8.ofNat (16 * (b.toNat / 16) + b.toNat % 16) :: bs) = some (b :: bs)
    rw [hdiv, UInt8.ofNat_toNat]

/-- Two digits a byte, at least. -/
theorem length_hexEncode_le (bs : List UInt8) : 2 * bs.length ≤ (utf8 (hexEncode bs)).length := by
  refine le_trans (le_of_eq ?_) (length_le_length_utf8 _)
  induction bs with
  | nil => rfl
  | cons b bs ih =>
    rw [List.flatMap_cons, List.length_append, ← ih]
    simp only [List.length_cons, List.length_nil]
    omega

/-- 32 bytes in hex are read back. -/
@[simp]
theorem hexDecode32_hexEncode (b : Bytes32) : hexDecode32 (hexEncode b.bytes) = some b := by
  simp [hexDecode32]

end Lib
end Subly402
