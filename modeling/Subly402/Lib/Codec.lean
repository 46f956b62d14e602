/-
# Codecs

A `Codec` writes values as bytes and reads them back from the front of a byte string.
It carries the two facts that make it one: what was written is read, and what is read
was written that way.  Codecs of records are made of codecs of their fields (`pair`,
`map`), and `vec` repeats one, with the count in front, as borsh does.
-/

import Subly402.Lib.LittleEndian

namespace Subly402
namespace Lib

variable {rest input : List UInt8} {n offset : ℕ}

/-- A way to write values as bytes and to read them back. -/
structure Codec (α : Type) where
  encode : α → List UInt8
  decode : List UInt8 → Option (α × List UInt8)
  Valid : α → Prop
  decode_encode : ∀ a rest, Valid a → decode (encode a ++ rest) = some (a, rest)
  decode_sound : ∀ {bytes a rest}, decode bytes = some (a, rest) →
    Valid a ∧ bytes = encode a ++ rest

namespace Codec

variable {α β : Type}

/-- **Different values are written differently**, whatever follows them. -/
theorem encode_append_inj (c : Codec α) {a b : α} {rest' : List UInt8} (ha : c.Valid a)
    (hb : c.Valid b) (h : c.encode a ++ rest = c.encode b ++ rest') : a = b ∧ rest = rest' := by
  have hread := c.decode_encode a rest ha
  rw [h, c.decode_encode b rest' hb] at hread
  cases hread
  exact ⟨rfl, rfl⟩

/-! ### Bytes and integers -/

/-- A number of bytes. -/
def bytes (n : ℕ) : Codec (List UInt8) where
  encode := id
  decode input := if n ≤ input.length then some (input.take n, input.drop n) else none
  Valid a := a.length = n
  decode_encode a rest h := by simp [h]
  decode_sound {input a rest} h := by
    split at h
    · cases h
      exact ⟨by simpa, (List.take_append_drop n input).symm⟩
    · cases h

/-- The same bytes under other names. -/
def map (c : Codec α) (f : α → Option β) (g : β → α) (hf : ∀ b, f (g b) = some b)
    (hg : ∀ a b, f a = some b → g b = a) : Codec β where
  encode b := c.encode (g b)
  decode input := (c.decode input).bind fun (a, rest) => (f a).map (·, rest)
  Valid b := c.Valid (g b)
  decode_encode b rest h := by simp [c.decode_encode _ _ h, hf]
  decode_sound {input b rest} h := by
    obtain ⟨⟨a, rest'⟩, hread, hmap⟩ := Option.bind_eq_some_iff.1 h
    obtain ⟨b', hb', heq⟩ := Option.map_eq_some_iff.1 hmap
    cases heq
    rw [hg a b hb']
    exact c.decode_sound hread

/-- An unsigned integer, little-endian. -/
def uint (width : ℕ) : Codec ℕ where
  encode := leBytes width
  decode input :=
    if width ≤ input.length then some (leNat (input.take width), input.drop width) else none
  Valid n := n < 256 ^ width
  decode_encode n rest h := by
    have hlen := length_leBytes width n
    rw [List.take_left' hlen, List.drop_left' hlen, leNat_leBytes, Nat.mod_eq_of_lt h,
      if_pos (by simp)]
  decode_sound {input n rest} h := by
    split at h
    · next hle =>
      have hlen : (input.take width).length = width := by simpa
      cases h
      constructor
      · have hlt := leNat_lt (input.take width)
        rwa [hlen] at hlt
      · have hbytes := leBytes_leNat (input.take width)
        rw [hlen] at hbytes
        rw [hbytes, List.take_append_drop]
    · cases h

/-- A signed integer of eight bytes. -/
def int64 : Codec ℤ where
  encode x := leBytes 8 (i64Bits x)
  decode input := ((uint 8).decode input).map fun (n, rest) => (i64OfBits n, rest)
  Valid x := -2 ^ 63 ≤ x ∧ x < 2 ^ 63
  decode_encode x rest h := by
    have hread := (uint 8).decode_encode (i64Bits x) rest (i64Bits_lt x)
    rw [show leBytes 8 (i64Bits x) = (uint 8).encode (i64Bits x) from rfl, hread]
    change some (i64OfBits (i64Bits x), rest) = some (x, rest)
    rw [i64OfBits_i64Bits h.1 h.2]
  decode_sound {input x rest} h := by
    obtain ⟨⟨n, rest'⟩, hread, heq⟩ := Option.map_eq_some_iff.1 h
    cases heq
    obtain ⟨hlt, hinput⟩ := (uint 8).decode_sound hread
    refine ⟨i64OfBits_bounds hlt, ?_⟩
    rw [i64Bits_i64OfBits hlt]
    exact hinput

/-- A boolean, as borsh writes it. -/
def bool : Codec Bool where
  encode b := [if b then 1 else 0]
  decode
    | 0 :: rest => some (false, rest)
    | 1 :: rest => some (true, rest)
    | _ => none
  Valid _ := True
  decode_encode b rest _ := by cases b <;> rfl
  decode_sound {input b rest} h := by
    split at h <;> cases h
    · exact ⟨trivial, rfl⟩
    · exact ⟨trivial, rfl⟩

/-- A key or a hash. -/
def bytes32 : Codec Bytes32 :=
  (bytes 32).map Bytes32.ofList? Bytes32.bytes Bytes32.ofList?_bytes
    fun _ _ h => (Bytes32.ofList?_eq_some.1 h).symm

/-- Every 32-byte value is valid. -/
theorem bytes32_valid (b : Bytes32) : bytes32.Valid b := b.length_eq

/-! ### Records and lists -/

/-- One value after the other. -/
def pair (c : Codec α) (d : Codec β) : Codec (α × β) where
  encode p := c.encode p.1 ++ d.encode p.2
  decode input := (c.decode input).bind fun (a, rest) =>
    (d.decode rest).map fun (b, rest) => ((a, b), rest)
  Valid p := c.Valid p.1 ∧ d.Valid p.2
  decode_encode p rest h := by
    rw [List.append_assoc, c.decode_encode _ _ h.1]
    change (d.decode (d.encode p.2 ++ rest)).map _ = _
    rw [d.decode_encode _ _ h.2]
    rfl
  decode_sound {input p rest} h := by
    obtain ⟨⟨a, middle⟩, hfirst, hsecond⟩ := Option.bind_eq_some_iff.1 h
    obtain ⟨⟨b, rest'⟩, hb, heq⟩ := Option.map_eq_some_iff.1 hsecond
    cases heq
    obtain ⟨ha, rfl⟩ := c.decode_sound hfirst
    obtain ⟨hvalid, rfl⟩ := d.decode_sound hb
    exact ⟨⟨ha, hvalid⟩, by simp⟩

/-- A record, from the tuple of its fields. -/
def iso (c : Codec α) (e : α ≃ β) : Codec β :=
  c.map (fun a => some (e a)) e.symm (by simp) (by rintro a b ⟨⟩; simp)

/-- Values one after the other, without a count. -/
def encodeAll (c : Codec α) (as : List α) : List UInt8 := as.flatMap c.encode

/-- Read a number of values. -/
def decodeMany (c : Codec α) : ℕ → List UInt8 → Option (List α × List UInt8)
  | 0, input => some ([], input)
  | n + 1, input => (c.decode input).bind fun (a, rest) =>
    (c.decodeMany n rest).map fun (as, rest) => (a :: as, rest)

/-- A list is read back, item by item. -/
theorem decodeMany_encodeAll (c : Codec α) (as : List α) (rest : List UInt8)
    (h : ∀ a ∈ as, c.Valid a) :
    c.decodeMany as.length (c.encodeAll as ++ rest) = some (as, rest) := by
  induction as with
  | nil => rfl
  | cons a as ih =>
    rw [encodeAll, List.flatMap_cons, List.append_assoc, List.length_cons, decodeMany,
      c.decode_encode _ _ (h a (by simp))]
    change (c.decodeMany as.length (c.encodeAll as ++ rest)).map _ = _
    rw [ih fun b hb => h b (by simp [hb])]
    rfl

/-- What is read is the encoding of the items. -/
theorem decodeMany_sound (c : Codec α) {as : List α} (h : c.decodeMany n input = some (as, rest)) :
    as.length = n ∧ (∀ a ∈ as, c.Valid a) ∧ input = c.encodeAll as ++ rest := by
  induction n generalizing input as with
  | zero =>
    cases h
    exact ⟨rfl, by simp, rfl⟩
  | succ n ih =>
    obtain ⟨⟨a, middle⟩, hfirst, hrest⟩ := Option.bind_eq_some_iff.1 h
    obtain ⟨⟨as', rest'⟩, has, heq⟩ := Option.map_eq_some_iff.1 hrest
    cases heq
    obtain ⟨ha, rfl⟩ := c.decode_sound hfirst
    obtain ⟨hlen, hall, rfl⟩ := ih has
    refine ⟨by simp [hlen], ?_, by simp [encodeAll]⟩
    simpa [ha] using hall

/-- A borsh vector: the count in four bytes, and the values. -/
def vec (c : Codec α) : Codec (List α) where
  encode as := leBytes 4 as.length ++ c.encodeAll as
  decode input := ((uint 4).decode input).bind fun (n, rest) => c.decodeMany n rest
  Valid as := as.length < 256 ^ 4 ∧ ∀ a ∈ as, c.Valid a
  decode_encode as rest h := by
    have hcount := (uint 4).decode_encode as.length (c.encodeAll as ++ rest) h.1
    rw [List.append_assoc, show leBytes 4 as.length = (uint 4).encode as.length from rfl, hcount]
    exact c.decodeMany_encodeAll as rest h.2
  decode_sound {input as rest} h := by
    obtain ⟨⟨n, middle⟩, hcount, hmany⟩ := Option.bind_eq_some_iff.1 h
    obtain ⟨hn, rfl⟩ := (uint 4).decode_sound hcount
    obtain ⟨rfl, hall, rfl⟩ := c.decodeMany_sound hmany
    exact ⟨⟨hn, hall⟩, by rw [List.append_assoc]; rfl⟩

/-- A vector of bytes. -/
def blob : Codec (List UInt8) where
  encode a := leBytes 4 a.length ++ a
  decode input := ((uint 4).decode input).bind fun (n, rest) => (bytes n).decode rest
  Valid a := a.length < 256 ^ 4
  decode_encode a rest h := by
    have hcount := (uint 4).decode_encode a.length (a ++ rest) h
    rw [List.append_assoc, show leBytes 4 a.length = (uint 4).encode a.length from rfl, hcount]
    exact (bytes a.length).decode_encode a rest rfl
  decode_sound {input a rest} h := by
    obtain ⟨⟨n, middle⟩, hcount, hbytes⟩ := Option.bind_eq_some_iff.1 h
    obtain ⟨hn, rfl⟩ := (uint 4).decode_sound hcount
    obtain ⟨rfl, rfl⟩ := (bytes n).decode_sound hbytes
    exact ⟨hn, by rw [List.append_assoc]; rfl⟩

/-! ### Reading at offsets -/

/-- An integer read at an offset. -/
theorem uint_decode_drop {width : ℕ} (h : offset + width ≤ input.length) :
    (uint width).decode (input.drop offset) =
      some (leNat ((input.drop offset).take width), input.drop (offset + width)) := by
  change (if width ≤ (input.drop offset).length then _ else _) = _
  rw [if_pos (by rw [List.length_drop]; omega), List.drop_drop]

/-- Bytes read at an offset. -/
theorem bytes_decode_drop {width : ℕ} (h : offset + width ≤ input.length) :
    (bytes width).decode (input.drop offset) =
      some ((input.drop offset).take width, input.drop (offset + width)) := by
  change (if width ≤ (input.drop offset).length then _ else _) = _
  rw [if_pos (by rw [List.length_drop]; omega), List.drop_drop]

/-- A signed integer read at an offset. -/
theorem int64_decode_drop (h : offset + 8 ≤ input.length) :
    int64.decode (input.drop offset) =
      some (i64OfBits (leNat ((input.drop offset).take 8)), input.drop (offset + 8)) := by
  change ((uint 8).decode (input.drop offset)).map _ = _
  rw [uint_decode_drop h]
  rfl

/-- A 32-byte value read at an offset. -/
theorem bytes32_decode_drop (h : offset + 32 ≤ input.length) :
    ∃ b, bytes32.decode (input.drop offset) = some (b, input.drop (offset + 32)) ∧
      Bytes32.ofList? ((input.drop offset).take 32) = some b := by
  have hlen : ((input.drop offset).take 32).length = 32 := by simp; omega
  refine ⟨⟨_, hlen⟩, ?_, dif_pos hlen⟩
  change ((bytes 32).decode (input.drop offset)).bind _ = _
  rw [bytes_decode_drop h]
  simp [Bytes32.ofList?, hlen]

/-- The first value of a pair that was read, and where the second was read. -/
theorem read_pair {c : Codec α} {d : Codec β} {middle : List UInt8} {a : α} {p : α × β}
    (h : (c.pair d).decode input = some (p, rest)) (hc : c.decode input = some (a, middle)) :
    p.1 = a ∧ d.decode middle = some (p.2, rest) := by
  change (c.decode input).bind _ = _ at h
  rw [hc] at h
  obtain ⟨⟨b, rest'⟩, hd, heq⟩ := Option.map_eq_some_iff.1 h
  cases heq
  exact ⟨rfl, hd⟩

/-- A record that was read, as the tuple of its fields. -/
theorem read_iso {c : Codec α} {e : α ≃ β} {b : β} (h : (c.iso e).decode input = some (b, rest)) :
    c.decode input = some (e.symm b, rest) := by
  obtain ⟨⟨a, rest'⟩, hread, hmap⟩ := Option.bind_eq_some_iff.1 h
  obtain ⟨b', hb', heq⟩ := Option.map_eq_some_iff.1 hmap
  cases heq
  obtain rfl := Option.some.inj hb'
  rw [hread, Equiv.symm_apply_apply]

/-! ### Sizes -/

/-- Every value is written in a number of bytes. -/
def Sized (c : Codec α) (size : ℕ) : Prop := ∀ a, c.Valid a → (c.encode a).length = size

/-- `bytes n` takes `n` bytes. -/
theorem sized_bytes (n : ℕ) : (bytes n).Sized n := fun _ h => h

/-- An integer takes its width. -/
theorem sized_uint (width : ℕ) : (uint width).Sized width := fun n _ => length_leBytes width n

/-- `int64` takes eight bytes. -/
theorem sized_int64 : int64.Sized 8 := fun x _ => length_leBytes 8 (i64Bits x)

/-- `bytes32` takes 32 bytes. -/
theorem sized_bytes32 : bytes32.Sized 32 := fun b _ => b.length_eq

/-- Sizes of a pair add. -/
theorem Sized.pair {c : Codec α} {d : Codec β} {m : ℕ} (hc : c.Sized m) (hd : d.Sized n) :
    (c.pair d).Sized (m + n) := fun p hp => by
  change (c.encode p.1 ++ d.encode p.2).length = m + n
  rw [List.length_append, hc _ hp.1, hd _ hp.2]

/-- A list takes its items' size each. -/
theorem Sized.length_encodeAll {c : Codec α} (hc : c.Sized n) {as : List α}
    (h : ∀ a ∈ as, c.Valid a) : (c.encodeAll as).length = n * as.length := by
  induction as with
  | nil => rfl
  | cons a as ih =>
    rw [encodeAll, List.flatMap_cons, List.length_append, hc a (h a (by simp)), List.length_cons]
    rw [encodeAll] at ih
    rw [ih fun b hb => h b (by simp [hb])]
    ring

/-- **Without a count in front, the values are fixed by the bytes and their number.** -/
theorem encodeAll_append_inj (c : Codec α) {as bs : List α} {rest' : List UInt8}
    (has : ∀ a ∈ as, c.Valid a) (hbs : ∀ b ∈ bs, c.Valid b) (hlen : as.length = bs.length)
    (h : c.encodeAll as ++ rest = c.encodeAll bs ++ rest') : as = bs ∧ rest = rest' := by
  have hread := c.decodeMany_encodeAll as rest has
  rw [h, hlen, c.decodeMany_encodeAll bs rest' hbs] at hread
  cases hread
  exact ⟨rfl, rfl⟩

end Codec
end Lib
end Subly402
