/-
# JSON texts under two readers

A JSON text is read by two libraries and each value is written again with sorted keys.
The libraries agree on the grammar, on strings and on repeated keys (the last one counts);
they may differ on how a number is written again and on how keys are ordered.
-/

import Subly402.Lib.JsonCanon

namespace Subly402
namespace Lib

/-! ### Two orders of strings -/

/-- The bytes that Rust compares strings by. -/
def byBytes (s : String) : List ℕ := (s.toList.flatMap String.utf8EncodeChar).map UInt8.toNat

/-- The bytes of the UTF-8 form, as numbers. -/
theorem byBytes_eq (s : String) : byBytes s = (utf8 s).map UInt8.toNat := by
  rw [byBytes, ← utf8_ofList, String.ofList_toList]

/-- Byte order tells strings apart. -/
theorem byBytes_injective : Function.Injective byBytes := by
  intro s s' h
  rw [byBytes_eq, byBytes_eq] at h
  exact utf8_injective (List.map_injective_iff.2 (fun _ _ h => UInt8.toNat_inj.1 h) h)

/-- The UTF-16 units of a character. -/
def utf16Units (c : Char) : List ℕ :=
  if c.toNat < 0x10000 then [c.toNat]
  else [0xD800 + (c.toNat - 0x10000) / 0x400, 0xDC00 + (c.toNat - 0x10000) % 0x400]

/-- The units that JavaScript compares strings by. -/
def byUnits (s : String) : List ℕ := s.toList.flatMap utf16Units

/-- Every character has a unit. -/
theorem utf16Units_ne_nil (c : Char) : utf16Units c ≠ [] := by
  unfold utf16Units
  split <;> simp

/-- The units of a character say where it ends, since no character is a surrogate. -/
theorem utf16Units_append_inj {c c' : Char} {t t' : List ℕ}
    (h : utf16Units c ++ t = utf16Units c' ++ t') : c = c' ∧ t = t' := by
  have hc : c.toNat < 55296 ∨ 57343 < c.toNat ∧ c.toNat < 1114112 := c.valid
  have hc' : c'.toNat < 55296 ∨ 57343 < c'.toNat ∧ c'.toNat < 1114112 := c'.valid
  unfold utf16Units at h
  suffices hnat : c.toNat = c'.toNat ∧ t = t' from ⟨Char.toNat_inj.1 hnat.1, hnat.2⟩
  split_ifs at h with hlt hlt' hlt'
  · simpa using h
  · simp only [List.cons_append, List.cons.injEq] at h
    omega
  · simp only [List.cons_append, List.cons.injEq] at h
    omega
  · simp only [List.cons_append, List.cons.injEq, List.nil_append] at h
    exact ⟨by omega, h.2.2⟩

/-- Unit order tells strings apart. -/
theorem byUnits_injective : Function.Injective byUnits := by
  have hlist : ∀ cs cs' : List Char, cs.flatMap utf16Units = cs'.flatMap utf16Units → cs = cs' := by
    intro cs
    induction cs with
    | nil =>
      intro cs' h
      cases cs' with
      | nil => rfl
      | cons c' cs' => simp [utf16Units_ne_nil] at h
    | cons c cs ih =>
      intro cs' h
      cases cs' with
      | nil => simp [utf16Units_ne_nil] at h
      | cons c' cs' =>
        rw [List.flatMap_cons, List.flatMap_cons] at h
        obtain ⟨rfl, hrest⟩ := utf16Units_append_inj h
        rw [ih cs' hrest]
  exact fun s s' h => String.toList_inj.1 (hlist _ _ h)

/-- ASCII strings have one unit a byte. -/
theorem byBytes_eq_byUnits {s : String} (h : ∀ c ∈ s.toList, c.toNat < 128) :
    byBytes s = byUnits s := by
  rw [byBytes, byUnits, List.map_flatMap]
  refine List.flatMap_congr fun c hc => ?_
  have hlt := h c hc
  simp [String.utf8EncodeChar, utf16Units, show c.toNat ≤ 127 by omega,
    show c.toNat < 0x10000 by omega, show c.toNat % 256 = c.toNat by omega]

/-! ### Strings in JavaScript -/

/-- How `JSON.stringify` writes a character of a string. -/
def jsEscape (c : Char) : List Char :=
  if c = '\x08' then ['\\', 'b']
  else if c = '\x09' then ['\\', 't']
  else if c = '\x0a' then ['\\', 'n']
  else if c = '\x0c' then ['\\', 'f']
  else if c = '\x0d' then ['\\', 'r']
  else if c = '"' then ['\\', '"']
  else if c = '\\' then ['\\', '\\']
  else if c.toNat < 32 then
    ['\\', 'u', hexDigit (c.toNat / 4096 % 16), hexDigit (c.toNat / 256 % 16),
      hexDigit (c.toNat / 16 % 16), hexDigit (c.toNat % 16)]
  else [c]

/-- How `JSON.stringify` writes a string. -/
def jsQuote (s : String) : List Char := '"' :: (s.toList.flatMap jsEscape ++ ['"'])

/-- The two libraries escape the same characters in the same way. -/
theorem jsEscape_eq_escape (c : Char) : jsEscape c = escape c := by
  unfold jsEscape escape
  split_ifs <;> simp_all
  -- a control character has two zeros in front
  rw [show c.toNat / 4096 % 16 = 0 by omega, show c.toNat / 256 % 16 = 0 by omega,
    show c.toNat / 16 % 16 = c.toNat / 16 by omega]
  exact ⟨rfl, rfl, rfl⟩

/-- JavaScript quotes as `serde_json` does. -/
theorem jsQuote_eq_quote : jsQuote = quote := by
  funext s
  rw [jsQuote, quote, escapeAll, funext jsEscape_eq_escape]

/-! ### Texts -/

/-- A number as it stands in a text. -/
structure NumberLiteral where
  negative : Bool
  /-- The digits before the point; the grammar has no leading zeros. -/
  whole : ℕ
  /-- The digits after a point. -/
  fraction : Option (List (Fin 10))
  exponent : Option ℤ
deriving DecidableEq

namespace NumberLiteral

/-- The sign and the digits before the point. -/
def decimal (l : NumberLiteral) : JsonNumber where
  text := (if l.negative then ['-'] else []) ++ Nat.toDigits 10 l.whole
  nonempty := by simp
  chars c hc := by
    rcases List.mem_append.1 hc with hc | hc
    · have : c = '-' := by
        split at hc <;> simp_all
      rw [this]
      decide
    · simp [isNumberChar, Nat.isDigit_of_mem_toDigits (by norm_num) (by norm_num) hc]

/-- An integer that every double of its size is exact for. -/
def Safe (l : NumberLiteral) : Prop :=
  l.fraction = none ∧ l.exponent = none ∧ l.whole < 2 ^ 53 ∧ (l.negative → 0 < l.whole)

end NumberLiteral

/-- What the two libraries write for a number that they read from a text. -/
structure NumberTexts where
  /-- `serde_json`, which refuses a number that is out of range. -/
  serde : NumberLiteral → Option JsonNumber
  /-- `JSON.stringify` after `JSON.parse`: a number that is infinite is written as `null`. -/
  js : NumberLiteral → JsonScalar
  serde_safe : ∀ l, l.Safe → serde l = some l.decimal
  js_safe : ∀ l, l.Safe → js l = .number l.decimal

/-- The number that `serde_json` keeps. -/
def NumberTexts.serdeScalar (n : NumberTexts) (l : NumberLiteral) : JsonScalar :=
  match n.serde l with
  | some number => .number number
  | none => .null

/-- The syntax tree of a text.  Strings are without lone surrogates. -/
inductive JsonText where
  | null
  | bool (b : Bool)
  | number (l : NumberLiteral)
  | string (s : String)
  | array (items : List JsonText)
  | object (entries : List (String × JsonText))

namespace JsonText

mutual

/-- What a reader makes of a text. -/
def value (num : NumberLiteral → JsonScalar) : JsonText → Json
  | .null => .scalar .null
  | .bool b => .scalar (.bool b)
  | .number l => .scalar (num l)
  | .string s => .string s
  | .array ts => .array (valueItems num ts)
  | .object es => .object (valueEntries num es)

def valueItems (num : NumberLiteral → JsonScalar) : List JsonText → List Json
  | [] => []
  | t :: ts => value num t :: valueItems num ts

/-- Of the entries with one key the last counts. -/
def valueEntries (num : NumberLiteral → JsonScalar) : List (String × JsonText) → List (String × Json)
  | [] => []
  | (k, t) :: es =>
    if k ∈ es.map Prod.fst then valueEntries num es else (k, value num t) :: valueEntries num es

end

/-- A repeated key is kept once. -/
theorem map_fst_valueEntries (num : NumberLiteral → JsonScalar) (es : List (String × JsonText)) :
    (valueEntries num es).map Prod.fst = (es.map Prod.fst).dedup := by
  induction es with
  | nil => rfl
  | cons e es ih =>
    obtain ⟨k, t⟩ := e
    rw [valueEntries, List.map_cons]
    split
    · next hmem => rw [ih, List.dedup_cons_of_mem hmem]
    · next hmem => rw [List.map_cons, ih, List.dedup_cons_of_notMem hmem]

/-! ### Texts that two readers read alike -/

section Portable

variable {β γ : Type} [LinearOrder β] [LinearOrder γ]

mutual

/-- The numbers that count are written alike, and the keys of an object are ordered alike. -/
def Portable (num num' : NumberLiteral → JsonScalar) (rank : String → β) (rank' : String → γ) :
    JsonText → Prop
  | .null => True
  | .bool _ => True
  | .number l => num l = num' l
  | .string _ => True
  | .array ts => PortableItems num num' rank rank' ts
  | .object es =>
    PortableEntries num num' rank rank' es ∧ RanksAgree rank rank' (es.map Prod.fst)

def PortableItems (num num' : NumberLiteral → JsonScalar) (rank : String → β)
    (rank' : String → γ) : List JsonText → Prop
  | [] => True
  | t :: ts => Portable num num' rank rank' t ∧ PortableItems num num' rank rank' ts

/-- An entry whose key comes again does not count. -/
def PortableEntries (num num' : NumberLiteral → JsonScalar) (rank : String → β)
    (rank' : String → γ) : List (String × JsonText) → Prop
  | [] => True
  | (k, t) :: es =>
    (k ∈ es.map Prod.fst ∨ Portable num num' rank rank' t) ∧ PortableEntries num num' rank rank' es

end

variable {num num' : NumberLiteral → JsonScalar} {rank : String → β} {rank' : String → γ}

open Json (sortKeys sortItems sortEntries)

mutual

/-- **Two readers come to one sorted value exactly for the portable texts.** -/
theorem sortKeys_value_eq_iff (hrank : Function.Injective rank)
    (hrank' : Function.Injective rank') : ∀ t : JsonText,
    sortKeys rank (t.value num) = sortKeys rank' (t.value num') ↔ t.Portable num num' rank rank'
  | .null => by simp [value, Portable, sortKeys]
  | .bool b => by simp [value, Portable, sortKeys]
  | .number l => by simp [value, Portable, sortKeys]
  | .string s => by simp [value, Portable, sortKeys]
  | .array ts => by
    rw [value, value, Portable, sortKeys, sortKeys, Json.array.injEq]
    exact sortItems_value_eq_iff hrank hrank' ts
  | .object es => by
    have hkeys : ∀ (num : NumberLiteral → JsonScalar) (f : Json → Json),
        ((valueEntries num es).map (Prod.map id f)).map Prod.fst = (es.map Prod.fst).dedup := by
      intro num f
      rw [List.map_map, ← map_fst_valueEntries num]
      rfl
    have hagree : RanksAgree rank rank' (es.map Prod.fst).dedup ↔
        RanksAgree rank rank' (es.map Prod.fst) := by
      simp only [RanksAgree, List.mem_dedup]
    rw [value, value, Portable, sortKeys, sortKeys, Json.object.injEq, Json.sortEntries_eq_byRank,
      Json.sortEntries_eq_byRank, insertionSort_eq_iff hrank hrank' (by rw [hkeys, hkeys])
        (by rw [hkeys]; exact List.nodup_dedup _), hkeys, hagree,
      map_value_eq_iff hrank hrank' es]

/-- Items read alike exactly when portable. -/
theorem sortItems_value_eq_iff (hrank : Function.Injective rank)
    (hrank' : Function.Injective rank') : ∀ ts : List JsonText,
    sortItems rank (valueItems num ts) = sortItems rank' (valueItems num' ts) ↔
      PortableItems num num' rank rank' ts
  | [] => by simp [valueItems, PortableItems, sortItems]
  | t :: ts => by
    rw [valueItems, valueItems, PortableItems, sortItems, sortItems, List.cons.injEq,
      sortKeys_value_eq_iff hrank hrank' t, sortItems_value_eq_iff hrank hrank' ts]

/-- Entries read alike exactly when portable. -/
theorem map_value_eq_iff (hrank : Function.Injective rank) (hrank' : Function.Injective rank') :
    ∀ es : List (String × JsonText),
    (valueEntries num es).map (Prod.map id (sortKeys rank))
        = (valueEntries num' es).map (Prod.map id (sortKeys rank')) ↔
      PortableEntries num num' rank rank' es
  | [] => by simp [valueEntries, PortableEntries]
  | (k, t) :: es => by
    rw [valueEntries, valueEntries, PortableEntries]
    by_cases hmem : k ∈ es.map Prod.fst
    · rw [if_pos hmem, if_pos hmem, map_value_eq_iff hrank hrank' es]
      exact ⟨fun h => ⟨.inl hmem, h⟩, fun h => h.2⟩
    · rw [if_neg hmem, if_neg hmem, List.map_cons, List.map_cons, List.cons.injEq,
        map_value_eq_iff hrank hrank' es]
      have hhead : Prod.map id (sortKeys rank) (k, t.value num)
            = Prod.map id (sortKeys rank') (k, t.value num') ↔ t.Portable num num' rank rank' := by
        rw [← sortKeys_value_eq_iff hrank hrank' t]
        simp
      rw [hhead]
      simp [hmem]

end

end Portable

/-! ### `serde_json` and JavaScript -/

mutual

/-- Whether a reader takes every number of the text, those that do not count as well. -/
def accepted (ok : NumberLiteral → Bool) : JsonText → Bool
  | .null => true
  | .bool _ => true
  | .number l => ok l
  | .string _ => true
  | .array ts => acceptedItems ok ts
  | .object es => acceptedEntries ok es

def acceptedItems (ok : NumberLiteral → Bool) : List JsonText → Bool
  | [] => true
  | t :: ts => accepted ok t && acceptedItems ok ts

def acceptedEntries (ok : NumberLiteral → Bool) : List (String × JsonText) → Bool
  | [] => true
  | (_, t) :: es => accepted ok t && acceptedEntries ok es

end

mutual

/-- How deep arrays and objects are nested. -/
def depth : JsonText → ℕ
  | .null => 0
  | .bool _ => 0
  | .number _ => 0
  | .string _ => 0
  | .array ts => depthItems ts + 1
  | .object es => depthEntries es + 1

def depthItems : List JsonText → ℕ
  | [] => 0
  | t :: ts => max (depth t) (depthItems ts)

def depthEntries : List (String × JsonText) → ℕ
  | [] => 0
  | (_, t) :: es => max (depth t) (depthEntries es)

end

/-- `serde_json::from_str`: a map is kept in the order of the bytes of its keys. -/
def serdeParse (n : NumberTexts) (t : JsonText) : Option Json :=
  if t.accepted (fun l => (n.serde l).isSome) ∧ t.depth < 128 then
    some ((t.value n.serdeScalar).sortKeys byBytes)
  else none

/-- `JSON.parse`. -/
def jsonParse (n : NumberTexts) (t : JsonText) : Json := t.value n.js

/-- The text means the same to both libraries, with keys sorted as each sorts strings. -/
abbrev PortableFor (n : NumberTexts) (t : JsonText) : Prop :=
  t.Portable n.serdeScalar n.js byBytes byUnits

mutual

/-- Numbers are integers of less than 53 bits, and keys are ASCII. -/
def Plain : JsonText → Prop
  | .null => True
  | .bool _ => True
  | .number l => l.Safe
  | .string _ => True
  | .array ts => PlainItems ts
  | .object es => PlainEntries es

def PlainItems : List JsonText → Prop
  | [] => True
  | t :: ts => Plain t ∧ PlainItems ts

def PlainEntries : List (String × JsonText) → Prop
  | [] => True
  | (k, t) :: es => (∀ c ∈ k.toList, c.toNat < 128) ∧ Plain t ∧ PlainEntries es

end

/-- Both orders rank plain keys alike. -/
theorem PlainEntries.keys {es : List (String × JsonText)} (h : PlainEntries es) :
    ∀ k ∈ es.map Prod.fst, byBytes k = byUnits k := by
  induction es with
  | nil => simp
  | cons e es ih =>
    obtain ⟨k, t⟩ := e
    rw [PlainEntries] at h
    intro k' hk'
    rcases List.mem_cons.1 hk' with rfl | hk'
    · exact byBytes_eq_byUnits h.1
    · exact ih h.2.2 k' hk'

mutual

/-- **Plain texts are portable.** -/
theorem Plain.portable (n : NumberTexts) : ∀ {t : JsonText}, t.Plain → t.PortableFor n
  | .null, _ => by simp [Portable]
  | .bool _, _ => by simp [Portable]
  | .string _, _ => by simp [Portable]
  | .number l, h => by
    rw [Plain] at h
    rw [PortableFor, Portable, NumberTexts.serdeScalar, n.serde_safe l h, n.js_safe l h]
  | .array ts, h => by
    rw [Plain] at h
    rw [PortableFor, Portable]
    exact PlainItems.portable n h
  | .object es, h => by
    rw [Plain] at h
    rw [PortableFor, Portable]
    refine ⟨PlainEntries.portable n h, fun k hk k' hk' hreversed => ?_⟩
    rw [h.keys k hk, h.keys k' hk'] at hreversed
    exact lt_asymm hreversed.1 hreversed.2

/-- Plain items are portable. -/
theorem PlainItems.portable (n : NumberTexts) : ∀ {ts : List JsonText}, PlainItems ts →
    PortableItems n.serdeScalar n.js byBytes byUnits ts
  | [], _ => by simp [PortableItems]
  | t :: ts, h => by
    rw [PlainItems] at h
    rw [PortableItems]
    exact ⟨Plain.portable n h.1, PlainItems.portable n h.2⟩

/-- Plain entries are portable. -/
theorem PlainEntries.portable (n : NumberTexts) : ∀ {es : List (String × JsonText)},
    PlainEntries es → PortableEntries n.serdeScalar n.js byBytes byUnits es
  | [], _ => by simp [PortableEntries]
  | (k, t) :: es, h => by
    rw [PlainEntries] at h
    rw [PortableEntries]
    exact ⟨.inr (Plain.portable n h.2.1), PlainEntries.portable n h.2.2⟩

end

end JsonText

end Lib
end Subly402
