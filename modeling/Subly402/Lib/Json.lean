/-
# Canonical JSON is unambiguous

JSON values as `serde_json` keeps them, and the text without blanks that a hash of a
value is taken over.  An object's entries stand in the order of their keys, as in
`serde_json`'s map, so writing them in that order is writing them sorted.
-/

import Subly402.Lib.Bytes

namespace Subly402
namespace Lib

/-! ### Strings -/

/-- How `serde_json` writes a character of a string. -/
def escape (c : Char) : List Char :=
  if c = '"' then ['\\', '"']
  else if c = '\\' then ['\\', '\\']
  else if c = '\x08' then ['\\', 'b']
  else if c = '\x09' then ['\\', 't']
  else if c = '\x0a' then ['\\', 'n']
  else if c = '\x0c' then ['\\', 'f']
  else if c = '\x0d' then ['\\', 'r']
  else if c.toNat < 32 then ['\\', 'u', '0', '0', hexDigit (c.toNat / 16), hexDigit (c.toNat % 16)]
  else [c]

/-- Read one character of a string back. -/
def unescape : List Char → Option (Char × List Char)
  | '\\' :: 'u' :: '0' :: '0' :: hi :: lo :: t => do
    let h ← hexValue hi
    let l ← hexValue lo
    return (Char.ofNat (16 * h + l), t)
  | '\\' :: 'b' :: t => some ('\x08', t)
  | '\\' :: 't' :: t => some ('\x09', t)
  | '\\' :: 'n' :: t => some ('\x0a', t)
  | '\\' :: 'f' :: t => some ('\x0c', t)
  | '\\' :: 'r' :: t => some ('\x0d', t)
  | '\\' :: c :: t => some (c, t)
  | c :: t => some (c, t)
  | [] => none

/-- An escape is read back. -/
theorem unescape_escape (c : Char) (t : List Char) : unescape (escape c ++ t) = some (c, t) := by
  by_cases hcontrol : c.toNat < 32
  · have hc : c = Char.ofNat c.toNat := (Char.ofNat_toNat c).symm
    rw [hc]
    generalize c.toNat = n at hcontrol
    interval_cases n <;> rfl
  · unfold escape
    have hne (d : Char) (hd : d.toNat < 32) : c ≠ d := fun h => hcontrol (h ▸ hd)
    rw [if_neg (hne '\x08' (by decide)), if_neg (hne '\x09' (by decide)),
      if_neg (hne '\x0a' (by decide)), if_neg (hne '\x0c' (by decide)),
      if_neg (hne '\x0d' (by decide)), if_neg hcontrol]
    split
    · next h => rw [h]; rfl
    · split
      · next h => rw [h]; rfl
      · next h => simp [unescape, h]

/-- No character is written with a quote in front. -/
theorem escape_ne_quote (c : Char) (t t' : List Char) : escape c ++ t ≠ '"' :: t' := by
  intro h
  unfold escape at h
  split_ifs at h <;> simp_all

/-- The characters of a string as they are written. -/
def escapeAll (s : List Char) : List Char := s.flatMap escape

/-- Escaped texts up to their quote are told apart. -/
theorem escapeAll_inj {s s' t t' : List Char}
    (h : escapeAll s ++ '"' :: t = escapeAll s' ++ '"' :: t') : s = s' ∧ t = t' := by
  induction s generalizing s' with
  | nil =>
    cases s' with
    | nil => simpa [escapeAll] using h
    | cons c' s' =>
      rw [escapeAll, escapeAll, List.flatMap_nil, List.flatMap_cons, List.append_assoc] at h
      exact (escape_ne_quote c' _ _ h.symm).elim
  | cons c s ih =>
    cases s' with
    | nil =>
      rw [escapeAll, escapeAll, List.flatMap_nil, List.flatMap_cons, List.append_assoc] at h
      exact (escape_ne_quote c _ _ h).elim
    | cons c' s' =>
      rw [escapeAll, escapeAll, List.flatMap_cons, List.flatMap_cons, List.append_assoc,
        List.append_assoc] at h
      have hread := congrArg unescape h
      rw [unescape_escape, unescape_escape] at hread
      simp only [Option.some.injEq, Prod.mk.injEq] at hread
      obtain ⟨hs, ht⟩ := ih hread.2
      exact ⟨by rw [hread.1, hs], ht⟩

/-- A string as it is written. -/
def quote (s : String) : List Char := '"' :: (escapeAll s.toList ++ ['"'])

/-- Quoted texts are told apart, whatever follows. -/
theorem quote_inj {s s' : String} {t t' : List Char} (h : quote s ++ t = quote s' ++ t') :
    s = s' ∧ t = t' := by
  simp only [quote, List.cons_append, List.append_assoc, List.nil_append, List.cons.injEq,
    true_and] at h
  obtain ⟨hs, ht⟩ := escapeAll_inj h
  exact ⟨String.toList_inj.1 hs, ht⟩

/-! ### Values -/

/-- A character of a number. -/
def isNumberChar (c : Char) : Bool :=
  c.isDigit || c == '-' || c == '+' || c == '.' || c == 'e' || c == 'E'

/-- A number, by its text. -/
structure JsonNumber where
  text : List Char
  nonempty : text ≠ []
  chars : ∀ c ∈ text, isNumberChar c

/-- A value without parts, strings apart. -/
inductive JsonScalar where
  | null
  | bool (b : Bool)
  | number (n : JsonNumber)

/-- `serde_json::Value`. -/
inductive Json where
  | scalar (a : JsonScalar)
  | string (s : String)
  | array (items : List Json)
  | object (entries : List (String × Json))

/-- A character that can stand in a scalar. -/
def isScalarChar (c : Char) : Bool := c.isAlphanum || c == '-' || c == '+' || c == '.'

namespace JsonScalar

def text : JsonScalar → List Char
  | null => ['n', 'u', 'l', 'l']
  | bool true => ['t', 'r', 'u', 'e']
  | bool false => ['f', 'a', 'l', 's', 'e']
  | number n => n.text

/-- A scalar's text has scalar characters only. -/
theorem text_chars (a : JsonScalar) : ∀ c ∈ a.text, isScalarChar c := by
  match a with
  | null => exact List.all_eq_true.1 rfl
  | bool true => exact List.all_eq_true.1 rfl
  | bool false => exact List.all_eq_true.1 rfl
  | number n =>
    intro c hc
    have := n.chars c hc
    simp only [isNumberChar, Bool.or_eq_true, beq_iff_eq] at this
    rcases this with ((((h | rfl) | rfl) | rfl) | rfl) | rfl
    · simp [isScalarChar, Char.isAlphanum, h]
    all_goals decide

/-- A scalar's text is not empty. -/
theorem text_ne_nil (a : JsonScalar) : a.text ≠ [] := by
  match a with
  | null => simp [text]
  | bool true => simp [text]
  | bool false => simp [text]
  | number n => exact n.nonempty

/-- The first letter of a scalar that is not a number is not a number's. -/
theorem text_ne_number {l : List Char} {c : Char} (hc : isNumberChar c = false) (n : JsonNumber) :
    c :: l ≠ n.text := fun h => by
  have := n.chars c (h ▸ List.mem_cons_self)
  simp [hc] at this

/-- A scalar is its text. -/
theorem text_injective {a a' : JsonScalar} (h : a.text = a'.text) : a = a' := by
  match a, a' with
  | null, null => rfl
  | bool true, bool true => rfl
  | bool false, bool false => rfl
  | number ⟨_, _, _⟩, number ⟨_, _, _⟩ => cases h; rfl
  | null, number n => exact (text_ne_number (by decide) n h).elim
  | bool true, number n => exact (text_ne_number (by decide) n h).elim
  | bool false, number n => exact (text_ne_number (by decide) n h).elim
  | number n, null => exact (text_ne_number (by decide) n h.symm).elim
  | number n, bool true => exact (text_ne_number (by decide) n h.symm).elim
  | number n, bool false => exact (text_ne_number (by decide) n h.symm).elim
  | null, bool true => simp [text] at h
  | null, bool false => simp [text] at h
  | bool true, null => simp [text] at h
  | bool false, null => simp [text] at h
  | bool true, bool false => simp [text] at h
  | bool false, bool true => simp [text] at h

end JsonScalar

/-- No scalar goes on here. -/
def Stops (t : List Char) : Prop := ∀ c ∈ t.head?, isScalarChar c = false

/-- A text that starts otherwise stops a scalar. -/
theorem stops_cons {c : Char} (h : isScalarChar c = false) (t : List Char) : Stops (c :: t) := by
  simpa [Stops] using h

/-- Runs of scalar characters end where they stop. -/
theorem scalar_chars_inj {l l' t t' : List Char} (hl : ∀ c ∈ l, isScalarChar c)
    (hl' : ∀ c ∈ l', isScalarChar c) (ht : Stops t) (ht' : Stops t') (h : l ++ t = l' ++ t') :
    l = l' ∧ t = t' := by
  induction l generalizing l' with
  | nil =>
    cases l' with
    | nil => exact ⟨rfl, h⟩
    | cons c l' =>
      have hc := ht c (by rw [show t = _ from h]; simp)
      simp [hl' c (by simp)] at hc
  | cons c l ih =>
    cases l' with
    | nil =>
      have hc := ht' c (by rw [← show _ = t' from h]; simp)
      simp [hl c (by simp)] at hc
    | cons c' l' =>
      simp only [List.cons_append, List.cons.injEq] at h
      obtain ⟨hrest, ht⟩ := ih (fun c hc => hl c (by simp [hc])) (fun c hc => hl' c (by simp [hc])) h.2
      exact ⟨by rw [h.1, hrest], ht⟩

namespace Json

/-! ### The text -/

mutual

/-- The canonical text of a value. -/
def render : Json → List Char
  | .scalar a => a.text
  | .string s => quote s
  | .array [] => ['[', ']']
  | .array (v :: vs) => '[' :: (render v ++ (renderItems vs ++ [']']))
  | .object [] => ['\x7b', '\x7d']
  | .object ((k, v) :: es) => '\x7b' :: (quote k ++ ':' :: (render v ++ (renderEntries es ++ ['\x7d'])))

/-- The items after the first. -/
def renderItems : List Json → List Char
  | [] => []
  | v :: vs => ',' :: (render v ++ renderItems vs)

/-- The entries after the first. -/
def renderEntries : List (String × Json) → List Char
  | [] => []
  | (k, v) :: es => ',' :: (quote k ++ ':' :: (render v ++ renderEntries es))

end

/-- `canonical_json`. -/
def canonical (v : Json) : String := String.ofList v.render

/-- After an item a scalar stops. -/
theorem stops_items (vs : List Json) (t : List Char) : Stops (renderItems vs ++ ']' :: t) := by
  cases vs with
  | nil => exact stops_cons (by decide) _
  | cons v vs => exact stops_cons (by decide) _

/-- After an entry a scalar stops. -/
theorem stops_entries (es : List (String × Json)) (t : List Char) :
    Stops (renderEntries es ++ '\x7d' :: t) := by
  cases es with
  | nil => exact stops_cons (by decide) _
  | cons e es => exact stops_cons (by decide) _

/-- A scalar starts with none of the marks. -/
theorem scalar_ne {a : JsonScalar} {c : Char} {t t' : List Char} (hc : isScalarChar c = false)
    (h : a.text ++ t = c :: t') : False := by
  obtain ⟨d, l, hl⟩ := List.exists_cons_of_ne_nil a.text_ne_nil
  rw [hl, List.cons_append] at h
  have hd := a.text_chars d (by rw [hl]; simp)
  simp [(List.cons.inj h).1, hc] at hd

/-- No value starts with a closing bracket. -/
theorem render_ne_close (v : Json) (t t' : List Char) : v.render ++ t ≠ ']' :: t' := by
  intro h
  match v with
  | .scalar a =>
    rw [render] at h
    exact scalar_ne (by decide) h
  | .string s => simp [render, quote] at h
  | .array [] => simp [render] at h
  | .array (w :: vs) => simp [render] at h
  | .object [] => simp [render] at h
  | .object ((k, w) :: es) => simp [render] at h

mutual

/-- **The text of a value ends where no scalar can go on, and says which value it is.** -/
theorem render_inj : ∀ (v v' : Json) {t t' : List Char}, Stops t → Stops t' →
    v.render ++ t = v'.render ++ t' → v = v' ∧ t = t'
  | .scalar a, .scalar a', t, t', ht, ht', h => by
    rw [render, render] at h
    obtain ⟨htext, hrest⟩ := scalar_chars_inj a.text_chars a'.text_chars ht ht' h
    exact ⟨by rw [JsonScalar.text_injective htext], hrest⟩
  | .string s, .string s', t, t', _, _, h => by
    rw [render, render] at h
    obtain ⟨hs, hrest⟩ := quote_inj h
    exact ⟨by rw [hs], hrest⟩
  | .array vs, .array vs', t, t', _, _, h => by
    match vs, vs' with
    | [], [] => exact ⟨rfl, by simpa [render] using h⟩
    | [], v' :: vs' =>
      simp only [render, List.cons_append, List.append_assoc, List.nil_append, List.cons.injEq,
        true_and] at h
      exact (render_ne_close v' _ _ h.symm).elim
    | v :: vs, [] =>
      simp only [render, List.cons_append, List.append_assoc, List.nil_append, List.cons.injEq,
        true_and] at h
      exact (render_ne_close v _ _ h).elim
    | v :: vs, v' :: vs' =>
      have hitems := @renderItems_inj (v :: vs) (v' :: vs') t t'
        (by simpa [render, renderItems] using h)
      exact hitems.imp_left (congrArg array)
  | .object es, .object es', t, t', _, _, h => by
    match es, es' with
    | [], [] => exact ⟨rfl, by simpa [render] using h⟩
    | [], (k', v') :: es' => simp [render, quote] at h
    | (k, v) :: es, [] => simp [render, quote] at h
    | (k, v) :: es, (k', v') :: es' =>
      have hentries := @renderEntries_inj ((k, v) :: es) ((k', v') :: es') t t'
        (by simpa [render, renderEntries] using h)
      exact hentries.imp_left (congrArg object)
  | .scalar a, .string s, t, t', _, _, h => by
    rw [render, render, quote, List.cons_append] at h
    exact (scalar_ne (by decide) h).elim
  | .string s, .scalar a, t, t', _, _, h => by
    rw [render, render, quote, List.cons_append] at h
    exact (scalar_ne (by decide) h.symm).elim
  | .scalar a, .array vs, t, t', _, _, h => by
    cases vs <;> simp only [render, List.cons_append] at h <;>
      exact (scalar_ne (by decide) h).elim
  | .array vs, .scalar a, t, t', _, _, h => by
    cases vs <;> simp only [render, List.cons_append] at h <;>
      exact (scalar_ne (by decide) h.symm).elim
  | .scalar a, .object es, t, t', _, _, h => by
    cases es <;> simp only [render, List.cons_append] at h <;>
      exact (scalar_ne (by decide) h).elim
  | .object es, .scalar a, t, t', _, _, h => by
    cases es <;> simp only [render, List.cons_append] at h <;>
      exact (scalar_ne (by decide) h.symm).elim
  | .string s, .array vs, t, t', _, _, h => by cases vs <;> simp [render, quote] at h
  | .array vs, .string s, t, t', _, _, h => by cases vs <;> simp [render, quote] at h
  | .string s, .object es, t, t', _, _, h => by cases es <;> simp [render, quote] at h
  | .object es, .string s, t, t', _, _, h => by cases es <;> simp [render, quote] at h
  | .array vs, .object es, t, t', _, _, h => by cases vs <;> cases es <;> simp [render] at h
  | .object es, .array vs, t, t', _, _, h => by cases vs <;> cases es <;> simp [render] at h

/-- Rendered items are told apart, by their own recursion. -/
theorem renderItems_inj : ∀ (vs vs' : List Json) {t t' : List Char},
    renderItems vs ++ ']' :: t = renderItems vs' ++ ']' :: t' → vs = vs' ∧ t = t'
  | [], [], _, _, h => ⟨rfl, by simpa [renderItems] using h⟩
  | [], v' :: vs', _, _, h => by simp [renderItems] at h
  | v :: vs, [], _, _, h => by simp [renderItems] at h
  | v :: vs, v' :: vs', t, t', h => by
    simp only [renderItems, List.cons_append, List.append_assoc, List.cons.injEq, true_and] at h
    obtain ⟨hv, hrest⟩ := render_inj v v' (stops_items vs t) (stops_items vs' t') h
    obtain ⟨hvs, hrest⟩ := renderItems_inj vs vs' hrest
    exact ⟨by rw [hv, hvs], hrest⟩

/-- Rendered entries are told apart, by their own recursion. -/
theorem renderEntries_inj : ∀ (es es' : List (String × Json)) {t t' : List Char},
    renderEntries es ++ '\x7d' :: t = renderEntries es' ++ '\x7d' :: t' → es = es' ∧ t = t'
  | [], [], _, _, h => ⟨rfl, by simpa [renderEntries] using h⟩
  | [], (k', v') :: es', _, _, h => by simp [renderEntries] at h
  | (k, v) :: es, [], _, _, h => by simp [renderEntries] at h
  | (k, v) :: es, (k', v') :: es', t, t', h => by
    simp only [renderEntries, List.cons_append, List.append_assoc, List.cons.injEq, true_and] at h
    obtain ⟨hk, hrest⟩ := quote_inj h
    simp only [List.cons.injEq, true_and] at hrest
    obtain ⟨hv, hrest⟩ := render_inj v v' (stops_entries es t) (stops_entries es' t') hrest
    obtain ⟨hes, hrest⟩ := renderEntries_inj es es' hrest
    exact ⟨by rw [hk, hv, hes], hrest⟩

end

/-- **Two values with one text are one value.** -/
theorem canonical_injective : Function.Injective canonical := fun v v' h => by
  have hnil : Stops [] := by simp [Stops]
  refine (render_inj v v' hnil hnil ?_).1
  rw [List.append_nil, List.append_nil]
  exact String.ofList_injective h

/-- Bytes that begin with those of a text are of a text that begins with it. -/
theorem isPrefix_of_utf8 {cs ds : List Char} {rest : List UInt8}
    (h : utf8 (String.ofList cs) = utf8 (String.ofList ds) ++ rest) : ds <+: cs := by
  simp only [utf8_ofList] at h
  induction ds generalizing cs with
  | nil => exact List.nil_prefix
  | cons d ds ih =>
    cases cs with
    | nil =>
      have hlength := congrArg List.length h
      have hpos := d.utf8Size_pos
      simp at hlength
      omega
    | cons c cs =>
      simp only [List.flatMap_cons, List.append_assoc] at h
      have hfirst (c : Char) (l : List UInt8) :
          (String.utf8EncodeChar c ++ l).toByteArray.utf8DecodeChar? 0 = some c := by
        rw [List.toByteArray_append, ByteArray.utf8DecodeChar?_utf8EncodeChar_append]
      obtain rfl : c = d := by
        have := congrArg (fun l : List UInt8 => l.toByteArray.utf8DecodeChar? 0) h
        simpa only [hfirst, Option.some.injEq] using this
      exact (List.prefix_cons_inj c).2 (ih (List.append_cancel_left h))

/-- A part of an array is none. -/
theorem nil_of_render_array {vs vs' : List Json} {t : List Char}
    (h : (Json.array vs).render = (Json.array vs').render ++ t) : t = [] := by
  match vs, vs' with
  | [], [] => simpa [render] using h
  | [], v' :: vs' =>
    simp only [render, List.cons_append, List.append_assoc, List.cons.injEq, true_and] at h
    exact (render_ne_close v' _ _ h.symm).elim
  | v :: vs, [] =>
    simp only [render, List.cons_append, List.nil_append, List.cons.injEq, true_and] at h
    exact (render_ne_close v _ _ h).elim
  | v :: vs, v' :: vs' =>
    have hitems : renderItems (v :: vs) ++ [']'] = renderItems (v' :: vs') ++ ']' :: t := by
      simpa [render, renderItems] using h
    exact (renderItems_inj _ _ hitems).2.symm

/-! ### Fields -/

/-- The number that some decimal digits spell. -/
def decimal? (digits : List Char) : Option ℕ :=
  if digits ≠ [] ∧ digits.all Char.isDigit then
    some (digits.foldl (fun n c => 10 * n + (c.toNat - 48)) 0)
  else none

/-- `Value::get` with a key. -/
def get (v : Json) (key : String) : Option Json :=
  match v with
  | .object entries => (entries.find? fun e => e.1 = key).map (·.2)
  | _ => none

/-- `Value::as_str`. -/
def asStr : Json → Option String
  | .string s => some s
  | _ => none

/-- `Value::as_i64`. -/
def asI64 : Json → Option ℤ
  | .scalar (.number n) =>
    match n.text with
    | '-' :: digits => (decimal? digits).bind fun k =>
        if 0 < k ∧ k ≤ 2 ^ 63 then some (-k : ℤ) else none
    | digits => (decimal? digits).bind fun k => if k < 2 ^ 63 then some (k : ℤ) else none
  | _ => none

end Json

end Lib
end Subly402
