/-
# The canonical JSON of payment details in two languages

`canonical_json` (enclave, `handlers.rs`) and `canonicalJson` (client, `crypto.ts`) write a
JSON value without blanks and with sorted keys; the hash of the text is what a payment
signs as its details.  The enclave sorts keys as Rust orders strings, by UTF-8 bytes, the
client as JavaScript orders them, by UTF-16 units.
-/

import Subly402.Lib.JsonText
import Subly402.Enclave.PaymentRequest
import Subly402.Enclave.Run

namespace Subly402

open Lib

/-- `canonical_json`. -/
def canonicalJson (value : Json) : String := String.ofList (value.write quote byBytes)

namespace Sdk

/-- `canonicalJson` of the client. -/
def canonicalJson (value : Json) : String := String.ofList (value.write jsQuote byUnits)

end Sdk

/-- Sorting the keys of a value that `serde_json` read changes nothing. -/
theorem canonical_of_serdeParse {n : NumberTexts} {text : JsonText} {v : Json}
    (h : text.serdeParse n = some v) : v.canonical = canonicalJson v := by
  unfold JsonText.serdeParse at h
  split at h
  · cases h
    rw [canonicalJson, Json.write_eq_render, Json.sortKeys_sortKeys]
    rfl
  · cases h

/-- The two texts are equal when the sorted values are. -/
theorem canonicalJson_eq_iff {v w : Json} :
    canonicalJson v = Sdk.canonicalJson w ↔ v.sortKeys byBytes = w.sortKeys byUnits := by
  rw [canonicalJson, Sdk.canonicalJson, jsQuote_eq_quote]
  constructor
  · intro h
    exact Json.sortKeys_eq_of_write (String.ofList_injective h)
  · intro h
    rw [Json.write_eq_render, Json.write_eq_render, h]

/-- The texts of one JSON text agree exactly when it is portable. -/
theorem canonicalJson_parse_iff {n : NumberTexts} {text : JsonText} {v : Json}
    (h : text.serdeParse n = some v) :
    canonicalJson v = Sdk.canonicalJson (text.jsonParse n) ↔ text.PortableFor n := by
  unfold JsonText.serdeParse at h
  split at h
  · cases h
    rw [canonicalJson_eq_iff, Json.sortKeys_sortKeys, JsonText.jsonParse]
    exact JsonText.sortKeys_value_eq_iff byBytes_injective byUnits_injective text
  · cases h

/-- **Canonical JSON names its value, and is the same in both languages for portable texts only**;
for those the two sides hash the same payment details. -/
theorem canonical_json_agrees_iff (n : NumberTexts) :
    (∀ v v' : Json, canonicalJson v = canonicalJson v' → Json.SameUpToOrder v v') ∧
    (∀ text : JsonText,
      (∀ v, text.serdeParse n = some v →
        utf8 (canonicalJson v) = utf8 (Sdk.canonicalJson (text.jsonParse n))) ↔
      ((text.serdeParse n).isSome → text.PortableFor n)) ∧
    ∀ (env : Env) (text : JsonText) (v : Json), text.serdeParse n = some v → text.PortableFor n →
      computePaymentDetailsHash env v
        = env.curve.sha256 (utf8 (Sdk.canonicalJson (text.jsonParse n))) := by
  refine ⟨fun v v' h => Json.write_sameUpToOrder (String.ofList_injective h), fun text => ?_, ?_⟩
  · constructor
    · intro hall hsome
      obtain ⟨v, hv⟩ := Option.isSome_iff_exists.1 hsome
      exact (canonicalJson_parse_iff hv).1 (utf8_injective (hall v hv))
    · intro hportable v hv
      have hsome : (text.serdeParse n).isSome := by rw [hv]; rfl
      rw [(canonicalJson_parse_iff hv).2 (hportable hsome)]
  · intro env text v hv hportable
    rw [computePaymentDetailsHash, canonical_of_serdeParse hv,
      (canonicalJson_parse_iff hv).2 hportable]

/-! ### A text with a key in each of the two ranges -/

namespace Sdk.Sample

/-- Libraries that write integers as they stand. -/
def numbers : NumberTexts where
  serde l := some l.decimal
  js l := .number l.decimal
  serde_safe _ _ := rfl
  js_safe _ _ := rfl

/-- Details as a provider may send them. -/
def plainDetails : JsonText :=
  .object [("verifyWindowSec", .number ⟨false, 60, none, none⟩), ("amount", .string "1100")]

theorem plainDetails_plain : plainDetails.Plain := by
  simp [plainDetails, JsonText.Plain, JsonText.PlainEntries, NumberLiteral.Safe]

/-- Details whose keys are U+E000 and U+1F600. -/
def twoRanges : JsonText :=
  .object [(String.ofList [Char.ofNat 0xE000], .bool true),
    (String.ofList [Char.ofNat 0x1F600], .bool false)]

/-- The first two parts at values whose keys are in another order, the third at the plain
details. -/
theorem plain_details_agree :
    Json.SameUpToOrder (.object [("b", .string "1"), ("a", .string "2")])
      (.object [("a", .string "2"), ("b", .string "1")]) ∧
    (∀ v, plainDetails.serdeParse numbers = some v →
      utf8 (Subly402.canonicalJson v) = utf8 (Sdk.canonicalJson (plainDetails.jsonParse numbers))) ∧
    computePaymentDetailsHash Shop.world
        ((plainDetails.value numbers.serdeScalar).sortKeys byBytes)
      = Shop.world.curve.sha256 (utf8 (Sdk.canonicalJson (plainDetails.jsonParse numbers))) := by
  have hportable : plainDetails.PortableFor numbers := plainDetails_plain.portable numbers
  obtain ⟨hnames, hagree, hhash⟩ := canonical_json_agrees_iff numbers
  refine ⟨hnames _ _ (by decide +kernel), (hagree plainDetails).2 fun _ => hportable, ?_⟩
  exact hhash Shop.world plainDetails _ rfl hportable

/-- The two languages write one JSON text differently: the enclave puts U+E000 first, whose bytes
are smaller, the client U+1F600, whose first unit is smaller. -/
theorem two_ranges_differ :
    ∃ v, twoRanges.serdeParse numbers = some v ∧
      Subly402.canonicalJson v = "\x7b\"\ue000\":true,\"😀\":false\x7d" ∧
      Sdk.canonicalJson (twoRanges.jsonParse numbers)
        = "\x7b\"😀\":false,\"\ue000\":true\x7d" ∧
      utf8 (Subly402.canonicalJson v) ≠ utf8 (Sdk.canonicalJson (twoRanges.jsonParse numbers)) := by
  refine ⟨_, rfl, by decide +kernel, by decide +kernel, fun hsame => ?_⟩
  exact absurd (utf8_injective hsame) (by decide +kernel)

end Sdk.Sample

end Subly402
