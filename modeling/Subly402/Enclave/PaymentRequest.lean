/-
# What a payment request has to prove

The checks of `post_verify` in `enclave/src/handlers.rs` on the request itself, up to
where it looks at the vault: the payment details are those whose hash the payload has,
they say what the payload says, and the request hash is that of the request and the
details.  The client's signature, the times and the provider's authentication only
refuse requests, and are not here.
-/

import Subly402.Lib.Json
import Subly402.Lib.Result
import Subly402.Enclave.Handlers

namespace Subly402

open Lib

/-- `RequestContext`. -/
structure RequestContext where
  method : String
  origin : String
  pathAndQuery : String
  bodySha256 : String

/-- `PaymentPayload`, with the fields that these checks read. -/
structure PaymentPayload where
  scheme : String
  paymentId : String
  client : String
  vault : String
  providerId : String
  payTo : String
  network : String
  assetMint : String
  amount : String
  requestHash : String
  paymentDetailsHash : String

/-- The body of a `/verify` request. -/
structure PaymentRequest where
  payload : PaymentPayload
  paymentDetails : Option Json
  requestContext : RequestContext

/-- `payment_details_str`. -/
def paymentDetailsStr (details : Json) (path : List String) : Except EnclaveError String := do
  let value ← path.foldlM (fun current key => okOrElse (current.get key) .invalidPaymentDetails)
    details
  okOrElse value.asStr .invalidPaymentDetails

/-- `validate_payment_details_match_payload`. -/
def validatePaymentDetailsMatchPayload (details : Json) (payload : PaymentPayload) :
    Except EnclaveError Unit := do
  refuseIf ((← paymentDetailsStr details ["providerId"]) ≠ payload.providerId) .providerIdMismatch
  refuseIf ((← paymentDetailsStr details ["payTo"]) ≠ payload.payTo) .payToMismatch
  refuseIf ((← paymentDetailsStr details ["network"]) ≠ payload.network) .networkMismatch
  refuseIf ((← paymentDetailsStr details ["asset", "mint"]) ≠ payload.assetMint) .assetMintMismatch
  refuseIf ((← paymentDetailsStr details ["amount"]) ≠ payload.amount) .invalidPaymentDetails
  refuseIf ((← paymentDetailsStr details ["vault", "config"]) ≠ payload.vault) .vaultNotActive

/-- `compute_payment_details_hash`. -/
def computePaymentDetailsHash (env : Env) (details : Json) : Bytes32 :=
  env.curve.sha256 (utf8 details.canonical)

/-- What the request hash is over. -/
def requestText (ctx : RequestContext) (paymentDetailsHash : String) : String :=
  "SUBLY402-SVM-V1-REQ\n" ++ ctx.method ++ "\n" ++ ctx.origin ++ "\n" ++ ctx.pathAndQuery ++ "\n"
    ++ ctx.bodySha256 ++ "\n" ++ paymentDetailsHash ++ "\n"

/-- `compute_request_hash`. -/
def computeRequestHash (env : Env) (ctx : RequestContext) (paymentDetailsHash : String) : Bytes32 :=
  env.curve.sha256 (utf8 (requestText ctx paymentDetailsHash))

/-- `str::parse` for a `u64`. -/
def parseU64 (text : String) : Option ℕ :=
  let digits := match text.toList with
    | '+' :: digits => digits
    | digits => digits
  (Json.decimal? digits).bind fun n => if n < u64Bound then some n else none

/-- `parse_verify_window_sec`. -/
def parseVerifyWindowSec (details : Json) : Except EnclaveError ℤ := do
  let verifyWindowSec ← okOrElse ((details.get "verifyWindowSec").bind Json.asI64)
    .verifyWindowSecRequired
  refuseIf (verifyWindowSec ≤ 0) .invalidVerifyWindowSec
  return verifyWindowSec

namespace PaymentRequest

/-- `post_verify` up to its look at the vault. -/
def check (env : Env) (vaultConfig : Pubkey) (req : PaymentRequest) :
    Except EnclaveError Handlers.VerifyRequest := do
  let payload := req.payload
  let details ← okOrElse req.paymentDetails .paymentDetailsRequired
  refuseIf (payload.scheme ≠ "subly402-svm-v1") .invalidScheme
  refuseIf ((details.get "scheme").bind Json.asStr ≠ some "subly402-svm-v1") .invalidScheme
  let computedHash := computePaymentDetailsHash env details
  let providedHash ← okOrElse (hexDecode payload.paymentDetailsHash) .paymentDetailsHashMismatch
  refuseIf (computedHash.bytes ≠ providedHash) .paymentDetailsHashMismatch
  validatePaymentDetailsMatchPayload details payload
  refuseIf (payload.vault ≠ env.pubkeyToString vaultConfig) .vaultNotActive
  let _ ← okOrElse (env.pubkeyFromStr payload.client) .invalidClientSignature
  let computedRequestHash := computeRequestHash env req.requestContext payload.paymentDetailsHash
  let providedRequestHash ← okOrElse (hexDecode payload.requestHash) .requestHashMismatch
  refuseIf (computedRequestHash.bytes ≠ providedRequestHash) .requestHashMismatch
  let amount ← okOrElse (parseU64 payload.amount) (.internal "Invalid amount")
  let verifyWindowSec ← parseVerifyWindowSec details
  return { paymentId := payload.paymentId, client := payload.client
           providerId := payload.providerId, amount, requestHash := computedRequestHash
           paymentDetailsHash := computedHash, verifyWindowSec }

/-- What a request that passed says. -/
structure Passes (env : Env) (req : PaymentRequest) (out : Handlers.VerifyRequest) (details : Json) :
    Prop where
  paymentId : out.paymentId = req.payload.paymentId
  client : out.client = req.payload.client
  providerId : out.providerId = req.payload.providerId
  parsed : parseU64 req.payload.amount = some out.amount
  requestText : hexDecode req.payload.requestHash = some out.requestHash.bytes
  provider : paymentDetailsStr details ["providerId"] = .ok out.providerId
  amount : (paymentDetailsStr details ["amount"]).toOption.bind parseU64 = some out.amount
  requestHash : out.requestHash
    = computeRequestHash env req.requestContext req.payload.paymentDetailsHash
  detailsText : hexDecode req.payload.paymentDetailsHash
    = some (computePaymentDetailsHash env details).bytes
  detailsHash : out.paymentDetailsHash = computePaymentDetailsHash env details

theorem passes {env : Env} {vaultConfig : Pubkey} {req : PaymentRequest}
    {out : Handlers.VerifyRequest} (h : req.check env vaultConfig = .ok out) :
    ∃ details, req.paymentDetails = some details ∧ Passes env req out details := by
  simp only [check, bind_eq_ok, refuseIf_eq_ok, okOrElse_eq_ok, ne_eq, not_not, exists_const] at h
  obtain ⟨details, hdetails, -, -, _, hprovided, hhash, _, hmatch, -, _, -, _, hprovidedRequest,
    hrequest, amount, hamount, _, -, ⟨⟩⟩ := h
  simp only [validatePaymentDetailsMatchPayload, bind_eq_ok, refuseIf_eq_ok, ne_eq, not_not,
    exists_const] at hmatch
  obtain ⟨_, hprovider, rfl, _, -, -, _, -, -, _, -, -, _, hamountText, rfl, -⟩ := hmatch
  refine ⟨details, hdetails, rfl, rfl, rfl, hamount, ?_, hprovider, ?_, rfl, ?_, rfl⟩
  · rw [hprovidedRequest, hrequest]
  · rw [hamountText]
    exact hamount
  · rw [hprovided, hhash]

end PaymentRequest

/-! ### What the hashes pin -/

/-- The last line of a text, when its length is known. -/
theorem last_line_injective {front front' line line' : String}
    (hlen : line.toList.length = line'.toList.length)
    (h : front ++ line ++ "\n" = front' ++ line' ++ "\n") : line = line' := by
  have hlist := congrArg String.toList h
  rw [String.toList_append, String.toList_append, String.toList_append, String.toList_append]
    at hlist
  have hfront := List.append_cancel_right hlist
  exact String.toList_inj.1 (List.append_inj_right' hfront hlen)

/-- The request text ends in the hash of the details. -/
theorem requestText_injective {ctx ctx' : RequestContext} {hash hash' : String}
    (hlen : hash.toList.length = hash'.toList.length)
    (h : requestText ctx hash = requestText ctx' hash') : hash = hash' := by
  unfold requestText at h
  exact last_line_injective hlen h

/-- SHA-256 does not collide on what the requests hash. -/
structure NoCollision (env : Env) (calls : List PaymentRequest) : Prop where
  requests : ∀ call ∈ calls, ∀ call' ∈ calls,
    computeRequestHash env call.requestContext call.payload.paymentDetailsHash
      = computeRequestHash env call'.requestContext call'.payload.paymentDetailsHash →
    requestText call.requestContext call.payload.paymentDetailsHash
      = requestText call'.requestContext call'.payload.paymentDetailsHash
  details : ∀ call ∈ calls, ∀ call' ∈ calls, ∀ d ∈ call.paymentDetails, ∀ d' ∈ call'.paymentDetails,
    computePaymentDetailsHash env d = computePaymentDetailsHash env d' → d.canonical = d'.canonical

/-- **One request hash, one provider, one amount, one set of details.** -/
theorem PaymentRequest.pinned {env : Env} {vaultConfig : Pubkey} {calls : List PaymentRequest}
    (hsha : NoCollision env calls) {call call' : PaymentRequest} (hcall : call ∈ calls)
    (hcall' : call' ∈ calls) {req req' : Handlers.VerifyRequest}
    (hreq : call.check env vaultConfig = .ok req) (hreq' : call'.check env vaultConfig = .ok req')
    (hhash : req.requestHash = req'.requestHash) :
    req.providerId = req'.providerId ∧ req.amount = req'.amount ∧
      req.paymentDetailsHash = req'.paymentDetailsHash := by
  obtain ⟨d, hd, hpass⟩ := PaymentRequest.passes hreq
  obtain ⟨d', hd', hpass'⟩ := PaymentRequest.passes hreq'
  have hlen : call.payload.paymentDetailsHash.toList.length
      = call'.payload.paymentDetailsHash.toList.length := by
    rw [length_of_hexPairs hpass.detailsText, length_of_hexPairs hpass'.detailsText,
      Bytes32.length_eq, Bytes32.length_eq]
  have htext := hsha.requests call hcall call' hcall'
    (by rw [← hpass.requestHash, ← hpass'.requestHash, hhash])
  have hdetails : computePaymentDetailsHash env d = computePaymentDetailsHash env d' := by
    have hsome := hpass.detailsText
    rw [requestText_injective hlen htext, hpass'.detailsText] at hsome
    exact (Bytes32.bytes_injective (Option.some.inj hsome)).symm
  have hd_eq : d = d' :=
    Json.canonical_injective (hsha.details call hcall call' hcall' d hd d' hd' hdetails)
  subst hd_eq
  refine ⟨?_, ?_, by rw [hpass.detailsHash, hpass'.detailsHash]⟩
  · have := hpass.provider
    rw [hpass'.provider] at this
    exact (Except.ok.inj this).symm
  · have := hpass.amount
    rw [hpass'.amount] at this
    exact (Option.some.inj this).symm

/-- A window of a minute. -/
def Shop.minute : Json := .scalar (.number ⟨['6', '0'], by simp, by simp [isNumberChar]⟩)

end Subly402
