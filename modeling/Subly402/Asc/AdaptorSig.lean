/-
# Adaptor signatures

`enclave/src/adaptor_sig.rs` over an arbitrary curve, with the message it signs
(`build_asc_payment_message` of the program's `asc_claim.rs`) and the key stream of
`asc_manager.rs`.
-/

import Subly402.Vault.State

namespace Subly402

open Lib

/-- The curve and the hash functions. -/
structure Curve where
  Point : Type
  Scalar : Type
  [pointGroup : AddCommGroup Point]
  [scalarRing : CommRing Scalar]
  [scalarAction : SMul Scalar Point]
  [pointDecidableEq : DecidableEq Point]
  basepoint : Point
  compress : Point → Bytes32
  decompress : Bytes32 → Option Point
  scalarToBytes : Scalar → Bytes32
  scalarFromCanonicalBytes : Bytes32 → Option Scalar
  scalarFromBytesModOrder : Bytes32 → Scalar
  sha256 : List UInt8 → Bytes32
  sha512 : List UInt8 → Bytes32 × Bytes32
  sha512Scalar : List UInt8 → Scalar

attribute [instance] Curve.pointGroup Curve.scalarRing Curve.scalarAction Curve.pointDecidableEq

/-- `AdaptedSignature`, `(R, s)`. -/
structure AdaptedSignature where
  rBytes : Bytes32
  sBytes : Bytes32
deriving DecidableEq

namespace Curve

variable (curve : Curve)

/-- `challenge_hash`, `H(R ‖ A ‖ m)` as a scalar. -/
def challengeHash (rBytes pkBytes : Bytes32) (message : List UInt8) : curve.Scalar :=
  curve.sha512Scalar (rBytes.bytes ++ pkBytes.bytes ++ message)

/-- The clamping of `expand_secret_key`: three low bits and the highest one are cleared, the
second highest is set. -/
def clamp (b : Bytes32) : Bytes32 :=
  ⟨(b.bytes.modify 0 (· &&& 248)).modify 31 fun x => x &&& 127 ||| 64, by simp [b.length_eq]⟩

/-- `expand_secret_key`: the secret scalar, and the other half of the hash. -/
def expandSecretKey (secretKey : Bytes32) : curve.Scalar × Bytes32 :=
  let hash := curve.sha512 secretKey.bytes
  (curve.scalarFromBytesModOrder (clamp hash.1), hash.2)

/-- The public key of a secret key. -/
def publicKey (secretKey : Bytes32) : Bytes32 :=
  curve.compress ((curve.expandSecretKey secretKey).1 • curve.basepoint)

/-- `derive_nonce`. -/
def deriveNonce (half adaptorPoint : Bytes32) (message : List UInt8) : curve.Scalar :=
  curve.sha512Scalar (half.bytes ++ adaptorPoint.bytes ++ message)

/-- `pre_sign`: `R' = r·G`, `s' = r + H(R' + T ‖ pk ‖ m)·a`. -/
def preSign (secretKey : Bytes32) (message : List UInt8) (adaptorPoint : curve.Point) :
    AdaptorPreSignature :=
  let (a, half) := curve.expandSecretKey secretKey
  let pk := curve.compress (a • curve.basepoint)
  let r := curve.deriveNonce half (curve.compress adaptorPoint) message
  let rPrimePoint := r • curve.basepoint
  let c := curve.challengeHash (curve.compress (rPrimePoint + adaptorPoint)) pk message
  { rPrime := curve.compress rPrimePoint, sPrime := curve.scalarToBytes (r + c * a) }

/-- `pre_verify`: `s'·G = R' + H(R' + T ‖ pk ‖ m)·pk`. -/
def preVerify (publicKey : Bytes32) (message : List UInt8) (adaptorPoint : curve.Point)
    (preSig : AdaptorPreSignature) : Bool :=
  match curve.decompress preSig.rPrime, curve.decompress publicKey,
      curve.scalarFromCanonicalBytes preSig.sPrime with
  | some rPrime, some pkPoint, some sPrime =>
    let c := curve.challengeHash (curve.compress (rPrime + adaptorPoint)) publicKey message
    decide (sPrime • curve.basepoint = rPrime + c • pkPoint)
  | _, _, _ => false

/-- `adapt`: `(R' + T, s' + t)`. -/
def adapt (preSig : AdaptorPreSignature) (adaptorSecret : curve.Scalar)
    (adaptorPoint : curve.Point) : Option AdaptedSignature := do
  let rPrime ← curve.decompress preSig.rPrime
  let sPrime ← curve.scalarFromCanonicalBytes preSig.sPrime
  return { rBytes := curve.compress (rPrime + adaptorPoint)
           sBytes := curve.scalarToBytes (sPrime + adaptorSecret) }

/-- `extract`: `s - s'`. -/
def extract (fullSig : AdaptedSignature) (preSig : AdaptorPreSignature) : Option curve.Scalar := do
  let s ← curve.scalarFromCanonicalBytes fullSig.sBytes
  let sPrime ← curve.scalarFromCanonicalBytes preSig.sPrime
  return s - sPrime

/-- `verify_adapted`: `s·G = R + H(R ‖ pk ‖ m)·pk`. -/
def verifyAdapted (publicKey : Bytes32) (message : List UInt8) (sig : AdaptedSignature) : Bool :=
  match curve.decompress sig.rBytes, curve.decompress publicKey,
      curve.scalarFromCanonicalBytes sig.sBytes with
  | some r, some pkPoint, some s =>
    let c := curve.challengeHash sig.rBytes publicKey message
    decide (s • curve.basepoint = r + c • pkPoint)
  | _, _, _ => false

/-- `build_payment_message`. -/
def buildPaymentMessage (channelId requestId : String) (amount : ℕ) (requestHash : Bytes32) :
    List UInt8 :=
  utf8 "subly402-asc-pay-v1" ++ (curve.sha256 (utf8 channelId)).bytes
    ++ (curve.sha256 (utf8 requestId)).bytes ++ leBytes 8 amount ++ requestHash.bytes

/-- Block `i` of the key stream of `decrypt_with_scalar`. -/
def keystreamBlock (keyBytes : Bytes32) (i : ℕ) : List UInt8 :=
  (curve.sha256 (utf8 "subly402-asc-enc-v1" ++ keyBytes.bytes ++ leBytes 8 i)).bytes

/-- `decrypt_with_scalar`. -/
def decryptWithScalar (ciphertext : List UInt8) (keyBytes : Bytes32) : List UInt8 :=
  ciphertext.zipIdx.map fun (byte, i) =>
    byte ^^^ ((curve.keystreamBlock keyBytes (i / 32)).getD (i % 32) 0)

end Curve

end Subly402
