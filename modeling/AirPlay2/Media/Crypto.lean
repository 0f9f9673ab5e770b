import AirPlay2.Media.Sdp

/- The key material an ANNOUNCE advertises (`crypto.cpp`, `crypto_session.cpp`). -/
namespace AirPlay2
open Lib

def hexValue (c : UInt8) : Option UInt8 :=
  if 48 ≤ c && c ≤ 57 then some (c - 48)
  else if 97 ≤ c && c ≤ 102 then some (10 + c - 97)
  else if 65 ≤ c && c ≤ 70 then some (10 + c - 65)
  else none

def decodeHexPairs : Bytes → Option Bytes
  | hi :: lo :: rest => do
    let hi ← hexValue hi
    let lo ← hexValue lo
    let rest ← decodeHexPairs rest
    some ((hi <<< 4 ||| lo) :: rest)
  | _ => some []

def decodeHex (text : Bytes) : Option Bytes :=
  if text = [] ∨ text.length % 2 = 1 then none else decodeHexPairs text

/-- The value of a character of the base64 `table`. -/
def base64Value (c : UInt8) : Option UInt32 :=
  if 65 ≤ c && c ≤ 90 then some (c - 65).toUInt32
  else if 97 ≤ c && c ≤ 122 then some ((c - 97).toUInt32 + 26)
  else if 48 ≤ c && c ≤ 57 then some ((c - 48).toUInt32 + 52)
  else if c = 43 then some 62
  else if c = 47 then some 63
  else none

/-- The loop of `decode_base64`. The accumulator is a 32-bit `int` of which only the
    low 14 bits are read, so its overflow is not seen. -/
def decodeBase64Loop (buffer : UInt32) (bits : ℕ) : Bytes → Option Bytes
  | [] => some []
  | c :: input =>
    if isspace c then decodeBase64Loop buffer bits input
    else if c = 61 then some []
    else
      match base64Value c with
      | none => none
      | some value =>
        let buffer := buffer <<< 6 ||| value
        if 8 ≤ bits + 6 then
          (decodeBase64Loop buffer (bits - 2) input).map
            ((buffer >>> UInt32.ofNat (bits - 2)).toUInt8 :: ·)
        else decodeBase64Loop buffer (bits + 6) input

def decodeBase64 (input : Bytes) : Option Bytes :=
  match decodeBase64Loop 0 0 input with
  | none => none
  | some out => if out = [] then none else some out

structure CryptoParameters where
  encryptedKey : Bytes := []
  iv : Bytes := []
  fingerprint : Bytes := []
  deriving DecidableEq

def CryptoParameters.valid (p : CryptoParameters) : Bool :=
  !p.encryptedKey.isEmpty && p.iv.length == 16

/-- The encrypted key: base64, or else hexadecimal; an absent one is empty. -/
def decodeKey (text : Bytes) : Option Bytes :=
  if text = [] then some [] else (decodeBase64 text).or (decodeHex text)

/-- The IV: hexadecimal, or else base64; an absent one is empty. -/
def decodeIv (text : Bytes) : Option Bytes :=
  if text = [] then some [] else (decodeHex text).or (decodeBase64 text)

/-- `extract_crypto_parameters`; `none` where it returns `false`. -/
def extractCryptoParameters (sdp : AirPlaySdp) : Option CryptoParameters :=
  match decodeKey sdp.rsaaeskey, decodeIv sdp.aesiv with
  | some encryptedKey, some iv =>
    let result : CryptoParameters :=
      { encryptedKey := encryptedKey, iv := iv, fingerprint := sdp.fingerprint }
    if result.valid then some result else none
  | _, _ => none

inductive CryptoMode where
  | none
  | legacySdp
  | pairedSession
  deriving DecidableEq

structure CryptoSession where
  mode : CryptoMode := .none
  configured : Bool := false
  parameters : CryptoParameters := {}
  deriving DecidableEq

namespace CryptoSession

def reset (_ : CryptoSession) : CryptoSession := {}

def configure (c : CryptoSession) (parameters : CryptoParameters) : Bool × CryptoSession :=
  let c := c.reset
  if !parameters.valid then (false, c)
  else (true, { c with parameters := parameters, mode := .legacySdp, configured := true })

/-- Parameters that could be extracted are accepted. -/
theorem configure_extracted {sdp : AirPlaySdp} {p : CryptoParameters}
    (h : extractCryptoParameters sdp = some p) (c : CryptoSession) : (c.configure p).1 = true := by
  have hvalid : p.valid = true := by
    unfold extractCryptoParameters at h
    split at h
    · simp only [Option.ite_none_right_eq_some, Option.some.injEq] at h
      obtain ⟨hv, rfl⟩ := h
      exact hv
    · simp at h
  simp [configure, hvalid]

end CryptoSession
end AirPlay2
