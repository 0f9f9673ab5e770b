import AirPlay2.Lib.Keystream
import AirPlay2.Lib.Runs
import AirPlay2.Pairing.Transient

/- HKP pairing (`airplay_hkp_pairing.cpp`). /pair-setup gives out the receiver's
   Ed25519 key; /pair-verify is a start, which agrees on a Curve25519 secret and signs
   both keys, and a finish, which checks the client's signature. What the OpenSSL
   functions compute is a parameter with no law assumed (`HkpBackend`); which calls of
   one message succeed, and what they draw, is an input (`HkpCalls`). A key is its raw
   bytes. A finish with a null server key reads through it, and returns nothing. -/
namespace AirPlay2
open Lib

abbrev RawKey := { d : Bytes // d.length = 32 }

structure HkpBackend where
  edPublic : RawKey → Bytes
  edSign : RawKey → Bytes → Bytes
  /-- of a public key, a message and a signature -/
  edVerify : Bytes → Bytes → Bytes → Bool
  xPublic : RawKey → Bytes
  xAgree : RawKey → Bytes → Bytes
  sha512 : Bytes → Bytes
  /-- the AES-128-CTR stream of a key and an IV -/
  keystream : Bytes → Bytes → ℕ → UInt8

/-- What the OpenSSL calls made for one message return: the keys drawn, if they are,
    and for each other call whether it succeeds. -/
structure HkpCalls where
  keygen : Option RawKey
  rawPublic : Bool := true
  random : Option RawKey
  newPrivateKey : Bool := true
  newPeerKey : Bool := true
  derive : Bool := true
  sign : Bool := true
  cipher : Bool := true
  newClientKey : Bool := true
  verify : Bool := true

/-- `AirPlayHkpPairing::Impl`; `none` is a null key. -/
structure HkpImpl where
  ed25519 : Option RawKey := none
  x25519 : Option RawKey := none
  edPublic : Bytes := []
  clientCurvePublic : Bytes := []
  clientEdPublic : Bytes := []
  shared : Bytes := []
  deriving DecidableEq

structure AirPlayHkpPairing where
  impl : HkpImpl := {}
  verified : Bool := false
  deriving DecidableEq

/-! ## The helpers -/

/-- `raw_public`: the buffer stays zero where the call fails. -/
def rawPublic (ok : Bool) (key : Bytes) : Bool × Bytes :=
  if ok then (true, key) else (false, List.replicate 32 0)

namespace HkpBackend

variable (c : HkpBackend)

/-- The key and the IV of the stream, from the shared secret. -/
def streamKey (shared : Bytes) : Bytes := (c.sha512 (ascii "Pair-Verify-AES-Key" ++ shared)).take 16

def streamIv (shared : Bytes) : Bytes := (c.sha512 (ascii "Pair-Verify-AES-IV" ++ shared)).take 16

/-- The stream both sides of a pair-verify use. -/
def pairStream (shared : Bytes) : ℕ → UInt8 :=
  c.keystream (c.streamKey shared) (c.streamIv shared)

def aes128CtrAtOffset (ok : Bool) (input key iv : Bytes) (offset : ℕ) : Option Bytes :=
  if !ok then none
  else
    -- encrypting zeros moves the context on
    let position :=
      if 0 < offset then (encryptUpdate (c.keystream key iv) 0 (List.replicate offset 0)).2 else 0
    some (encryptUpdate (c.keystream key iv) position input).1

/-- `x25519_shared`, into `shared`: left as it was without a peer key, emptied where
    the agreement fails. -/
def x25519Shared (e : HkpCalls) (key : RawKey) (peer shared : Bytes) : Bool × Bytes :=
  if !e.newPeerKey then (false, shared)
  else if !e.derive then (false, [])
  else (true, c.xAgree key peer)

theorem aes128CtrAtOffset_eq (input shared : Bytes) (offset : ℕ) :
    c.aes128CtrAtOffset true input (c.streamKey shared) (c.streamIv shared) offset =
      some (xorAt (c.pairStream shared) offset input) := by
  unfold aes128CtrAtOffset pairStream
  cases offset with
  | zero => rfl
  | succ n => simp [encryptUpdate]

end HkpBackend

/-! ## The messages -/

namespace AirPlayHkpPairing
open HkpBackend

variable (c : HkpBackend)

def handlePairSetup (e : HkpCalls) (s : AirPlayHkpPairing) (request : Bytes) :
    PairingReply × AirPlayHkpPairing :=
  if request.length ≠ 32 then
    ({ ok := false, error := "expected 32-byte HKP pair-setup request" }, s)
  else
    match s.impl.ed25519, e.keygen with
    | some _, _ => ({ ok := s.impl.edPublic.length == 32, response := s.impl.edPublic }, s)
    | none, none => ({ ok := false, error := "failed to generate Ed25519 identity key" }, s)
    | none, some key =>
      let edPublic := rawPublic e.rawPublic (c.edPublic key)
      let s := { s with impl := { s.impl with ed25519 := some key, edPublic := edPublic.2 } }
      if !edPublic.1 then ({ ok := false, error := "failed to generate Ed25519 identity key" }, s)
      else ({ ok := edPublic.2.length == 32, response := edPublic.2 }, s)

/-- A pair-verify with state byte 1. -/
def startVerify (e : HkpCalls) (s : AirPlayHkpPairing) (request : Bytes) :
    PairingReply × AirPlayHkpPairing :=
  -- the client's keys are taken over before anything is checked
  let impl := { s.impl with
    clientCurvePublic := substr request 4 32
    clientEdPublic := request.drop 36 }
  match impl.ed25519 with
  | none => ({ ok := false, error := "pair-setup identity is not established" }, { s with impl := impl })
  | some ed25519 =>
    let impl := { impl with x25519 := none }
    match e.random with
    | none => ({ ok := false, error := "failed to generate Curve25519 key" }, { s with impl := impl })
    | some seed =>
      if !e.newPrivateKey then
        ({ ok := false, error := "failed to create Curve25519 key" }, { s with impl := impl })
      else
        let impl := { impl with x25519 := some seed }
        let serverCurve := rawPublic e.rawPublic (c.xPublic seed)
        if !serverCurve.1 then
          ({ ok := false, error := "Curve25519 key agreement failed" }, { s with impl := impl })
        else
          let shared := c.x25519Shared e seed impl.clientCurvePublic impl.shared
          let impl := { impl with shared := shared.2 }
          if !shared.1 then
            ({ ok := false, error := "Curve25519 key agreement failed" }, { s with impl := impl })
          else if !e.sign then
            ({ ok := false, error := "Ed25519 signing failed" }, { s with impl := impl })
          else
            let signature := c.edSign ed25519 (serverCurve.2 ++ impl.clientCurvePublic)
            match c.aes128CtrAtOffset e.cipher signature (c.streamKey impl.shared)
                (c.streamIv impl.shared) 0 with
            | none => ({ ok := false, error := "AES-CTR encryption failed" }, { s with impl := impl })
            | some encrypted =>
              let response := serverCurve.2 ++ encrypted
              ({ ok := response.length == 96, response := response }, { s with impl := impl })

/-- A pair-verify with state byte 0. -/
def finishVerify (e : HkpCalls) (s : AirPlayHkpPairing) (request : Bytes) :
    Option (PairingReply × AirPlayHkpPairing) :=
  if s.impl.shared.isEmpty || s.impl.clientEdPublic.length != 32 then
    some ({ ok := false, error := "pair-verify state is not established" }, s)
  else
    match c.aes128CtrAtOffset e.cipher (request.drop 4) (c.streamKey s.impl.shared)
        (c.streamIv s.impl.shared) 64 with
    | none => some ({ ok := false, error := "AES-CTR decryption failed" }, s)
    | some signature =>
      if signature.length ≠ 64 then some ({ ok := false, error := "AES-CTR decryption failed" }, s)
      else
        match s.impl.x25519 with
        | none => none
        | some x25519 =>
          let serverCurve := rawPublic e.rawPublic (c.xPublic x25519)
          if !serverCurve.1 then
            some ({ ok := false, error := "server Curve25519 key unavailable" }, s)
          else if !e.newClientKey then
            some ({ ok := false, error := "invalid client Ed25519 key" }, s)
          else if !(e.verify && c.edVerify s.impl.clientEdPublic
              (s.impl.clientCurvePublic ++ serverCurve.2) signature) then
            some ({ ok := false, error := "client Ed25519 signature verification failed" }, s)
          else some ({ ok := true }, { s with verified := true })

def handlePairVerify (e : HkpCalls) (s : AirPlayHkpPairing) (request : Bytes) :
    Option (PairingReply × AirPlayHkpPairing) :=
  if request.length ≠ 68 then
    some ({ ok := false, error := "expected 68-byte HKP pair-verify request" }, s)
  else if request.head? = some 1 then some (startVerify c e s request)
  else if request.head? = some 0 then finishVerify c e s request
  else some ({ ok := false, error := "unsupported HKP pair-verify state" }, s)

end AirPlayHkpPairing

/-- A call on the object. -/
inductive HkpCall where
  | pairSetup (request : Bytes) (e : HkpCalls)
  | pairVerify (request : Bytes) (e : HkpCalls)

/-- The object, until a null key is read. -/
abbrev HkpProcess := Option AirPlayHkpPairing

namespace AirPlayHkpPairing

variable (c : HkpBackend)

def step (s : AirPlayHkpPairing) : HkpCall → HkpProcess
  | .pairSetup request e => some (handlePairSetup c e s request).2
  | .pairVerify request e => (handlePairVerify c e s request).map Prod.snd

end AirPlayHkpPairing

namespace HkpProcess

def step (c : HkpBackend) (p : HkpProcess) (call : HkpCall) : HkpProcess :=
  p.bind fun s => s.step c call

/-- A constructed object. -/
def start : HkpProcess := some {}

end HkpProcess

/-! ## What a call does -/

namespace HkpCall

/-- A pair-verify start, and the client's keys in it. -/
def starts : HkpCall → Bool
  | pairVerify request _ => request.length == 68 && request.head? == some 1
  | pairSetup _ _ => false

def finishes : HkpCall → Bool
  | pairVerify request _ => request.length == 68 && request.head? == some 0
  | pairSetup _ _ => false

theorem starts_of_finishes {call : HkpCall} (h : call.finishes = true) : call.starts = false := by
  cases call with
  | pairSetup request e => rfl
  | pairVerify request e =>
    simp only [finishes, starts, Bool.and_eq_true, beq_iff_eq] at h ⊢
    simp [h.2]

end HkpCall

namespace AirPlayHkpPairing
open HkpBackend

variable (c : HkpBackend)

/-- The signature a finish carries, as the object decrypts it. -/
def carried (s : AirPlayHkpPairing) (request : Bytes) : Bytes :=
  xorAt (c.pairStream s.impl.shared) 64 (request.drop 4)

/-- What a finish is accepted for: an exchange is under way, the calls succeed and the
    signature it carries verifies under the stored keys. -/
def accepts (e : HkpCalls) (s : AirPlayHkpPairing) (request : Bytes) : Bool :=
  !s.impl.shared.isEmpty && s.impl.clientEdPublic.length == 32 && e.cipher && e.rawPublic &&
    e.newClientKey && e.verify &&
    match s.impl.x25519 with
    | none => false
    | some x25519 =>
      c.edVerify s.impl.clientEdPublic (s.impl.clientCurvePublic ++ c.xPublic x25519)
        (carried c s request)

/-- A finish that returns is accepted and verifies the object, or changes nothing. -/
theorem finishVerify_cases {e : HkpCalls} {s : AirPlayHkpPairing} {request : Bytes}
    (hlen : request.length = 68) {x : PairingReply × AirPlayHkpPairing}
    (h : finishVerify c e s request = some x) :
    (accepts c e s request = true ∧ x.1.ok = true ∧ x.2 = { s with verified := true }) ∨
      (accepts c e s request = false ∧ x.1.ok = false ∧ x.2 = s) := by
  unfold finishVerify at h
  unfold accepts
  by_cases hstate : (s.impl.shared.isEmpty || s.impl.clientEdPublic.length != 32) = true
  · rw [if_pos hstate] at h
    obtain rfl := Option.some.inj h
    right
    refine ⟨?_, rfl, rfl⟩
    simp only [Bool.or_eq_true, bne_iff_ne] at hstate
    obtain hempty | hlength := hstate
    · simp [hempty]
    · simp [hlength]
  · rw [if_neg hstate] at h
    simp only [Bool.or_eq_true, bne_iff_ne, not_or, Bool.not_eq_true, ne_eq, not_not] at hstate
    obtain ⟨hshared, hed⟩ := hstate
    simp only [hshared, hed, Bool.not_false, beq_self_eq_true, Bool.true_and]
    cases hcipher : e.cipher with
    | false =>
      rw [hcipher] at h
      obtain rfl := Option.some.inj h
      exact Or.inr ⟨rfl, rfl, rfl⟩
    | true =>
      have hcarried : (carried c s request).length = 64 := by simp [carried, hlen]
      rw [hcipher, aes128CtrAtOffset_eq] at h
      change (if (carried c s request).length ≠ 64 then _ else _) = some x at h
      rw [if_neg (not_not.mpr hcarried)] at h
      cases hx : s.impl.x25519 with
      | none =>
        rw [hx] at h
        cases h
      | some x25519 =>
        rw [hx] at h
        cases hraw : e.rawPublic with
        | false =>
          simp only [hraw, rawPublic] at h
          obtain rfl := Option.some.inj h
          exact Or.inr ⟨rfl, rfl, rfl⟩
        | true =>
          cases hkey : e.newClientKey with
          | false =>
            simp only [hraw, hkey, rawPublic] at h
            obtain rfl := Option.some.inj h
            exact Or.inr ⟨rfl, rfl, rfl⟩
          | true =>
            simp only [hraw, hkey, rawPublic, if_true, Bool.not_true, Bool.false_eq_true,
              if_false] at h
            simp only [Bool.true_and]
            -- what is left is the signature
            split at h
            · rename_i hno
              rw [Bool.not_eq_true'] at hno
              obtain rfl := Option.some.inj h
              exact Or.inr ⟨hno, rfl, rfl⟩
            · rename_i hyes
              rw [Bool.not_eq_true, Bool.not_eq_false'] at hyes
              obtain rfl := Option.some.inj h
              exact Or.inl ⟨hyes, rfl, rfl⟩

theorem handlePairVerify_start {e : HkpCalls} {s : AirPlayHkpPairing} {request : Bytes}
    (h : (HkpCall.pairVerify request e).starts = true) :
    handlePairVerify c e s request = some (startVerify c e s request) := by
  simp only [HkpCall.starts, Bool.and_eq_true, beq_iff_eq] at h
  unfold handlePairVerify
  rw [if_neg (not_not.mpr h.1), if_pos h.2]

theorem handlePairVerify_finish {e : HkpCalls} {s : AirPlayHkpPairing} {request : Bytes}
    (h : (HkpCall.pairVerify request e).finishes = true) :
    request.length = 68 ∧ handlePairVerify c e s request = finishVerify c e s request := by
  simp only [HkpCall.finishes, Bool.and_eq_true, beq_iff_eq] at h
  obtain ⟨hlen, hstate⟩ := h
  refine ⟨hlen, ?_⟩
  unfold handlePairVerify
  rw [if_neg (not_not.mpr hlen), hstate, if_neg (by decide), if_pos rfl]

/-- A finish returns if there is a server key to read. -/
theorem finishVerify_some (e : HkpCalls) (request : Bytes) {s : AirPlayHkpPairing}
    {x25519 : RawKey} (hx : s.impl.x25519 = some x25519) :
    ∃ x, finishVerify c e s request = some x := by
  unfold finishVerify
  rw [hx]
  split
  · exact ⟨_, rfl⟩
  · split
    · exact ⟨_, rfl⟩
    · split
      · exact ⟨_, rfl⟩
      · dsimp only
        split
        · exact ⟨_, rfl⟩
        · split
          · exact ⟨_, rfl⟩
          · split <;> exact ⟨_, rfl⟩

variable {c} in
theorem accepts_parts {e : HkpCalls} {s : AirPlayHkpPairing} {request : Bytes}
    (h : accepts c e s request = true) : s.impl.shared ≠ [] ∧ ∃ x25519,
      s.impl.x25519 = some x25519 ∧ c.edVerify s.impl.clientEdPublic
        (s.impl.clientCurvePublic ++ c.xPublic x25519) (carried c s request) = true := by
  simp only [accepts, Bool.and_eq_true, Bool.not_eq_true', List.isEmpty_eq_false_iff] at h
  obtain ⟨⟨⟨⟨⟨⟨hshared, -⟩, -⟩, -⟩, -⟩, -⟩, hverify⟩ := h
  refine ⟨hshared, ?_⟩
  split at hverify
  · cases hverify
  · rename_i x25519 hx
    exact ⟨x25519, hx, hverify⟩

/-- A finish that is accepted for is answered so, and verifies the object. -/
theorem finish_of_accepts {e : HkpCalls} {s : AirPlayHkpPairing} {request : Bytes}
    (hfinishes : (HkpCall.pairVerify request e).finishes = true)
    (haccepts : accepts c e s request = true) :
    ∃ x, handlePairVerify c e s request = some x ∧ x.1.ok = true ∧
      x.2 = { s with verified := true } := by
  obtain ⟨-, x25519, hkey, -⟩ := accepts_parts haccepts
  obtain ⟨hlen, hfinish⟩ := handlePairVerify_finish c (s := s) hfinishes
  obtain ⟨x, hx⟩ := finishVerify_some c e request hkey
  refine ⟨x, hfinish.trans hx, ?_⟩
  obtain ⟨-, hok⟩ | ⟨hrefused, -⟩ := finishVerify_cases c hlen hx
  · exact hok
  · rw [haccepts] at hrefused
    cases hrefused

end AirPlayHkpPairing
end AirPlay2
