import AirPlay2.Lib.BigEndian
import AirPlay2.Pairing.Tlv

/- Transient pairing (`airplay_pairing.cpp`): the receiver's side of SRP over TLV8
   messages M1 to M4, with the fixed setup code. BIGNUM arithmetic is exact modular
   arithmetic on `ℕ`, SHA-512 is an arbitrary function to 64 bytes, and what the
   OpenSSL calls of one message return (allocations and random bytes) is an input.

   The handlers are written for an arbitrary modulus, generator and hash (`SrpGroup`);
   those of the source are `kN` and 5. `kN` is filled by reading 768 hexadecimal digits
   of a literal that has 503: the first 252 bytes come from the literal and its
   terminating zero, the other 132 from whatever memory follows. The model takes them as
   given by `SrpBackend`. -/
namespace AirPlay2
open Lib

/-- What the OpenSSL calls made for one message return: whether each allocation
    succeeds (`temporaries` for the ones freed again), and the random bytes drawn,
    if `RAND_bytes` succeeds. -/
structure OpenSsl where
  context : Bool := true
  allocN : Bool := true
  allocG : Bool := true
  allocSecret : Bool := true
  allocV : Bool := true
  allocB : Bool := true
  temporaries : Bool := true
  randomSalt : Option { d : Bytes // d.length = 16 }
  randomSecret : Option { d : Bytes // d.length = 256 }

/-- `AirPlayTransientPairing::Impl`; `none` is a null `BIGNUM`. -/
structure SrpImpl where
  N : Option ℕ := none
  g : Option ℕ := none
  b : Option ℕ := none
  v : Option ℕ := none
  B : Option ℕ := none
  salt : Bytes := []
  A : Bytes := []
  B_bytes : Bytes := []
  deriving DecidableEq

structure AirPlayTransientPairing where
  impl : SrpImpl := {}
  complete : Bool := false
  sharedSecret : Bytes := []
  deriving DecidableEq

/-- What `handle` returns and writes to `response` and `error`. -/
structure PairingReply where
  ok : Bool
  response : Bytes := []
  error : String := ""
  deriving DecidableEq

def AirPlayTransientPairing.reset (_ : AirPlayTransientPairing) : AirPlayTransientPairing := {}

/-- What a client computes from the salt and `B` it read. -/
structure AirPlayTransientPairing.Client where
  A : ℕ
  proof : Bytes
  sessionKey : Bytes
  serverProof : Bytes

/-! ## The handlers -/

/-- A modulus as the bytes `kN` holds, a generator and the hash function. -/
structure SrpGroup where
  kN : Bytes
  generator : ℕ
  sha512 : Bytes → Bytes
  modulus_pos : 0 < ofBytes kN
  sha512_length : ∀ d, (sha512 d).length = 64

namespace SrpGroup

variable (c : SrpGroup)

def modulus : ℕ := ofBytes c.kN

/-- `bn_pad`: `BN_bn2binpad` into as many zeroed bytes as `kN` has, which it leaves where the
    number does not fit. -/
def bnPad (n : ℕ) : Bytes :=
  if n < 256 ^ c.kN.length then toBytes c.kN.length n else List.replicate c.kN.length 0

/-- The generator padded to the length of the modulus. -/
def gp : Bytes := c.bnPad c.generator

/-- The private key `x` of the setup code under a salt. -/
def passwordKey (salt : Bytes) : ℕ :=
  ofBytes (c.sha512 (salt ++ c.sha512 (ascii "Pair-Setup:3939")))

/-- The multiplier `k`. -/
def multiplier : ℕ := ofBytes (c.sha512 (c.kN ++ c.gp))

/-- The scrambling parameter `u`. -/
def scrambler (A : ℕ) (B_bytes : Bytes) : ℕ := ofBytes (c.sha512 (c.bnPad A ++ B_bytes))

/-- The client's proof `M1` of the session key. -/
def clientProof (salt : Bytes) (A : ℕ) (B_bytes K : Bytes) : Bytes :=
  let xng := List.zipWith (· ^^^ ·) (c.sha512 c.kN) (c.sha512 c.gp)
  c.sha512 (xng ++ c.sha512 (ascii "Pair-Setup") ++ salt ++ c.bnPad A ++ B_bytes ++ K)

/-- The receiver's proof `M2`. -/
def serverProof (A : ℕ) (M1 K : Bytes) : Bytes := c.sha512 (c.bnPad A ++ M1 ++ K)

/-- The method of M1 is pair-setup. -/
def plainMethod (tlvs : List Tlv) : Bool :=
  match findTlv tlvs 0x00 with
  | some (m :: _) => m == 0
  | _ => false

/-- The flags of M1 ask for a transient pairing. -/
def transient (tlvs : List Tlv) : Bool :=
  match findTlv tlvs 0x13 with
  | some (f :: _) => f &&& 0x10 != 0
  | _ => false

/-- M1: check the parameters, draw salt and secret, answer with salt and `B`. -/
def handleM1 (e : OpenSsl) (s : AirPlayTransientPairing) (tlvs : List Tlv) :
    PairingReply × AirPlayTransientPairing :=
  if !plainMethod tlvs || !transient tlvs then
    ({ ok := true, response := [0x06, 1, 2, 0x07, 1, 6],
       error := "only transient pair-setup is supported" }, s)
  else
    let s := s.reset
    let impl : SrpImpl :=
      { N := if e.allocN then some c.modulus else none
        g := if e.allocG then some 0 else none
        b := if e.allocSecret then some 0 else none
        v := if e.allocV then some 0 else none
        B := if e.allocB then some 0 else none }
    if !(e.allocN && e.allocG && e.allocSecret && e.allocV && e.allocB) then
      ({ ok := false, error := "SRP allocation failed" }, { s with impl := impl })
    else
      let N := c.modulus
      let g := c.generator
      let impl := { impl with g := some g, salt := List.replicate 16 0 }
      match e.randomSalt with
      | none => ({ ok := false, error := "secure random generation failed" }, { s with impl := impl })
      | some salt =>
        let impl := { impl with salt := salt }
        let x := c.passwordKey salt
        if !e.temporaries then
          ({ ok := false, error := "SRP temporary allocation failed" }, { s with impl := impl })
        else
          let k := c.multiplier
          let v := g ^ x % N
          let impl := { impl with v := some v }
          match e.randomSecret with
          | none =>
            ({ ok := false, error := "secure random generation failed" }, { s with impl := impl })
          | some raw =>
            let b := ofBytes raw
            let gb := g ^ b % N
            let kv := k * v % N
            let B := (kv + gb) % N
            let impl := { impl with b := some b, B := some B, B_bytes := c.bnPad B }
            ({ ok := true
               response := encodeTlvs
                 [(6, [2]), (2, impl.salt), (3, impl.B_bytes), (0x13, [0x10])] },
              { s with impl := impl })

/-- M3: check the client's key and proof, answer with the receiver's proof. A null `N` or
    `b` is met only after an allocation failed. -/
def handleM3 (e : OpenSsl) (s : AirPlayTransientPairing) (tlvs : List Tlv) (v : ℕ) :
    PairingReply × AirPlayTransientPairing :=
  match findTlv tlvs 3, findTlv tlvs 4 with
  | some pub, some proof =>
    if pub.length ≠ c.kN.length || proof.length ≠ 64 then
      ({ ok := false, error := "invalid SRP M3" }, s)
    else
      let s := { s with impl := { s.impl with A := pub } }
      let A := ofBytes pub
      let N := s.impl.N.getD 0
      let b := s.impl.b.getD 0
      if !e.temporaries then ({ ok := false, error := "SRP temporary allocation failed" }, s)
      else if A = 0 ∨ N ≤ A then
        ({ ok := true, response := [6, 1, 4, 7, 1, 2], error := "invalid SRP public key" }, s)
      else
        let u := c.scrambler A s.impl.B_bytes
        let vu := v ^ u % N
        let base := A * vu % N
        let S := base ^ b % N
        let K := c.sha512 (c.bnPad S)
        let s := { s with sharedSecret := K }
        let M1 := c.clientProof s.impl.salt A s.impl.B_bytes K
        if M1 ≠ proof then
          ({ ok := true, response := [6, 1, 4, 7, 1, 2],
             error := "SRP client proof verification failed" }, s)
        else
          ({ ok := true, response := encodeTlvs [(6, [4]), (4, c.serverProof A M1 K)] },
            { s with complete := true })
  | _, _ => ({ ok := false, error := "invalid SRP M3" }, s)

/-- `handle` on the decoded items. -/
def handleTlvs (e : OpenSsl) (s : AirPlayTransientPairing) (tlvs : List Tlv) :
    PairingReply × AirPlayTransientPairing :=
  if tlvs = [] then ({ ok := false, error := "invalid TLV8" }, s)
  else
    match findTlv tlvs 0x06 with
    | some (state :: _) =>
      if !e.context then ({ ok := false, error := "BN context allocation failed" }, s)
      else if state = 1 then c.handleM1 e s tlvs
      else
        match s.impl.B, s.impl.v with
        | some _, some v =>
          if state = 3 then c.handleM3 e s tlvs v
          else ({ ok := false, error := "unexpected pair-setup state" }, s)
        | _, _ => ({ ok := false, error := "unexpected pair-setup state" }, s)
    | _ => ({ ok := false, error := "missing pairing state" }, s)

/-! ## The honest client -/

/-- The session secret of a client with secret `a`: `(B - k g^x) ^ (a + u x)`. -/
def clientSecret (a : ℕ) (salt B_bytes : Bytes) : ℕ :=
  let N := c.modulus
  let x := c.passwordKey salt
  let A := c.generator ^ a % N
  let u := c.scrambler A B_bytes
  let kgx := c.multiplier * (c.generator ^ x % N) % N
  (ofBytes B_bytes + (N - kgx)) ^ (a + u * x) % N

/-- What a client with secret `a` computes from the salt and `B` it read. -/
def client (a : ℕ) (salt B_bytes : Bytes) : AirPlayTransientPairing.Client :=
  let A := c.generator ^ a % c.modulus
  let K := c.sha512 (c.bnPad (c.clientSecret a salt B_bytes))
  let M1 := c.clientProof salt A B_bytes K
  { A := A, proof := M1, sessionKey := K, serverProof := c.serverProof A M1 K }

theorem length_bnPad (n : ℕ) : (c.bnPad n).length = c.kN.length := by
  unfold bnPad
  split
  · exact length_toBytes _ n
  · exact List.length_replicate

end SrpGroup

/-! ## The group of the source -/

/-- The literal `kN` is read from, in pieces. -/
def kNDigits : List String := [
  "FFFFFFFFFFFFFFFFC90FDAA22168C234C4C6628B",
  "80DC1CD129024E08A67CC74020BBEA63B139B225",
  "14A08798E3404DDEF9519B3CD3A431B302B0A6DF",
  "25F14374FE1356D6D51C245E485B576625E7EC6F",
  "44C42E9A637ED6B0BFF5CB6F406B7EDEE386BFB5",
  "A899FA5AE9F24117C4B1FE649286651ECE45B3DC",
  "2007CB8A163BF0598DA48361C55D39A69163FA8F",
  "D24CF5F83655D23DCA3AD961C62F356208552BB9",
  "ED529077096966D670C354E4ABC9804F1746C08C",
  "A18217C32905E462E36CE3BE39E772C180E86039",
  "B2783A2EC07A28FB5C55DF06F4C52C9DE2BCBF69",
  "55817183995497CEA956AE515D2261898FA3A8A0",
  "AACAA68FFFFFFFFFFFFFFFF"]

/-- The lambda `n` of `kN`. -/
def hexNibble (c : UInt8) : UInt8 :=
  if 48 ≤ c && c ≤ 57 then c - 48
  else if 65 ≤ c && c ≤ 70 then c - 65 + 10
  else c - 97 + 10

def hexPairs : Bytes → Bytes
  | hi :: lo :: rest => (hexNibble hi <<< 4 ||| hexNibble lo) :: hexPairs rest
  | _ => []

/-- The modulus as it stands in memory, and the hash function. -/
structure SrpBackend where
  kN : Bytes
  kN_length : kN.length = 384
  kN_known : kN.take 252 = hexPairs (kNDigits.flatMap ascii ++ [0])
  sha512 : Bytes → Bytes
  sha512_length : ∀ d, (sha512 d).length = 64

namespace SrpBackend

theorem modulus_pos (c : SrpBackend) : 0 < ofBytes c.kN := by
  have hsplit : c.kN = hexPairs (kNDigits.flatMap ascii ++ [0]) ++ c.kN.drop 252 := by
    rw [← c.kN_known, List.take_append_drop]
  have hknown : 0 < ofBytes (hexPairs (kNDigits.flatMap ascii ++ [0])) := by decide +kernel
  rw [hsplit, ofBytes_append]
  exact Nat.add_pos_left (Nat.mul_pos hknown (Nat.pow_pos (by decide))) _

/-- `kN` and 5. -/
def group (c : SrpBackend) : SrpGroup where
  kN := c.kN
  generator := 5
  sha512 := c.sha512
  modulus_pos := c.modulus_pos
  sha512_length := c.sha512_length

theorem group_length (c : SrpBackend) : c.group.kN.length = 384 := c.kN_length

/-- `gp`: zeros, and the generator in the last byte. -/
example (c : SrpBackend) : c.group.gp = List.replicate 383 0 ++ [5] := by
  have hfits : 5 < 256 ^ 384 := by decide +kernel
  have hbytes : toBytes 384 5 = List.replicate 383 0 ++ [5] := by decide +kernel
  rw [SrpGroup.gp, SrpGroup.bnPad, group_length]
  exact (if_pos hfits).trans hbytes

end SrpBackend

namespace AirPlayTransientPairing

variable (c : SrpBackend)

def handle (e : OpenSsl) (s : AirPlayTransientPairing) (request : Bytes) :
    PairingReply × AirPlayTransientPairing :=
  c.group.handleTlvs e s (decodeTlv request)

/-- All of a value, its fragments joined. -/
def joinTlv (ts : List Tlv) (type : UInt8) : Bytes :=
  (ts.filter (fun t => t.type = type)).flatMap Tlv.value

/-- The exchange of a client with secret `a` that opens with `m1` and puts the items
    of M3 in the order `arrange` chooses succeeds: M1 is answered with M2, M3 with
    the matching proof, and the pairing is complete under the client's key. -/
def HonestExchange (start finish : OpenSsl) (s : AirPlayTransientPairing) (a : ℕ) (m1 : Bytes)
    (arrange : List (UInt8 × Bytes) → List (UInt8 × Bytes)) : Prop :=
  let m2 := handle c start s m1
  let items := decodeTlv m2.1.response
  let cl := c.group.client a (joinTlv items 2) (joinTlv items 3)
  let m4 := handle c finish m2.2
    (encodeTlvs (arrange [(6, [3]), (3, c.group.bnPad cl.A), (4, cl.proof)]))
  m2.1.ok = true ∧ m4.1.ok = true ∧
    m4.1.response = encodeTlvs [(6, [4]), (4, cl.serverProof)] ∧
    m4.2.complete = true ∧ m4.2.sharedSecret = cl.sessionKey

/-! ## What becomes of M3 -/

/-- The decoder hands the state machine a fragment of the public key, and M3 is
    refused in every state of the pairing and whatever OpenSSL returns. -/
theorem handle_m3_refused (e : OpenSsl) (s : AirPlayTransientPairing) (A : ℕ) (proof : Bytes)
    {items : List (UInt8 × Bytes)}
    (hperm : items.Perm [(6, [3]), (3, c.group.bnPad A), (4, proof)]) :
    (handle c e s (encodeTlvs items)).1.ok = false := by
  have hn : (items.map Prod.fst).Nodup := by
    rw [(hperm.map Prod.fst).nodup_iff]
    simp
  have hstate : findTlv (decodeTlv (encodeTlvs items)) 6 = some [3] :=
    findTlv_encode hn (hperm.mem_iff.mpr (show (6, [3]) ∈ _ by simp))
  have hpub : findTlv (decodeTlv (encodeTlvs items)) 3 = some ((c.group.bnPad A).take 255) :=
    findTlv_encode hn (hperm.mem_iff.mpr (show (3, c.group.bnPad A) ∈ _ by simp))
  have hshort : ((c.group.bnPad A).take 255).length ≠ c.group.kN.length := by
    rw [List.length_take, c.group.length_bnPad, c.group_length]
    decide
  have hm3 : ∀ v, (c.group.handleM3 e s (decodeTlv (encodeTlvs items)) v).1.ok = false := by
    intro v
    unfold SrpGroup.handleM3
    rw [hpub]
    cases findTlv (decodeTlv (encodeTlvs items)) 4 with
    | none => rfl
    | some proof =>
      dsimp only
      rw [if_pos (by rw [decide_eq_true hshort, Bool.true_or])]
  unfold handle SrpGroup.handleTlvs
  rw [hstate]
  -- Without the state of an M1 there is no M3 to check, and it is refused as well.
  split
  · rfl
  · cases e.context with
    | false => rfl
    | true =>
      cases s.impl.B with
      | none => simp
      | some B =>
        cases s.impl.v with
        | none => simp
        | some v => simpa using hm3 v

/-- An exchange whose M3 holds the three items in whatever order fails. -/
theorem not_honestExchange {start finish : OpenSsl} {s : AirPlayTransientPairing} {a : ℕ}
    {m1 : Bytes} {arrange : List (UInt8 × Bytes) → List (UInt8 × Bytes)}
    (harrange : ∀ items, (arrange items).Perm items) :
    ¬ HonestExchange c start finish s a m1 arrange := by
  intro hexchange
  obtain ⟨-, hok, -⟩ := hexchange
  rw [handle_m3_refused c finish _ _ _ (harrange _)] at hok
  simp at hok

/-- **No honest client completes.** Whatever the modulus, the hash, the secrets, the
    salt and the calls' outcomes, from every state, with every M1 and every order of
    the items of M3, the exchange fails: a key of 384 bytes arrives as two items. -/
theorem honestExchange_never (start finish : OpenSsl) (s : AirPlayTransientPairing) (a : ℕ)
    (m1 : Bytes) (arrange : List (UInt8 × Bytes) → List (UInt8 × Bytes))
    (harrange : ∀ items, (arrange items).Perm items) :
    ¬ HonestExchange c start finish s a m1 arrange :=
  not_honestExchange c harrange

/-- The known bytes of the modulus, then zeros. -/
def zeroTailN : Bytes := hexPairs (kNDigits.flatMap ascii ++ [0]) ++ List.replicate 132 0

theorem length_knownN : (hexPairs (kNDigits.flatMap ascii ++ [0])).length = 252 := by decide +kernel

/-- A backend whose memory after the literal is zero. -/
def zeroTail : SrpBackend where
  kN := zeroTailN
  kN_length := by
    rw [zeroTailN, List.length_append, length_knownN, List.length_replicate]
  kN_known := by
    rw [zeroTailN, List.take_left' length_knownN]
  sha512 := fun _ => List.replicate 64 0
  sha512_length := fun _ => List.length_replicate

/-- Calls that all succeed, drawing zero bytes. -/
def zeroDraws : OpenSsl where
  randomSalt := some ⟨List.replicate 16 0, List.length_replicate⟩
  randomSecret := some ⟨List.replicate 256 0, List.length_replicate⟩

/-- M1 with method 0, state 1 and the transient flag. -/
def plainM1 : Bytes := encodeTlvs [(0, [0]), (6, [1]), (0x13, [0x10])]

/-- The key of secret 1 is not zero, and its exchange fails. -/
theorem honestExchange_fails :
    5 ^ 1 % zeroTail.group.modulus ≠ 0 ∧
      ¬ HonestExchange zeroTail zeroDraws zeroDraws {} 1 plainM1 id :=
  ⟨by decide +kernel, not_honestExchange zeroTail (fun _ => .refl _)⟩

theorem honestExchange_never_reversed :
    ¬ HonestExchange zeroTail zeroDraws zeroDraws {} 1 plainM1 List.reverse :=
  honestExchange_never zeroTail zeroDraws zeroDraws {} 1 plainM1 List.reverse
    List.reverse_perm

end AirPlayTransientPairing
end AirPlay2
