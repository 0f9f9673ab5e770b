import AirPlay2.Lib.KeyAgreement
import AirPlay2.Pairing.Transient

/- The arithmetic of the transient pairing, for an arbitrary modulus, generator and hash. On
   decoded items, where the public key of M3 is whole, the receiver and a client that knows
   the setup code reach one session secret (`serverSecret_eq_clientSecret`), and with it the
   same key and proofs. -/
namespace AirPlay2
open Lib

/-- A client that joins the items of a type reads all of an encoded value. -/
theorem AirPlayTransientPairing.joinTlv_encode {items : List (UInt8 × Bytes)}
    (hn : (items.map Prod.fst).Nodup) (type : UInt8) (value : Bytes) (h : (type, value) ∈ items) :
    joinTlv (decodeTlv (encodeTlvs items)) type = value := by
  have hown : ∀ value : Bytes, joinTlv (fragments type (value.length + 1) value) type = value := by
    intro value
    have hall : (fragments type (value.length + 1) value).filter (fun t => t.type = type) =
        fragments type (value.length + 1) value := by
      rw [List.filter_eq_self]
      intro t ht
      exact decide_eq_true (fragments_short _ _ _ t ht).1
    rw [joinTlv, hall, fragments_join type (Nat.lt_succ_self _)]
  have hother : ∀ item : UInt8 × Bytes, item.1 ≠ type →
      joinTlv (fragments item.1 (item.2.length + 1) item.2) type = [] := by
    intro item hne
    have hnone : (fragments item.1 (item.2.length + 1) item.2).filter (fun t => t.type = type) =
        [] := by
      rw [List.filter_eq_nil_iff]
      intro t ht
      rw [decide_eq_true_eq, (fragments_short _ _ _ t ht).1]
      exact hne
    rw [joinTlv, hnone, List.flatMap_nil]
  have happend : ∀ ts us : List Tlv, joinTlv (ts ++ us) type = joinTlv ts type ++ joinTlv us type := by
    intro ts us
    rw [joinTlv, List.filter_append, List.flatMap_append, joinTlv, joinTlv]
  have hnil : ∀ items : List (UInt8 × Bytes), type ∉ items.map Prod.fst →
      joinTlv (allFragments items) type = [] := by
    intro items hnot
    induction items with
    | nil => rfl
    | cons item items ih =>
      rw [List.map_cons, List.mem_cons, not_or] at hnot
      rw [allFragments, List.flatMap_cons, happend, hother item (Ne.symm hnot.1)]
      exact ih hnot.2
  rw [decodeTlv_encode]
  induction items with
  | nil => simp at h
  | cons item items ih =>
    rw [List.map_cons, List.nodup_cons] at hn
    rw [allFragments, List.flatMap_cons, happend]
    obtain rfl | h := List.mem_cons.mp h
    · rw [hown]
      exact (congrArg (value ++ ·) (hnil items hn.1)).trans (List.append_nil value)
    · have hne : item.1 ≠ type := by
        intro heq
        exact hn.1 (heq ▸ List.mem_map_of_mem h)
      rw [hother item hne]
      exact ih hn.2 h

namespace SrpGroup

variable (c : SrpGroup)

/-! ## Numbers and their padding -/

theorem modulus_lt : c.modulus < 256 ^ c.kN.length := ofBytes_lt c.kN

/-- Numbers below the modulus survive padding. -/
theorem ofBytes_bnPad {n : ℕ} (h : n < c.modulus) : ofBytes (c.bnPad n) = n := by
  have hlt : n < 256 ^ c.kN.length := h.trans c.modulus_lt
  rw [bnPad, if_pos hlt, ofBytes_toBytes hlt]

/-! ## What M1 leaves -/

/-- The pairing after an M1 that drew `salt` and the secret `b`. -/
def afterM1 (salt : Bytes) (b : ℕ) : AirPlayTransientPairing :=
  let v := c.generator ^ c.passwordKey salt % c.modulus
  let B := (c.multiplier * v % c.modulus + c.generator ^ b % c.modulus) % c.modulus
  { impl :=
      { N := some c.modulus, g := some c.generator, b := some b, v := some v, B := some B
        salt := salt, B_bytes := c.bnPad B } }

/-- An M1 answered without an error has drawn a salt and a secret. -/
theorem handleM1_answered {e : OpenSsl} {s : AirPlayTransientPairing} {tlvs : List Tlv}
    (hok : (c.handleM1 e s tlvs).1.ok = true) (herror : (c.handleM1 e s tlvs).1.error = "") :
    ∃ salt b, c.handleM1 e s tlvs =
      ({ ok := true
         response := encodeTlvs [(6, [2]), (2, salt), (3, (c.afterM1 salt b).impl.B_bytes),
           (0x13, [0x10])] }, c.afterM1 salt b) := by
  unfold handleM1 at hok herror ⊢
  dsimp only at hok herror ⊢
  by_cases hparams : (!plainMethod tlvs || !transient tlvs) = true
  · -- refused, with an error
    rw [if_pos hparams] at herror
    simp at herror
  · rw [if_neg hparams] at hok ⊢
    by_cases hallocs : (!(e.allocN && e.allocG && e.allocSecret && e.allocV && e.allocB)) = true
    · rw [if_pos hallocs] at hok
      simp at hok
    · rw [if_neg hallocs] at hok ⊢
      have hN : e.allocN = true := by
        simp only [Bool.not_eq_true, Bool.not_eq_false', Bool.and_eq_true] at hallocs
        exact hallocs.1.1.1.1
      cases hsalt : e.randomSalt with
      | none => simp [hsalt] at hok
      | some salt =>
        rw [hsalt] at hok
        dsimp only at hok ⊢
        by_cases htemp : (!e.temporaries) = true
        · rw [if_pos htemp] at hok
          simp at hok
        · rw [if_neg htemp] at hok ⊢
          cases hsecret : e.randomSecret with
          | none => simp [hsecret] at hok
          | some raw =>
            refine ⟨salt, ofBytes raw, ?_⟩
            rw [if_pos hN]
            rfl

/-- Items with state 1 that are answered with success went to `handleM1`. -/
theorem handleTlvs_of_m1 {e : OpenSsl} {s : AirPlayTransientPairing} {tlvs : List Tlv} {rest : Bytes}
    (hstate : findTlv tlvs 6 = some (1 :: rest)) (hok : (c.handleTlvs e s tlvs).1.ok = true) :
    c.handleTlvs e s tlvs = c.handleM1 e s tlvs := by
  have hne : tlvs ≠ [] := by
    intro hnil
    rw [hnil] at hstate
    exact absurd hstate (by simp [findTlv])
  unfold handleTlvs at hok ⊢
  rw [if_neg hne, hstate] at hok ⊢
  dsimp only at hok ⊢
  cases hcontext : e.context with
  | false => simp [hcontext] at hok
  | true => rfl

/-! ## What M3 does -/

/-- The receiver's session secret for the client key `A`: `(A v^u) ^ b`. -/
def serverSecret (s : AirPlayTransientPairing) (A : ℕ) : ℕ :=
  (A * s.impl.v.getD 0 ^ c.scrambler A s.impl.B_bytes) ^ s.impl.b.getD 0 % s.impl.N.getD 0

/-- The session key the receiver takes from it. -/
def serverKey (s : AirPlayTransientPairing) (A : ℕ) : Bytes :=
  c.sha512 (c.bnPad (c.serverSecret s A))

/-- The proof of that key the receiver compares with. -/
def expectedProof (s : AirPlayTransientPairing) (A : ℕ) : Bytes :=
  c.clientProof s.impl.salt A s.impl.B_bytes (c.serverKey s A)

/-- With the right proof M3 is answered with the receiver's, and the pairing is complete. -/
theorem handleM3_proved {e : OpenSsl} {s : AirPlayTransientPairing} {tlvs : List Tlv} {pub : Bytes}
    {v N : ℕ} (hpub : findTlv tlvs 3 = some pub)
    (hproof : findTlv tlvs 4 = some (c.expectedProof s (ofBytes pub)))
    (hv : s.impl.v = some v) (hN : s.impl.N = some N) (hlen : pub.length = c.kN.length)
    (htemp : e.temporaries = true) (hzero : ofBytes pub ≠ 0) (hlt : ofBytes pub < N) :
    c.handleM3 e s tlvs v =
      ({ ok := true
         response := encodeTlvs [(6, [4]), (4, c.serverProof (ofBytes pub)
           (c.expectedProof s (ofBytes pub)) (c.serverKey s (ofBytes pub)))] },
        { impl := { s.impl with A := pub }, complete := true
          sharedSecret := c.serverKey s (ofBytes pub) }) := by
  have hlength : (c.expectedProof s (ofBytes pub)).length = 64 := c.sha512_length _
  have hgood : ¬ (decide (pub.length ≠ c.kN.length) ||
      decide ((c.expectedProof s (ofBytes pub)).length ≠ 64)) = true := by
    simp [hlen, hlength]
  have hkey : ¬ (ofBytes pub = 0 ∨ N ≤ ofBytes pub) := by omega
  have hsecret : (ofBytes pub * (v ^ c.scrambler (ofBytes pub) s.impl.B_bytes % N) % N) ^
      s.impl.b.getD 0 % N = c.serverSecret s (ofBytes pub) := by
    rw [pow_mod_mod, serverSecret, hv, hN, Option.getD_some, Option.getD_some]
  unfold handleM3
  rw [hpub, hproof]
  dsimp only
  rw [if_neg hgood, htemp, hN, Option.getD_some, if_neg (by simp), if_neg hkey, hsecret]
  exact if_neg (not_not.mpr rfl)

/-- With any other proof, or none, M3 does not complete the pairing. -/
theorem handleM3_unproved {e : OpenSsl} {s : AirPlayTransientPairing} {tlvs : List Tlv} {v : ℕ}
    (hv : s.impl.v = some v)
    (hproof : ∀ pub, findTlv tlvs 3 = some pub →
      findTlv tlvs 4 ≠ some (c.expectedProof s (ofBytes pub))) :
    (c.handleM3 e s tlvs v).2.complete = s.complete := by
  unfold handleM3
  cases hpub : findTlv tlvs 3 with
  | none => rfl
  | some pub =>
    cases hsent : findTlv tlvs 4 with
    | none => rfl
    | some proof =>
      have hother : c.clientProof s.impl.salt (ofBytes pub) s.impl.B_bytes
          (c.sha512 (c.bnPad (c.serverSecret s (ofBytes pub)))) ≠ proof := by
        intro heq
        exact hproof pub hpub (by rw [hsent, ← heq, expectedProof, serverKey])
      have hsecret : (ofBytes pub * (v ^ c.scrambler (ofBytes pub) s.impl.B_bytes %
          s.impl.N.getD 0) % s.impl.N.getD 0) ^ s.impl.b.getD 0 % s.impl.N.getD 0 =
            c.serverSecret s (ofBytes pub) := by
        rw [pow_mod_mod, serverSecret, hv, Option.getD_some]
      dsimp only
      rw [hsecret, if_pos hother]
      split
      · rfl
      · split
        · rfl
        · split
          · rfl
          · rfl

/-- Items with state 3 go to `handleM3` once there is a `B`. -/
theorem handleTlvs_of_m3 {e : OpenSsl} {s : AirPlayTransientPairing} {tlvs : List Tlv} {rest : Bytes}
    {B v : ℕ} (hstate : findTlv tlvs 6 = some (3 :: rest)) (hcontext : e.context = true)
    (hB : s.impl.B = some B) (hv : s.impl.v = some v) :
    c.handleTlvs e s tlvs = c.handleM3 e s tlvs v := by
  have hne : tlvs ≠ [] := by
    intro hnil
    rw [hnil] at hstate
    exact absurd hstate (by simp [findTlv])
  unfold handleTlvs
  rw [if_neg hne, hstate, hcontext, hB, hv]
  rfl

/-- From every state, an M3 without the expected proof leaves `complete` as it is. -/
theorem handleTlvs_unproved {e : OpenSsl} {s : AirPlayTransientPairing} {tlvs : List Tlv}
    {rest : Bytes} (hstate : findTlv tlvs 6 = some (3 :: rest))
    (hproof : ∀ pub, findTlv tlvs 3 = some pub →
      findTlv tlvs 4 ≠ some (c.expectedProof s (ofBytes pub))) :
    (c.handleTlvs e s tlvs).2.complete = s.complete := by
  cases hcontext : e.context with
  | false =>
    unfold handleTlvs
    rw [hstate, hcontext]
    split <;> rfl
  | true =>
    cases hB : s.impl.B with
    | none =>
      unfold handleTlvs
      rw [hstate, hcontext, hB]
      split <;> rfl
    | some B =>
      cases hv : s.impl.v with
      | none =>
        unfold handleTlvs
        rw [hstate, hcontext, hB, hv]
        split <;> rfl
      | some v =>
        rw [c.handleTlvs_of_m3 hstate hcontext hB hv]
        exact c.handleM3_unproved hv hproof

/-! ## Both sides agree -/

/-- The client's key as the receiver knows it. -/
theorem serverSecret_eq_clientSecret (salt : Bytes) (b a : ℕ) :
    c.serverSecret (c.afterM1 salt b) (c.generator ^ a % c.modulus) =
      c.clientSecret a salt (c.afterM1 salt b).impl.B_bytes := by
  have hB : ofBytes (c.afterM1 salt b).impl.B_bytes =
      (c.multiplier * (c.generator ^ c.passwordKey salt % c.modulus) % c.modulus +
        c.generator ^ b % c.modulus) % c.modulus :=
    c.ofBytes_bnPad (Nat.mod_lt _ c.modulus_pos)
  rw [clientSecret, hB]
  exact secret_agree_mod c.modulus_pos c.generator c.multiplier a b _ _

/-- What the client expects is what the receiver computes. -/
theorem client_eq (salt : Bytes) (b a : ℕ) :
    c.client a salt (c.afterM1 salt b).impl.B_bytes =
      { A := c.generator ^ a % c.modulus
        proof := c.expectedProof (c.afterM1 salt b) (c.generator ^ a % c.modulus)
        sessionKey := c.serverKey (c.afterM1 salt b) (c.generator ^ a % c.modulus)
        serverProof := c.serverProof (c.generator ^ a % c.modulus)
          (c.expectedProof (c.afterM1 salt b) (c.generator ^ a % c.modulus))
          (c.serverKey (c.afterM1 salt b) (c.generator ^ a % c.modulus)) } := by
  have hsecret := c.serverSecret_eq_clientSecret salt b a
  simp only [client, expectedProof, serverKey, hsecret]
  rfl

/-- **The two sides of SRP agree.** After a successful M1 the receiver's session secret
    for the key of a client secret `a` is the client's; an M3 with that key and the
    client's proof completes the pairing under the client's session key and is answered
    with the proof the client computes; and from every state an M3 without the proof
    the receiver expects leaves `complete` alone. -/
theorem exchange_agrees (start : OpenSsl) (s : AirPlayTransientPairing) (m1 : List Tlv) (a : ℕ)
    {rest : Bytes} (hm1 : findTlv m1 6 = some (1 :: rest))
    (hok : (c.handleTlvs start s m1).1.ok = true) (herror : (c.handleTlvs start s m1).1.error = "")
    (hA : c.generator ^ a % c.modulus ≠ 0) :
    let m2 := c.handleTlvs start s m1
    let items := decodeTlv m2.1.response
    let salt := AirPlayTransientPairing.joinTlv items 2
    let B_bytes := AirPlayTransientPairing.joinTlv items 3
    let cl := c.client a salt B_bytes
    (∃ b v, m2.2.impl.b = some b ∧ m2.2.impl.v = some v ∧ m2.2.complete = false ∧
      v = c.generator ^ c.passwordKey salt % c.modulus ∧
      ofBytes B_bytes = (c.multiplier * v + c.generator ^ b) % c.modulus ∧
      (cl.A * v ^ c.scrambler cl.A B_bytes) ^ b % c.modulus = c.clientSecret a salt B_bytes) ∧
    c.expectedProof m2.2 cl.A = cl.proof ∧
    (∀ (finish : OpenSsl) (m3 : List Tlv) (rest : Bytes), finish.context = true →
      finish.temporaries = true → findTlv m3 6 = some (3 :: rest) →
      findTlv m3 3 = some (c.bnPad cl.A) → findTlv m3 4 = some cl.proof →
      (c.handleTlvs finish m2.2 m3).1 =
          { ok := true, response := encodeTlvs [(6, [4]), (4, cl.serverProof)] } ∧
        (c.handleTlvs finish m2.2 m3).2.complete = true ∧
        (c.handleTlvs finish m2.2 m3).2.sharedSecret = cl.sessionKey) ∧
    (∀ (finish : OpenSsl) (t : AirPlayTransientPairing) (m3 : List Tlv) (rest : Bytes),
      findTlv m3 6 = some (3 :: rest) →
      (∀ pub, findTlv m3 3 = some pub → findTlv m3 4 ≠ some (c.expectedProof t (ofBytes pub))) →
      (c.handleTlvs finish t m3).2.complete = t.complete) := by
  have hgo := c.handleTlvs_of_m1 hm1 hok
  rw [hgo] at hok herror ⊢
  obtain ⟨salt, b, hreply⟩ := c.handleM1_answered hok herror
  have hn : (([(6, [2]), (2, salt), (3, (c.afterM1 salt b).impl.B_bytes), (0x13, [0x10])] :
      List (UInt8 × Bytes)).map Prod.fst).Nodup := by
    show ([6, 2, 3, 0x13] : List UInt8).Nodup
    decide
  have hsalt := AirPlayTransientPairing.joinTlv_encode hn 2 salt (by simp)
  have hB := AirPlayTransientPairing.joinTlv_encode hn 3 (c.afterM1 salt b).impl.B_bytes
    (by simp)
  dsimp only
  rw [hreply]
  dsimp only
  rw [hsalt, hB, c.client_eq salt b a]
  have hlt : c.generator ^ a % c.modulus < c.modulus := Nat.mod_lt _ c.modulus_pos
  refine ⟨⟨b, _, rfl, rfl, rfl, rfl, ?_, ?_⟩, rfl, ?_, ?_⟩
  · exact (c.ofBytes_bnPad (Nat.mod_lt _ c.modulus_pos)).trans (Nat.add_mod _ _ _).symm
  · exact c.serverSecret_eq_clientSecret salt b a
  · intro finish m3 rest hcontext htemp hstate hpub hproof
    have hkey : ofBytes (c.bnPad (c.generator ^ a % c.modulus)) = c.generator ^ a % c.modulus :=
      c.ofBytes_bnPad hlt
    rw [c.handleTlvs_of_m3 hstate hcontext rfl rfl, c.handleM3_proved hpub (by rw [hkey, hproof])
      rfl rfl (c.length_bnPad _) htemp (by rwa [hkey]) (by rwa [hkey]), hkey]
    exact ⟨rfl, rfl, rfl⟩
  · intro finish t m3 rest hstate hproof
    exact c.handleTlvs_unproved hstate hproof

/-- A one-byte group, with a hash that counts. -/
def small : SrpGroup where
  kN := [23]
  generator := 5
  sha512 := fun d => List.replicate 63 0 ++ [UInt8.ofNat (d.length + 1)]
  modulus_pos := by decide
  sha512_length := fun _ => rfl

/-- Method 0, state 1 and the transient flag. -/
def smallM1 : List Tlv := [⟨0, [0]⟩, ⟨6, [1]⟩, ⟨0x13, [0x10]⟩]

/-- M3 of the client with secret 3, from what it read in M2. -/
def smallM3 : List Tlv :=
  let items := decodeTlv (small.handleTlvs AirPlayTransientPairing.zeroDraws {} smallM1).1.response
  let cl := small.client 3 (AirPlayTransientPairing.joinTlv items 2)
    (AirPlayTransientPairing.joinTlv items 3)
  [⟨6, [3]⟩, ⟨3, small.bnPad cl.A⟩, ⟨4, cl.proof⟩]

theorem exchange_agrees_small :
    small.generator ^ 3 % small.modulus ≠ 0 ∧
      (small.handleTlvs AirPlayTransientPairing.zeroDraws
        (small.handleTlvs AirPlayTransientPairing.zeroDraws {} smallM1).2 smallM3).2.complete =
          true := by
  have hkey : small.generator ^ 3 % small.modulus ≠ 0 := by decide
  have hagrees := small.exchange_agrees AirPlayTransientPairing.zeroDraws {} smallM1 3
    (show findTlv smallM1 6 = some (1 :: []) by decide) (by decide) (by decide) hkey
  obtain ⟨-, -, hcompletes, -⟩ := hagrees
  exact ⟨hkey, (hcompletes AirPlayTransientPairing.zeroDraws smallM3 [] rfl rfl rfl rfl rfl).2.1⟩

end SrpGroup
end AirPlay2
