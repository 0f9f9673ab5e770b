import AirPlay2.Lib.Runs
import AirPlay2.Pairing.Srp

/- What a failed M1 of the transient pairing leaves behind (`airplay_pairing.cpp`).
   M1 allocates `v` and `B` before it draws its random bytes and returns midway where
   `RAND_bytes` fails; M3 asks only whether the two are there. The messages here are
   decoded items with what `RAND_bytes` would answer during them; every allocation
   succeeds. Whether an M1 failed is a matter of its draws alone (`startFailed_iff`),
   a later M3 is then taken up exactly where its key and proof have the right lengths
   (`failed_start_refuses_iff`), and the secret it is checked against is 1, as the
   exponent `b` is still zero (`failed_start_completed`). -/
namespace AirPlay2
open Lib

/-- The items of one message, and the random bytes there are for it. -/
structure PairingMessage where
  salt : Option { d : Bytes // d.length = 16 }
  secret : Option { d : Bytes // d.length = 256 }
  tlvs : List Tlv

namespace PairingMessage

/-- The calls made for the message: no allocation fails. -/
def calls (m : PairingMessage) : OpenSsl := { randomSalt := m.salt, randomSecret := m.secret }

/-- The message carries this pairing state. -/
def hasState (m : PairingMessage) (state : UInt8) : Bool :=
  match findTlv m.tlvs 0x06 with
  | some (s :: _) => s == state
  | _ => false

/-- An M1 with the parameters of a transient pairing. -/
def isStart (m : PairingMessage) : Bool :=
  m.hasState 1 && SrpGroup.plainMethod m.tlvs && SrpGroup.transient m.tlvs

def isM3 (m : PairingMessage) : Bool := m.hasState 3

/-- One of the two `RAND_bytes` calls of an M1 fails. -/
def starved (m : PairingMessage) : Bool := m.salt.isNone || m.secret.isNone

/-- There is a public key as long as the modulus and a proof as long as a digest. -/
def proves (m : PairingMessage) : Bool :=
  match findTlv m.tlvs 3, findTlv m.tlvs 4 with
  | some pub, some proof => pub.length == 384 && proof.length == 64
  | _, _ => false

theorem hasState_iff {m : PairingMessage} {state : UInt8} :
    m.hasState state = true ↔ ∃ rest, findTlv m.tlvs 0x06 = some (state :: rest) := by
  unfold hasState
  split
  · rename_i s rest hfind
    simp [hfind]
  · rename_i hnone
    simp only [Bool.false_eq_true, false_iff, not_exists]
    intro rest hfind
    exact hnone state rest hfind

theorem proves_iff {m : PairingMessage} :
    m.proves = true ↔ ∃ pub proof, findTlv m.tlvs 3 = some pub ∧ findTlv m.tlvs 4 = some proof ∧
      pub.length = 384 ∧ proof.length = 64 := by
  unfold proves
  cases hpub : findTlv m.tlvs 3 with
  | none => simp
  | some pub =>
    cases hproof : findTlv m.tlvs 4 with
    | none => simp
    | some proof => simp

end PairingMessage

namespace AirPlayTransientPairing
open PairingMessage

variable (c : SrpBackend)

/-- What `handle` does with a message once its items are decoded. -/
def receive (s : AirPlayTransientPairing) (m : PairingMessage) :
    PairingReply × AirPlayTransientPairing := c.group.handleTlvs m.calls s m.tlvs

def next (s : AirPlayTransientPairing) (m : PairingMessage) : AirPlayTransientPairing :=
  (receive c s m).2

/-- `handle` returned `false` for the last M1 with transient parameters. -/
def StartFailed (ms : List PairingMessage) : Prop :=
  Since (next c) (fun s m => m.isStart = true ∧ (receive c s m).1.ok = false)
    (fun m => m.isStart = true) {} ms

/-- The last M1 with transient parameters was starved of random bytes. -/
def StartStarved (ms : List PairingMessage) : Prop :=
  ∃ before i after, ms = before ++ i :: after ∧ (i.isStart = true ∧ i.starved = true) ∧
    ∀ j ∈ after, ¬ j.isStart = true

/-- The message is not taken up: `handle` returns `false`, and nothing has changed of a
    pairing that is not complete. -/
def Refused (s : AirPlayTransientPairing) (m : PairingMessage) : Prop :=
  (receive c s m).1.ok = false ∧ next c s m = s ∧ (next c s m).complete = false

/-- M1 got as far as its allocations. -/
structure Started (s : AirPlayTransientPairing) : Prop where
  N : s.impl.N = some c.group.modulus
  v : s.impl.v.isSome = true
  B : s.impl.B.isSome = true

/-! ## One message -/

variable {c} {s : AirPlayTransientPairing} {m : PairingMessage}

/-- An M1 with transient parameters allocates everything; it fails where a draw does,
    and then the secret exponent is still the zero it was made as. -/
theorem receive_start (h : m.isStart = true) :
    (receive c s m).1.ok = !m.starved ∧ Started c (next c s m) ∧
      (next c s m).complete = false ∧ (m.starved = true → (next c s m).impl.b = some 0) := by
  simp only [isStart, Bool.and_eq_true] at h
  obtain ⟨⟨hstate, hplain⟩, htransient⟩ := h
  obtain ⟨rest, hfind⟩ := hasState_iff.mp hstate
  have hne : m.tlvs ≠ [] := by
    intro hnil
    rw [hnil] at hfind
    exact absurd hfind (by simp [findTlv])
  have hM1 : receive c s m = c.group.handleM1 m.calls s m.tlvs := by
    rw [receive]
    unfold SrpGroup.handleTlvs
    rw [if_neg hne, hfind]
    rfl
  rw [next, hM1, SrpGroup.handleM1, hplain, htransient]
  obtain ⟨salt, secret, tlvs⟩ := m
  cases salt with
  | none => exact ⟨rfl, ⟨rfl, rfl, rfl⟩, rfl, fun _ => rfl⟩
  | some salt =>
    cases secret with
    | none => exact ⟨rfl, ⟨rfl, rfl, rfl⟩, rfl, fun _ => rfl⟩
    | some secret => exact ⟨rfl, ⟨rfl, rfl, rfl⟩, rfl, Bool.noConfusion⟩

/-- Without a key and a proof of the right lengths an M3 is invalid. -/
theorem handleM3_unproving (h : m.proves = false) (v : ℕ) :
    c.group.handleM3 m.calls s m.tlvs v = ({ ok := false, error := "invalid SRP M3" }, s) := by
  unfold SrpGroup.handleM3
  unfold proves at h
  cases hpub : findTlv m.tlvs 3 with
  | none => rfl
  | some pub =>
    cases hproof : findTlv m.tlvs 4 with
    | none => rfl
    | some proof =>
      simp only [hpub, hproof, Bool.and_eq_false_iff, beq_eq_false_iff_ne] at h
      dsimp only
      apply if_pos
      rw [c.group_length, Bool.or_eq_true]
      exact h.imp decide_eq_true decide_eq_true

/-- With them it is answered, and of the stored numbers only the client's key is new. -/
theorem handleM3_proving (h : m.proves = true) (v : ℕ) :
    (c.group.handleM3 m.calls s m.tlvs v).1.ok = true ∧
      ∃ pub, (c.group.handleM3 m.calls s m.tlvs v).2.impl = { s.impl with A := pub } := by
  obtain ⟨pub, proof, hpub, hproof, hkeyLength, hproofLength⟩ := proves_iff.mp h
  have hgood : ¬ (decide (pub.length ≠ c.group.kN.length) || decide (proof.length ≠ 64)) = true := by
    rw [c.group_length]
    simp [hkeyLength, hproofLength]
  unfold SrpGroup.handleM3
  rw [hpub, hproof]
  dsimp only
  rw [if_neg hgood, if_neg (show ¬ (!m.calls.temporaries) = true by simp [calls])]
  split
  · exact ⟨rfl, pub, rfl⟩
  · split
    · exact ⟨rfl, pub, rfl⟩
    · exact ⟨rfl, pub, rfl⟩

/-- Any other message changes nothing and is no M3 that succeeds, or it is an M3 that
    meets a verifier. -/
theorem receive_rest (h : ¬ m.isStart = true) :
    (next c s m = s ∧ (m.isM3 = true → (receive c s m).1.ok = false)) ∨
      (m.isM3 = true ∧ ∃ v, receive c s m = c.group.handleM3 m.calls s m.tlvs v) := by
  rw [next, receive]
  unfold SrpGroup.handleTlvs
  by_cases hne : m.tlvs = []
  · rw [if_pos hne]
    exact Or.inl ⟨rfl, fun _ => rfl⟩
  rw [if_neg hne]
  cases hfind : findTlv m.tlvs 6 with
  | none => exact Or.inl ⟨rfl, fun _ => rfl⟩
  | some value =>
    cases value with
    | nil => exact Or.inl ⟨rfl, fun _ => rfl⟩
    | cons state rest =>
      dsimp only
      rw [if_neg (show ¬ (!m.calls.context) = true by simp [calls])]
      by_cases hone : state = 1
      · -- an M1, but of another method or without the flag
        subst hone
        have hM1 : m.hasState 1 = true := hasState_iff.mpr ⟨rest, hfind⟩
        have hparams : (!SrpGroup.plainMethod m.tlvs || !SrpGroup.transient m.tlvs) = true := by
          simp only [isStart, hM1, Bool.true_and, Bool.and_eq_true, not_and_or, Bool.not_eq_true] at h
          simpa using h
        have hnot : ¬ m.isM3 = true := by
          simp [isM3, hasState, hfind]
        rw [if_pos rfl, SrpGroup.handleM1, if_pos hparams]
        exact Or.inl ⟨rfl, fun hM3 => absurd hM3 hnot⟩
      · rw [if_neg hone]
        cases s.impl.B with
        | none => exact Or.inl ⟨rfl, fun _ => rfl⟩
        | some B =>
          cases s.impl.v with
          | none => exact Or.inl ⟨rfl, fun _ => rfl⟩
          | some v =>
            dsimp only
            by_cases hthree : state = 3
            · subst hthree
              rw [if_pos rfl]
              exact Or.inr ⟨hasState_iff.mpr ⟨rest, hfind⟩, v, rfl⟩
            · rw [if_neg hthree]
              exact Or.inl ⟨rfl, fun _ => rfl⟩

/-- A message that is neither an M1 that starts nor an M3 with key and proof has no effect. -/
theorem next_idle (hstart : ¬ m.isStart = true) (h : m.isM3 = true → m.proves = false) :
    next c s m = s := by
  obtain ⟨hsame, -⟩ | ⟨hM3, v, heq⟩ := receive_rest (c := c) (s := s) hstart
  · exact hsame
  · rw [next, heq, handleM3_unproving (h hM3)]

/-- Without a new start the stored numbers stay, the client's key apart. -/
theorem next_impl (hstart : ¬ m.isStart = true) :
    ∃ pub, (next c s m).impl = { s.impl with A := pub } := by
  obtain ⟨hsame, -⟩ | ⟨hM3, v, heq⟩ := receive_rest (c := c) (s := s) hstart
  · exact ⟨s.impl.A, by rw [hsame]⟩
  · rw [next, heq]
    cases hproves : m.proves with
    | false => exact ⟨s.impl.A, by rw [handleM3_unproving hproves]⟩
    | true => exact (handleM3_proving hproves v).2

theorem next_started (h : Started c s) (m : PairingMessage) : Started c (next c s m) := by
  by_cases hstart : m.isStart = true
  · exact (receive_start hstart).2.1
  · obtain ⟨pub, himpl⟩ := next_impl (c := c) (s := s) hstart
    refine ⟨?_, ?_, ?_⟩
    · rw [himpl]
      exact h.N
    · rw [himpl]
      exact h.v
    · rw [himpl]
      exact h.B

/-- Where M1 got as far as its allocations, every M3 goes to `handleM3`. -/
theorem receive_m3 (h : Started c s) (hM3 : m.isM3 = true) :
    ∃ v, s.impl.v = some v ∧ receive c s m = c.group.handleM3 m.calls s m.tlvs v := by
  obtain ⟨rest, hfind⟩ := hasState_iff.mp hM3
  obtain ⟨v, hv⟩ := Option.isSome_iff_exists.mp h.v
  obtain ⟨B, hB⟩ := Option.isSome_iff_exists.mp h.B
  refine ⟨v, hv, ?_⟩
  rw [receive]
  exact c.group.handleTlvs_of_m3 hfind rfl hB hv

/-! ## Runs -/

variable (c) in
/-- Whether the last M1 failed is a matter of the random bytes there were for it. -/
theorem startFailed_iff (ms : List PairingMessage) : StartFailed c ms ↔ StartStarved ms := by
  have hfails : ∀ (s : AirPlayTransientPairing) {i : PairingMessage}, i.isStart = true →
      ((receive c s i).1.ok = false ↔ i.starved = true) := by
    intro s i hstart
    rw [(receive_start hstart).1, Bool.not_eq_false']
  refine ⟨?_, ?_⟩
  · intro hfailed
    obtain ⟨before, i, after, rfl, ⟨hstart, hok⟩, hafter⟩ := hfailed
    exact ⟨before, i, after, rfl, ⟨hstart, (hfails _ hstart).mp hok⟩, hafter⟩
  · intro hstarved
    obtain ⟨before, i, after, rfl, ⟨hstart, hempty⟩, hafter⟩ := hstarved
    exact ⟨before, i, after, rfl, ⟨hstart, (hfails _ hstart).mpr hempty⟩, hafter⟩

/-- A failed M1 leaves the verifier behind, for good. -/
theorem run_started {ms : List PairingMessage} (h : StartFailed c ms) :
    Started c (run (next c) {} ms) := by
  obtain ⟨before, i, after, rfl, ⟨hstart, -⟩, -⟩ := h
  rw [run_append, run_cons]
  apply run_induction
  · intro s m hs
    exact next_started hs m
  · exact (receive_start hstart).2.1

/-- The secret exponent is zero from a failed M1 to the next one. -/
theorem run_exponent {ms : List PairingMessage} (h : StartFailed c ms) :
    (run (next c) {} ms).impl.b = some 0 := by
  rw [startFailed_iff] at h
  obtain ⟨before, i, after, rfl, ⟨hstart, hstarved⟩, hafter⟩ := h
  rw [run_append, run_cons]
  apply run_induction_along (P := fun s : AirPlayTransientPairing => s.impl.b = some 0)
  · exact (receive_start hstart).2.2.2 hstarved
  · intro s m hm hb
    obtain ⟨pub, himpl⟩ := next_impl (c := c) (s := s) (hafter m hm)
    rw [himpl]
    exact hb

/-- Where no M3 with key and proof follows a failed M1, the pairing stays incomplete. -/
theorem run_incomplete {ms : List PairingMessage}
    (hm3 : ∀ pre m, pre ++ [m] <+: ms → StartStarved pre → m.isM3 = true → m.proves = false) :
    ∀ pre, pre <+: ms → StartFailed c pre → (run (next c) {} pre).complete = false := by
  intro pre
  induction pre using List.reverseRecOn with
  | nil =>
    intro _ hfailed
    exact absurd hfailed (not_since_nil _)
  | append_singleton pre j ih =>
    intro hpre hfailed
    rw [run_snoc]
    obtain ⟨hstart, -⟩ | ⟨hfailed, hstart⟩ := since_snoc.mp hfailed
    · exact (receive_start hstart).2.2.1
    · have hidle : next c (run (next c) {} pre) j = run (next c) {} pre := by
        apply next_idle hstart
        exact hm3 pre j hpre ((startFailed_iff c pre).mp hfailed)
      rw [hidle]
      exact ih (prefix_of_snoc hpre) hfailed

theorem not_start_of_m3 (h : m.isM3 = true) : ¬ m.isStart = true := by
  obtain ⟨rest, hfind⟩ := hasState_iff.mp h
  simp [isStart, hasState, hfind]

variable (c) in
/-- **When a failed start stays failed.** In a run from a new pairing, every M3 whose last
    M1 failed is refused exactly where none of them carries a key and a proof of the
    right lengths. -/
theorem failed_start_refuses_iff (ms : List PairingMessage) :
    (∀ pre m, pre ++ [m] <+: ms → StartFailed c pre → m.isM3 = true →
        Refused c (run (next c) {} pre) m) ↔
      (∀ pre m, pre ++ [m] <+: ms → StartStarved pre → m.isM3 = true → m.proves = false) := by
  refine ⟨?_, ?_⟩
  · intro hrefused pre m hpre hstarved hM3
    have hfailed : StartFailed c pre := (startFailed_iff c pre).mpr hstarved
    obtain ⟨hok, -⟩ := hrefused pre m hpre hfailed hM3
    obtain ⟨v, -, heq⟩ := receive_m3 (run_started hfailed) hM3
    -- With key and proof it would have been answered.
    cases hproves : m.proves with
    | false => rfl
    | true =>
      have hanswered := (handleM3_proving (c := c) (s := run (next c) {} pre) hproves v).1
      rw [← heq, hok] at hanswered
      cases hanswered
  · intro hm3 pre m hpre hfailed hM3
    have hproves := hm3 pre m hpre ((startFailed_iff c pre).mp hfailed) hM3
    have hsame : next c (run (next c) {} pre) m = run (next c) {} pre :=
      next_idle (not_start_of_m3 hM3) (fun _ => hproves)
    refine ⟨?_, hsame, ?_⟩
    · obtain ⟨v, -, heq⟩ := receive_m3 (run_started hfailed) hM3
      rw [heq, handleM3_unproving hproves]
    · rw [hsame]
      exact run_incomplete hm3 pre (prefix_of_snoc hpre) hfailed

/-! ## What the pairing can then be completed with -/

/-- The proof of the secret 1, for any client key, under the salt the failed M1 left. -/
def proofOfOne (c : SrpBackend) (s : AirPlayTransientPairing) (A : ℕ) : Bytes :=
  c.group.clientProof s.impl.salt A s.impl.B_bytes (c.sha512 (c.group.bnPad 1))

/-- After a failed M1 every client key below the modulus completes the pairing with a
    session key that depends on nothing: the secret is 1. -/
theorem failed_start_completed {ms : List PairingMessage} (h : StartFailed c ms) {pub : Bytes}
    (hM3 : m.isM3 = true) (hpub : findTlv m.tlvs 3 = some pub) (hlength : pub.length = 384)
    (hproof : findTlv m.tlvs 4 = some (proofOfOne c (run (next c) {} ms) (ofBytes pub)))
    (hzero : ofBytes pub ≠ 0) (hlt : ofBytes pub < c.group.modulus) :
    (next c (run (next c) {} ms) m).complete = true ∧
      (next c (run (next c) {} ms) m).sharedSecret = c.sha512 (c.group.bnPad 1) := by
  have hstarted := run_started h
  have hsecret : c.group.serverSecret (run (next c) {} ms) (ofBytes pub) = 1 := by
    rw [SrpGroup.serverSecret, run_exponent h, hstarted.N, Option.getD_some, Option.getD_some, pow_zero]
    exact Nat.mod_eq_of_lt (by omega)
  have hkey : c.group.serverKey (run (next c) {} ms) (ofBytes pub) = c.sha512 (c.group.bnPad 1) := by
    rw [SrpGroup.serverKey, hsecret]
    rfl
  obtain ⟨v, hv, heq⟩ := receive_m3 hstarted hM3
  rw [next, heq, c.group.handleM3_proved hpub _ hv hstarted.N _ rfl hzero hlt]
  · exact ⟨rfl, hkey⟩
  · rw [hproof, SrpGroup.expectedProof, hkey]
    rfl
  · rw [hlength]
    exact c.kN_length.symm

/-- An M1 without random bytes. -/
def starvedM1 : PairingMessage :=
  { salt := none, secret := none, tlvs := [⟨0, [0]⟩, ⟨6, [1]⟩, ⟨0x13, [0x10]⟩] }

/-- M3 with the client key 1. -/
def oneM3 : PairingMessage :=
  { salt := none, secret := none
    tlvs := [⟨6, [3]⟩, ⟨3, zeroTail.group.bnPad 1⟩,
      ⟨4, proofOfOne zeroTail (run (next zeroTail) {} [starvedM1]) 1⟩] }

/-- An M1 fails for want of a salt, and the M3 after it completes the pairing. -/
theorem starved_start_completed :
    ¬ (∀ pre m, pre ++ [m] <+: [starvedM1, oneM3] → StartFailed zeroTail pre → m.isM3 = true →
        Refused zeroTail (run (next zeroTail) {} pre) m) ∧
      (run (next zeroTail) {} [starvedM1, oneM3]).complete = true := by
  have hstarved : StartStarved [starvedM1] := by
    refine ⟨[], starvedM1, [], rfl, ?_, by simp⟩
    decide
  have hfailed : StartFailed zeroTail [starvedM1] := (startFailed_iff zeroTail _).mpr hstarved
  have hone : ofBytes (zeroTail.group.bnPad 1) = 1 := by decide +kernel
  have hrun : run (next zeroTail) {} [starvedM1, oneM3] =
      next zeroTail (run (next zeroTail) {} [starvedM1]) oneM3 :=
    run_snoc (next zeroTail) {} [starvedM1] oneM3
  have hcomplete : (run (next zeroTail) {} [starvedM1, oneM3]).complete = true := by
    have hM3 : oneM3.isM3 = true := by simp [isM3, hasState, findTlv, oneM3]
    have hpub : findTlv oneM3.tlvs 3 = some (zeroTail.group.bnPad 1) := by simp [findTlv, oneM3]
    have hproof : findTlv oneM3.tlvs 4 =
        some (proofOfOne zeroTail (run (next zeroTail) {} [starvedM1]) 1) := by
      simp [findTlv, oneM3]
    rw [← hone] at hproof
    have hlt : ofBytes (zeroTail.group.bnPad 1) < zeroTail.group.modulus := by decide +kernel
    rw [hrun]
    exact (failed_start_completed hfailed hM3 hpub ((zeroTail.group.length_bnPad 1).trans zeroTail.group_length) hproof (by simp [hone]) hlt).1
  refine ⟨?_, hcomplete⟩
  intro hrefused
  obtain ⟨-, -, hincomplete⟩ := hrefused [starvedM1] oneM3 (List.prefix_refl _) hfailed rfl
  rw [hrun, hincomplete] at hcomplete
  cases hcomplete

end AirPlayTransientPairing
end AirPlay2
