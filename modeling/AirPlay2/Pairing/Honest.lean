import AirPlay2.Pairing.Hkp

/- An honest client's pair-verify. It agrees on the same secret as the receiver, so it
   shares the stream: the receiver's signature lies at position 0 of it, the client's at
   64. The receiver signs its own Curve25519 key first, the client its own. Whatever was
   left by earlier calls is replaced by the start (`honest_client_verified`). -/
namespace AirPlay2
open Lib

/-- What the code relies on of OpenSSL. -/
structure HkpBackend.Lawful (c : HkpBackend) : Prop where
  edPublic_length : ∀ key, (c.edPublic key).length = 32
  edSign_length : ∀ key message, (c.edSign key message).length = 64
  edVerify_edSign : ∀ key message,
    c.edVerify (c.edPublic key) message (c.edSign key message) = true
  xPublic_length : ∀ key, (c.xPublic key).length = 32
  xAgree_length : ∀ a b, (c.xAgree a (c.xPublic b)).length = 32
  xAgree_comm : ∀ a b, c.xAgree a (c.xPublic b) = c.xAgree b (c.xPublic a)

/-- Every call succeeds. -/
def HkpCalls.succeed (e : HkpCalls) : Bool :=
  e.keygen.isSome && e.rawPublic && e.random.isSome && e.newPrivateKey && e.newPeerKey &&
    e.derive && e.sign && e.cipher && e.newClientKey && e.verify

def HkpCall.succeeds : HkpCall → Bool
  | pairSetup _ e => e.succeed
  | pairVerify _ e => e.succeed

theorem HkpCalls.succeed_parts {e : HkpCalls} (h : e.succeed = true) :
    (∃ key, e.keygen = some key) ∧ (∃ seed, e.random = some seed) ∧ e.rawPublic = true ∧
      e.newPrivateKey = true ∧ e.newPeerKey = true ∧ e.derive = true ∧ e.sign = true ∧
      e.cipher = true ∧ e.newClientKey = true ∧ e.verify = true := by
  simp only [succeed, Bool.and_eq_true, Option.isSome_iff_exists] at h
  obtain ⟨⟨⟨⟨⟨⟨⟨⟨⟨hkeygen, hraw⟩, hrandom⟩, hprivate⟩, hpeer⟩, hderive⟩, hsign⟩, hcipher⟩, hclient⟩,
    hverify⟩ := h
  exact ⟨hkeygen, hrandom, hraw, hprivate, hpeer, hderive, hsign, hcipher, hclient, hverify⟩

/-! ## The client -/

/-- A pair-verify message: the state byte, three more, and 64 bytes. -/
def verifyMessage (state : UInt8) (header payload : Bytes) : Bytes := state :: (header ++ payload)

theorem length_verifyMessage {state : UInt8} {header payload : Bytes} (hh : header.length = 3)
    (hp : payload.length = 64) : (verifyMessage state header payload).length = 68 := by
  simp [verifyMessage, hh, hp]

theorem drop_verifyMessage {state : UInt8} {header payload : Bytes} (hh : header.length = 3) :
    (verifyMessage state header payload).drop 4 = payload := by
  simp [verifyMessage, List.drop_left' hh]

structure HkpClient where
  ed25519 : RawKey
  x25519 : RawKey

namespace HkpClient

variable (c : HkpBackend) (client : HkpClient)

def startMessage (header : Bytes) : Bytes :=
  verifyMessage 1 header (c.xPublic client.x25519 ++ c.edPublic client.ed25519)

/-- The stream the client derives from the key the receiver answers with. -/
def stream (answer : Bytes) : ℕ → UInt8 := c.pairStream (c.xAgree client.x25519 (answer.take 32))

/-- The signature in the answer is the receiver's, over both keys. -/
def checks (identity answer : Bytes) : Bool :=
  c.edVerify identity (answer.take 32 ++ c.xPublic client.x25519)
    (xorAt (client.stream c answer) 0 (answer.drop 32))

def finishMessage (header answer : Bytes) : Bytes :=
  verifyMessage 0 header (xorAt (client.stream c answer) 64
    (c.edSign client.ed25519 (c.xPublic client.x25519 ++ answer.take 32)))

variable {c}

/-- The start is one, and holds the client's two keys. -/
theorem startMessage_read (hc : c.Lawful) {header : Bytes} (hheader : header.length = 3)
    (e : HkpCalls) :
    (HkpCall.pairVerify (client.startMessage c header) e).starts = true ∧
      substr (client.startMessage c header) 4 32 = c.xPublic client.x25519 ∧
      (client.startMessage c header).drop 36 = c.edPublic client.ed25519 := by
  have hpayload : (c.xPublic client.x25519 ++ c.edPublic client.ed25519).length = 64 := by
    rw [List.length_append, hc.xPublic_length, hc.edPublic_length]
  refine ⟨?_, ?_, ?_⟩
  · simp only [HkpCall.starts, startMessage, length_verifyMessage hheader hpayload,
      beq_self_eq_true, Bool.true_and]
    rfl
  · simp only [substr, startMessage, drop_verifyMessage hheader]
    exact List.take_left' (hc.xPublic_length _)
  · have hsplit : (client.startMessage c header).drop 36 =
        ((client.startMessage c header).drop 4).drop 32 := by rw [List.drop_drop]
    rw [hsplit, startMessage, drop_verifyMessage hheader]
    exact List.drop_left' (hc.xPublic_length _)

/-- The finish is one, and carries the client's signature in the stream from 64 on. -/
theorem finishMessage_read (hc : c.Lawful) {header : Bytes} (hheader : header.length = 3)
    (answer : Bytes) (e : HkpCalls) :
    (HkpCall.pairVerify (client.finishMessage c header answer) e).finishes = true ∧
      xorAt (client.stream c answer) 64 ((client.finishMessage c header answer).drop 4) =
        c.edSign client.ed25519 (c.xPublic client.x25519 ++ answer.take 32) := by
  refine ⟨?_, ?_⟩
  · have hsigned : (xorAt (client.stream c answer) 64
        (c.edSign client.ed25519 (c.xPublic client.x25519 ++ answer.take 32))).length = 64 := by
      rw [length_xorAt, hc.edSign_length]
    simp only [HkpCall.finishes, finishMessage, length_verifyMessage hheader hsigned,
      beq_self_eq_true, Bool.true_and]
    rfl
  · rw [finishMessage, drop_verifyMessage hheader, xorAt_xorAt]

end HkpClient

/-! ## The receiver when every call succeeds -/

namespace AirPlayHkpPairing
open HkpBackend

variable (c : HkpBackend)

/-- The identity is given out as it is, and a secret comes with its key. -/
structure Sound (s : AirPlayHkpPairing) : Prop where
  identity : ∀ key, s.impl.ed25519 = some key → s.impl.edPublic = c.edPublic key
  secret : s.impl.shared ≠ [] → ∃ x25519, s.impl.x25519 = some x25519

/-- /pair-setup gives out the identity, the one there is or a new one. -/
theorem handlePairSetup_succeeds {e : HkpCalls} (he : e.succeed = true) {s : AirPlayHkpPairing}
    (hs : Sound c s) {request : Bytes} (hlen : request.length = 32) :
    ∃ key, (handlePairSetup c e s request).1 =
        { ok := (c.edPublic key).length == 32, response := c.edPublic key } ∧
      (handlePairSetup c e s request).2.impl.ed25519 = some key ∧
      Sound c (handlePairSetup c e s request).2 := by
  obtain ⟨⟨new, hnew⟩, -, hraw, -⟩ := HkpCalls.succeed_parts he
  unfold handlePairSetup
  rw [if_neg (not_not.mpr hlen), hnew]
  cases hed : s.impl.ed25519 with
  | some key =>
    refine ⟨key, ?_, hed, hs⟩
    rw [← hs.identity key hed]
  | none =>
    refine ⟨new, ?_, ?_, ?_⟩
    · simp [rawPublic, hraw]
    · simp [rawPublic, hraw]
    · refine ⟨?_, ?_⟩
      · intro key hkey
        simp only [rawPublic, hraw, if_true, Bool.not_true, Bool.false_eq_true, if_false,
          Option.some.injEq] at hkey ⊢
        rw [hkey]
      · simpa [rawPublic, hraw] using hs.secret

/-- A start with an identity: the keys and the secret of the new exchange, and the
    receiver's signature over both keys at the head of the stream. -/
theorem startVerify_succeeds {e : HkpCalls} (he : e.succeed = true) {s : AirPlayHkpPairing}
    {key : RawKey} (hkey : s.impl.ed25519 = some key) (request : Bytes) :
    ∃ seed, startVerify c e s request =
      ({ ok := (c.xPublic seed ++ xorAt (c.pairStream (c.xAgree seed (substr request 4 32))) 0
            (c.edSign key (c.xPublic seed ++ substr request 4 32))).length == 96
         response := c.xPublic seed ++ xorAt (c.pairStream (c.xAgree seed (substr request 4 32))) 0
            (c.edSign key (c.xPublic seed ++ substr request 4 32)) },
        { s with impl := { s.impl with
          x25519 := some seed
          clientCurvePublic := substr request 4 32
          clientEdPublic := request.drop 36
          shared := c.xAgree seed (substr request 4 32) } }) := by
  obtain ⟨-, ⟨seed, hseed⟩, hraw, hprivate, hpeer, hderive, hsign, hcipher, -, -⟩ :=
    HkpCalls.succeed_parts he
  refine ⟨seed, ?_⟩
  unfold startVerify
  simp only [hkey, hseed, hprivate, hraw, hpeer, hderive, hsign, hcipher, rawPublic, x25519Shared,
    aes128CtrAtOffset_eq, if_true, Bool.not_true, Bool.false_eq_true, if_false]

/-- A start before any /pair-setup takes over the client's keys. -/
theorem startVerify_refused (e : HkpCalls) {s : AirPlayHkpPairing} (hkey : s.impl.ed25519 = none)
    (request : Bytes) : (startVerify c e s request).2 =
      { s with impl := { s.impl with
        clientCurvePublic := substr request 4 32
        clientEdPublic := request.drop 36 } } := by
  unfold startVerify
  simp only [hkey]

/-- A finish returns unless there is a secret without its key. -/
theorem Sound.finishVerify_returns {s : AirPlayHkpPairing} (hs : Sound c s) (e : HkpCalls)
    (request : Bytes) : ∃ x, finishVerify c e s request = some x := by
  by_cases hshared : s.impl.shared = []
  · unfold finishVerify
    rw [hshared]
    exact ⟨_, rfl⟩
  · obtain ⟨x25519, hx⟩ := hs.secret hshared
    exact finishVerify_some c _ _ hx

theorem Sound.step {s : AirPlayHkpPairing} (hs : Sound c s) {call : HkpCall}
    (hcall : call.succeeds = true) : ∃ s', s.step c call = some s' ∧ Sound c s' := by
  cases call with
  | pairSetup request e =>
    by_cases hlen : request.length = 32
    · obtain ⟨key, -, -, hsound⟩ := handlePairSetup_succeeds c hcall hs hlen
      exact ⟨_, rfl, hsound⟩
    · refine ⟨s, ?_, hs⟩
      simp only [AirPlayHkpPairing.step, handlePairSetup, if_pos hlen]
  | pairVerify request e =>
    obtain ⟨hidentity, hsecret⟩ := id hs
    simp only [AirPlayHkpPairing.step]
    unfold handlePairVerify
    split
    · exact ⟨s, rfl, hs⟩
    · split
      · refine ⟨_, rfl, ?_⟩
        cases hed : s.impl.ed25519 with
        | none =>
          rw [startVerify_refused c e hed]
          exact ⟨hidentity, hsecret⟩
        | some key =>
          obtain ⟨seed, hstart⟩ := startVerify_succeeds c hcall hed request
          rw [hstart]
          exact ⟨hidentity, fun _ => ⟨seed, rfl⟩⟩
      · split
        · rename_i hlen _ _
          obtain ⟨x, hx⟩ := hs.finishVerify_returns c e request
          rw [hx]
          refine ⟨x.2, rfl, ?_⟩
          obtain ⟨-, -, hs'⟩ | ⟨-, -, hs'⟩ := finishVerify_cases c (not_not.mp hlen) hx
          · rw [hs']
            exact ⟨hidentity, hsecret⟩
          · rw [hs']
            exact hs
        · exact ⟨s, rfl, hs⟩

end AirPlayHkpPairing

/-! ## The exchange -/

namespace HkpProcess
open AirPlayHkpPairing HkpBackend

variable {c : HkpBackend}

/-- Calls that succeed keep the object alive and sound. -/
theorem run_sound {calls : List HkpCall} (hcalls : ∀ call ∈ calls, call.succeeds = true) :
    ∃ s, run (step c) start calls = some s ∧ Sound c s := by
  induction calls using List.reverseRecOn with
  | nil =>
    refine ⟨{}, rfl, ?_, ?_⟩
    · intro key hkey
      cases hkey
    · intro hshared
      exact absurd rfl hshared
  | append_singleton calls call ih =>
    obtain ⟨s, hs, hsound⟩ := ih (fun k hk => hcalls k (List.mem_append_left _ hk))
    obtain ⟨s', hs', hsound'⟩ := hsound.step c (hcalls call (by simp))
    refine ⟨s', ?_, hsound'⟩
    rw [run_snoc, hs]
    exact hs'

/-- What an honest client meets in the state `s`: its /pair-setup is answered, its start
    is answered with 96 bytes that it finds the receiver's signature in, and its finish
    is accepted and verifies the object. -/
def HonestExchange (c : HkpBackend) (s : AirPlayHkpPairing) (client : HkpClient)
    (e₁ e₂ e₃ : HkpCalls) (hello header header' : Bytes) : Prop :=
  let setup := handlePairSetup c e₁ s hello
  setup.1.ok = true ∧
    ∃ first, handlePairVerify c e₂ setup.2 (client.startMessage c header) = some first ∧
      first.1.ok = true ∧ first.1.response.length = 96 ∧
      client.checks c setup.1.response first.1.response = true ∧
      ∃ last, handlePairVerify c e₃ first.2 (client.finishMessage c header' first.1.response) =
          some last ∧
        last.1.ok = true ∧ last.2.verified = true

/-- The receiver accepts the finish of a client that shares its secret and whose keys it
    stores. -/
theorem honest_finish (hc : c.Lawful) (client : HkpClient) {e : HkpCalls} (he : e.succeed = true)
    {header : Bytes} (hheader : header.length = 3) {answer : Bytes} {s : AirPlayHkpPairing}
    {seed : RawKey} (hseed : s.impl.x25519 = some seed) (hkey : answer.take 32 = c.xPublic seed)
    (hcurve : s.impl.clientCurvePublic = c.xPublic client.x25519)
    (hed : s.impl.clientEdPublic = c.edPublic client.ed25519)
    (hshared : s.impl.shared = c.xAgree client.x25519 (c.xPublic seed)) :
    ∃ last, handlePairVerify c e s (client.finishMessage c header answer) = some last ∧
      last.1.ok = true ∧ last.2.verified = true := by
  obtain ⟨-, -, hraw, -, -, -, -, hcipher, hnew, hverify⟩ := HkpCalls.succeed_parts he
  obtain ⟨hfinishes, hsigned⟩ := client.finishMessage_read hc hheader answer e
  have hcarried : carried c s (client.finishMessage c header answer) =
      c.edSign client.ed25519 (c.xPublic client.x25519 ++ c.xPublic seed) := by
    rw [carried, hshared, ← hkey]
    exact hsigned
  have hne : c.xAgree client.x25519 (c.xPublic seed) ≠ [] := by
    intro hnil
    have hlen := hc.xAgree_length client.x25519 seed
    rw [hnil] at hlen
    cases hlen
  have haccepts : accepts c e s (client.finishMessage c header answer) = true := by
    simp only [accepts, hcarried, hcurve, hed, hseed, hc.edPublic_length, hraw, hcipher, hnew,
      hverify, hc.edVerify_edSign, beq_self_eq_true, Bool.and_true, Bool.not_eq_true',
      List.isEmpty_eq_false_iff]
    rw [hshared]
    exact hne
  obtain ⟨last, hlast, hok, hs⟩ := finish_of_accepts c hfinishes haccepts
  exact ⟨last, hlast, hok, by rw [hs]⟩

theorem sound_honestExchange (hc : c.Lawful) {s : AirPlayHkpPairing} (hs : Sound c s)
    (client : HkpClient) {e₁ e₂ e₃ : HkpCalls} (h₁ : e₁.succeed = true) (h₂ : e₂.succeed = true)
    (h₃ : e₃.succeed = true) {hello header header' : Bytes} (hhello : hello.length = 32)
    (hheader : header.length = 3) (hheader' : header'.length = 3) :
    HonestExchange c s client e₁ e₂ e₃ hello header header' := by
  obtain ⟨key, hreply, hkey, -⟩ := handlePairSetup_succeeds c h₁ hs hhello
  obtain ⟨hstarts, hcurve, hed⟩ := client.startMessage_read hc hheader e₂
  obtain ⟨seed, hstart⟩ := startVerify_succeeds c h₂ hkey (client.startMessage c header)
  rw [hcurve, hed] at hstart
  -- the secret is the same on both sides, and with it the stream
  have hsecret : c.xAgree seed (c.xPublic client.x25519) = c.xAgree client.x25519 (c.xPublic seed) :=
    hc.xAgree_comm seed client.x25519
  have hanswer : ∀ encrypted : Bytes, (c.xPublic seed ++ encrypted).take 32 = c.xPublic seed ∧
      (c.xPublic seed ++ encrypted).drop 32 = encrypted := by
    intro encrypted
    exact ⟨List.take_left' (hc.xPublic_length _), List.drop_left' (hc.xPublic_length _)⟩
  have hlength : (c.xPublic seed ++ xorAt (c.pairStream (c.xAgree seed (c.xPublic client.x25519))) 0
      (c.edSign key (c.xPublic seed ++ c.xPublic client.x25519))).length = 96 := by
    rw [List.length_append, length_xorAt, hc.xPublic_length, hc.edSign_length]
  refine ⟨?_, _, (handlePairVerify_start c hstarts).trans (congrArg some hstart), ?_, ?_, ?_, ?_⟩
  · rw [hreply]
    simp [hc.edPublic_length]
  · simp only [hlength, beq_self_eq_true]
  · exact hlength
  · -- the receiver's signature, taken out of the stream at its head
    rw [hreply]
    simp only [HkpClient.checks, HkpClient.stream, (hanswer _).1, (hanswer _).2, hsecret,
      xorAt_xorAt]
    exact hc.edVerify_edSign _ _
  · exact honest_finish hc client h₃ hheader' rfl (hanswer _).1 rfl rfl hsecret

/-- **HKP pairing is complete for honest clients.** After any earlier calls, whatever
    their bytes, and for all key pairs of the client, its exchange succeeds on both sides
    if OpenSSL does what it documents and no call of it fails. -/
theorem honest_client_verified (hc : c.Lawful) {earlier : List HkpCall}
    (hearlier : ∀ call ∈ earlier, call.succeeds = true) (client : HkpClient)
    {e₁ e₂ e₃ : HkpCalls} (h₁ : e₁.succeed = true) (h₂ : e₂.succeed = true)
    (h₃ : e₃.succeed = true) {hello header header' : Bytes} (hhello : hello.length = 32)
    (hheader : header.length = 3) (hheader' : header'.length = 3) :
    ∃ s, run (step c) start earlier = some s ∧
      HonestExchange c s client e₁ e₂ e₃ hello header header' := by
  obtain ⟨s, hs, hsound⟩ := run_sound hearlier
  exact ⟨s, hs, sound_honestExchange hc hsound client h₁ h₂ h₃ hhello hheader hheader'⟩

end HkpProcess

/-! ## A backend to compute with -/

/-- Keys are their own public keys, agreement is XOR, a signature is the key and the
    head of the message. -/
def xorBackend : HkpBackend where
  edPublic key := key.1
  edSign key message := key.1 ++ (message ++ List.replicate 32 0).take 32
  edVerify key message signature := signature == key ++ (message ++ List.replicate 32 0).take 32
  xPublic key := key.1
  xAgree key peer := List.zipWith (· ^^^ ·) key.1 peer
  sha512 data := (data.reverse ++ List.replicate 64 0).take 64
  keystream key iv n := (key ++ iv).getD (n % 32) 0

theorem xorBackend_lawful : xorBackend.Lawful where
  edPublic_length key := key.2
  edSign_length key message := by simp [xorBackend, key.2]
  edVerify_edSign key message := by simp [xorBackend]
  xPublic_length key := key.2
  xAgree_length a b := by simp [xorBackend, a.2, b.2]
  xAgree_comm a b := by
    simp only [xorBackend]
    rw [List.zipWith_comm]
    simp only [UInt8.xor_comm]

/-- 32 bytes, all the same. -/
def filled (b : UInt8) : RawKey := ⟨List.replicate 32 b, List.length_replicate⟩

/-- Calls that succeed and draw these keys. -/
def drawing (key seed : UInt8) : HkpCalls := { keygen := some (filled key), random := some (filled seed) }

def filledClient (ed25519 x25519 : UInt8) : HkpClient :=
  { ed25519 := filled ed25519, x25519 := filled x25519 }

/-- After a start that came too early, an honest client completes. -/
theorem filledClient_verified :
    ∃ s, run (HkpProcess.step xorBackend) HkpProcess.start
        [.pairVerify ((filledClient 7 8).startMessage xorBackend [0, 0, 0]) (drawing 1 2)] = some s ∧
      HkpProcess.HonestExchange xorBackend s (filledClient 3 4) (drawing 1 2) (drawing 1 2)
        (drawing 1 2) (filled 9).1 [0, 0, 0] [0, 0, 0] :=
  HkpProcess.honest_client_verified xorBackend_lawful (by simp [HkpCall.succeeds, HkpCalls.succeed,
    drawing]) _ rfl rfl rfl (filled 9).2 rfl rfl

end AirPlay2
