import AirPlay2.Pairing.FailedStart
import AirPlay2.Pairing.TlvGrammar
import AirPlay2.Receiver.HkpConversation
import AirPlay2.Receiver.Lifecycle

/- What a connection has proved of its peer. Whatever bytes arrive, in whatever chunks: the transient
   pairing is what the last exchange begun has made of a new one, and is never complete, for an item
   of a message is shorter than a public key (`transient_over_wire`); and the HKP pairing is verified
   exactly if one of the requests answered was a finish whose signature verified under the keys of the
   latest start before it (`verified_over_wire`). No other request, and nothing the session gets from
   its other callers, has a say in either. -/
namespace AirPlay2
open Lib

/-! ## The transient pairing -/

namespace AirPlayTransientPairing

/-- The pairing state of a message. -/
def stateOf (message : Bytes) : Option UInt8 := (findTlv (decodeTlv message) 0x06).bind List.head?

/-- The message begins an exchange, whatever becomes of it. -/
def begins (x : Bytes × OpenSsl) : Bool :=
  x.2.context && stateOf x.1 == some 1 && SrpGroup.plainMethod (decodeTlv x.1) &&
    SrpGroup.transient (decodeTlv x.1)

/-- Nothing of a client's proof is there. -/
structure Unproven (s : AirPlayTransientPairing) : Prop where
  complete : s.complete = false
  sharedSecret : s.sharedSecret = []
  A : s.impl.A = []

variable (b : SrpBackend) {e : OpenSsl} {s : AirPlayTransientPairing}

/-- An item of a message has 255 bytes at most. -/
theorem length_findTlv_le {message : Bytes} {type : UInt8} {value : Bytes}
    (h : findTlv (decodeTlv message) type = some value) : value.length ≤ 255 := by
  obtain ⟨t, ht, rfl⟩ := Option.map_eq_some_iff.mp h
  have hmem := List.mem_of_find?_eq_some ht
  exact (text_of_decodeTlv (List.ne_nil_of_mem hmem)).fits t hmem

/-- So there is no M3 with a public key. -/
theorem handleM3_cut (message : Bytes) (v : ℕ) :
    b.group.handleM3 e s (decodeTlv message) v = ({ ok := false, error := "invalid SRP M3" }, s) := by
  unfold SrpGroup.handleM3
  cases hpub : findTlv (decodeTlv message) 3 with
  | none => rfl
  | some pub =>
    cases findTlv (decodeTlv message) 4 with
    | none => rfl
    | some proof =>
      -- a public key has the 384 bytes of the modulus
      have hlen : pub.length ≠ b.group.kN.length := by
        have hle := length_findTlv_le hpub
        rw [b.group_length]
        omega
      dsimp only
      rw [if_pos (by rw [decide_eq_true hlen, Bool.true_or])]

/-- An M1 with the parameters of a transient pairing forgets what there was. -/
theorem handleM1_fresh {tlvs : List Tlv} (hplain : SrpGroup.plainMethod tlvs = true)
    (htransient : SrpGroup.transient tlvs = true) :
    b.group.handleM1 e s tlvs = b.group.handleM1 e {} tlvs ∧ Unproven (b.group.handleM1 e s tlvs).2 := by
  have hparams : ¬ (!SrpGroup.plainMethod tlvs || !SrpGroup.transient tlvs) = true := by
    simp [hplain, htransient]
  unfold SrpGroup.handleM1
  rw [if_neg hparams, if_neg hparams]
  refine ⟨rfl, ?_⟩
  dsimp only
  split
  · exact ⟨rfl, rfl, rfl⟩
  · split
    · exact ⟨rfl, rfl, rfl⟩
    · split
      · exact ⟨rfl, rfl, rfl⟩
      · split <;> exact ⟨rfl, rfl, rfl⟩

/-- Any other M1 changes nothing. -/
theorem handleM1_refused {tlvs : List Tlv}
    (h : (SrpGroup.plainMethod tlvs && SrpGroup.transient tlvs) = false) :
    (b.group.handleM1 e s tlvs).2 = s := by
  have hparams : (!SrpGroup.plainMethod tlvs || !SrpGroup.transient tlvs) = true := by
    rw [← Bool.not_and, h]
    rfl
  unfold SrpGroup.handleM1
  rw [if_pos hparams]

/-- A message that is no M1 is refused, and changes nothing. -/
theorem handle_refused {message : Bytes} (h : stateOf message ≠ some 1) :
    (handle b e s message).1.ok = false ∧ (handle b e s message).2 = s := by
  unfold handle SrpGroup.handleTlvs
  split
  · exact ⟨rfl, rfl⟩
  · split
    · rename_i state rest hfind
      have hone : ¬ state = 1 := by
        rintro rfl
        exact h (by rw [stateOf, hfind]; rfl)
      rw [if_neg hone]
      split
      · exact ⟨rfl, rfl⟩
      · split
        · split
          · rw [handleM3_cut]
            exact ⟨rfl, rfl⟩
          · exact ⟨rfl, rfl⟩
        · exact ⟨rfl, rfl⟩
    · exact ⟨rfl, rfl⟩

/-- What a message does: begin an exchange, or nothing. -/
theorem take_cases (s : AirPlayTransientPairing) (x : Bytes × OpenSsl) :
    (begins x = true ∧ s.take b x = take b {} x ∧ Unproven (s.take b x)) ∨
      (begins x = false ∧ s.take b x = s) := by
  obtain ⟨message, e⟩ := x
  by_cases hstate : stateOf message = some 1
  · obtain ⟨value, hfind, hhead⟩ := Option.bind_eq_some_iff.mp hstate
    obtain ⟨rest, rfl⟩ := List.head?_eq_some_iff.mp hhead
    have hne : decodeTlv message ≠ [] := by
      intro hnil
      rw [hnil] at hfind
      cases hfind
    have htake : ∀ s : AirPlayTransientPairing, s.take b (message, e) =
        if e.context then (b.group.handleM1 e s (decodeTlv message)).2 else s := by
      intro s
      rw [take, handle, SrpGroup.handleTlvs, if_neg hne, hfind]
      dsimp only
      cases e.context with
      | true => simp
      | false => simp
    rw [htake, htake, begins, hstate]
    cases hcontext : e.context with
    | false => exact Or.inr ⟨rfl, rfl⟩
    | true =>
      cases hplain : SrpGroup.plainMethod (decodeTlv message) with
      | false => exact Or.inr ⟨rfl, handleM1_refused b (by rw [hplain]; rfl)⟩
      | true =>
        cases htransient : SrpGroup.transient (decodeTlv message) with
        | false => exact Or.inr ⟨rfl, handleM1_refused b (by rw [hplain, htransient]; rfl)⟩
        | true =>
          obtain ⟨hfresh, hunproven⟩ := handleM1_fresh b (e := e) (s := s) hplain htransient
          exact Or.inl ⟨rfl, congrArg Prod.snd hfresh, hunproven⟩
  · refine Or.inr ⟨?_, (handle_refused b hstate).2⟩
    simp [begins, hstate]

/-- What the last of the messages that begins an exchange makes of a new pairing. -/
def latest (messages : List (Bytes × OpenSsl)) : AirPlayTransientPairing :=
  (((messages.filter begins).getLast?).map (take b {})).getD {}

/-- No other message counts. -/
theorem run_take (messages : List (Bytes × OpenSsl)) :
    run (take b) {} messages = latest b messages := by
  induction messages using List.reverseRecOn with
  | nil => rfl
  | append_singleton messages x ih =>
    rw [run_snoc, latest, List.filter_append]
    obtain ⟨hbegins, hfresh, -⟩ | ⟨hbegins, hsame⟩ := take_cases b (run (take b) {} messages) x
    · rw [hfresh, List.filter_cons_of_pos hbegins, List.filter_nil, List.getLast?_append]
      rfl
    · rw [hsame, ih, List.filter_cons_of_neg (by rw [hbegins]; decide), List.filter_nil, List.append_nil,
        latest]

theorem run_unproven {s : AirPlayTransientPairing} (h : Unproven s)
    (messages : List (Bytes × OpenSsl)) : Unproven (run (take b) s messages) := by
  refine run_induction ?_ h messages
  intro s x hs
  obtain ⟨-, -, hunproven⟩ | ⟨-, hsame⟩ := take_cases b s x
  · exact hunproven
  · rw [hsame]
    exact hs

end AirPlayTransientPairing

/-! ## The HKP pairing -/

namespace AirPlayHkpPairing

variable (c : HkpBackend)

/-- A start stores the keys of the client, whatever becomes of it. -/
theorem startVerify_keys (e : HkpCalls) (s : AirPlayHkpPairing) (request : Bytes) :
    (startVerify c e s request).2.impl.clientCurvePublic = substr request 4 32 ∧
      (startVerify c e s request).2.impl.clientEdPublic = request.drop 36 := by
  unfold startVerify
  dsimp only
  split
  · exact ⟨rfl, rfl⟩
  · split
    · exact ⟨rfl, rfl⟩
    · split
      · exact ⟨rfl, rfl⟩
      · split
        · exact ⟨rfl, rfl⟩
        · split
          · exact ⟨rfl, rfl⟩
          · split
            · exact ⟨rfl, rfl⟩
            · split <;> exact ⟨rfl, rfl⟩

end AirPlayHkpPairing

namespace HkpProcess
open AirPlayHkpPairing

variable {c : HkpBackend}

/-- The call is a finish that is accepted. -/
def AcceptsFinish (c : HkpBackend) (p : HkpProcess) (call : HkpCall) : Prop :=
  ∃ t request e, p = some t ∧ call = .pairVerify request e ∧ call.finishes = true ∧
    accepts c e t request = true

/-- Nothing but an accepted finish sets the flag, and nothing clears it. -/
theorem step_verified_iff {t s : AirPlayHkpPairing} {call : HkpCall} (h : t.step c call = some s) :
    s.verified = true ↔ AcceptsFinish c (some t) call ∨ t.verified = true := by
  have haccepted : AcceptsFinish c (some t) call → s.verified = true := by
    intro hcall
    obtain ⟨t', request, e, ht, rfl, hfinishes, haccepts⟩ := hcall
    obtain rfl := Option.some.inj ht
    obtain ⟨x, hx, -, hs⟩ := finish_of_accepts c hfinishes haccepts
    rw [AirPlayHkpPairing.step, hx] at h
    obtain rfl := Option.some.inj h
    rw [hs]
  obtain ⟨hstarts, hsame⟩ | ⟨request, e, rfl, hfinishes, haccepts, rfl⟩ | ⟨-, hsame⟩ :=
    step_cases c h
  · rw [← hsame]
    exact ⟨Or.inr, fun hor => hor.elim haccepted id⟩
  · exact iff_of_true rfl (Or.inl ⟨t, request, e, rfl, rfl, hfinishes, haccepts⟩)
  · rw [← hsame.verified]
    exact ⟨Or.inr, fun hor => hor.elim haccepted id⟩

theorem run_verified_since {calls : List HkpCall} {s : AirPlayHkpPairing}
    (hs : run (step c) start calls = some s) :
    s.verified = true ↔ Since (step c) (AcceptsFinish c) (fun _ => False) start calls := by
  induction calls using List.reverseRecOn generalizing s with
  | nil =>
    obtain rfl := Option.some.inj hs
    exact iff_of_false (by decide) (not_since_nil _)
  | append_singleton calls call ih =>
    rw [run_snoc] at hs
    obtain ⟨t, ht, hstep⟩ := step_eq_some.mp hs
    rw [since_snoc, ht, ← ih ht, step_verified_iff hstep, not_false_eq_true, and_true]

/-- The client keys are those of the latest start. -/
theorem keys_of_start {before after : List HkpCall} {request : Bytes} {e : HkpCalls}
    {s : AirPlayHkpPairing}
    (hs : run (step c) start (before ++ .pairVerify request e :: after) = some s)
    (hstarts : (HkpCall.pairVerify request e).starts = true)
    (hafter : ∀ call ∈ after, call.starts = false) :
    s.impl.clientCurvePublic = substr request 4 32 ∧ s.impl.clientEdPublic = request.drop 36 := by
  induction after using List.reverseRecOn generalizing s with
  | nil =>
    rw [run_snoc] at hs
    obtain ⟨t, -, hstep⟩ := step_eq_some.mp hs
    rw [AirPlayHkpPairing.step, handlePairVerify_start c hstarts] at hstep
    obtain rfl := Option.some.inj hstep
    exact startVerify_keys c e t request
  | append_singleton after call ih =>
    rw [← List.cons_append, ← List.append_assoc, run_snoc] at hs
    obtain ⟨t, ht, hstep⟩ := step_eq_some.mp hs
    have hkeys := ih ht fun k hk => hafter k (List.mem_append_left _ hk)
    have hno := hafter call (List.mem_append_right _ (List.mem_singleton_self call))
    obtain ⟨hstarts', -⟩ | ⟨-, -, -, -, -, rfl⟩ | ⟨-, hsame⟩ := step_cases c hstep
    · rw [hno] at hstarts'
      cases hstarts'
    · exact hkeys
    · rw [hsame.clientCurvePublic, hsame.clientEdPublic]
      exact hkeys

end HkpProcess

/-! ## Behind a connection -/

section Requests

variable {δ κ : Type*}

/-- A pair-verify with state byte 1 reaches the pairing. -/
def startsVerify (x : HttpRequest × Turn δ κ) : Bool :=
  x.1.route = .hkpVerify && (HkpCall.pairVerify x.1.body x.2.calls.hkp).starts

/-- A pair-verify with state byte 0 reaches the pairing. -/
def finishesVerify (x : HttpRequest × Turn δ κ) : Bool :=
  x.1.route = .hkpVerify && (HkpCall.pairVerify x.1.body x.2.calls.hkp).finishes

/-- The `finish` carries a signature by the key in the `first` request, of its curve key and the
    receiver's, and is accepted in the state the requests before it lead to. -/
def ProvesKeys (c : HkpBackend) (before : List (HttpRequest × Turn δ κ))
    (first finish : HttpRequest × Turn δ κ) : Prop :=
  ∃ t x25519, run (HkpProcess.step c) HkpProcess.start (before.flatMap hkpCalls) = some t ∧
    AirPlayHkpPairing.accepts c finish.2.calls.hkp t finish.1.body = true ∧
    t.impl.x25519 = some x25519 ∧
    c.edVerify (first.1.body.drop 36) (substr first.1.body 4 32 ++ c.xPublic x25519)
      (AirPlayHkpPairing.carried c t finish.1.body) = true

/-- A call that the requests make is made by one of them. -/
theorem split_hkpCalls {xs : List (HttpRequest × Turn δ κ)} {before after : List HkpCall}
    {call : HkpCall} (h : xs.flatMap hkpCalls = before ++ call :: after) :
    ∃ pre x post, xs = pre ++ x :: post ∧ pre.flatMap hkpCalls = before ∧ hkpCalls x = [call] ∧
      post.flatMap hkpCalls = after := by
  induction xs generalizing before with
  | nil => simp at h
  | cons x xs ih =>
    rw [List.flatMap_cons] at h
    have hone : hkpCalls x = [] ∨ ∃ k, hkpCalls x = [k] := by
      unfold hkpCalls
      split
      · exact Or.inr ⟨_, rfl⟩
      · split
        · exact Or.inr ⟨_, rfl⟩
        · exact Or.inl rfl
    obtain hnone | ⟨k, hk⟩ := hone
    · rw [hnone, List.nil_append] at h
      obtain ⟨pre, y, post, rfl, hpre, hy, hpost⟩ := ih h
      exact ⟨x :: pre, y, post, rfl, by rw [List.flatMap_cons, hnone, hpre]; rfl, hy, hpost⟩
    · rw [hk] at h
      cases before with
      | nil =>
        obtain ⟨rfl, hafter⟩ := List.cons.inj h
        exact ⟨[], x, xs, rfl, rfl, hk, hafter⟩
      | cons k' before =>
        obtain ⟨rfl, hrest⟩ := List.cons.inj h
        obtain ⟨pre, y, post, rfl, hpre, hy, hpost⟩ := ih hrest
        exact ⟨x :: pre, y, post, rfl, by rw [List.flatMap_cons, hk, hpre]; rfl, hy, hpost⟩

/-- Only a pair-verify makes this call. -/
theorem verify_of_hkpCalls {x : HttpRequest × Turn δ κ} {request : Bytes} {e : HkpCalls}
    (h : hkpCalls x = [.pairVerify request e]) :
    x.1.route = .hkpVerify ∧ x.1.body = request ∧ x.2.calls.hkp = e := by
  unfold hkpCalls at h
  split at h
  · simp at h
  · split at h
    · rename_i hroute
      simp only [List.cons.injEq, HkpCall.pairVerify.injEq, and_true] at h
      exact ⟨hroute, h⟩
    · cases h

theorem hkpCalls_verify {x : HttpRequest × Turn δ κ} (h : x.1.route = .hkpVerify) :
    hkpCalls x = [.pairVerify x.1.body x.2.calls.hkp] := by
  rw [hkpCalls, if_neg (by rw [h]; decide), if_pos h]

/-- A request that begins no exchange makes no start. -/
theorem starts_of_hkpCalls {x : HttpRequest × Turn δ κ} {call : HkpCall} (hcall : call ∈ hkpCalls x) :
    call.starts = startsVerify x := by
  unfold hkpCalls at hcall
  unfold startsVerify
  split at hcall
  · rename_i hroute
    obtain rfl := List.mem_singleton.mp hcall
    rw [hroute]
    rfl
  · split at hcall
    · rename_i hroute
      obtain rfl := List.mem_singleton.mp hcall
      rw [hroute]
      rfl
    · cases hcall

/-- A pairing that has seen these requests is verified exactly if one of them proved the keys. -/
theorem run_hkp_verified_iff {c : HkpBackend} {answered : List (HttpRequest × Turn δ κ)} {s : AirPlayHkpPairing}
    (hs : run (HkpProcess.step c) HkpProcess.start (answered.flatMap hkpCalls) = some s) :
    s.verified = true ↔ ∃ pre first between finish post,
      answered = pre ++ first :: between ++ finish :: post ∧ startsVerify first = true ∧
        (∀ x ∈ between, startsVerify x = false) ∧ finishesVerify finish = true ∧
        ProvesKeys c (pre ++ first :: between) first finish := by
  rw [HkpProcess.run_verified_since hs]
  refine ⟨?_, ?_⟩
  · intro hsince
    obtain ⟨calls, call, later, hcalls, ⟨t, request, e, ht, rfl, hfinishes, haccepts⟩, -⟩ := hsince
    obtain ⟨before, finish, post, rfl, rfl, hfinish, -⟩ := split_hkpCalls hcalls
    obtain ⟨hroute, rfl, rfl⟩ := verify_of_hkpCalls hfinish
    obtain ⟨hshared, x25519, hx25519, hverify⟩ := AirPlayHkpPairing.accepts_parts haccepts
    -- the latest start is a request too
    obtain ⟨earlier, start, between, hstart, hstarts, hbetween⟩ :=
      HkpProcess.start_of_shared _ ht hshared
    obtain ⟨pre, first, between, rfl, rfl, hfirst, rfl⟩ := split_hkpCalls hstart
    have hfirst_starts : startsVerify first = true := by
      rw [← starts_of_hkpCalls (by rw [hfirst]; exact List.mem_singleton_self start)]
      exact hstarts
    have hbetween_none : ∀ call ∈ between.flatMap hkpCalls, call.starts = false :=
      fun call hcall => Bool.eq_false_iff.mpr (hbetween call hcall)
    refine ⟨pre, first, between, finish, post, rfl, hfirst_starts, ?_, ?_, t, x25519, ht, haccepts,
      hx25519, ?_⟩
    · intro x hx
      cases hx' : startsVerify x with
      | false => rfl
      | true =>
        have hroute : x.1.route = .hkpVerify := by
          rw [startsVerify, Bool.and_eq_true, decide_eq_true_eq] at hx'
          exact hx'.1
        have hcall : HkpCall.pairVerify x.1.body x.2.calls.hkp ∈ hkpCalls x := by
          rw [hkpCalls_verify hroute]
          exact List.mem_singleton_self _
        rw [← hx', ← starts_of_hkpCalls hcall]
        exact hbetween_none _ (List.mem_flatMap.mpr ⟨x, hx, hcall⟩)
    · rw [finishesVerify, hroute, hfinishes]
      rfl
    · rw [startsVerify, Bool.and_eq_true, decide_eq_true_eq] at hfirst_starts
      obtain ⟨hroute, hstarts⟩ := hfirst_starts
      rw [List.flatMap_append, List.flatMap_cons, hkpCalls_verify hroute] at ht
      obtain ⟨hcurve, hed⟩ := HkpProcess.keys_of_start ht hstarts hbetween_none
      rw [← hcurve, ← hed]
      exact hverify
  · intro hproof
    obtain ⟨pre, first, between, finish, post, rfl, -, -, hfinishes, t, -, ht, haccepts, -, -⟩ := hproof
    rw [finishesVerify, Bool.and_eq_true, decide_eq_true_eq] at hfinishes
    obtain ⟨hroute, hfinishes⟩ := hfinishes
    refine ⟨(pre ++ first :: between).flatMap hkpCalls, .pairVerify finish.1.body finish.2.calls.hkp,
      post.flatMap hkpCalls, ?_, ⟨t, _, _, ht, rfl, hfinishes, haccepts⟩, fun _ _ => not_false⟩
    rw [List.flatMap_append, List.flatMap_cons, hkpCalls_verify hroute]
    rfl

end Requests

section Wire

variable {δ κ : Type*} [AlacDecoder δ] [AudioSink κ] {b : SrpBackend} {c : HkpBackend}
variable {config : ReceiverConfig}

open Connection

/-- **Whom the pairing vouches for.** Whatever bytes a peer sends to a new connection, in whatever
    chunks, and whatever the session gets meanwhile: the HKP pairing is verified if and only if one of
    the requests answered was a pair-verify finish that was accepted and carried a signature by the key
    of the latest start before it, of that start's curve key and the receiver's. -/
theorem verified_over_wire (made : Option (AlacAudioPipeline δ κ)) {turns : ℕ → Turn δ κ}
    {chunks : List Bytes} {s : Connection δ κ × (ℕ → Turn δ κ)} {rest : Bytes}
    (h : (serveClient (some (serving b c config)) (Connection.made made, turns) [] chunks).ending =
      .waiting s rest) :
    s.1.hkp.verified = true ↔ ∃ pre first between finish post,
      withTurns turns ((serveClient (some (serving b c config)) (Connection.made made, turns) []
          chunks).exchanges.map Exchange.request) = pre ++ first :: between ++ finish :: post ∧
        startsVerify first = true ∧ (∀ x ∈ between, startsVerify x = false) ∧
        finishesVerify finish = true ∧ ProvesKeys c (pre ++ first :: between) first finish := by
  obtain ⟨responses, hcalls⟩ := serveClient_calls h
  have htook := (took_callAll b c config hcalls).hkp
  have hnew : (Connection.made made).hkp = {} := by
    cases made <;> rfl
  rw [hnew] at htook
  exact run_hkp_verified_iff htook

/-- A request for the transient pairing is answered with what the pairing returns. -/
theorem handleRequest_transient {s : Connection δ κ} {e : ConnectionCalls} {request : HttpRequest}
    (h : request.route = .transient) :
    handleRequest b c config s e request =
      some (.ok (octetAnswer request (s.transient.handle b e.transient request.body).1.ok
          (s.transient.handle b e.transient request.body).1.response),
        { s with transient := s.transient.take b (request.body, e.transient) }) := by
  unfold HttpRequest.route at h
  unfold handleRequest
  by_cases hinfo : request.target = ascii "/info" ∨ request.target = ascii "/info/"
  · rw [if_pos hinfo] at h
    cases h
  · rw [if_neg hinfo] at h ⊢
    by_cases hsetup : request.target = ascii "/pair-setup"
    · rw [if_pos hsetup] at h ⊢
      by_cases hmethod : request.method ≠ ascii "POST"
      · rw [if_pos hmethod] at h
        cases h
      · rw [if_neg hmethod] at h ⊢
        by_cases hlen : request.body.length = 32
        · rw [if_pos hlen] at h
          cases h
        · rw [if_neg hlen]
          rfl
    · rw [if_neg hsetup] at h
      split at h
      · split at h <;> cases h
      · split at h
        · split at h <;> cases h
        · split at h <;> cases h

/-- **Nobody is paired transiently.** Whatever bytes a peer sends to a new connection, in whatever
    chunks: the transient pairing is what the last exchange begun has made of a new one, it is not
    complete and has no secret, and every message for it that is no M1 was answered with 400. -/
theorem transient_over_wire (made : Option (AlacAudioPipeline δ κ)) {turns : ℕ → Turn δ κ}
    {chunks : List Bytes} {s : Connection δ κ × (ℕ → Turn δ κ)} {rest : Bytes}
    (h : (serveClient (some (serving b c config)) (Connection.made made, turns) [] chunks).ending =
      .waiting s rest) :
    s.1.transient = AirPlayTransientPairing.latest b ((withTurns turns
        ((serveClient (some (serving b c config)) (Connection.made made, turns) []
          chunks).exchanges.map Exchange.request)).flatMap transientMessages) ∧
      s.1.transient.Unproven ∧
      ∀ x ∈ (serveClient (some (serving b c config)) (Connection.made made, turns) []
          chunks).exchanges, x.request.route = .transient →
        AirPlayTransientPairing.stateOf x.request.body ≠ some 1 →
          x = exchangeOf x.request (responseFor 400 (ascii "Bad Request") x.request) := by
  obtain ⟨responses, hcalls⟩ := serveClient_calls h
  have htook := (took_callAll b c config hcalls).transient
  have hnew : (Connection.made made).transient = {} := by
    cases made <;> rfl
  rw [hnew] at htook
  refine ⟨?_, ?_, ?_⟩
  · rw [← htook, AirPlayTransientPairing.run_take]
  · rw [← htook]
    exact AirPlayTransientPairing.run_unproven b ⟨rfl, rfl, rfl⟩ _
  · intro x hx hroute hstate
    obtain ⟨t, response, t', hcall, hanswer⟩ := answered_serveClient hx
    obtain ⟨rtsp, -, hhandled, -⟩ := (serving_ok b c config).mp hcall
    rw [handleRequest_transient hroute, (AirPlayTransientPairing.handle_refused b hstate).1] at hhandled
    obtain ⟨hresponse, -⟩ := Prod.mk.inj (Option.some.inj hhandled)
    rw [hanswer, ← Except.ok.inj hresponse]
    rfl

end Wire

theorem isWord_pairSetup : IsWord (ascii "/pair-setup") := by decide

/-- An M1, and an M3 of which the pairing can read the state. -/
def transientChunks : List Bytes :=
  [(WireRequest.post (ascii "/pair-setup") isWord_pairSetup AirPlayTransientPairing.plainM1).wire,
    (WireRequest.post (ascii "/pair-setup") isWord_pairSetup (encodeTlvs [(6, [3])])).wire]

/-- The connection after both. -/
def afterM3 : Served IdleState :=
  serveClient (some idleServing) (Connection.made none, fun _ => idleTurn) [] transientChunks

theorem transient_over_wire_m3 :
    ∃ s rest, afterM3.ending = .waiting s rest ∧ s.1.transient.impl.B.isSome = true ∧
      s.1.transient.Unproven ∧ afterM3.exchanges.length = 2 := by
  have hwaits : afterM3.ending.waits.map (fun w => w.1.1.transient.impl.B.isSome) = some true ∧
      afterM3.exchanges.length = 2 := by decide +kernel
  obtain ⟨hbegun, hlength⟩ := hwaits
  obtain ⟨⟨s, rest⟩, hwaits, hB⟩ := Option.map_eq_some_iff.mp hbegun
  have hending := Ending.waits_eq_some.mp hwaits
  exact ⟨s, rest, hending, hB, (transient_over_wire none hending).2.1, hlength⟩

/-- A request at a time. -/
def Cutting.whole : Cutting where
  cut r := [r.wire]
  cut_nonempty r := by
    intro chunk hchunk
    obtain rfl := List.mem_singleton.mp hchunk
    exact r.wire_ne_nil
  cut_whole _ := List.flatten_singleton

/-- A client that pairs, its chunks as it makes them of the answers. -/
def pairingChunks : List Bytes :=
  talkOverWire idleServing (filledPairing.cutBy xorBackend .whole)
    (Connection.made none, fun _ => idleTurn) 3 []

def afterPairing : Served IdleState :=
  serveClient (some idleServing) (Connection.made none, fun _ => idleTurn) [] pairingChunks

theorem verified_over_wire_paired :
    ∃ s rest, afterPairing.ending = .waiting s rest ∧ ∃ pre first between finish post,
      withTurns (fun _ => idleTurn) (afterPairing.exchanges.map Exchange.request) =
          pre ++ first :: between ++ finish :: post ∧ startsVerify first = true ∧
        (∀ x ∈ between, startsVerify x = false) ∧ finishesVerify finish = true ∧
        ProvesKeys xorBackend (pre ++ first :: between) first finish := by
  have hverified : afterPairing.ending.waits.map (fun w => w.1.1.hkp.verified) = some true := by
    decide +kernel
  obtain ⟨⟨s, rest⟩, hwaits, hset⟩ := Option.map_eq_some_iff.mp hverified
  have hending := Ending.waits_eq_some.mp hwaits
  exact ⟨s, rest, hending, (verified_over_wire none hending).mp hset⟩

end AirPlay2
