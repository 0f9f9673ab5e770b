import AirPlay2.Pairing.Honest

/- What `verified()` says. It is set by an accepted finish and never cleared, while a
   start replaces the keys the finish was checked under. So it speaks for the latest
   exchange as long as nothing begins another one, or fails to prove itself, while it
   is set (`run_verified_iff`). -/
namespace AirPlay2
open Lib

namespace AirPlayHkpPairing
open HkpBackend

variable (c : HkpBackend)

/-! ## One call -/

/-- The keys and the secret of the exchange are the same, and the flag. -/
structure SameExchange (s s' : AirPlayHkpPairing) : Prop where
  x25519 : s'.impl.x25519 = s.impl.x25519
  clientCurvePublic : s'.impl.clientCurvePublic = s.impl.clientCurvePublic
  clientEdPublic : s'.impl.clientEdPublic = s.impl.clientEdPublic
  shared : s'.impl.shared = s.impl.shared
  verified : s'.verified = s.verified

theorem SameExchange.refl (s : AirPlayHkpPairing) : SameExchange s s := ⟨rfl, rfl, rfl, rfl, rfl⟩

theorem handlePairSetup_same (e : HkpCalls) (s : AirPlayHkpPairing) (request : Bytes) :
    SameExchange s (handlePairSetup c e s request).2 := by
  unfold handlePairSetup
  split
  · exact .refl s
  · split
    · exact .refl s
    · exact .refl s
    · dsimp only
      split <;> exact ⟨rfl, rfl, rfl, rfl, rfl⟩

/-- A start leaves the flag as it was. -/
theorem startVerify_verified (e : HkpCalls) (s : AirPlayHkpPairing) (request : Bytes) :
    (startVerify c e s request).2.verified = s.verified := by
  unfold startVerify
  dsimp only
  split
  · rfl
  · split
    · rfl
    · split
      · rfl
      · split
        · rfl
        · split
          · rfl
          · split
            · rfl
            · split <;> rfl

theorem step_start {call : HkpCall} (h : call.starts = true) (s : AirPlayHkpPairing) :
    ∃ s', s.step c call = some s' ∧ s'.verified = s.verified := by
  cases call with
  | pairSetup request e => cases h
  | pairVerify request e =>
    refine ⟨(startVerify c e s request).2, ?_, startVerify_verified c e s request⟩
    rw [step, handlePairVerify_start c h, Option.map_some]

theorem step_finish {request : Bytes} {e : HkpCalls}
    (h : (HkpCall.pairVerify request e).finishes = true) (s : AirPlayHkpPairing) :
    s.step c (.pairVerify request e) = (finishVerify c e s request).map Prod.snd := by
  rw [step, (handlePairVerify_finish c h).2]

/-- What a call does to the exchange and the flag: begin another exchange, accept the
    one there is, or neither. -/
theorem step_cases {s s' : AirPlayHkpPairing} {call : HkpCall} (h : s.step c call = some s') :
    (call.starts = true ∧ s'.verified = s.verified) ∨
      (∃ request e, call = .pairVerify request e ∧ call.finishes = true ∧
        accepts c e s request = true ∧ s' = { s with verified := true }) ∨
      (call.starts = false ∧ SameExchange s s') := by
  by_cases hstarts : call.starts = true
  · obtain ⟨s'', hs'', hsame⟩ := step_start c hstarts s
    obtain rfl := Option.some.inj (h.symm.trans hs'')
    exact Or.inl ⟨hstarts, hsame⟩
  · rw [Bool.not_eq_true] at hstarts
    right
    cases call with
    | pairSetup request e =>
      obtain rfl := Option.some.inj h
      exact Or.inr ⟨rfl, handlePairSetup_same c e s request⟩
    | pairVerify request e =>
      by_cases hfinishes : (HkpCall.pairVerify request e).finishes = true
      · obtain ⟨hlen, -⟩ := handlePairVerify_finish c (s := s) hfinishes
        rw [step_finish c hfinishes] at h
        obtain ⟨x, hx, rfl⟩ := Option.map_eq_some_iff.mp h
        obtain ⟨haccepts, -, hs'⟩ | ⟨-, -, hs'⟩ := finishVerify_cases c hlen hx
        · exact Or.inl ⟨request, e, rfl, hfinishes, haccepts, hs'⟩
        · rw [hs']
          exact Or.inr ⟨hstarts, .refl s⟩
      · -- another state byte, or another length, is refused
        right
        refine ⟨hstarts, ?_⟩
        obtain ⟨x, hx, rfl⟩ := Option.map_eq_some_iff.mp h
        simp only [HkpCall.starts, HkpCall.finishes, Bool.and_eq_true, beq_iff_eq, not_and,
          Bool.and_eq_false_iff, beq_eq_false_iff_ne] at hstarts hfinishes
        unfold handlePairVerify at hx
        split at hx
        · obtain rfl := Option.some.inj hx
          exact .refl s
        · rename_i hlen
          have hlen : request.length = 68 := not_not.mp hlen
          have hone : request.head? ≠ some 1 := by
            obtain h | h := hstarts
            · exact absurd hlen h
            · exact h
          rw [if_neg hone, if_neg (hfinishes hlen)] at hx
          obtain rfl := Option.some.inj hx
          exact .refl s

end AirPlayHkpPairing

/-! ## Runs -/

namespace HkpProcess
open AirPlayHkpPairing HkpBackend

variable (c : HkpBackend)

/-- The call is a finish, accepted in the state `t`, whose signature verifies under the
    keys that `s` stores. -/
def Proves (t : AirPlayHkpPairing) (call : HkpCall) (s : AirPlayHkpPairing) : Prop :=
  ∃ request e x x25519, call = .pairVerify request e ∧ call.finishes = true ∧
    handlePairVerify c e t request = some x ∧ x.1.ok = true ∧ s.impl.x25519 = some x25519 ∧
    c.edVerify s.impl.clientEdPublic (s.impl.clientCurvePublic ++ c.xPublic x25519)
      (carried c t request) = true

/-- The latest start of the calls was followed by a finish that proves the keys. -/
def LatestProven (calls : List HkpCall) (s : AirPlayHkpPairing) : Prop :=
  ∃ before first between finish after t, calls = before ++ first :: between ++ finish :: after ∧
    first.starts = true ∧ (∀ call ∈ between ++ finish :: after, call.starts = false) ∧
    run (step c) start (before ++ first :: between) = some t ∧ Proves c t finish s

/-- The call starts an exchange with other client keys than those stored. -/
def StartsOther (s : AirPlayHkpPairing) (call : HkpCall) : Prop :=
  ∃ request e, call = .pairVerify request e ∧ call.starts = true ∧
    (substr request 4 32, request.drop 36) ≠ (s.impl.clientCurvePublic, s.impl.clientEdPublic)

/-- The call is a finish that fails. -/
def FailsFinish (s : AirPlayHkpPairing) (call : HkpCall) : Prop :=
  ∃ request e x, call = .pairVerify request e ∧ call.finishes = true ∧
    handlePairVerify c e s request = some x ∧ x.1.ok = false

/-- The flag of `s`, reached by the calls, speaks for the latest exchange. -/
structure SpeaksForLatest (calls : List HkpCall) (s : AirPlayHkpPairing) : Prop where
  proven : s.verified = true → LatestProven c calls s
  renewed : ∀ before call t, calls = before ++ [call] → run (step c) start before = some t →
    StartsOther t call ∨ FailsFinish c t call → s.verified = false

/-- While verified, the call is no start, and if it is a finish it is accepted. -/
def KeepsProof (p : HkpProcess) (call : HkpCall) : Prop :=
  ∀ s, p = some s → s.verified = true → call.starts = false ∧
    ∀ request e, call = .pairVerify request e → call.finishes = true → accepts c e s request = true

variable {c}

theorem step_eq_some {p : HkpProcess} {call : HkpCall} {s' : AirPlayHkpPairing} :
    step c p call = some s' ↔ ∃ s, p = some s ∧ s.step c call = some s' :=
  Option.bind_eq_some_iff

/-- There is a secret only after a start. -/
theorem start_of_shared (calls : List HkpCall) {s : AirPlayHkpPairing}
    (hs : run (step c) start calls = some s) (hshared : s.impl.shared ≠ []) :
    Since (step c) (fun _ call => call.starts = true) (fun call => call.starts = true) start
      calls := by
  induction calls using List.reverseRecOn generalizing s with
  | nil =>
    obtain rfl := Option.some.inj hs
    exact absurd rfl hshared
  | append_singleton calls call ih =>
    rw [run_snoc] at hs
    obtain ⟨t, ht, hstep⟩ := step_eq_some.mp hs
    rw [since_snoc]
    obtain ⟨hstarts, -⟩ | ⟨request, e, rfl, hfinishes, -, rfl⟩ | ⟨hno, hsame⟩ :=
      step_cases c hstep
    · exact Or.inl hstarts
    · refine Or.inr ⟨ih ht hshared, ?_⟩
      rw [HkpCall.starts_of_finishes hfinishes]
      exact Bool.false_ne_true
    · refine Or.inr ⟨ih ht (hsame.shared ▸ hshared), ?_⟩
      rw [hno]
      exact Bool.false_ne_true

/-- What was proven stays proven while the exchange is the same. -/
theorem LatestProven.snoc {calls : List HkpCall} {s s' : AirPlayHkpPairing}
    (h : LatestProven c calls s) {call : HkpCall} (hno : call.starts = false)
    (hsame : SameExchange s s') : LatestProven c (calls ++ [call]) s' := by
  obtain ⟨before, first, between, finish, after, t, rfl, hfirst, hlatest, ht, request, e, x,
    x25519, hcall, hfinishes, hx, hok, hkey, hverify⟩ := h
  refine ⟨before, first, between, finish, after ++ [call], t, by simp, hfirst, ?_, ht, request, e, x,
    x25519, hcall, hfinishes, hx, hok, hsame.x25519.trans hkey, ?_⟩
  · intro k hk
    rw [← List.cons_append, ← List.append_assoc, List.mem_append] at hk
    obtain hk | hk := hk
    · exact hlatest k hk
    · rw [List.mem_singleton.mp hk]
      exact hno
  · rw [hsame.clientEdPublic, hsame.clientCurvePublic]
    exact hverify

/-- The latest start is not the last call: a finish came after it. -/
theorem LatestProven.last {calls : List HkpCall} {call : HkpCall} {s : AirPlayHkpPairing}
    (h : LatestProven c (calls ++ [call]) s) : call.starts = false := by
  obtain ⟨before, first, between, finish, after, -, hcalls, -, hlatest, -⟩ := h
  have hlast : (calls ++ [call]).getLast? = (finish :: after).getLast? := by
    rw [hcalls, List.getLast?_append_of_ne_nil _ (List.cons_ne_nil finish after)]
  rw [List.getLast?_append_of_ne_nil _ (List.cons_ne_nil call [])] at hlast
  have hmem := List.mem_of_getLast? hlast.symm
  exact hlatest call (List.mem_append_right _ hmem)

theorem LatestProven.x25519 {calls : List HkpCall} {s : AirPlayHkpPairing}
    (h : LatestProven c calls s) : ∃ x25519, s.impl.x25519 = some x25519 := by
  obtain ⟨-, -, -, -, -, -, -, -, -, -, -, -, -, x25519, -, -, -, -, hkey, -⟩ := h
  exact ⟨x25519, hkey⟩

/-- An accepted finish proves the latest exchange. -/
theorem latestProven_of_accepts {calls : List HkpCall} {s : AirPlayHkpPairing}
    (hs : run (step c) start calls = some s) {request : Bytes} {e : HkpCalls}
    (hfinishes : (HkpCall.pairVerify request e).finishes = true)
    (haccepts : accepts c e s request = true) :
    LatestProven c (calls ++ [.pairVerify request e]) { s with verified := true } := by
  obtain ⟨hshared, x25519, hkey, hverify⟩ := accepts_parts haccepts
  obtain ⟨before, first, between, rfl, hfirst, hlatest⟩ := start_of_shared calls hs hshared
  obtain ⟨x, hx, hok, -⟩ := finish_of_accepts c hfinishes haccepts
  refine ⟨before, first, between, .pairVerify request e, [], s, rfl, hfirst, ?_, hs, request, e, x,
    x25519, rfl, hfinishes, hx, hok, hkey, hverify⟩
  intro k hk
  obtain hk | hk := List.mem_append.mp hk
  · simpa using hlatest k hk
  · rw [List.mem_singleton.mp hk]
    exact HkpCall.starts_of_finishes hfinishes

/-- Along calls that keep the proof, the flag speaks for the latest exchange. -/
theorem proven_of_keepsProof (calls : List HkpCall)
    (hkeeps : Each (step c) (KeepsProof c) start calls) {s : AirPlayHkpPairing}
    (hs : run (step c) start calls = some s) (hverified : s.verified = true) :
    LatestProven c calls s := by
  induction calls using List.reverseRecOn generalizing s with
  | nil =>
    obtain rfl := Option.some.inj hs
    cases hverified
  | append_singleton calls call ih =>
    rw [run_snoc] at hs
    obtain ⟨t, ht, hstep⟩ := step_eq_some.mp hs
    have hbefore : Each (step c) (KeepsProof c) start calls := by
      intro pre k hp
      exact hkeeps pre k (hp.trans (List.prefix_append calls [call]))
    have hlast := hkeeps calls call (List.prefix_refl _) t ht
    obtain ⟨hstarts, hsame⟩ | ⟨request, e, rfl, hfinishes, haccepts, rfl⟩ | ⟨hno, hsame⟩ :=
      step_cases c hstep
    · -- a start does not set the flag, and none comes while it is set
      obtain ⟨hno, -⟩ := hlast (hsame ▸ hverified)
      rw [hstarts] at hno
      cases hno
    · exact latestProven_of_accepts ht hfinishes haccepts
    · exact (ih hbefore ht (hsame.verified ▸ hverified)).snoc hno hsame

/-- Where the flag speaks for the latest exchange after every call, a call that finds it
    set is no start, and accepted if it is a finish. -/
theorem keepsProof_of_speaks {pre : List HkpCall} {call : HkpCall} {t : AirPlayHkpPairing}
    (ht : run (step c) start pre = some t) (hverified : t.verified = true)
    (hproven : LatestProven c pre t)
    (h : ∀ s, run (step c) start (pre ++ [call]) = some s → SpeaksForLatest c (pre ++ [call]) s) :
    call.starts = false ∧ ∀ request e, call = .pairVerify request e → call.finishes = true →
      accepts c e t request = true := by
  have hrun : ∀ s, t.step c call = some s → run (step c) start (pre ++ [call]) = some s := by
    intro s hs
    rw [run_snoc, ht]
    exact hs
  refine ⟨?_, ?_⟩
  · by_contra hstarts
    rw [Bool.not_eq_false] at hstarts
    -- the start leaves the flag set, and is itself the latest
    obtain ⟨s, hs, hset⟩ := step_start c hstarts t
    rw [((h s (hrun s hs)).proven (hset.trans hverified)).last] at hstarts
    cases hstarts
  · intro request e hcall hfinishes
    subst hcall
    obtain ⟨x25519, hkey⟩ := hproven.x25519
    obtain ⟨hlen, hfinish⟩ := handlePairVerify_finish c (s := t) hfinishes
    obtain ⟨x, hx⟩ := finishVerify_some c e request hkey
    obtain ⟨haccepts, -, -⟩ | ⟨-, hfails, hsame⟩ := finishVerify_cases c hlen hx
    · exact haccepts
    · -- a finish that fails changes nothing
      have hstep : t.step c (.pairVerify request e) = some x.2 := by
        rw [step_finish c hfinishes, hx, Option.map_some]
      have hcleared := (h x.2 (hrun x.2 hstep)).renewed pre _ t rfl ht
        (Or.inr ⟨request, e, x, rfl, hfinishes, hfinish.trans hx, hfails⟩)
      rw [hsame, hverified] at hcleared
      cases hcleared

/-- A call that keeps the proof and begins another exchange, or fails to finish, does not
    leave the flag set. -/
theorem renewed_of_keepsProof {t s : AirPlayHkpPairing} {call : HkpCall}
    (hkeeps : KeepsProof c (some t) call) (hstep : t.step c call = some s)
    (hends : StartsOther t call ∨ FailsFinish c t call) : s.verified = false := by
  have hlast := hkeeps t rfl
  by_contra hset
  rw [Bool.not_eq_false] at hset
  obtain ⟨request, e, rfl, hstarts, -⟩ | ⟨request, e, x, rfl, hfinishes, hx, hfails⟩ := hends
  · obtain ⟨s', hs', hsame⟩ := step_start c hstarts t
    obtain rfl := Option.some.inj (hstep.symm.trans hs')
    rw [(hlast (hsame ▸ hset)).1] at hstarts
    cases hstarts
  · obtain ⟨hlen, hfinish⟩ := handlePairVerify_finish c (s := t) hfinishes
    rw [hfinish] at hx
    rw [step_finish c hfinishes, hx, Option.map_some] at hstep
    obtain rfl := Option.some.inj hstep
    obtain ⟨-, hok, -⟩ | ⟨hrefused, -, hsame⟩ := finishVerify_cases c hlen hx
    · rw [hfails] at hok
      cases hok
    · rw [hsame] at hset
      rw [(hlast hset).2 request e rfl hfinishes] at hrefused
      cases hrefused

/-- **When `verified()` speaks for the latest exchange.** Whatever the calls, their
    bytes and what OpenSSL returns: in every state reached, `verified()` says that the
    latest start was followed by a finish that proves the keys stored now, and is false
    after a start with other keys or a finish that fails, if and only if, while it is
    true, no start arrives and no finish arrives that is not accepted. -/
theorem run_verified_iff (c : HkpBackend) (calls : List HkpCall) :
    (∀ pre s, pre <+: calls → run (step c) start pre = some s → SpeaksForLatest c pre s) ↔
      Each (step c) (KeepsProof c) start calls := by
  refine ⟨?_, ?_⟩
  · intro h pre call hp t ht hverified
    have hproven := (h pre t (prefix_of_snoc hp) ht).proven hverified
    exact keepsProof_of_speaks ht hverified hproven (fun s hs => h _ s hp hs)
  · intro hkeeps pre s hp hs
    have hpre : Each (step c) (KeepsProof c) start pre := by
      intro pre' k hk
      exact hkeeps pre' k (hk.trans hp)
    refine ⟨proven_of_keepsProof pre hpre hs, ?_⟩
    intro before call t hcalls ht hends
    subst hcalls
    have hlast := hpre before call (List.prefix_refl _)
    rw [run_snoc, ht] at hs
    rw [ht] at hlast
    exact renewed_of_keepsProof hlast hs hends

/-- One client completes an exchange, another begins one. -/
def secondStart : HkpCall := .pairVerify ((filledClient 5 6).startMessage xorBackend [0, 0, 0]) (drawing 1 2)

/-- The answer of the receiver to the first client. -/
def firstAnswer : Bytes := (filled 2).1 ++ xorAt
  (xorBackend.pairStream (xorBackend.xAgree (filled 2) (filled 4).1)) 0
  (xorBackend.edSign (filled 1) ((filled 2).1 ++ (filled 4).1))

def firstExchange : List HkpCall :=
  [.pairSetup (filled 9).1 (drawing 1 2),
    .pairVerify ((filledClient 3 4).startMessage xorBackend [0, 0, 0]) (drawing 1 2),
    .pairVerify ((filledClient 3 4).finishMessage xorBackend [0, 0, 0] firstAnswer) (drawing 1 2)]

/-- The first client's proof still counts after the second client's start. -/
theorem secondStart_still_verified :
    ¬ ∀ (c : HkpBackend) (calls : List HkpCall) (s : AirPlayHkpPairing),
      run (step c) start calls = some s → SpeaksForLatest c calls s := by
  intro h
  have hruns : ∃ t s, run (step xorBackend) start firstExchange = some t ∧
      run (step xorBackend) start (firstExchange ++ [secondStart]) = some s ∧
      s.verified = true ∧ t.impl.clientEdPublic = (filled 3).1 := by
    refine ⟨_, _, rfl, rfl, ?_, ?_⟩
    all_goals decide +kernel
  obtain ⟨t, s, ht, hs, hset, hkey⟩ := hruns
  have hother : StartsOther t secondStart := by
    refine ⟨_, _, rfl, by decide +kernel, ?_⟩
    rw [hkey]
    intro hsame
    have hed : ((filledClient 5 6).startMessage xorBackend [0, 0, 0]).drop 36 = (filled 3).1 :=
      congrArg Prod.snd hsame
    exact absurd hed (by decide +kernel)
  have hcleared := (h xorBackend _ s hs).renewed firstExchange secondStart t rfl ht (Or.inl hother)
  rw [hset] at hcleared
  cases hcleared

end HkpProcess
end AirPlay2
