import AirPlay2.Mdns.ResponderThread

/- What the owner of an `MdnsService` may rely on when its calls return. A call that returned has done
   what the responder without threads does (`publishing_refines`), and waiting for the responder
   ends, with every query answered that it looked at (`unpublish_returns`). -/
namespace AirPlay2
open Lib

/-! ## What a call comes to -/

/-- The socket calls, as far as the responder without threads sees them. -/
def PublishOutcome.sockets : PublishOutcome → Option (Option UInt32)
  | .noSocket | .refused => none
  | .bound probe => some probe

/-- The call of a responder without threads, with the announcements made so far. -/
def MdnsCall.apply (v : List Bytes × MdnsService) : MdnsCall → List Bytes × MdnsService
  | .publish p =>
    let published := v.2.publish p.instanceName p.port p.records p.outcome.sockets
    (v.1 ++ published.2.1.toList, published.2.2)
  | .unpublish => (v.1, v.2.unpublish)

/-- What has become of the announcements and the service when the call that is at this point
    returns. -/
def MdnsOwnerPoint.finish (v : List Bytes × MdnsService) : MdnsOwnerPoint → List Bytes × MdnsService
  | .idle => v
  | .publish p => (MdnsCall.publish p).apply v
  | .write p probe =>
    let s := { p.fill probe v.2 with active := true }
    (v.1 ++ [s.makeResponse], s)
  | .activate =>
    let s := { v.2 with active := true }
    (v.1 ++ [s.makeResponse], s)
  | .spawn | .announce => (v.1 ++ [v.2.makeResponse], v.2)
  | .deactivate | .closeSocket | .join => (v.1, v.2.unpublish)

namespace MdnsThreads

variable {α : Type*} {t : MdnsThreads α}

/-- What will have become of them when the owner is done. -/
def outcome (t : MdnsThreads α) : List Bytes × MdnsService := t.owner.finish (t.announced, t.view)

theorem outcome_responderStep (t : MdnsThreads α) (datagram : Option (α × Bytes)) :
    (t.responderStep datagram).outcome = t.outcome := by
  have hlook : ∀ datagram, (t.look datagram).outcome = t.outcome := by
    intro datagram
    unfold look
    cases datagram with
    | none => rfl
    | some datagram => dsimp only; split_ifs <;> rfl
  unfold responderStep
  cases t.worker.thread with
  | none => rfl
  | some p =>
    cases p with
    | loop => dsimp only; split <;> rfl
    | recvfrom => rfl
    | check received =>
      dsimp only
      split
      · exact hlook received
      · rfl
    | send sender => rfl
    | done => rfl

/-- A service that is not active is left alone by `unpublish`. -/
theorem unpublish_of_inactive {s : MdnsService} (h : s.active = false) : s.unpublish = s := by
  rw [MdnsService.unpublish, ← h]

theorem Sound.outcome_ownerStep (h : t.Sound) : t.ownerStep.outcome = t.outcome := by
  have hbefore : t.outcome = t.owner.finish (t.announced, t.view) := rfl
  have hworker := h.worker
  rw [hbefore]
  unfold MdnsThreads.ownerStep
  cases howner : t.owner with
  | idle => rw [hbefore, howner]
  | publish p =>
    show _ = (MdnsCall.publish p).apply (t.announced, t.view)
    unfold MdnsCall.apply MdnsService.publish
    dsimp only
    split
    · rename_i hflag
      rw [if_pos (show t.view.active = true from hflag)]
      exact (congrArg (·, t.view) (List.append_nil t.announced)).symm
    · rename_i hflag
      have hinactive : t.view.active = false := by
        show t.worker.flag = false
        simpa using hflag
      rw [if_neg (by rw [hinactive]; decide)]
      cases hsockets : p.outcome with
      | noSocket => exact (congrArg (·, t.view) (List.append_nil t.announced)).symm
      | refused =>
        -- giving up on a service that was never active leaves it as it was
        show (t.announced, t.view.unpublish) = (t.announced ++ [], t.view)
        rw [unpublish_of_inactive hinactive, List.append_nil]
      | bound probe => rfl
  | write p probe => rfl
  | activate => rfl
  | spawn => rfl
  | announce => rfl
  | deactivate => rfl
  | closeSocket => rfl
  | join =>
    rw [howner] at hworker
    have hinactive : t.view.active = false := hworker.flag_lowered
    dsimp only
    split
    · show (t.announced, t.view) = (t.announced, t.view.unpublish)
      rw [unpublish_of_inactive hinactive]
    · rw [hbefore, howner]

/-- The event begins no call. -/
def Goes : MdnsEvent α → Prop
  | .call _ => False
  | _ => True

theorem Sound.outcome_step (h : t.Sound) {event : MdnsEvent α} (hevent : Goes event) :
    (t.step event).outcome = t.outcome := by
  cases event with
  | call c => exact absurd hevent id
  | owner => exact h.outcome_ownerStep
  | responder datagram => exact t.outcome_responderStep datagram

/-- Without a responder nothing happens between calls. -/
theorem run_quiet (howner : t.owner = .idle) (hnone : t.worker.thread = none)
    {events : List (MdnsEvent α)} (hevents : ∀ event ∈ events, Goes event) :
    run step t events = t := by
  apply run_still
  intro event hmem
  cases event with
  | call c => exact absurd (hevents _ hmem) id
  | owner =>
    show t.ownerStep = t
    rw [ownerStep, howner]
  | responder datagram =>
    show t.responderStep datagram = t
    rw [responderStep, hnone]

theorem outcome_call (howner : t.owner = .idle) (c : MdnsCall) :
    (t.step (.call c)).outcome = c.apply (t.announced, t.view) := by
  unfold step outcome
  rw [howner]
  cases c <;> rfl

/-- **Publishing and withdrawing come to what they say, whatever the responder does meanwhile.**
    A call that was begun in a state the two threads can get into, and has returned, has made the
    announcements and left the service that the responder without threads does; and after an
    `unpublish` nothing is sent until the next call. -/
theorem publishing_refines {past : List (MdnsEvent α)} {t : MdnsThreads α}
    (ht : run step {} past = t) (howner : t.owner = .idle) (c : MdnsCall)
    {events : List (MdnsEvent α)} (hevents : ∀ event ∈ events, Goes event)
    {t' : MdnsThreads α} (ht' : run step t (.call c :: events) = t')
    (hreturned : t'.owner = .idle) :
    (t'.announced, t'.view) = c.apply (t.announced, t.view) ∧
      (c = .unpublish →
        ∀ later : List (MdnsEvent α), (∀ event ∈ later, Goes event) → run step t' later = t') := by
  have hsound : t.Sound := ht ▸ run_isSound past
  obtain ⟨hsound', houtcome⟩ := run_outcome (P := Sound) (f := outcome) (G := Goes)
    (fun _ event h => h.step event) (fun _ _ h => h.outcome_step) (hsound.step (.call c)) hevents
  have hrun : run step (t.step (.call c)) events = t' := ht'
  rw [hrun] at hsound' houtcome
  have hview : (t'.announced, t'.view) = c.apply (t.announced, t.view) := by
    rw [outcome_call howner] at houtcome
    rw [← houtcome, outcome, hreturned]
    rfl
  refine ⟨hview, ?_⟩
  rintro rfl later hlater
  have hflag : t'.worker.flag = false := congrArg (·.2.active) hview
  have hsettled := hsound'.worker
  rw [hreturned] at hsettled
  have hthread := hsettled.flag_eq
  rw [hflag] at hthread
  have hnone : t'.worker.thread = none := Option.isNone_iff_eq_none.mp (by simpa using hthread.symm)
  exact run_quiet hreturned hnone hlater

/-! ### A query, and then a withdrawal -/

def publishesOnce : List (MdnsEvent Unit) :=
  .call (.publish
    { instanceName := ascii "GWL"
      port := 7000
      records := []
      outcome := .bound none }) :: List.replicate 5 .owner

/-- The responder is about to answer when the service is withdrawn. -/
def withdrawsMeanwhile : List (MdnsEvent Unit) :=
  [.owner, .owner, .responder none, .responder none, .owner]

theorem publishing_refines_withdrawn :
    let t := run step {} (publishesOnce ++ [.responder none,
      .responder (some ((), List.replicate 12 0 ++ ascii "_airplay")), .responder none])
    let t' := run step t (.call .unpublish :: withdrawsMeanwhile)
    t'.answered.length = 1 ∧
      (t'.announced, t'.view) = MdnsCall.unpublish.apply (t.announced, t.view) ∧
      ∀ later : List (MdnsEvent Unit), (∀ event ∈ later, Goes event) → run step t' later = t' := by
  intro t t'
  have hgoes : ∀ event ∈ withdrawsMeanwhile, Goes event := by simp [withdrawsMeanwhile, Goes]
  have hrun' : run step t (.call .unpublish :: withdrawsMeanwhile) = t' := rfl
  obtain ⟨hview, hquiet⟩ := publishing_refines rfl (by rfl) .unpublish hgoes hrun' (by rfl)
  exact ⟨by rfl, hview, hquiet rfl⟩

/-! ## Waiting for the responder -/

end MdnsThreads

def MdnsEvent.isResponder {α : Type*} : MdnsEvent α → Bool
  | .responder _ => true
  | _ => false

/-- The steps from here to the end, once the flag is down. -/
def ResponderPoint.rank {α : Type*} : ResponderPoint α → ℕ
  | .done => 0
  | .loop => 1
  | .check _ => 1
  | .recvfrom => 2
  | .send _ => 2

namespace MdnsThreads

variable {α : Type*} {t : MdnsThreads α}

def rank (t : MdnsThreads α) : ℕ := (t.worker.thread.map ResponderPoint.rank).getD 0

theorem rank_le (t : MdnsThreads α) : t.rank ≤ 2 := by
  unfold rank
  cases t.worker.thread with
  | none => simp
  | some p => cases p <;> simp [ResponderPoint.rank]

theorem joins_iff (t : MdnsThreads α) : t.joins = true ↔ t.rank = 0 := by
  unfold joins rank
  cases t.worker.thread with
  | none => simp
  | some p => cases p <;> simp [ResponderPoint.rank]

/-- A responder that is told to stop takes nothing any more, and comes closer to its end. -/
theorem responderStep_stopping (hflag : t.worker.flag = false) (hrank : t.rank ≠ 0)
    (datagram : Option (α × Bytes)) :
    (t.responderStep datagram).rank < t.rank ∧ (t.responderStep datagram).taken = t.taken ∧
      (t.responderStep datagram).owner = t.owner := by
  unfold responderStep
  unfold rank at hrank ⊢
  cases hp : t.worker.thread with
  | none =>
    rw [hp] at hrank
    exact absurd rfl hrank
  | some p =>
    rw [hp] at hrank
    cases p with
    | loop => simp [hflag, MdnsThreads.move, ResponderPoint.rank]
    | recvfrom => simp [MdnsThreads.move, ResponderPoint.rank]
    | check received => simp [hflag, MdnsThreads.move, ResponderPoint.rank]
    | send sender => simp [MdnsThreads.move, ResponderPoint.rank]
    | done => exact absurd rfl hrank

/-- The owner waits for the responder, which has these datagrams to answer. -/
structure Withdrawing (taken : List (MdnsService × α × Bytes)) (t : MdnsThreads α) : Prop where
  sound : t.Sound
  owner : t.owner = .join
  taken : t.taken = taken

theorem Withdrawing.waits {taken : List (MdnsService × α × Bytes)} (h : t.Withdrawing taken)
    (event : MdnsEvent α) (hrank : t.rank ≠ 0) :
    (t.step event).Withdrawing taken ∧ (t.step event).rank ≤ t.rank ∧
      (event.isResponder = true → (t.step event).rank < t.rank) := by
  obtain ⟨hsound, howner, htaken⟩ := h
  have hflag : t.worker.flag = false := by
    have hworker := hsound.worker
    rw [howner] at hworker
    exact hworker.flag_lowered
  cases event with
  | call c =>
    have hsame : t.step (.call c) = t := by rw [step, howner]
    rw [hsame]
    exact ⟨⟨hsound, howner, htaken⟩, le_refl _, fun hno => Bool.noConfusion hno⟩
  | owner =>
    have hblocked : t.step .owner = t := by
      show t.ownerStep = t
      rw [ownerStep, howner]
      exact if_neg (mt (joins_iff t).mp hrank)
    rw [hblocked]
    exact ⟨⟨hsound, howner, htaken⟩, le_refl _, fun hno => Bool.noConfusion hno⟩
  | responder datagram =>
    obtain ⟨hlt, hsame, hwaits⟩ := responderStep_stopping hflag hrank datagram
    exact ⟨⟨hsound.responderStep datagram, hwaits.trans howner, hsame.trans htaken⟩, hlt.le,
      fun _ => hlt⟩

/-- Once the responder has ended, only the owner can do something. -/
theorem step_joins (howner : t.owner = .join) (hjoins : t.joins = true) {event : MdnsEvent α}
    (hevent : event ≠ .owner) : t.step event = t := by
  cases event with
  | call c =>
    show t.step (.call c) = t
    rw [step, howner]
  | owner => exact absurd rfl hevent
  | responder datagram =>
    show t.responderStep datagram = t
    unfold responderStep
    obtain hp | hp := thread_of_joins hjoins
    · rw [hp]
    · rw [hp]

/-- **Withdrawing ends, and answers what was asked before.** In every interleaving, once the
    responder was let run for two steps, an `unpublish` that waits for it returns whenever its thread
    is let run: no datagram was looked at while it waited, and those looked at before are all
    answered. -/
theorem unpublish_returns {past : List (MdnsEvent α)} {t : MdnsThreads α}
    (ht : run step {} past = t) (howner : t.owner = .join) {events : List (MdnsEvent α)}
    (hlong : 2 ≤ events.countP MdnsEvent.isResponder) :
    ∃ pre, pre <+: events ∧ ∀ waiting : List (MdnsEvent α), (∀ event ∈ waiting, event ≠ .owner) →
      ∃ t', run step t (pre ++ waiting ++ [.owner]) = t' ∧ t'.owner = .idle ∧
        t'.worker.thread = none ∧ t'.taken = t.taken ∧
        t'.answered = t.taken.filterMap answerTo := by
  have hsound : t.Sound := ht ▸ run_isSound past
  have hwaits : ∀ (u : MdnsThreads α) (event : MdnsEvent α), u.Withdrawing t.taken → u.rank ≠ 0 →
      (u.step event).Withdrawing t.taken ∧ (u.step event).rank ≤ u.rank ∧
        (event.isResponder = true → (u.step event).rank < u.rank) :=
    fun _ event hw hr => hw.waits event hr
  have hstill : ∀ (u : MdnsThreads α) (event : MdnsEvent α), u.Withdrawing t.taken → u.rank = 0 →
      event ≠ .owner → u.step event = u :=
    fun _ _ hw hr hevent => step_joins hw.owner ((joins_iff _).mpr hr) hevent
  obtain ⟨pre, hpre, ⟨hsound', howner', htaken'⟩, hrank, hstays⟩ :=
    run_returns hwaits hstill ⟨hsound, howner, rfl⟩ (t.rank_le.trans hlong)
  refine ⟨pre, hpre, ?_⟩
  intro waiting hothers
  have hjoins := (joins_iff _).mpr hrank
  refine ⟨_, rfl, ?_⟩
  -- whoever is let run while the owner waits, the responder has ended
  rw [run_append, hstays waiting hothers]
  generalize run step t pre = t' at hsound' howner' htaken' hjoins
  have hrecord := hsound'.record
  rw [pending_of_joins hjoins, List.append_nil, htaken'] at hrecord
  have hstep : run step t' [.owner] = { t' with worker := t'.worker.join, owner := .idle } := by
    show t'.ownerStep = _
    rw [ownerStep, howner']
    exact if_pos hjoins
  rw [hstep]
  exact ⟨rfl, rfl, htaken', hrecord⟩

/-- The service is published, asked and withdrawn, and the responder is about to answer. -/
def withdrawsAsked : List (MdnsEvent Unit) :=
  publishesOnce ++ [.responder none,
    .responder (some ((), List.replicate 12 0 ++ ascii "_airplay")), .responder none,
    .call .unpublish, .owner, .owner]

theorem unpublish_returns_asked :
    ∃ pre, pre <+: List.replicate 2 (.responder none) ∧
      ∀ waiting : List (MdnsEvent Unit), (∀ event ∈ waiting, event ≠ .owner) →
        ∃ t', run step (run step {} withdrawsAsked) (pre ++ waiting ++ [.owner]) = t' ∧
          t'.owner = .idle ∧ t'.worker.thread = none ∧ t'.taken.length = 1 ∧
          t'.answered.length = 1 := by
  have hreached : run step {} withdrawsAsked = run step {} withdrawsAsked := rfl
  have hlong : 2 ≤ (List.replicate 2 (.responder none : MdnsEvent Unit)).countP
      MdnsEvent.isResponder := by decide
  obtain ⟨pre, hpre, hreturns⟩ := unpublish_returns hreached (by rfl) hlong
  refine ⟨pre, hpre, ?_⟩
  intro waiting hothers
  obtain ⟨t', hrun, howner, hthread, htaken, hanswered⟩ := hreturns waiting hothers
  refine ⟨t', hrun, howner, hthread, ?_, ?_⟩
  · rw [htaken]
    rfl
  · rw [hanswered]
    rfl

end MdnsThreads
end AirPlay2
