import AirPlay2.Rtsp.ReceiverThread

/- What the owner of an `RtpReceiver` may rely on when its calls return. A call has done what it
   does to the receiver without threads that the sessions are modelled with (`call_refines`):
   what will have become of the receiver when the call returns is the same after every access of
   either thread. Waiting for the worker ends (`stop_returns`), and a handler that was replaced is
   called once more at most (`run_replaced`). -/
namespace AirPlay2
open Lib

variable {η : Type*}

namespace ReceiverThreads

variable {t : ReceiverThreads η}

/-! ## What a call comes to -/

/-- The receiver as its owner sees it. -/
def view (t : ReceiverThreads η) : RtpReceiver :=
  { running := t.fd.isSome
    port := t.port
    handler := t.handler.isSome
    workerRunning := t.worker.flag }

end ReceiverThreads

namespace RtpReceiver

/-- `start_worker`. -/
def startWorker (r : RtpReceiver) : RtpReceiver := { r with workerRunning := true }

/-- `clear_packet_handler`. -/
def clearPacketHandler (r : RtpReceiver) : RtpReceiver :=
  { r with workerRunning := false, handler := false }

end RtpReceiver

/-- The call, of a receiver without threads. -/
def RtpReceiverCall.apply (r : RtpReceiver) : RtpReceiverCall η → RtpReceiver
  | .bind outcome => (r.bind outcome).2
  | .close => r.close
  | .setPacketHandler (some _) => r.setPacketHandler
  | .setPacketHandler none =>
    let r := { r with handler := false }
    if r.running then r.startWorker else r
  | .clearPacketHandler => r.clearPacketHandler

/-- What the receiver has become when the call that is at this point returns. -/
def OwnerPoint.finish (r : RtpReceiver) : OwnerPoint η → RtpReceiver
  | .idle => r
  | .bind outcome => (r.bind outcome).2
  | .bindAddress (.bound port) =>
    let r := { r with port := port.getD r.port }
    if r.handler then r.startWorker else r
  | .bindAddress _ => r.close
  | .lock .read | .locked .read => if r.handler then r.startWorker else r
  | .lock (.write handler) | .locked (.write handler) =>
    let r := { r with handler := handler.isSome }
    if r.running then r.startWorker else r
  | .lock .erase | .locked .erase => { r with handler := false }
  | .unlock starts => if starts then r.startWorker else r
  | .start => r.startWorker
  | .spawn => r
  | .stop .close | .join .close | .closeSocket => r.close
  | .stop .clear | .join .clear => r.clearPacketHandler

namespace ReceiverThreads

variable {t : ReceiverThreads η}

/-- What will have become of the receiver when the owner is done. -/
def outcome (t : ReceiverThreads η) : RtpReceiver := t.owner.finish t.view

theorem workerStep_owner (t : ReceiverThreads η) (arrival : Arrival) :
    (t.workerStep arrival).owner = t.owner ∧ (t.workerStep arrival).view = t.view := by
  unfold ReceiverThreads.workerStep
  cases t.worker.thread with
  | none => exact ⟨rfl, rfl⟩
  | some p =>
    cases p with
    | loop => dsimp only; split <;> exact ⟨rfl, rfl⟩
    | receive => dsimp only; split <;> exact ⟨rfl, rfl⟩
    | select fd => cases arrival <;> exact ⟨rfl, rfl⟩
    | recvfrom fd =>
      unfold ReceiverThreads.take
      cases arrival with
      | nothing => exact ⟨rfl, rfl⟩
      | datagram bytes => dsimp only; split <;> exact ⟨rfl, rfl⟩
    | lock packet => dsimp only; split <;> exact ⟨rfl, rfl⟩
    | locked packet => exact ⟨rfl, rfl⟩
    | unlock packet callback => exact ⟨rfl, rfl⟩
    | call packet callback => exact ⟨rfl, rfl⟩
    | done => exact ⟨rfl, rfl⟩

/-- The worker does not change what a call comes to. -/
theorem outcome_workerStep (t : ReceiverThreads η) (arrival : Arrival) :
    (t.workerStep arrival).outcome = t.outcome := by
  obtain ⟨howner, hview⟩ := t.workerStep_owner arrival
  rw [outcome, outcome, howner, hview]

theorem outcome_openSocket (hclosed : t.fd = none) (result : BindOutcome) :
    (t.openSocket result).outcome = (t.view.bind result).2 := by
  have hrunning : t.view.running = false := by
    show t.fd.isSome = false
    rw [hclosed]
    rfl
  unfold RtpReceiver.bind
  rw [if_neg (by rw [hrunning]; decide)]
  cases result with
  | noSocket => rfl
  | refused => rfl
  | bound port => rfl

/-- Nor does each access of the call itself. -/
theorem Sound.outcome_ownerStep (h : t.Sound) : t.ownerStep.outcome = t.outcome := by
  have hworker := h.worker
  have hbefore : t.outcome = t.owner.finish t.view := rfl
  rw [hbefore]
  unfold ReceiverThreads.ownerStep
  cases howner : t.owner with
  | idle => rw [hbefore, howner]
  | bind result =>
    dsimp only
    split
    · rename_i hopen
      exact (congrArg Prod.snd (RtpReceiver.bind_of_running hopen result)).symm
    · rename_i hclosed
      exact outcome_openSocket (by simpa using hclosed) result
  | bindAddress result => cases result <;> rfl
  | lock access =>
    dsimp only
    split
    · cases access <;> rfl
    · rw [hbefore, howner]
  | locked access =>
    cases access with
    | read => rfl
    | write handler => rfl
    | erase => rfl
  | unlock starts => cases starts <;> rfl
  | start =>
    dsimp only
    split
    · rename_i hflag
      show t.view = t.view.startWorker
      rw [RtpReceiver.startWorker, ← show t.view.workerRunning = true from hflag]
    · rfl
  | spawn => rfl
  | stop reason => cases reason <;> rfl
  | join reason =>
    dsimp only
    split
    · cases reason with
      | close => rfl
      | clear =>
        rw [howner] at hworker
        have hlow : t.view.workerRunning = false := hworker.flag_lowered
        show ({ t.view with handler := false } : RtpReceiver) = t.view.clearPacketHandler
        rw [RtpReceiver.clearPacketHandler, ← hlow]
    · rw [hbefore, howner]
  | closeSocket =>
    rw [howner] at hworker
    have hflag : t.worker.flag = false := by
      rw [hworker.flag_eq, h.alone howner]
      rfl
    -- `stop_worker` is behind it, so of the `close` only the socket is left
    have hlow : ({ t.view with workerRunning := false } : RtpReceiver) = t.view := by
      rw [← show t.view.workerRunning = false from hflag]
    dsimp only
    show _ = t.view.close
    rw [RtpReceiver.close, hlow]
    cases hfd : t.fd.isSome with
    | true => simp [outcome, OwnerPoint.finish, view, hfd]
    | false => simp [outcome, OwnerPoint.finish, view, hfd]

/-- The event begins no call. -/
def Goes : ThreadEvent η → Prop
  | .call _ => False
  | _ => True

theorem Sound.outcome_step (h : t.Sound) {event : ThreadEvent η} (hevent : Goes event) :
    (t.step event).outcome = t.outcome := by
  cases event with
  | call c => exact absurd hevent id
  | owner => exact h.outcome_ownerStep
  | worker arrival => exact t.outcome_workerStep arrival

/-- A call begins where the receiver is. -/
theorem outcome_call (howner : t.owner = .idle) (c : RtpReceiverCall η) :
    (t.step (.call c)).outcome = c.apply t.view := by
  unfold step outcome
  rw [howner]
  cases c with
  | bind result => rfl
  | close => rfl
  | setPacketHandler handler => cases handler <;> rfl
  | clearPacketHandler => rfl

/-- Without a worker nothing happens between calls. -/
theorem run_quiet (howner : t.owner = .idle) (hnone : t.worker.thread = none)
    {events : List (ThreadEvent η)} (hevents : ∀ event ∈ events, Goes event) :
    run step t events = t := by
  apply run_still
  intro event hmem
  cases event with
  | call c => exact absurd (hevents _ hmem) id
  | owner =>
    show t.ownerStep = t
    rw [ownerStep, howner]
  | worker arrival =>
    show t.workerStep arrival = t
    rw [workerStep, hnone]

/-- **A call does what it says, whatever the worker does meanwhile.** A call that was begun in a
    state two threads can get into, and has returned, has made of the receiver what it makes of
    one without threads; and after `close` and `clear_packet_handler` nothing is received or
    handed over until the next call. -/
theorem call_refines {past : List (ThreadEvent η)} {t : ReceiverThreads η}
    (ht : run step {} past = t) (howner : t.owner = .idle) (c : RtpReceiverCall η)
    {events : List (ThreadEvent η)} (hevents : ∀ event ∈ events, Goes event)
    {t' : ReceiverThreads η} (ht' : run step t (.call c :: events) = t')
    (hreturned : t'.owner = .idle) :
    t'.view = c.apply t.view ∧
      (c = .close ∨ c = .clearPacketHandler →
        ∀ later : List (ThreadEvent η), (∀ event ∈ later, Goes event) → run step t' later = t') := by
  have hsound : t.Sound := ht ▸ run_isSound past
  obtain ⟨hsound', houtcome⟩ := run_outcome (P := Sound) (f := outcome) (G := Goes)
    (fun _ event h => h.step event) (fun _ _ h => h.outcome_step) (hsound.step (.call c)) hevents
  have hrun : run step (t.step (.call c)) events = t' := ht'
  rw [hrun] at hsound' houtcome
  have hview : t'.view = c.apply t.view := by
    rw [outcome_call howner] at houtcome
    rw [← houtcome, outcome, hreturned]
    rfl
  refine ⟨hview, ?_⟩
  intro hstops later hlater
  refine run_quiet hreturned ?_ hlater
  have hflag : t'.worker.flag = false := by
    have hrunning : t'.view.workerRunning = (c.apply t.view).workerRunning := by rw [hview]
    obtain rfl | rfl := hstops
    · refine hrunning.trans ?_
      show t.view.close.workerRunning = false
      unfold RtpReceiver.close
      dsimp only
      split <;> rfl
    · exact hrunning
  have hsettled := hsound'.worker
  rw [hreturned] at hsettled
  have hthread := hsettled.flag_eq
  rw [hflag] at hthread
  exact Option.isNone_iff_eq_none.mp (by simpa using hthread.symm)

/-! ### A packet on its way -/

/-- A socket is bound, and a handler set. -/
def startUp : List (ThreadEvent Bool) :=
  .call (.bind (.bound (some 6000))) :: List.replicate 5 .owner ++
    .call (.setPacketHandler (some true)) :: List.replicate 5 .owner

def oneDatagram : Arrival := .datagram [0x80, 0, 0, 7, 0, 0, 0, 0, 0, 0, 0, 0, 1]

/-- The worker receives a packet, and takes the handler to call it with it. -/
def takesPacket : List (ThreadEvent Bool) :=
  [.worker .nothing, .worker .nothing, .worker oneDatagram, .worker oneDatagram, .worker .nothing,
    .worker .nothing, .worker .nothing]

/-- `close` while the worker calls the handler. -/
def closesMeanwhile : List (ThreadEvent Bool) :=
  [.owner, .owner, .worker .nothing, .owner, .worker .nothing, .owner, .owner]

theorem call_refines_close :
    let t := run step {} (startUp ++ takesPacket)
    let t' := run step t (.call .close :: closesMeanwhile)
    t'.handed.length = 1 ∧ t'.view = t.view.close ∧
      ∀ later : List (ThreadEvent Bool), (∀ event ∈ later, Goes event) → run step t' later = t' := by
  intro t t'
  have hgoes : ∀ event ∈ closesMeanwhile, Goes event := by simp [closesMeanwhile, Goes]
  have hrun : run step {} (startUp ++ takesPacket) = t := rfl
  have hrun' : run step t (.call .close :: closesMeanwhile) = t' := rfl
  obtain ⟨hview, hquiet⟩ := call_refines hrun (by rfl) .close hgoes hrun' (by rfl)
  exact ⟨by rfl, hview, hquiet (Or.inl rfl)⟩

end ReceiverThreads

/-! ## Waiting for the worker -/

/-- How many steps the worker is from its end, at most, when the flag is down. -/
def WorkerPoint.rank : WorkerPoint η → ℕ
  | .done => 0
  | .loop => 1
  | .call _ _ => 2
  | .unlock _ _ => 3
  | .locked _ => 4
  | .lock _ => 5
  | .recvfrom _ => 6
  | .select _ => 7
  | .receive => 8

def ThreadEvent.isWorker : ThreadEvent η → Bool
  | .worker _ => true
  | _ => false

namespace ReceiverThreads

variable {t : ReceiverThreads η}

def rank (t : ReceiverThreads η) : ℕ := (t.worker.thread.map WorkerPoint.rank).getD 0

theorem joins_iff (t : ReceiverThreads η) : t.joins = true ↔ t.rank = 0 := by
  unfold joins rank
  cases t.worker.thread with
  | none => simp
  | some p => cases p <;> simp [WorkerPoint.rank]

theorem rank_le (t : ReceiverThreads η) : t.rank ≤ 8 := by
  unfold rank
  cases t.worker.thread with
  | none => simp
  | some p => cases p <;> simp [WorkerPoint.rank]

/-- With the flag down, and the mutex not with the owner, the worker gets on. -/
theorem Sound.rank_workerStep (h : t.Sound) (hflag : t.worker.flag = false)
    (hmutex : t.owner.holdsMutex = false) (hrank : t.rank ≠ 0) (arrival : Arrival) :
    (t.workerStep arrival).rank < t.rank := by
  have hworker := h.workerLock
  have hopen : t.worker.thread.isSome = true → t.fd.isSome = true := fun hthread =>
    h.socket (Or.inl hthread)
  unfold rank at hrank ⊢
  unfold ReceiverThreads.workerStep
  cases hp : t.worker.thread with
  | none =>
    rw [hp] at hrank
    exact absurd rfl hrank
  | some p =>
    rw [hp] at hrank hworker hopen
    cases p with
    | loop => simp [hflag, ReceiverThreads.move, WorkerPoint.rank]
    | receive =>
      obtain ⟨fd, hfd⟩ := Option.isSome_iff_exists.mp (hopen rfl)
      simp [hfd, ReceiverThreads.move, WorkerPoint.rank]
    | select fd => cases arrival <;> simp [ReceiverThreads.move, WorkerPoint.rank]
    | recvfrom fd =>
      unfold ReceiverThreads.take
      cases arrival with
      | nothing => simp [ReceiverThreads.move, WorkerPoint.rank]
      | datagram bytes => dsimp only; split <;> simp [ReceiverThreads.move, WorkerPoint.rank]
    | lock packet =>
      -- neither of the two holds the mutex
      have hfree : t.mutex = none := by
        cases hheld : t.mutex with
        | none => rfl
        | some holder =>
          cases holder with
          | owner =>
            rw [h.ownerLock.mp hheld] at hmutex
            cases hmutex
          | worker => exact absurd (hworker.mp hheld) (by simp [WorkerPoint.holdsMutex])
      simp [hfree, ReceiverThreads.move, WorkerPoint.rank]
    | locked packet => simp [ReceiverThreads.move, WorkerPoint.rank]
    | unlock packet callback => simp [ReceiverThreads.move, WorkerPoint.rank]
    | call packet callback => simp [ReceiverThreads.move, WorkerPoint.rank]
    | done => exact absurd rfl hrank

/-- Once the worker has ended, only the owner can do something. -/
theorem step_joins {reason : StopFor} (howner : t.owner = .join reason) (hjoins : t.joins = true)
    {event : ThreadEvent η} (hevent : event ≠ .owner) : t.step event = t := by
  cases event with
  | call c =>
    show t.step (.call c) = t
    rw [step, howner]
  | owner => exact absurd rfl hevent
  | worker arrival =>
    show t.workerStep arrival = t
    unfold workerStep
    obtain hp | hp := thread_of_joins hjoins
    · rw [hp]
    · rw [hp]

/-- The owner waits at the join, and the worker comes closer to its end. -/
theorem Sound.waits (h : t.Sound) {reason : StopFor} (howner : t.owner = .join reason)
    (event : ThreadEvent η) (hrank : t.rank ≠ 0) :
    ((t.step event).Sound ∧ (t.step event).owner = .join reason) ∧ (t.step event).rank ≤ t.rank ∧
      (event.isWorker = true → (t.step event).rank < t.rank) := by
  have hflag : t.worker.flag = false := by
    have hworker := h.worker
    rw [howner] at hworker
    exact hworker.flag_lowered
  cases event with
  | call c =>
    have hsame : t.step (.call c) = t := by rw [ReceiverThreads.step, howner]
    rw [hsame]
    exact ⟨⟨h, howner⟩, le_refl _, fun hno => Bool.noConfusion hno⟩
  | owner =>
    have hblocked : t.step .owner = t := by
      show t.ownerStep = t
      rw [ReceiverThreads.ownerStep, howner]
      exact if_neg (mt (joins_iff t).mp hrank)
    rw [hblocked]
    exact ⟨⟨h, howner⟩, le_refl _, fun hno => Bool.noConfusion hno⟩
  | worker arrival =>
    have hlt := h.rank_workerStep hflag (by rw [howner]; rfl) hrank arrival
    refine ⟨⟨h.workerStep arrival, ?_⟩, hlt.le, fun _ => hlt⟩
    exact (t.workerStep_owner arrival).1.trans howner

/-- **Stopping the worker ends.** In every interleaving, once the worker was let run for eight
    steps, a `stop_worker` that waits for it returns whenever its thread is let run, with every
    packet that was received handed over. -/
theorem stop_returns {past : List (ThreadEvent η)} {t : ReceiverThreads η}
    (ht : run step {} past = t) {reason : StopFor} (howner : t.owner = .join reason)
    {events : List (ThreadEvent η)} (hlong : 8 ≤ events.countP ThreadEvent.isWorker) :
    ∃ pre, pre <+: events ∧ ∀ waiting : List (ThreadEvent η), (∀ event ∈ waiting, event ≠ .owner) →
      ∃ t', run step t (pre ++ waiting ++ [.owner]) = t' ∧ t'.owner = reason.next ∧
        t'.worker.thread = none ∧ t'.received = t'.handed.map Prod.snd := by
  have hsound : t.Sound := ht ▸ run_isSound past
  have hwaits : ∀ (t : ReceiverThreads η) (event : ThreadEvent η),
      t.Sound ∧ t.owner = .join reason → t.rank ≠ 0 →
        ((t.step event).Sound ∧ (t.step event).owner = .join reason) ∧
          (t.step event).rank ≤ t.rank ∧ (event.isWorker = true → (t.step event).rank < t.rank) :=
    fun _ event hw hr => hw.1.waits hw.2 event hr
  have hstill : ∀ (t : ReceiverThreads η) (event : ThreadEvent η),
      t.Sound ∧ t.owner = .join reason → t.rank = 0 → event ≠ .owner → t.step event = t :=
    fun _ _ hw hr hevent => step_joins hw.2 ((joins_iff _).mpr hr) hevent
  obtain ⟨pre, hpre, ⟨hsound', howner'⟩, hrank, hstays⟩ :=
    run_returns hwaits hstill ⟨hsound, howner⟩ (t.rank_le.trans hlong)
  refine ⟨pre, hpre, ?_⟩
  intro waiting hothers
  have hjoins := (joins_iff _).mpr hrank
  refine ⟨_, rfl, ?_⟩
  -- whoever is let run while the owner waits, the worker has ended
  rw [run_append, hstays waiting hothers]
  generalize run step t pre = t' at hsound' howner' hjoins
  obtain ⟨hflight, -⟩ := inFlight_of_joins hjoins
  have hrecord := hsound'.record
  rw [hflight, List.append_nil] at hrecord
  have hstep : run step t' [.owner] = { t' with worker := t'.worker.join, owner := reason.next } := by
    show t'.ownerStep = _
    rw [ownerStep, howner']
    exact if_pos hjoins
  rw [hstep]
  exact ⟨rfl, rfl, hrecord⟩

/-- The worker has a packet to hand over, and comes to its end after that. -/
theorem stop_returns_busy :
    ∃ pre, pre <+: List.replicate 8 (.worker .nothing) ∧
      ∀ waiting : List (ThreadEvent Bool), (∀ event ∈ waiting, event ≠ .owner) →
        ∃ t', run step (run step {} (startUp ++ takesPacket ++ [.call .close, .owner]))
            (pre ++ waiting ++ [.owner]) = t' ∧
          t'.owner = StopFor.close.next ∧ t'.worker.thread = none ∧
          t'.received = t'.handed.map Prod.snd :=
  stop_returns rfl (by rfl) (by decide)

end ReceiverThreads

/-! ## A handler that is replaced -/

/-- The call has yet to write the handler. -/
def OwnerPoint.writesHandler : OwnerPoint η → Bool
  | .lock (.write _) | .locked (.write _) | .lock .erase | .locked .erase => true
  | .stop .clear | .join .clear => true
  | _ => false

/-- A callback that was taken for a packet and not yet called. -/
def WorkerPoint.carried : WorkerPoint η → List (Option η × RtpPacket)
  | .unlock packet callback | .call packet callback => [(callback, packet)]
  | _ => []

/-- The event begins no call that writes the handler. -/
def KeepsHandler : ThreadEvent η → Prop
  | .call (.setPacketHandler _) | .call .clearPacketHandler => False
  | _ => True

namespace ReceiverThreads

variable {t : ReceiverThreads η}

def carried (t : ReceiverThreads η) : List (Option η × RtpPacket) :=
  ((t.worker.thread.map WorkerPoint.carried).getD [])

theorem length_carried (t : ReceiverThreads η) : t.carried.length ≤ 1 := by
  unfold carried
  cases t.worker.thread with
  | none => simp
  | some p => cases p <;> simp [WorkerPoint.carried]

/-- The worker takes a callback by taking the handler there is. -/
theorem carried_workerStep (t : ReceiverThreads η) (arrival : Arrival) :
    (t.workerStep arrival).handler = t.handler ∧ t.handed <+: (t.workerStep arrival).handed ∧
      ∃ taken, (t.workerStep arrival).handed ++ (t.workerStep arrival).carried =
          t.handed ++ t.carried ++ taken ∧ ∀ e ∈ taken, e.1 = t.handler := by
  unfold workerStep carried
  cases hp : t.worker.thread with
  | none => exact ⟨rfl, List.prefix_rfl, [], by simp [hp], by simp⟩
  | some p =>
    cases p with
    | loop =>
      dsimp only
      split <;> exact ⟨rfl, List.prefix_rfl, [], by simp [move, WorkerPoint.carried], by simp⟩
    | receive =>
      dsimp only
      split <;> exact ⟨rfl, List.prefix_rfl, [], by simp [move, WorkerPoint.carried], by simp⟩
    | select fd =>
      cases arrival <;>
        exact ⟨rfl, List.prefix_rfl, [], by simp [move, WorkerPoint.carried], by simp⟩
    | recvfrom fd =>
      unfold take
      cases arrival with
      | nothing => exact ⟨rfl, List.prefix_rfl, [], by simp [move, WorkerPoint.carried], by simp⟩
      | datagram bytes =>
        dsimp only
        split <;> exact ⟨rfl, List.prefix_rfl, [], by simp [move, WorkerPoint.carried], by simp⟩
    | lock packet =>
      dsimp only
      split
      · exact ⟨rfl, List.prefix_rfl, [], by simp [move, WorkerPoint.carried], by simp⟩
      · exact ⟨rfl, List.prefix_rfl, [], by simp [hp], by simp⟩
    | locked packet =>
      exact ⟨rfl, List.prefix_rfl, [(t.handler, packet)], by simp [move, WorkerPoint.carried],
        by simp⟩
    | unlock packet callback =>
      exact ⟨rfl, List.prefix_rfl, [], by simp [move, WorkerPoint.carried], by simp⟩
    | call packet callback =>
      exact ⟨rfl, List.prefix_append _ _, [], by simp [move, WorkerPoint.carried], by simp⟩
    | done => exact ⟨rfl, List.prefix_rfl, [], by simp [hp], by simp⟩

theorem carried_of_joins (h : t.joins = true) : t.carried = [] := by
  unfold carried
  obtain hp | hp := thread_of_joins h
  · rw [hp]
    rfl
  · rw [hp]
    rfl

/-- The owner takes no callback, and hands nothing over. -/
theorem Sound.carried_ownerStep (h : t.Sound) (howner : t.owner.writesHandler = false) :
    t.ownerStep.handler = t.handler ∧ t.ownerStep.handed = t.handed ∧
      t.ownerStep.carried = t.carried ∧ t.ownerStep.owner.writesHandler = false := by
  have hworker := h.worker
  unfold ReceiverThreads.ownerStep
  cases hpoint : t.owner with
  | idle => exact ⟨rfl, rfl, rfl, howner⟩
  | bind outcome =>
    dsimp only
    split
    · exact ⟨rfl, rfl, rfl, rfl⟩
    · cases outcome <;> exact ⟨rfl, rfl, rfl, rfl⟩
  | bindAddress outcome => cases outcome <;> exact ⟨rfl, rfl, rfl, rfl⟩
  | lock access =>
    rw [hpoint] at howner
    dsimp only
    split
    · cases access <;> exact ⟨rfl, rfl, rfl, howner⟩
    · exact ⟨rfl, rfl, rfl, by rw [hpoint]; exact howner⟩
  | locked access =>
    rw [hpoint] at howner
    cases access with
    | read => exact ⟨rfl, rfl, rfl, rfl⟩
    | write handler => cases howner
    | erase => cases howner
  | unlock starts => cases starts <;> exact ⟨rfl, rfl, rfl, rfl⟩
  | start => dsimp only; split <;> exact ⟨rfl, rfl, rfl, rfl⟩
  | spawn =>
    rw [hpoint] at hworker
    have hnone : t.worker.thread = none := hworker.empty rfl
    refine ⟨rfl, rfl, ?_, rfl⟩
    simp [carried, hnone, WorkerPoint.carried]
  | stop reason =>
    rw [hpoint] at howner
    cases reason with
    | close => exact ⟨rfl, rfl, rfl, rfl⟩
    | clear => cases howner
  | join reason =>
    rw [hpoint] at howner
    dsimp only
    split
    · rename_i hjoins
      refine ⟨rfl, rfl, ?_, ?_⟩
      · rw [carried_of_joins hjoins]
        rfl
      · cases reason with
        | close => rfl
        | clear => cases howner
    · exact ⟨rfl, rfl, rfl, by rw [hpoint]; exact howner⟩
  | closeSocket => dsimp only; split <;> exact ⟨rfl, rfl, rfl, rfl⟩

theorem writesHandler_call (howner : t.owner.writesHandler = false) {c : RtpReceiverCall η}
    (hc : KeepsHandler (.call c)) : (t.step (.call c)).owner.writesHandler = false ∧
      (t.step (.call c)).handler = t.handler ∧ (t.step (.call c)).handed = t.handed ∧
      (t.step (.call c)).carried = t.carried := by
  unfold step
  cases hpoint : t.owner with
  | idle =>
    cases c with
    | bind outcome => exact ⟨rfl, rfl, rfl, rfl⟩
    | close => exact ⟨rfl, rfl, rfl, rfl⟩
    | setPacketHandler handler => exact absurd hc id
    | clearPacketHandler => exact absurd hc id
  | _ => exact ⟨howner, rfl, rfl, rfl⟩

/-- `t'` comes after `t`, with no handler written in between. -/
structure Follows (t t' : ReceiverThreads η) : Prop where
  sound : t'.Sound
  point : t'.owner.writesHandler = false
  handler : t'.handler = t.handler
  grows : t.handed <+: t'.handed
  taken : ∃ taken, t'.handed ++ t'.carried = t.handed ++ t.carried ++ taken ∧
    ∀ e ∈ taken, e.1 = t.handler

theorem Follows.step {t' : ReceiverThreads η} (h : Follows t t') {event : ThreadEvent η}
    (hevent : KeepsHandler event) : Follows t (t'.step event) := by
  obtain ⟨taken, htaken, hnew⟩ := h.taken
  cases event with
  | call c =>
    obtain ⟨hpoint, hhandler, hhanded, hcarried⟩ := writesHandler_call h.point hevent
    refine ⟨h.sound.step _, hpoint, hhandler.trans h.handler, ?_, taken, ?_, hnew⟩
    · rw [hhanded]
      exact h.grows
    · rw [hhanded, hcarried]
      exact htaken
  | owner =>
    obtain ⟨hhandler, hhanded, hcarried, hpoint⟩ := h.sound.carried_ownerStep h.point
    refine ⟨h.sound.step _, hpoint, hhandler.trans h.handler, ?_, taken, ?_, hnew⟩
    · show t.handed <+: t'.ownerStep.handed
      rw [hhanded]
      exact h.grows
    · show t'.ownerStep.handed ++ t'.ownerStep.carried = _
      rw [hhanded, hcarried]
      exact htaken
  | worker arrival =>
    obtain ⟨hhandler, hgrows, more, hmore, hsame⟩ := t'.carried_workerStep arrival
    refine ⟨h.sound.step _, ?_, hhandler.trans h.handler, h.grows.trans hgrows, taken ++ more, ?_, ?_⟩
    · show (t'.workerStep arrival).owner.writesHandler = false
      rw [(t'.workerStep_owner arrival).1]
      exact h.point
    · show (t'.workerStep arrival).handed ++ (t'.workerStep arrival).carried = _
      rw [hmore, htaken, List.append_assoc]
    · intro e he
      obtain he | he := List.mem_append.mp he
      · exact hnew e he
      · exact (hsame e he).trans h.handler

/-- **A handler is called once more at most after it was replaced.** From the moment the handler
    is written until it is written again, whatever the two threads do: one packet may still go to
    a handler that was there before, and every other one goes to the one that is there. -/
theorem run_replaced {past : List (ThreadEvent η)} {t : ReceiverThreads η}
    (ht : run step {} past = t) (howner : t.owner.writesHandler = false)
    {events : List (ThreadEvent η)} (hevents : ∀ event ∈ events, KeepsHandler event) :
    ∃ old new, (run step t events).handed = t.handed ++ old ++ new ∧ old.length ≤ 1 ∧
      ∀ e ∈ new, e.1 = t.handler := by
  have hfollows : Follows t (run step t events) :=
    run_induction_along (P := Follows t)
      ⟨ht ▸ run_isSound past, howner, rfl, List.prefix_rfl, [], by simp, by simp⟩ events
      (fun _ _ hmem h => h.step (hevents _ hmem))
  obtain ⟨rest, hrest⟩ := hfollows.grows
  obtain ⟨taken, htaken, hnew⟩ := hfollows.taken
  rw [← hrest, List.append_assoc, List.append_assoc, List.append_cancel_left_eq] at htaken
  rw [← hrest]
  -- what was handed over since ends before what was carried then does, or behind it
  obtain ⟨left, hcarried, -⟩ | ⟨right, rfl, rfl⟩ := List.append_eq_append_iff.mp htaken
  · refine ⟨rest, [], by simp, ?_, by simp⟩
    have hlen := t.length_carried
    rw [hcarried, List.length_append] at hlen
    omega
  · refine ⟨t.carried, right, by rw [List.append_assoc], t.length_carried, ?_⟩
    intro e he
    exact hnew e (List.mem_append_left _ he)

/-- The first handler has been taken for a packet when the second one replaces it. -/
theorem run_replaced_once :
    let t := run step {} (startUp ++ takesPacket ++ .call (.setPacketHandler (some false)) ::
      List.replicate 4 .owner)
    ∃ old new, (run step t (.worker .nothing :: (takesPacket ++ takesPacket))).handed =
        t.handed ++ old ++ new ∧ old.length ≤ 1 ∧ ∀ e ∈ new, e.1 = t.handler :=
  run_replaced rfl (by rfl) (by simp [takesPacket, KeepsHandler])

end ReceiverThreads
end AirPlay2
