import AirPlay2.Lib.Worker
import AirPlay2.Rtsp.RtpCodec

/- `RtpReceiver` with its two threads (`rtp.cpp`): the one that calls `bind`, `close`,
   `set_packet_handler` and `clear_packet_handler`, and the worker that these start and stop.
   Every step is one access to what both of them see, so a run is any interleaving. What holds at
   each point of the two threads is one invariant (`ReceiverThreads.Sound`), from which the worker
   waits and reads on the descriptor that is open, and hands every packet it received over once
   and in order (`run_received`). -/
namespace AirPlay2
open Lib

/-! ## The two threads -/

/-- The calls of the owner. A `std::function` may be empty. -/
inductive RtpReceiverCall (η : Type*) where
  | bind (outcome : BindOutcome)
  | close
  | setPacketHandler (handler : Option η)
  | clearPacketHandler

/-- What is done to the handler under `handler_mutex`. -/
inductive HandlerAccess (η : Type*) where
  | read
  | write (handler : Option η)
  | erase

/-- What `stop_worker` is called for. -/
inductive StopFor where
  | close
  | clear
  deriving DecidableEq

/-- The next access of the owner. -/
inductive OwnerPoint (η : Type*) where
  | idle
  | bind (outcome : BindOutcome)
  | bindAddress (outcome : BindOutcome)
  | lock (access : HandlerAccess η)
  | locked (access : HandlerAccess η)
  | unlock (starts : Bool)
  | start
  | spawn
  | stop (reason : StopFor)
  | join (reason : StopFor)
  | closeSocket

/-- The next access of the worker. -/
inductive WorkerPoint (η : Type*) where
  | loop
  | receive
  | select (fd : ℕ)
  | recvfrom (fd : ℕ)
  | lock (packet : RtpPacket)
  | locked (packet : RtpPacket)
  | unlock (packet : RtpPacket) (callback : Option η)
  | call (packet : RtpPacket) (callback : Option η)
  | done

/-- What comes after `stop_worker`. -/
def StopFor.next {η : Type*} : StopFor → OwnerPoint η
  | .close => .closeSocket
  | .clear => .lock .erase

inductive MutexHolder where
  | owner
  | worker
  deriving DecidableEq

/-- `RtpReceiver::Impl` and the points of its threads, with the number of descriptors handed out
    so far, the packets `receive` filled in, and the callbacks taken for them. -/
structure ReceiverThreads (η : Type*) where
  fd : Option ℕ := none
  port : UInt16 := 0
  mutex : Option MutexHolder := none
  handler : Option η := none
  worker : Worker (WorkerPoint η) := {}
  owner : OwnerPoint η := .idle
  descriptors : ℕ := 0
  received : List RtpPacket := []
  handed : List (Option η × RtpPacket) := []

/-- What a socket call of the worker finds: no datagram, or one. -/
inductive Arrival where
  | nothing
  | datagram (bytes : Bytes)

/-- The owner begins a call, or makes its next access, or the worker does. -/
inductive ThreadEvent (η : Type*) where
  | call (c : RtpReceiverCall η)
  | owner
  | worker (arrival : Arrival)

namespace ReceiverThreads

variable {η : Type*}

def begin : RtpReceiverCall η → OwnerPoint η
  | .bind outcome => .bind outcome
  | .close => .stop .close
  | .setPacketHandler handler => .lock (.write handler)
  | .clearPacketHandler => .stop .clear

def move (t : ReceiverThreads η) (p : WorkerPoint η) : ReceiverThreads η :=
  { t with worker := t.worker.move p }

/-- `receive`, from `recvfrom` on. -/
def take (t : ReceiverThreads η) : Arrival → ReceiverThreads η
  | .nothing => t.move .loop
  | .datagram bytes =>
    match receiveDatagram bytes with
    | none => t.move .loop
    | some packet => { t with received := t.received ++ [packet] }.move (.lock packet)

/-- The loop of the worker. -/
def workerStep (t : ReceiverThreads η) (arrival : Arrival) : ReceiverThreads η :=
  match t.worker.thread with
  | none => t
  | some .loop => if t.worker.flag then t.move .receive else t.move .done
  -- `receive` looks whether there is a socket
  | some .receive =>
    match t.fd with
    | none => t.move .loop
    | some fd => t.move (.select fd)
  -- `select` is tried anew after 100 ms, or an error
  | some (.select fd) =>
    match arrival with
    | .nothing => t.move .loop
    | .datagram _ => t.move (.recvfrom fd)
  | some (.recvfrom _) => t.take arrival
  | some (.lock packet) =>
    -- the lock waits: nothing happens until the mutex is free
    if t.mutex.isNone then { t with mutex := some .worker }.move (.locked packet) else t
  | some (.locked packet) => t.move (.unlock packet t.handler)
  | some (.unlock packet callback) => { t with mutex := none }.move (.call packet callback)
  | some (.call packet callback) =>
    { t with handed := t.handed ++ [(callback, packet)] }.move .loop
  | some .done => t

/-- `join` returns: there is no thread, or it has come to its end. -/
def joins (t : ReceiverThreads η) : Bool :=
  match t.worker.thread with
  | none => true
  | some .done => true
  | some _ => false

/-- `socket`, in `bind`. -/
def openSocket (t : ReceiverThreads η) : BindOutcome → ReceiverThreads η
  | .noSocket => { t with owner := .idle }
  | outcome =>
    { t with
      fd := some t.descriptors
      descriptors := t.descriptors + 1
      owner := .bindAddress outcome }

/-- A call of the owner; `join` and the lock wait. -/
def ownerStep (t : ReceiverThreads η) : ReceiverThreads η :=
  match t.owner with
  | .idle => t
  | .bind outcome => if t.fd.isSome then { t with owner := .idle } else t.openSocket outcome
  | .bindAddress (.bound port) => { t with port := port.getD t.port, owner := .lock .read }
  -- a `bind` that fails goes on as a `close`
  | .bindAddress _ => { t with owner := .stop .close }
  | .lock access =>
    if t.mutex.isNone then { t with mutex := some .owner, owner := .locked access } else t
  | .locked .read => { t with owner := .unlock t.handler.isSome }
  | .locked (.write handler) => { t with handler := handler, owner := .unlock t.fd.isSome }
  | .locked .erase => { t with handler := none, owner := .unlock false }
  | .unlock starts => { t with mutex := none, owner := if starts then .start else .idle }
  -- `exchange`: a worker that is there is left alone
  | .start =>
    if t.worker.flag then { t with owner := .idle }
    else { t with worker := t.worker.raise, owner := .spawn }
  | .spawn => { t with worker := t.worker.spawn .loop, owner := .idle }
  | .stop reason => { t with worker := t.worker.lower, owner := .join reason }
  | .join reason =>
    if t.joins then { t with worker := t.worker.join, owner := reason.next } else t
  | .closeSocket =>
    if t.fd.isSome then { t with fd := none, port := 0, owner := .idle } else { t with owner := .idle }

def step (t : ReceiverThreads η) : ThreadEvent η → ReceiverThreads η
  | .call c =>
    match t.owner with
    | .idle => { t with owner := begin c }
    | _ => t
  | .owner => t.ownerStep
  | .worker arrival => t.workerStep arrival

end ReceiverThreads

/-! ## What holds at each point -/

namespace OwnerPoint

variable {η : Type*}

def station : OwnerPoint η → Station
  | .spawn => .raised
  | .join _ => .lowered
  | _ => .settled

def holdsMutex : OwnerPoint η → Bool
  | .locked _ | .unlock _ => true
  | _ => false

/-- Points that are reached with an open socket only. -/
def hasSocket : OwnerPoint η → Bool
  | .bindAddress _ | .lock .read | .locked .read | .unlock true | .start | .spawn => true
  | _ => false

end OwnerPoint

namespace WorkerPoint

variable {η : Type*}

def holdsMutex : WorkerPoint η → Bool
  | .locked _ | .unlock _ _ => true
  | _ => false

/-- The descriptor a socket call is made with. -/
def descriptor : WorkerPoint η → Option ℕ
  | .select fd | .recvfrom fd => some fd
  | _ => none

/-- The packet that was received and not yet handed over. -/
def packet : WorkerPoint η → Option RtpPacket
  | .lock packet | .locked packet | .unlock packet _ | .call packet _ => some packet
  | _ => none

end WorkerPoint

namespace ReceiverThreads

variable {η : Type*} {t : ReceiverThreads η}

def inFlight (t : ReceiverThreads η) : List RtpPacket :=
  (t.worker.thread.bind WorkerPoint.packet).toList

/-- The invariant of the two threads. -/
structure Sound (t : ReceiverThreads η) : Prop where
  worker : t.worker.At .done t.owner.station
  socket : t.worker.thread.isSome = true ∨ t.owner.hasSocket = true → t.fd.isSome = true
  alone : t.owner = .closeSocket → t.worker.thread = none
  descriptor : ∀ fd, t.worker.thread.bind WorkerPoint.descriptor = some fd → t.fd = some fd
  ownerLock : t.mutex = some .owner ↔ t.owner.holdsMutex = true
  workerLock : t.mutex = some .worker ↔ t.worker.thread.any WorkerPoint.holdsMutex = true
  record : t.received = t.handed.map Prod.snd ++ t.inFlight

theorem sound_new : ({} : ReceiverThreads η).Sound :=
  ⟨Worker.at_new, by simp [OwnerPoint.hasSocket], fun _ => rfl, by simp,
    by simp [OwnerPoint.holdsMutex], by simp, rfl⟩

/-! ## Steps of the worker -/

/-- A step of the worker on its own. -/
theorem Sound.move (h : t.Sound) {p q : WorkerPoint η} (hp : t.worker.thread = some p)
    (hend : q = .done → t.worker.flag = false)
    (hdescriptor : ∀ fd, q.descriptor = some fd → t.fd = some fd)
    (hlock : q.holdsMutex = p.holdsMutex) (hpacket : q.packet = p.packet) : (t.move q).Sound := by
  refine ⟨h.worker.move hp hend, ?_, ?_, hdescriptor, h.ownerLock, ?_, ?_⟩
  · intro _
    exact h.socket (Or.inl (by rw [hp]; rfl))
  · intro howner
    have hnone := h.alone howner
    rw [hp] at hnone
    cases hnone
  · have hworker := h.workerLock
    rw [hp] at hworker
    simpa [ReceiverThreads.move, hlock] using hworker
  · have hrecord := h.record
    simpa [ReceiverThreads.move, inFlight, hp, hpacket] using hrecord

theorem Sound.take (h : t.Sound) {fd : ℕ} (hp : t.worker.thread = some (.recvfrom fd))
    (arrival : Arrival) : (t.take arrival).Sound := by
  have hback : (t.move .loop).Sound :=
    h.move hp (by simp) (by simp [WorkerPoint.descriptor]) rfl rfl
  unfold ReceiverThreads.take
  cases arrival with
  | nothing => exact hback
  | datagram bytes =>
    cases hreceived : receiveDatagram bytes with
    | none => simpa only [hreceived] using hback
    | some packet =>
      simp only [hreceived]
      refine ⟨h.worker.move hp (by simp), fun _ => h.socket (Or.inl (by rw [hp]; rfl)), ?_,
        by simp [ReceiverThreads.move, WorkerPoint.descriptor], h.ownerLock, ?_, ?_⟩
      · intro howner
        have hnone := h.alone howner
        rw [hp] at hnone
        cases hnone
      · have hworker := h.workerLock
        rw [hp] at hworker
        simpa [ReceiverThreads.move, WorkerPoint.holdsMutex] using hworker
      · have hrecord := h.record
        simp only [inFlight, hp, Option.bind_some, WorkerPoint.packet, Option.toList_none,
          List.append_nil] at hrecord
        simp [ReceiverThreads.move, inFlight, WorkerPoint.packet, hrecord]

/-- The worker does not run while the owner closes the socket. -/
theorem Sound.not_closing (h : t.Sound) {p : WorkerPoint η} (hp : t.worker.thread = some p) :
    t.owner ≠ .closeSocket := by
  intro howner
  have hnone := h.alone howner
  rw [hp] at hnone
  cases hnone

theorem Sound.workerStep (h : t.Sound) (arrival : Arrival) : (t.workerStep arrival).Sound := by
  unfold ReceiverThreads.workerStep
  cases hp : t.worker.thread with
  | none => exact h
  | some p =>
    have hopen : t.fd.isSome = true := h.socket (Or.inl (by rw [hp]; rfl))
    have hdescriptor := h.descriptor
    have hworker := h.workerLock
    have hrecord := h.record
    simp only [hp, Option.bind_some, Option.any_some, inFlight] at hdescriptor hworker hrecord
    cases p with
    | loop =>
      dsimp only
      split
      · exact h.move hp (by simp) (by simp [WorkerPoint.descriptor]) rfl rfl
      · rename_i hflag
        exact h.move hp (by simpa using hflag) (by simp [WorkerPoint.descriptor]) rfl rfl
    | receive =>
      obtain ⟨fd, hfd⟩ := Option.isSome_iff_exists.mp hopen
      simp only [hfd]
      exact h.move hp (by simp) (by simp [WorkerPoint.descriptor, hfd]) rfl rfl
    | select fd =>
      cases arrival with
      | nothing => exact h.move hp (by simp) (by simp [WorkerPoint.descriptor]) rfl rfl
      | datagram bytes => exact h.move hp (by simp) hdescriptor rfl rfl
    | recvfrom fd => exact h.take hp arrival
    | lock packet =>
      dsimp only
      split
      · -- nobody holds the mutex, and then the worker does
        rename_i hfree
        rw [Option.isNone_iff_eq_none] at hfree
        refine ⟨h.worker.move hp (by simp), fun _ => hopen, fun ho => absurd ho (h.not_closing hp),
          by simp [ReceiverThreads.move, WorkerPoint.descriptor], ?_, ?_, ?_⟩
        · have howner := h.ownerLock
          rw [hfree] at howner
          simpa [ReceiverThreads.move] using howner
        · simp [ReceiverThreads.move, WorkerPoint.holdsMutex]
        · simpa [ReceiverThreads.move, inFlight, WorkerPoint.packet] using hrecord
      · exact h
    | locked packet => exact h.move hp (by simp) (by simp [WorkerPoint.descriptor]) rfl rfl
    | unlock packet callback =>
      have hheld : t.mutex = some .worker := hworker.mpr rfl
      refine ⟨h.worker.move hp (by simp), fun _ => hopen, fun ho => absurd ho (h.not_closing hp),
        by simp [ReceiverThreads.move, WorkerPoint.descriptor], ?_, ?_, ?_⟩
      · have howner := h.ownerLock
        rw [hheld] at howner
        simpa [ReceiverThreads.move] using howner
      · simp [ReceiverThreads.move, WorkerPoint.holdsMutex]
      · simpa [ReceiverThreads.move, inFlight, WorkerPoint.packet] using hrecord
    | call packet callback =>
      refine ⟨h.worker.move hp (by simp), fun _ => hopen, fun ho => absurd ho (h.not_closing hp),
        by simp [ReceiverThreads.move, WorkerPoint.descriptor], h.ownerLock, ?_, ?_⟩
      · simpa [ReceiverThreads.move, WorkerPoint.holdsMutex] using hworker
      · simpa [ReceiverThreads.move, inFlight, WorkerPoint.packet] using hrecord
    | done => exact h

/-! ## Steps of the owner -/

theorem thread_of_joins (h : t.joins = true) :
    t.worker.thread = none ∨ t.worker.thread = some .done := by
  unfold joins at h
  split at h
  · rename_i hp
    exact Or.inl hp
  · rename_i hp
    exact Or.inr hp
  · cases h

theorem inFlight_of_joins (h : t.joins = true) : t.inFlight = [] ∧
    t.worker.thread.any WorkerPoint.holdsMutex = false := by
  unfold inFlight
  obtain hp | hp := thread_of_joins h
  · rw [hp]
    exact ⟨rfl, rfl⟩
  · rw [hp]
    exact ⟨rfl, rfl⟩

/-- A step of the owner that leaves the worker, the socket and the mutex alone. -/
theorem Sound.goes (h : t.Sound) {o : OwnerPoint η} (hstation : o.station = t.owner.station)
    (hsocket : o.hasSocket = true → t.fd.isSome = true) (hclosing : o ≠ .closeSocket)
    (hlock : o.holdsMutex = t.owner.holdsMutex) : ({ t with owner := o } : ReceiverThreads η).Sound := by
  refine ⟨?_, ?_, fun ho => absurd ho hclosing, h.descriptor, ?_, h.workerLock, h.record⟩
  · rw [hstation]
    exact h.worker
  · intro hor
    obtain hthread | ho := hor
    · exact h.socket (Or.inl hthread)
    · exact hsocket ho
  · show t.mutex = some .owner ↔ o.holdsMutex = true
    rw [hlock]
    exact h.ownerLock

/-- Without a socket there is no worker, so a new one disturbs none. -/
theorem Sound.openSocket (h : t.Sound) {outcome : BindOutcome} (howner : t.owner = .bind outcome)
    (hclosed : t.fd = none) (result : BindOutcome) : (t.openSocket result).Sound := by
  have hnone : t.worker.thread = none := by
    by_contra hsome
    have hopen := h.socket (Or.inl (Option.isSome_iff_ne_none.mpr hsome))
    rw [hclosed] at hopen
    cases hopen
  have hworker := h.worker
  have hheld := h.ownerLock
  rw [howner] at hworker hheld
  have hopened : ({ t with
      fd := some t.descriptors
      descriptors := t.descriptors + 1
      owner := .bindAddress result } : ReceiverThreads η).Sound :=
    ⟨hworker, fun _ => rfl, by simp, by simp [hnone], hheld, h.workerLock, h.record⟩
  have hidle : ({ t with owner := .idle } : ReceiverThreads η).Sound :=
    h.goes (by rw [howner]; rfl) (by simp [OwnerPoint.hasSocket]) (by simp) (by rw [howner]; rfl)
  cases result with
  | noSocket => exact hidle
  | refused => exact hopened
  | bound port => exact hopened

theorem Sound.ownerStep (h : t.Sound) : t.ownerStep.Sound := by
  have hworker := h.worker
  have hheld := h.ownerLock
  have hsocket := h.socket
  have hidle : (OwnerPoint.idle : OwnerPoint η).station = t.owner.station →
      (OwnerPoint.idle : OwnerPoint η).holdsMutex = t.owner.holdsMutex →
      ({ t with owner := .idle } : ReceiverThreads η).Sound :=
    fun hstation hlock => h.goes hstation (by simp [OwnerPoint.hasSocket]) (by simp) hlock
  unfold ReceiverThreads.ownerStep
  cases howner : t.owner with
  | idle => exact h
  | bind outcome =>
    dsimp only
    split
    · exact hidle (by rw [howner]; rfl) (by rw [howner]; rfl)
    · rename_i hclosed
      exact h.openSocket howner (by simpa using hclosed) outcome
  | bindAddress outcome =>
    rw [howner] at hworker hheld hsocket
    have hfails : ({ t with owner := .stop .close } : ReceiverThreads η).Sound :=
      h.goes (by rw [howner]; rfl) (by simp [OwnerPoint.hasSocket]) (by simp) (by rw [howner]; rfl)
    cases outcome with
    | noSocket => exact hfails
    | refused => exact hfails
    | bound port =>
      exact ⟨hworker, fun _ => hsocket (Or.inr rfl), by simp, h.descriptor, hheld, h.workerLock,
        h.record⟩
  | lock access =>
    rw [howner] at hworker hheld hsocket
    dsimp only
    split
    · rename_i hfree
      rw [Option.isNone_iff_eq_none] at hfree
      refine ⟨hworker, ?_, by simp, h.descriptor, by simp [OwnerPoint.holdsMutex], ?_, h.record⟩
      · intro hor
        apply hsocket
        cases access <;> exact hor
      · have hlocked := h.workerLock
        rw [hfree] at hlocked
        simpa using hlocked
    · exact h
  | locked access =>
    rw [howner] at hworker hheld hsocket
    cases access with
    | read =>
      refine ⟨hworker, fun _ => hsocket (Or.inr rfl), by simp, h.descriptor, hheld, h.workerLock,
        h.record⟩
    | write handler =>
      refine ⟨hworker, ?_, by simp, h.descriptor, hheld, h.workerLock, h.record⟩
      intro hor
      obtain hthread | hstarts := hor
      · exact hsocket (Or.inl hthread)
      · cases hopen : t.fd.isSome with
        | true => rfl
        | false =>
          change OwnerPoint.hasSocket (.unlock t.fd.isSome : OwnerPoint η) = true at hstarts
          rw [hopen] at hstarts
          cases hstarts
    | erase =>
      refine ⟨hworker, ?_, by simp, h.descriptor, hheld, h.workerLock, h.record⟩
      intro hor
      obtain hthread | hno := hor
      · exact hsocket (Or.inl hthread)
      · cases hno
  | unlock starts =>
    rw [howner] at hworker hheld hsocket
    -- the mutex is the owner's, so the worker is not inside
    have hmine : t.mutex = some .owner := hheld.mpr rfl
    have hother : t.worker.thread.any WorkerPoint.holdsMutex = false := by
      have hlocked := h.workerLock
      rw [hmine] at hlocked
      simpa using hlocked
    refine ⟨?_, ?_, ?_, h.descriptor, ?_, ?_, h.record⟩
    · cases starts <;> exact hworker
    · intro hor
      obtain hthread | ho := hor
      · exact hsocket (Or.inl hthread)
      · cases starts with
        | true => exact hsocket (Or.inr rfl)
        | false => cases ho
    · cases starts <;> simp
    · cases starts <;> simp [OwnerPoint.holdsMutex]
    · simp [hother]
  | start =>
    rw [howner] at hworker hheld hsocket
    dsimp only
    split
    · exact hidle (by rw [howner]; rfl) (by rw [howner]; rfl)
    · rename_i hflag
      exact ⟨hworker.raise (by simpa using hflag), fun _ => hsocket (Or.inr rfl), by simp,
        h.descriptor, hheld, h.workerLock, h.record⟩
  | spawn =>
    rw [howner] at hworker hheld hsocket
    have hnone : t.worker.thread = none := hworker.empty rfl
    have hlocked := h.workerLock
    have hrecord := h.record
    simp only [hnone, inFlight] at hlocked hrecord
    refine ⟨hworker.spawn (by simp), fun _ => hsocket (Or.inr rfl), by simp, ?_, hheld, ?_, ?_⟩
    · simp [WorkerPoint.descriptor]
    · simpa [WorkerPoint.holdsMutex] using hlocked
    · simpa [inFlight, WorkerPoint.packet] using hrecord
  | stop reason =>
    rw [howner] at hworker hheld hsocket
    exact ⟨hworker.lower, fun hor => hsocket (hor.imp_right (by simp [OwnerPoint.hasSocket])),
      by simp, h.descriptor, hheld, h.workerLock, h.record⟩
  | join reason =>
    rw [howner] at hworker hheld hsocket
    dsimp only
    split
    · rename_i hjoins
      -- a worker that has ended has no packet in hand and no lock
      obtain ⟨hflight, hfree⟩ := inFlight_of_joins hjoins
      have hlocked := h.workerLock
      have hrecord := h.record
      rw [hfree] at hlocked
      rw [hflight] at hrecord
      refine ⟨?_, ?_, fun _ => rfl, by simp, ?_, by simpa using hlocked, ?_⟩
      · have hsettled : (reason.next : OwnerPoint η).station = .settled := by cases reason <;> rfl
        rw [hsettled]
        exact hworker.join
      · cases reason <;> simp [StopFor.next, OwnerPoint.hasSocket]
      · cases reason <;> simpa [StopFor.next, OwnerPoint.holdsMutex] using hheld
      · simpa [inFlight] using hrecord
    · exact h
  | closeSocket =>
    rw [howner] at hworker hheld hsocket
    have hnone : t.worker.thread = none := h.alone howner
    dsimp only
    split
    · exact ⟨hworker, by simp [hnone, OwnerPoint.hasSocket], by simp, by simp [hnone], hheld,
        h.workerLock, h.record⟩
    · exact hidle (by rw [howner]; rfl) (by rw [howner]; rfl)

theorem Sound.step (h : t.Sound) (event : ThreadEvent η) : (t.step event).Sound := by
  cases event with
  | call c =>
    unfold ReceiverThreads.step
    cases howner : t.owner with
    | idle =>
      cases c <;> exact h.goes (by rw [howner]; rfl) (by simp [begin, OwnerPoint.hasSocket])
        (by simp [begin]) (by rw [howner]; rfl)
    | _ => exact h
  | owner => exact h.ownerStep
  | worker arrival => exact h.workerStep arrival

theorem run_isSound (events : List (ThreadEvent η)) : (run step ({} : ReceiverThreads η) events).Sound :=
  run_induction (fun _ event h => h.step event) sound_new events

/-- **The two threads do not get in each other's way.** In every interleaving: no thread is
    started over one that was not joined, the worker waits and reads on the descriptor that is
    open, the mutex has one holder, and the packets received are those that were handed over, in
    this order, and at most one more. -/
theorem run_received (events : List (ThreadEvent η)) :
    let t := run step ({} : ReceiverThreads η) events
    t.worker.overwritten = false ∧
      (∀ p fd, t.worker.thread = some p → p.descriptor = some fd → t.fd = some fd) ∧
      (∀ p, t.worker.thread = some p → ¬ (p.holdsMutex = true ∧ t.owner.holdsMutex = true)) ∧
      ∃ rest, t.received = t.handed.map Prod.snd ++ rest ∧ rest.length ≤ 1 := by
  intro t
  have h : t.Sound := run_isSound events
  refine ⟨h.worker.overwritten, ?_, ?_, t.inFlight, h.record, ?_⟩
  · intro p fd hp hfd
    exact h.descriptor fd (by rw [hp]; exact hfd)
  · intro p hp hboth
    have hworker := h.workerLock.mpr (by rw [hp]; exact hboth.1)
    rw [h.ownerLock.mpr hboth.2] at hworker
    cases hworker
  · unfold inFlight
    cases t.worker.thread.bind WorkerPoint.packet <;> simp

end ReceiverThreads
end AirPlay2
