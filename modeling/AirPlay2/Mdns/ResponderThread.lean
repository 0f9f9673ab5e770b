import AirPlay2.Lib.Worker
import AirPlay2.Mdns.Responder

/- `MdnsService` with its two threads (`mdns.cpp`): the one that calls `publish` and `unpublish`
   and the responder these start and stop. Every step is one access to what both of them see. The
   fields the answer is made of are written before the responder is started and after it was
   joined, so every answer it sends is the answer of the service that was published when it looked
   at the query, to its sender, in the order of the queries (`run_answers`). The descriptor it reads
   and sends on may be closed meanwhile; a `sendto` counts as sent, whatever it returns. -/
namespace AirPlay2
open Lib

/-- What the socket calls of `publish` return: no socket, a socket one of the later calls fails
    on, or one that is bound, with the address the probe finds, if it finds one. -/
inductive PublishOutcome where
  | noSocket
  | refused
  | bound (probe : Option UInt32)
  deriving DecidableEq

structure Publication where
  instanceName : Bytes
  port : UInt16
  records : List MdnsTxtRecord
  outcome : PublishOutcome

inductive MdnsCall where
  | publish (p : Publication)
  | unpublish

/-- The next access of the owner. -/
inductive MdnsOwnerPoint where
  | idle
  | publish (p : Publication)
  | write (p : Publication) (probe : Option UInt32)
  | activate
  | spawn
  | announce
  | deactivate
  | closeSocket
  | join

/-- The next access of the responder; a datagram is kept with the address it came from. -/
inductive ResponderPoint (α : Type*) where
  | loop
  | recvfrom
  | check (datagram : Option (α × Bytes))
  | send (sender : α)
  | done

/-- `MdnsService::Impl` and the points of its threads, with the datagrams the responder looked
    at while the service was published, each with the service as it then was, and the messages
    that were sent. -/
structure MdnsThreads (α : Type*) where
  service : MdnsService := {}
  socket : Bool := false
  worker : Worker (ResponderPoint α) := {}
  owner : MdnsOwnerPoint := .idle
  taken : List (MdnsService × α × Bytes) := []
  answered : List (α × Bytes) := []
  announced : List Bytes := []

/-- The owner begins a call, or makes its next access, or the responder does, whose `recvfrom`
    finds a datagram or nothing. -/
inductive MdnsEvent (α : Type*) where
  | call (c : MdnsCall)
  | owner
  | responder (datagram : Option (α × Bytes))

/-- The fields a publication writes. -/
def Publication.fill (p : Publication) (probe : Option UInt32) (s : MdnsService) : MdnsService :=
  let address := probe.getD s.localAddress
  { s with
    localAddress := if address = 0 then 0x7F000001 else address
    instanceName := p.instanceName
    port := p.port
    records := p.records }

namespace MdnsThreads

variable {α : Type*}

def begin : MdnsCall → MdnsOwnerPoint
  | .publish p => .publish p
  | .unpublish => .deactivate

/-- The service as its owner sees it. -/
def view (t : MdnsThreads α) : MdnsService := { t.service with active := t.worker.flag }

def move (t : MdnsThreads α) (p : ResponderPoint α) : MdnsThreads α :=
  { t with worker := t.worker.move p }

/-- What `run` makes of what it received while the service is published. -/
def look (t : MdnsThreads α) : Option (α × Bytes) → MdnsThreads α
  | none => t.move .loop
  | some (sender, bytes) =>
    let t := { t with taken := t.taken ++ [(t.view, sender, bytes)] }
    let buffer := bytes.take 1500
    -- shorter than a header
    if buffer.length < 12 then t.move .loop
    else if MdnsService.queryForAirplay buffer then t.move (.send sender)
    else t.move .loop

/-- The loop of the responder. -/
def responderStep (t : MdnsThreads α) (datagram : Option (α × Bytes)) : MdnsThreads α :=
  match t.worker.thread with
  | none => t
  | some .loop => if t.worker.flag then t.move .recvfrom else t.move .done
  | some .recvfrom => t.move (.check datagram)
  -- `active` is read again when `recvfrom` returns
  | some (.check datagram) => if t.worker.flag then t.look datagram else t.move .done
  | some (.send sender) =>
    { t with answered := t.answered ++ [(sender, t.service.makeResponse)] }.move .loop
  | some .done => t

def joins (t : MdnsThreads α) : Bool :=
  match t.worker.thread with
  | none => true
  | some .done => true
  | some _ => false

def ownerStep (t : MdnsThreads α) : MdnsThreads α :=
  match t.owner with
  | .idle => t
  | .publish p =>
    if t.worker.flag then { t with owner := .idle }
    else
      match p.outcome with
      | .noSocket => { t with owner := .idle }
      -- what fails behind `socket` goes on as an `unpublish`
      | .refused => { t with socket := true, owner := .deactivate }
      | .bound probe => { t with socket := true, owner := .write p probe }
  | .write p probe => { t with service := p.fill probe t.service, owner := .activate }
  | .activate => { t with worker := t.worker.raise, owner := .spawn }
  | .spawn => { t with worker := t.worker.spawn .loop, owner := .announce }
  | .announce => { t with announced := t.announced ++ [t.service.makeResponse], owner := .idle }
  | .deactivate => { t with worker := t.worker.lower, owner := .closeSocket }
  | .closeSocket => { t with socket := false, owner := .join }
  | .join => if t.joins then { t with worker := t.worker.join, owner := .idle } else t

def step (t : MdnsThreads α) : MdnsEvent α → MdnsThreads α
  | .call c =>
    match t.owner with
    | .idle => { t with owner := begin c }
    | _ => t
  | .owner => t.ownerStep
  | .responder datagram => t.responderStep datagram

end MdnsThreads

/-! ## What holds at each point -/

def MdnsOwnerPoint.station : MdnsOwnerPoint → Station
  | .spawn => .raised
  | .closeSocket | .join => .lowered
  | _ => .settled

/-- The points of `publish` from which the fields are written, up to where `active` is set. -/
def MdnsOwnerPoint.prepares : MdnsOwnerPoint → Bool
  | .write _ _ | .activate => true
  | _ => false

/-- The answer to a datagram, with where it goes. -/
def answerTo {α : Type*} (query : MdnsService × α × Bytes) : Option (α × Bytes) :=
  (query.1.answer query.2.2).map (query.2.1, ·)

namespace MdnsThreads

variable {α : Type*} {t : MdnsThreads α}

/-- The answer the responder is about to send. -/
def pending (t : MdnsThreads α) : List (α × Bytes) :=
  match t.worker.thread with
  | some (.send sender) => [(sender, t.service.makeResponse)]
  | _ => []

/-- The invariant of the two threads. -/
structure Sound (t : MdnsThreads α) : Prop where
  worker : t.worker.At .done t.owner.station
  resting : t.owner.prepares = true → t.worker.flag = false
  record : t.answered ++ t.pending = t.taken.filterMap answerTo

theorem sound_new : ({} : MdnsThreads α).Sound :=
  ⟨Worker.at_new, by simp [MdnsOwnerPoint.prepares], rfl⟩

theorem pending_of_none (h : t.worker.thread = none) : t.pending = [] := by
  rw [pending, h]

theorem thread_of_joins (h : t.joins = true) :
    t.worker.thread = none ∨ t.worker.thread = some .done := by
  unfold joins at h
  split at h
  · rename_i hp
    exact Or.inl hp
  · rename_i hp
    exact Or.inr hp
  · cases h

theorem pending_of_joins (h : t.joins = true) : t.pending = [] := by
  obtain hp | hp := thread_of_joins h
  · exact pending_of_none hp
  · rw [pending, hp]

/-- A step of the responder that neither takes a datagram nor sends an answer. -/
theorem Sound.move (h : t.Sound) {p q : ResponderPoint α} (hp : t.worker.thread = some p)
    (hend : q = .done → t.worker.flag = false) (hpending : t.pending = [])
    (hquiet : (t.move q).pending = []) : (t.move q).Sound := by
  refine ⟨h.worker.move hp hend, h.resting, ?_⟩
  have hrecord := h.record
  rw [hpending] at hrecord
  rw [hquiet]
  exact hrecord

/-- A datagram that is looked at is answered if the service, as it is published, answers it. -/
theorem Sound.look (h : t.Sound) {received datagram : Option (α × Bytes)}
    (hp : t.worker.thread = some (.check received)) (hflag : t.worker.flag = true) :
    (t.look datagram).Sound := by
  have hpending : t.pending = [] := by rw [pending, hp]
  have hrecord := h.record
  rw [hpending, List.append_nil] at hrecord
  cases datagram with
  | none => exact h.move hp (by simp) hpending rfl
  | some datagram =>
    obtain ⟨sender, bytes⟩ := datagram
    have hactive : t.view.active = true := hflag
    have hanswer := t.view.answer_eq bytes
    rw [hactive, Bool.true_and] at hanswer
    -- the responder goes where the answer, or no answer, is pending
    have hnext : ∀ q : ResponderPoint α, q ≠ .done →
        (t.move q).pending = (answerTo (t.view, sender, bytes)).toList →
        ({ t with taken := t.taken ++ [(t.view, sender, bytes)] }.move q).Sound := by
      intro q hq hpends
      refine ⟨h.worker.move hp (fun hdone => absurd hdone hq), h.resting, ?_⟩
      show t.answered ++ (t.move q).pending = (t.taken ++ [(t.view, sender, bytes)]).filterMap answerTo
      rw [hpends, hrecord, List.filterMap_append]
      cases hto : answerTo (t.view, sender, bytes) <;> simp [hto]
    have hto : answerTo (t.view, sender, bytes) = (t.view.answer bytes).map (sender, ·) := rfl
    unfold MdnsThreads.look
    dsimp only
    by_cases hshort : (bytes.take 1500).length < 12
    · rw [decide_eq_false (by omega), Bool.false_and] at hanswer
      rw [if_pos hshort]
      exact hnext .loop (by simp) (by rw [hto, hanswer]; rfl)
    · rw [decide_eq_true (by omega), Bool.true_and] at hanswer
      rw [if_neg hshort]
      cases hquery : MdnsService.queryForAirplay (bytes.take 1500) with
      | true =>
        rw [hquery] at hanswer
        exact hnext (.send sender) (by simp) (by rw [hto, hanswer]; rfl)
      | false =>
        rw [hquery] at hanswer
        exact hnext .loop (by simp) (by rw [hto, hanswer]; rfl)

theorem Sound.responderStep (h : t.Sound) (datagram : Option (α × Bytes)) :
    (t.responderStep datagram).Sound := by
  unfold MdnsThreads.responderStep
  cases hp : t.worker.thread with
  | none => exact h
  | some p =>
    cases p with
    | loop =>
      have hpending : t.pending = [] := by rw [pending, hp]
      dsimp only
      split
      · exact h.move hp (by simp) hpending rfl
      · rename_i hflag
        exact h.move hp (by simpa using hflag) hpending rfl
    | recvfrom => exact h.move hp (by simp) (by rw [pending, hp]) rfl
    | check received =>
      dsimp only
      split
      · rename_i hflag
        exact h.look hp hflag
      · rename_i hflag
        exact h.move hp (by simpa using hflag) (by rw [pending, hp]) rfl
    | send sender =>
      have hpending : t.pending = [(sender, t.service.makeResponse)] := by rw [pending, hp]
      have hrecord := h.record
      rw [hpending] at hrecord
      exact ⟨h.worker.move hp (by simp), h.resting, (List.append_nil _).trans hrecord⟩
    | done => exact h

/-- Without a responder nothing is pending, so the fields may be written. -/
theorem Sound.thread_of_prepares (h : t.Sound) (hprepares : t.owner.prepares = true) :
    t.worker.thread = none := by
  have hsettled : t.owner.station = .settled := by
    cases howner : t.owner with
    | write p probe => rfl
    | activate => rfl
    | _ =>
      rw [howner] at hprepares
      cases hprepares
  have hworker := h.worker
  rw [hsettled] at hworker
  have hflag := hworker.flag_eq
  rw [h.resting hprepares] at hflag
  exact Option.isNone_iff_eq_none.mp (by simpa using hflag.symm)

theorem Sound.ownerStep (h : t.Sound) : t.ownerStep.Sound := by
  have hworker := h.worker
  have hrecord := h.record
  unfold MdnsThreads.ownerStep
  cases howner : t.owner with
  | idle => exact h
  | publish p =>
    rw [howner] at hworker
    dsimp only
    split
    · exact ⟨hworker, by simp [MdnsOwnerPoint.prepares], hrecord⟩
    · rename_i hflag
      split
      · exact ⟨hworker, by simp [MdnsOwnerPoint.prepares], hrecord⟩
      · exact ⟨hworker, by simp [MdnsOwnerPoint.prepares], hrecord⟩
      · exact ⟨hworker, fun _ => by simpa using hflag, hrecord⟩
  | write p probe =>
    have hprepares : t.owner.prepares = true := by rw [howner]; rfl
    have hnone := h.thread_of_prepares hprepares
    rw [pending_of_none hnone] at hrecord
    rw [howner] at hworker
    -- the answer the responder would send changes, but there is no responder
    have hquiet : ({ t with service := p.fill probe t.service, owner := .activate } :
        MdnsThreads α).pending = [] := pending_of_none hnone
    exact ⟨hworker, fun _ => h.resting hprepares, (congrArg (t.answered ++ ·) hquiet).trans hrecord⟩
  | activate =>
    have hprepares : t.owner.prepares = true := by rw [howner]; rfl
    rw [howner] at hworker
    exact ⟨hworker.raise (h.resting hprepares), by simp [MdnsOwnerPoint.prepares], hrecord⟩
  | spawn =>
    rw [howner] at hworker
    rw [pending_of_none (hworker.empty rfl)] at hrecord
    exact ⟨hworker.spawn (by simp), by simp [MdnsOwnerPoint.prepares], hrecord⟩
  | announce =>
    rw [howner] at hworker
    exact ⟨hworker, by simp [MdnsOwnerPoint.prepares], hrecord⟩
  | deactivate =>
    rw [howner] at hworker
    exact ⟨hworker.lower, by simp [MdnsOwnerPoint.prepares], hrecord⟩
  | closeSocket =>
    rw [howner] at hworker
    exact ⟨hworker, by simp [MdnsOwnerPoint.prepares], hrecord⟩
  | join =>
    rw [howner] at hworker
    dsimp only
    split
    · rename_i hjoins
      -- a responder that has ended has sent what it had to send
      rw [pending_of_joins hjoins] at hrecord
      exact ⟨hworker.join, by simp [MdnsOwnerPoint.prepares], hrecord⟩
    · exact h

theorem Sound.step (h : t.Sound) (event : MdnsEvent α) : (t.step event).Sound := by
  cases event with
  | call c =>
    have hworker := h.worker
    unfold MdnsThreads.step
    cases howner : t.owner with
    | idle =>
      rw [howner] at hworker
      cases c <;> exact ⟨hworker, by simp [begin, MdnsOwnerPoint.prepares], h.record⟩
    | _ => exact h
  | owner => exact h.ownerStep
  | responder datagram => exact h.responderStep datagram

theorem run_isSound (events : List (MdnsEvent α)) : (run step ({} : MdnsThreads α) events).Sound :=
  run_induction (fun _ event h => h.step event) sound_new events

/-- **Every query is answered once, in turn, by the service it was sent to.** In every
    interleaving of publishing, withdrawing and the responder: no responder is started over one
    that was not joined, and the answers that were sent, and at most one more that is about to be
    sent, are those of the services published at the time to the datagrams that were looked at,
    each to its sender and in their order. -/
theorem run_answers (events : List (MdnsEvent α)) :
    let t := run step ({} : MdnsThreads α) events
    t.worker.overwritten = false ∧
      ∃ rest, t.taken.filterMap answerTo = t.answered ++ rest ∧ rest.length ≤ 1 := by
  intro t
  have h : t.Sound := run_isSound events
  refine ⟨h.worker.overwritten, t.pending, h.record.symm, ?_⟩
  unfold pending
  split <;> simp

end MdnsThreads
end AirPlay2
