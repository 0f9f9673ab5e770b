import AirPlay2.Lib.Runs
import AirPlay2.Mdns.Responder

/- Responders on one network. A datagram sent may be lost, delayed, repeated and, sent
   to the group, read by every responder, the sender's own included; other hosts send
   what they like. Nothing in the loop looks at the QR bit, so an active responder
   answers every answer it reads (`answer_makeResponse`), and the messages of a run are
   bounded by its announcements and queries exactly if it reads none
   (`run_bounded_iff`). -/
namespace AirPlay2
open Lib

/-- A datagram to one host, or to the mDNS group. -/
structure Datagram where
  source : ℕ
  destination : Option ℕ
  bytes : Bytes
  deriving DecidableEq

/-- The QR bit: set in a response. -/
def Datagram.isResponse (d : Datagram) : Bool := d.bytes.getD 2 0 &&& 0x80 != 0

/-- The hosts, each with its responder, and the datagrams sent so far by responders and
    by other programs. -/
structure Network where
  host : ℕ → MdnsService := fun _ => {}
  sent : List Datagram := []
  foreign : List Datagram := []

inductive NetworkEvent where
  | publish (i : ℕ) (instanceName : Bytes) (port : UInt16) (records : List MdnsTxtRecord)
      (sockets : Option (Option UInt32))
  | unpublish (i : ℕ)
  | foreign (d : Datagram)
  | deliver (i : ℕ) (d : Datagram)

namespace Network

/-- The datagram is there to be read by host `i`. -/
def reaches (n : Network) (d : Datagram) (i : ℕ) : Bool :=
  (n.sent.contains d || n.foreign.contains d) &&
    (d.destination == none || d.destination == some i)

/-- The messages the responders send in a step. -/
def announces (n : Network) : NetworkEvent → List Datagram
  | .publish i instanceName port records sockets =>
    match ((n.host i).publish instanceName port records sockets).2.1 with
    | none => []
    | some bytes => [{ source := i, destination := none, bytes := bytes }]
  | _ => []

def replies (n : Network) : NetworkEvent → List Datagram
  | .deliver i d =>
    if n.reaches d i then
      match (n.host i).answer d.bytes with
      | none => []
      | some bytes => [{ source := i, destination := some d.source, bytes := bytes }]
    else []
  | _ => []

def step (n : Network) (event : NetworkEvent) : Network :=
  { host :=
      match event with
      | .publish i instanceName port records sockets =>
        Function.update n.host i ((n.host i).publish instanceName port records sockets).2.2
      | .unpublish i => Function.update n.host i (n.host i).unpublish
      | _ => n.host
    sent := n.sent ++ n.announces event ++ n.replies event
    foreign :=
      match event with
      | .foreign d => n.foreign ++ [d]
      | _ => n.foreign }

/-! ## Counting messages -/

/-- The event delivers a response, as its QR bit has it. -/
def deliversResponse : NetworkEvent → Bool
  | .deliver _ d => d.isResponse
  | _ => false

/-- The replies to genuine queries, and the others. -/
def queryReplies (n : Network) (event : NetworkEvent) : ℕ :=
  if deliversResponse event then 0 else (n.replies event).length

def responseReplies (n : Network) (event : NetworkEvent) : ℕ :=
  if deliversResponse event then (n.replies event).length else 0

/-- The messages a run sends, by what they are sent for. -/
theorem run_sent (events : List NetworkEvent) :
    (run step {} events).sent.length =
      total step (fun n event => (n.announces event).length) {} events +
        total step queryReplies {} events + total step responseReplies {} events := by
  have hstep : ∀ (n : Network) event, (n.step event).sent.length = n.sent.length +
      ((n.announces event).length + n.queryReplies event + n.responseReplies event) := by
    intro n event
    simp only [step, List.length_append, queryReplies, responseReplies]
    split <;> omega
  rw [run_total (m := fun n : Network => n.sent.length) hstep {} events, total_add, total_add]
  exact Nat.zero_add _

/-- The event delivers to an active responder a response that names the service in the
    bytes it reads. -/
def AnswersResponse (n : Network) (event : NetworkEvent) : Prop :=
  ∃ i d, event = .deliver i d ∧ d.isResponse = true ∧ n.reaches d i = true ∧
    (n.host i).active = true ∧ 12 ≤ (d.bytes.take 1500).length ∧
    MdnsService.queryForAirplay (d.bytes.take 1500) = true

/-- A datagram is answered when an active responder finds the name in it. -/
theorem replies_deliver (n : Network) (i : ℕ) (d : Datagram) :
    n.replies (.deliver i d) = [] ↔
      ¬ (n.reaches d i = true ∧ (n.host i).active = true ∧ 12 ≤ (d.bytes.take 1500).length ∧
        MdnsService.queryForAirplay (d.bytes.take 1500) = true) := by
  rw [replies, MdnsService.answer_eq]
  by_cases hreaches : n.reaches d i = true
  · rw [if_pos hreaches]
    by_cases hfound : ((n.host i).active && decide (12 ≤ (d.bytes.take 1500).length) &&
        MdnsService.queryForAirplay (d.bytes.take 1500)) = true
    · rw [if_pos hfound]
      simp only [Bool.and_eq_true, decide_eq_true_eq, and_assoc] at hfound
      exact iff_of_false (List.cons_ne_nil _ _) (not_not.mpr ⟨hreaches, hfound⟩)
    · rw [if_neg hfound]
      simp only [Bool.and_eq_true, decide_eq_true_eq, and_assoc] at hfound
      exact iff_of_true rfl (fun h => hfound h.2)
  · rw [if_neg hreaches]
    exact iff_of_true rfl (fun h => hreaches h.1)

theorem answersResponse_deliver (n : Network) (i : ℕ) (d : Datagram) :
    AnswersResponse n (.deliver i d) ↔ d.isResponse = true ∧ n.reaches d i = true ∧
      (n.host i).active = true ∧ 12 ≤ (d.bytes.take 1500).length ∧
      MdnsService.queryForAirplay (d.bytes.take 1500) = true := by
  refine ⟨?_, fun h => ⟨i, d, rfl, h⟩⟩
  intro h
  obtain ⟨i', d', hevent, h⟩ := h
  obtain ⟨rfl, rfl⟩ := NetworkEvent.deliver.inj hevent
  exact h

theorem responseReplies_eq_zero (n : Network) (event : NetworkEvent) :
    n.responseReplies event = 0 ↔ ¬ AnswersResponse n event := by
  have hother : (∀ i d, event ≠ .deliver i d) → ¬ AnswersResponse n event := by
    intro hno h
    obtain ⟨i, d, hevent, -⟩ := h
    exact hno i d hevent
  unfold responseReplies
  cases event with
  | deliver i d =>
    have hdelivers : deliversResponse (.deliver i d) = d.isResponse := rfl
    rw [answersResponse_deliver, hdelivers]
    by_cases hresponse : d.isResponse = true
    · rw [if_pos hresponse, List.length_eq_zero_iff, replies_deliver]
      simp only [hresponse, true_and]
    · rw [if_neg hresponse]
      exact iff_of_true rfl (fun h => hresponse h.1)
  | publish i instanceName port records sockets =>
    exact iff_of_true rfl (hother (fun _ _ h => by cases h))
  | unpublish i => exact iff_of_true rfl (hother (fun _ _ h => by cases h))
  | foreign d => exact iff_of_true rfl (hother (fun _ _ h => by cases h))

/-- **When the responders keep quiet.** An active responder answers the message of every
    responder, itself included. So the messages sent in a run of any number of them are
    at most the announcements and the replies to queries if and only if no response that
    names the service is ever delivered to an active responder. -/
theorem run_bounded_iff (receiver sender : MdnsService) (events : List NetworkEvent) :
    (receiver.answer sender.makeResponse =
        if receiver.active then some receiver.makeResponse else none) ∧
      ((run step {} events).sent.length ≤
          total step (fun n event => (n.announces event).length) {} events +
            total step queryReplies {} events ↔
        Each step (fun n event => ¬ AnswersResponse n event) {} events) := by
  refine ⟨receiver.answer_makeResponse sender, ?_⟩
  have hzero : total step responseReplies {} events = 0 ↔
      Each step (fun n event => ¬ AnswersResponse n event) {} events := by
    rw [total_eq_zero]
    exact each_congr (I := fun _ => True) (fun _ _ _ => trivial)
      (fun n event _ => responseReplies_eq_zero n event) trivial events
  rw [← hzero, run_sent]
  omega

/-! ## A storm of one -/

/-- A host with a responder of its own, and what it says. -/
def loopbackService : MdnsService :=
  { active := true, instanceName := ascii "GWL", port := 7000, localAddress := 0x7F000001 }

def loopbackPublish : NetworkEvent := .publish 0 (ascii "GWL") 7000 [] (some none)

def loopbackAnnouncement : Datagram :=
  { source := 0, destination := none, bytes := loopbackService.makeResponse }

/-- Its answer to itself. -/
def loopbackReply : Datagram :=
  { source := 0, destination := some 0, bytes := loopbackService.makeResponse }

theorem loopback_isResponse : loopbackAnnouncement.isResponse = true ∧
    loopbackReply.isResponse = true := by
  decide +kernel

/-- Once it publishes, each datagram it reads from itself makes it send another. -/
theorem deliver_loopback {n : Network} (hhost : n.host 0 = loopbackService) {d : Datagram}
    (hbytes : d.bytes = loopbackService.makeResponse) (hsource : d.source = 0)
    (hreaches : n.reaches d 0 = true) :
    n.step (.deliver 0 d) = { n with sent := n.sent ++ [loopbackReply] } := by
  have hanswer : (n.host 0).answer d.bytes = some loopbackService.makeResponse := by
    rw [hhost, hbytes, MdnsService.answer_makeResponse]
    rfl
  have hreplies : n.replies (.deliver 0 d) = [loopbackReply] := by
    simp only [replies, if_pos hreaches, hanswer, hsource]
    rfl
  have hannounces : n.announces (.deliver 0 d) = [] := rfl
  unfold step
  rw [hreplies, hannounces, List.append_nil]

/-- The answer to itself, read again and again. -/
def loopbackReplies (k : ℕ) : List NetworkEvent := List.replicate k (.deliver 0 loopbackReply)

theorem run_loopbackReplies (k : ℕ) {n : Network} (hhost : n.host 0 = loopbackService)
    (hsent : n.sent.contains loopbackReply = true) :
    (run step n (loopbackReplies k)).sent.length = n.sent.length + k := by
  induction k generalizing n with
  | zero => rfl
  | succ k ih =>
    have hreaches : n.reaches loopbackReply 0 = true := by
      simp only [reaches, hsent, Bool.true_or]
      decide
    have hnext := ih (n := { n with sent := n.sent ++ [loopbackReply] }) hhost (by simp)
    rw [loopbackReplies, List.replicate_succ, run_cons, deliver_loopback hhost rfl rfl hreaches]
    rw [loopbackReplies] at hnext
    rw [hnext, List.length_append, List.length_singleton]
    omega

theorem total_loopbackReplies {m : Network → NetworkEvent → ℕ}
    (hzero : ∀ n : Network, m n (.deliver 0 loopbackReply) = 0) (k : ℕ) (n : Network) :
    total step m n (loopbackReplies k) = 0 := by
  apply total_of_forall_zero
  intro event hmem n
  rw [List.eq_of_mem_replicate hmem]
  exact hzero n

/-- One announcement read through loopback, and no query, make as many messages as one
    waits for. -/
theorem loopback_storm (k : ℕ) : ∃ events,
    (run step {} events).sent.length = k + 2 ∧
      total step (fun n event => (n.announces event).length) {} events = 1 ∧
      total step queryReplies {} events = 0 := by
  have hpublish : step {} loopbackPublish =
      { host := Function.update (fun _ => {}) 0 loopbackService, sent := [loopbackAnnouncement] } := rfl
  have hhost : (step {} loopbackPublish).host 0 = loopbackService := by
    rw [hpublish]
    rfl
  generalize hfirst : step {} loopbackPublish = first at hpublish hhost
  have hsecond : first.step (.deliver 0 loopbackAnnouncement) =
      { first with sent := first.sent ++ [loopbackReply] } := by
    apply deliver_loopback hhost rfl rfl
    rw [hpublish]
    simp [reaches, loopbackAnnouncement]
  refine ⟨loopbackPublish :: .deliver 0 loopbackAnnouncement :: loopbackReplies k, ?_, ?_, ?_⟩
  · have hstorm := run_loopbackReplies k (n := { first with sent := first.sent ++ [loopbackReply] })
      hhost (by simp)
    rw [run_cons, run_cons, hfirst, hsecond, hstorm, hpublish]
    simp only [List.length_append, List.length_singleton]
    omega
  · rw [total, total, total_loopbackReplies (fun _ => rfl)]
    rfl
  · have hannounced : ∀ n, queryReplies n (.deliver 0 loopbackAnnouncement) = 0 := by
      intro n
      exact if_pos loopback_isResponse.1
    have hreplied : ∀ n, queryReplies n (.deliver 0 loopbackReply) = 0 := by
      intro n
      exact if_pos loopback_isResponse.2
    rw [total, total, total_loopbackReplies hreplied, hannounced]
    rfl

/-- One responder, one announcement and no query make two messages. -/
theorem loopback_unbounded :
    ¬ ((∀ receiver sender : MdnsService, receiver.active = true →
          receiver.answer sender.makeResponse = none) ∧
        ∀ events : List NetworkEvent, (run step {} events).sent.length ≤
          total step (fun n event => (n.announces event).length) {} events +
            total step queryReplies {} events) := by
  intro h
  obtain ⟨events, hsent, hannounced, hqueries⟩ := loopback_storm 0
  have hbound := h.2 events
  rw [hsent, hannounced, hqueries] at hbound
  omega

end Network
end AirPlay2
