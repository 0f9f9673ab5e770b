import AirPlay2.Jitter.Buffer
import AirPlay2.Lib.Text

/- The UDP receiver (`rtp.cpp`) and the TCP event channel, as far as a session sees
   them: what their socket calls return is an input. A thread is modelled by whether
   it runs, so a datagram reaches the handler if the socket is bound, the worker runs
   and a handler is set. -/
namespace AirPlay2
open Lib

/-- What `socket`, `bind` and `getsockname` return to one `RtpReceiver::bind`. -/
inductive BindOutcome where
  | noSocket
  | refused
  | bound (port : Option UInt16)
  deriving DecidableEq

def BindOutcome.isBound : BindOutcome → Bool
  | .bound _ => true
  | _ => false

/-- `RtpReceiver`. The only packet handler ever set is the session's, so `handler`
    says whether it is. -/
structure RtpReceiver where
  running : Bool := false
  port : UInt16 := 0
  handler : Bool := false
  workerRunning : Bool := false
  deriving DecidableEq

namespace RtpReceiver

def close (r : RtpReceiver) : RtpReceiver :=
  let r := { r with workerRunning := false }
  if !r.running then r else { r with running := false, port := 0 }

def bind (r : RtpReceiver) (outcome : BindOutcome) : Bool × RtpReceiver :=
  if r.running then (true, r)
  else
    match outcome with
    | .noSocket => (false, r)
    | .refused => (false, ({ r with running := true } : RtpReceiver).close)
    | .bound port =>
      let r := { r with running := true, port := port.getD r.port }
      (true, if r.handler then { r with workerRunning := true } else r)

def setPacketHandler (r : RtpReceiver) : RtpReceiver :=
  let r := { r with handler := true }
  if r.running then { r with workerRunning := true } else r

/-- Whether `bind` would succeed. -/
def binds (r : RtpReceiver) (outcome : BindOutcome) : Bool := r.running || outcome.isBound

/-- The receive loop runs and hands packets to the session. -/
def live (r : RtpReceiver) : Bool := r.running && r.workerRunning && r.handler

theorem bind_of_running {r : RtpReceiver} (h : r.running = true) (outcome : BindOutcome) :
    r.bind outcome = (true, r) := by
  unfold bind
  exact if_pos h

theorem bind_ok (r : RtpReceiver) (outcome : BindOutcome) :
    (r.bind outcome).1 = r.binds outcome := by
  unfold bind binds
  split
  · rename_i h
    simp [h]
  · rename_i h
    cases outcome <;> simp_all [BindOutcome.isBound]

theorem bind_running {r : RtpReceiver} {outcome : BindOutcome} (h : r.binds outcome = true) :
    (r.bind outcome).2.running = true := by
  unfold bind
  split
  · assumption
  · rename_i hr
    cases outcome with
    | bound port => by_cases hh : r.handler <;> simp [hh]
    | noSocket => simp [binds, hr, BindOutcome.isBound] at h
    | refused => simp [binds, hr, BindOutcome.isBound] at h

@[simp] theorem bind_handler (r : RtpReceiver) (outcome : BindOutcome) :
    (r.bind outcome).2.handler = r.handler := by
  unfold bind
  split
  · rfl
  · cases outcome with
    | bound port => by_cases hh : r.handler <;> simp [hh]
    | noSocket => rfl
    | refused => rfl

/-- Binding keeps a receiver whose handler is live as it is. -/
theorem bind_live {r : RtpReceiver} (h : r.handler = true → r.live = true)
    (outcome : BindOutcome) :
    (r.bind outcome).2.handler = true → (r.bind outcome).2.live = true := by
  rw [bind_handler]
  intro hh
  have hl := h hh
  have hr : r.running = true := by
    simp only [live, Bool.and_eq_true] at hl
    exact hl.1.1
  rw [bind_of_running hr]
  exact hl

@[simp] theorem setPacketHandler_handler (r : RtpReceiver) : r.setPacketHandler.handler = true := by
  unfold setPacketHandler
  dsimp only
  split <;> rfl

theorem live_setPacketHandler {r : RtpReceiver} (h : r.running = true) :
    r.setPacketHandler.live = true := by
  simp [setPacketHandler, live, h]

end RtpReceiver

/-- `RtpReceiver::receive` on one datagram: its RTP packet, if it is valid. -/
def receive (buffer : Bytes) : Option RtpPacket :=
  let received := buffer.length
  let byte := fun i => buffer.getD i 0
  if received < 12 then none
  else if byte 0 >>> 6 ≠ 2 then none
  else
    let extension := byte 0 &&& 0x10 != 0
    let offset := 12 + (byte 0 &&& 0x0f).toNat * 4
    if received < offset then none
    else if extension && received < offset + 4 then none
    else
      let words := (byte (offset + 2)).toNat * 256 + (byte (offset + 3)).toNat
      let offset := if extension then offset + 4 + words * 4 else offset
      if received < offset then none
      else
        let padding := if byte 0 &&& 0x20 ≠ 0 then (byte (received - 1)).toNat else 0
        if received - offset < padding then none
        else some
          { payloadType := byte 1 &&& 0x7f
            marker := byte 1 &&& 0x80 != 0
            sequence := (byte 2).toUInt16 <<< 8 ||| (byte 3).toUInt16
            timestamp := (byte 4).toUInt32 <<< 24 ||| (byte 5).toUInt32 <<< 16 |||
              (byte 6).toUInt32 <<< 8 ||| (byte 7).toUInt32
            ssrc := (byte 8).toUInt32 <<< 24 ||| (byte 9).toUInt32 <<< 16 |||
              (byte 10).toUInt32 <<< 8 ||| (byte 11).toUInt32
            payload := (buffer.take (received - padding)).drop offset }

/-! ## The event channel -/

/-- What starting an `HttpServer` on port 0 returns: no listening socket, or one,
    with the port `getsockname` gave it. -/
inductive EventOutcome where
  | failed
  | listening (port : Option UInt16)
  deriving DecidableEq

/-- The `HttpServer` of the event channel. -/
structure EventServer where
  running : Bool := false
  port : UInt16 := 0
  deriving DecidableEq

namespace EventServer

/-- `start_per_connection(0, ..)`. -/
def start (s : EventServer) (outcome : EventOutcome) : Bool × EventServer :=
  if s.running then (false, s)
  else
    match outcome with
    | .failed => (false, s)
    | .listening port => (true, { running := true, port := port.getD 0 })

end EventServer
end AirPlay2
