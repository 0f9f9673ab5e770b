import AirPlay2.Lib.BigEndian

/- The mDNS responder (`mdns.cpp`): the message it announces and answers with, and what
   its loop makes of a datagram. The socket calls of `publish` are an input. -/
namespace AirPlay2
open Lib

structure MdnsTxtRecord where
  key : Bytes
  value : Bytes
  deriving DecidableEq

/-- `MdnsService::Impl`, its socket apart. -/
structure MdnsService where
  active : Bool := false
  instanceName : Bytes := []
  target : Bytes := ascii "gwl-airplay.local"
  port : UInt16 := 0
  records : List MdnsTxtRecord := []
  localAddress : UInt32 := 0
  deriving DecidableEq

/-! ## The message -/

namespace Mdns

def u16 (v : UInt16) : Bytes := toBytes 2 v.toNat

def u32 (v : UInt32) : Bytes := toBytes 4 v.toNat

/-- The labels one by one; one that is too long ends the name without its zero. -/
def nameLabels : List Bytes → Bytes
  | [] => [0]
  | label :: labels =>
    if 63 < label.length then []
    else UInt8.ofNat label.length :: (label ++ nameLabels labels)

/-- `name`: the labels are what the dots separate, none after a dot that ends the
    string. -/
def name (value : Bytes) : Bytes := nameLabels (getlines 46 value)

def header (flags qd an : UInt16) : Bytes := u16 0 ++ u16 flags ++ u16 qd ++ u16 an ++ u16 0 ++ u16 0

def kTtl : UInt32 := 4500

/-- Type, class and lifetime of a record. -/
def recordHead (type : UInt16) : Bytes := u16 type ++ u16 0x8001 ++ u32 kTtl

/-- Record data behind its length, which is cut to 16 bits. -/
def recordData (data : Bytes) : Bytes := u16 (UInt16.ofNat data.length) ++ data

/-- The TXT item of a record; one that is too long is left out. -/
def txtItem (r : MdnsTxtRecord) : Bytes :=
  let item := r.key ++ ascii "=" ++ r.value
  if item.length ≤ 255 then UInt8.ofNat item.length :: item else []

end Mdns

namespace MdnsService
open Mdns

def makeResponse (s : MdnsService) : Bytes :=
  let service := s.instanceName ++ ascii "._airplay._tcp.local"
  let ptr := name service
  let srv := u16 0 ++ u16 0 ++ u16 s.port ++ name s.target
  let txt := s.records.flatMap txtItem
  header 0x8400 0 4 ++
    (name (ascii "_airplay._tcp.local") ++ recordHead 12 ++ recordData ptr) ++
    (name service ++ recordHead 33 ++ recordData srv) ++
    (name service ++ recordHead 16 ++ recordData txt) ++
    (name s.target ++ recordHead 1 ++ u16 4 ++ u32 s.localAddress)

/-! ## The loop -/

/-- The match loop of `run` on the bytes received. -/
def queryForAirplay (buffer : Bytes) : Bool := (find buffer (ascii "_airplay") 12).isSome

/-- One round of `run`: the answer to the sender of a datagram, which is read into 1500
    bytes. -/
def answer (s : MdnsService) (datagram : Bytes) : Option Bytes :=
  let buffer := datagram.take 1500
  if !s.active then none
  else if buffer.length < 12 then none
  else if queryForAirplay buffer then some s.makeResponse
  else none

/-- The announcement of `publish`, if it sends one. `sockets` is `none` where a socket
    call fails, and else the address the probe finds, if it finds one. -/
def publish (s : MdnsService) (instanceName : Bytes) (port : UInt16)
    (records : List MdnsTxtRecord) (sockets : Option (Option UInt32)) :
    Bool × Option Bytes × MdnsService :=
  if s.active then (true, none, s)
  else
    match sockets with
    | none => (false, none, s)
    | some probe =>
      let address := probe.getD s.localAddress
      let s := { s with
        localAddress := if address = 0 then 0x7F000001 else address
        instanceName := instanceName
        port := port
        records := records
        active := true }
      (true, some s.makeResponse, s)

def unpublish (s : MdnsService) : MdnsService := { s with active := false }

/-! ## Every answer names the service -/

/-- The name the match loop looks for stands one byte behind the header. -/
theorem makeResponse_head (s : MdnsService) : ∃ rest : Bytes,
    s.makeResponse = (header 0x8400 0 4 ++ [8]) ++ ascii "_airplay" ++ rest := by
  have hname : name (ascii "_airplay._tcp.local") =
      [8] ++ ascii "_airplay" ++ (4 :: ascii "_tcp" ++ (5 :: ascii "local" ++ [0])) := by
    decide +kernel
  unfold makeResponse
  simp only [hname, List.append_assoc]
  exact ⟨_, rfl⟩

theorem queryForAirplay_of_stands (before rest : Bytes) (h : 12 ≤ before.length) :
    queryForAirplay (before ++ ascii "_airplay" ++ rest) = true := by
  unfold queryForAirplay
  by_contra hno
  rw [Bool.not_eq_true, Option.isSome_eq_false_iff, Option.isNone_iff_eq_none] at hno
  have hlen : before.length ≤ (before ++ ascii "_airplay" ++ rest).length := by simp
  refine (find_eq_none (h.trans hlen)).mp hno before.length h hlen ?_
  rw [List.append_assoc, List.drop_left]
  exact List.prefix_append _ _

/-- A datagram is answered by an active responder that finds the name in it. -/
theorem answer_eq (s : MdnsService) (datagram : Bytes) :
    s.answer datagram =
      if s.active && decide (12 ≤ (datagram.take 1500).length) &&
          queryForAirplay (datagram.take 1500) then some s.makeResponse
      else none := by
  unfold answer
  generalize datagram.take 1500 = buffer
  cases s.active with
  | false => rfl
  | true =>
    by_cases hshort : buffer.length < 12
    · have hno : ¬ 12 ≤ buffer.length := by omega
      simp [hshort, hno]
    · have hlong : 12 ≤ buffer.length := by omega
      simp [hshort, hlong]

/-- An active responder answers the message of any responder. -/
theorem answer_makeResponse (s sender : MdnsService) :
    s.answer sender.makeResponse = if s.active then some s.makeResponse else none := by
  obtain ⟨rest, hrest⟩ := makeResponse_head sender
  -- what it looks for is within the bytes it reads
  have hlen : (header 0x8400 0 4 ++ [8] ++ ascii "_airplay").length = 21 := by decide +kernel
  have hread : sender.makeResponse.take 1500 =
      (header 0x8400 0 4 ++ [8]) ++ ascii "_airplay" ++ rest.take 1479 := by
    rw [hrest, List.take_append, hlen, List.take_of_length_le (by omega)]
  have hquery := queryForAirplay_of_stands (header 0x8400 0 4 ++ [8]) (rest.take 1479)
    (by decide +kernel)
  have hlong : 12 ≤ (sender.makeResponse.take 1500).length := by
    rw [hread, List.length_append, hlen]
    omega
  rw [← hread] at hquery
  rw [answer_eq, hquery, decide_eq_true hlong, Bool.and_true, Bool.and_true]

end MdnsService
end AirPlay2
