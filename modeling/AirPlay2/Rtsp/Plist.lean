import AirPlay2.Http.Request
import AirPlay2.Lib.BigEndian

/- The binary property lists a session answers SETUP with (`rtsp.cpp`). The PTP one
   is built object by object and throws on text too long for a one-byte length; the
   other two are byte templates with the ports written into them. -/
namespace AirPlay2
open Lib

def portBytes (port : UInt16) : Bytes := [(port >>> 8).toUInt8, port.toUInt8]

/-- `append_ascii`. -/
def appendAscii (s : Bytes) : Except StdException Bytes :=
  if 15 ≤ s.length then .error (.runtimeError "plist ASCII string too long")
  else .ok (UInt8.ofNat (0x50 + s.length) :: s)

/-- The bytes an offset needs: `while ((offsets.back() >> (offset_size * 8)) != 0)`. -/
def offsetSize (last : ℕ) : ℕ → ℕ → ℕ
  | 0, size => size
  | fuel + 1, size => if last >>> (size * 8) ≠ 0 then offsetSize last fuel (size + 1) else size

/-- Where the objects start, the first of them at `start`. -/
def objectOffsets (start : ℕ) : List Bytes → List ℕ
  | [] => []
  | o :: objects => start :: objectOffsets (start + o.length) objects

/-- The property list of the objects: the objects, their offsets and the trailer. -/
def encodePlist (objects : List Bytes) : Bytes :=
  let header := ascii "bplist00"
  let offsets := objectOffsets header.length objects
  let body := header ++ objects.flatten
  let size := offsetSize (offsets.getLastD 0) 8 1
  body ++ offsets.flatMap (toBytes size) ++ List.replicate 6 0 ++ [0, UInt8.ofNat size, 1] ++
    toBytes 8 offsets.length ++ List.replicate 8 0 ++ toBytes 8 body.length

def setupPtpResponsePlist (eventPort : UInt16) (host : Bytes) : Except StdException Bytes :=
  let addr := if host = [] then ascii "127.0.0.1" else host
  if 15 ≤ addr.length then
    .error (.runtimeError "receiver IPv4 address too long for compact PTP plist")
  else do
    let obj1 ← appendAscii (ascii "eventPort")
    let obj2 ← appendAscii (ascii "timingPeerInfo")
    let obj3 ← appendAscii (ascii "timingPort")
    let obj6 ← appendAscii (ascii "Addresses")
    let obj7 ← appendAscii (ascii "ID")
    let obj9 ← appendAscii addr
    let obj10 ← appendAscii addr
    .ok (encodePlist [
      [0xd3, 0x01, 0x02, 0x03, 0x04, 0x05, 0x0b], obj1, obj2, obj3, 0x11 :: portBytes eventPort,
      [0xd2, 0x06, 0x07, 0x08, 0x0a], obj6, obj7, [0xa1, 0x09], obj9, obj10, [0x10, 0x00]])

/-- The array has 77 elements and 74 initializers. -/
def eventTemplate : Bytes := [
  0x62, 0x70, 0x6c, 0x69, 0x73, 0x74, 0x30, 0x30, 0xd2, 0x01, 0x02, 0x03, 0x04, 0x59, 0x65, 0x76,
  0x65, 0x6e, 0x74, 0x50, 0x6f, 0x72, 0x74, 0x5a, 0x74, 0x69, 0x6d, 0x69, 0x6e, 0x67, 0x50, 0x6f,
  0x72, 0x74, 0x11, 0x00, 0x00, 0x11, 0x00, 0x00, 0x08, 0x0d, 0x17, 0x22, 0x25, 0x00, 0x00, 0x00,
  0x00, 0x00, 0x00, 0x01, 0x01, 0x00, 0x00, 0x00, 0x00, 0x00, 0x00, 0x00, 0x05, 0x00, 0x00, 0x00,
  0x00, 0x00, 0x00, 0x00, 0x00, 0x00, 0x00, 0x00, 0x00, 0x28] ++ List.replicate 3 0

/-- The array for type 96 has 104 elements and 99 initializers. -/
def audioStreamTemplate : Bytes := [
  0x62, 0x70, 0x6c, 0x69, 0x73, 0x74, 0x30, 0x30, 0xd1, 0x01, 0x02, 0x57, 0x73, 0x74, 0x72, 0x65,
  0x61, 0x6d, 0x73, 0xa1, 0x03, 0xd3, 0x04, 0x05, 0x06, 0x07, 0x08, 0x58, 0x64, 0x61, 0x74, 0x61,
  0x50, 0x6f, 0x72, 0x74, 0x5b, 0x63, 0x6f, 0x6e, 0x74, 0x72, 0x6f, 0x6c, 0x50, 0x6f, 0x72, 0x74,
  0x54, 0x74, 0x79, 0x70, 0x65, 0x11, 0xd2, 0xc0, 0x11, 0xea, 0x78, 0x10, 0x60, 0x08, 0x0b, 0x13,
  0x15, 0x1c, 0x25, 0x31, 0x36, 0x39, 0x3c, 0x00, 0x00, 0x00, 0x00, 0x00, 0x00, 0x01, 0x01, 0x00,
  0x00, 0x00, 0x00, 0x00, 0x00, 0x00, 0x0a, 0x00, 0x00, 0x00, 0x00, 0x00, 0x00, 0x00, 0x00, 0x00,
  0x00, 0x00, 0x3e] ++ List.replicate 5 0

/-- The array for the other types has 85 elements and 81 initializers. -/
def videoStreamTemplate : Bytes := [
  0x62, 0x70, 0x6c, 0x69, 0x73, 0x74, 0x30, 0x30, 0xd1, 0x01, 0x02, 0x57, 0x73, 0x74, 0x72, 0x65,
  0x61, 0x6d, 0x73, 0xa1, 0x03, 0xd2, 0x04, 0x05, 0x06, 0x07, 0x58, 0x64, 0x61, 0x74, 0x61, 0x50,
  0x6f, 0x72, 0x74, 0x54, 0x74, 0x79, 0x70, 0x65, 0x11, 0xd2, 0xc0, 0x10, 0x6e, 0x08, 0x0b, 0x13,
  0x15, 0x1a, 0x23, 0x28, 0x2b, 0x00, 0x00, 0x00, 0x00, 0x00, 0x00, 0x01, 0x01, 0x00, 0x00, 0x00,
  0x00, 0x00, 0x00, 0x00, 0x08, 0x00, 0x00, 0x00, 0x00, 0x00, 0x00, 0x00, 0x00, 0x00, 0x00, 0x00,
  0x2d] ++ List.replicate 4 0

/-- A port written over two bytes of a template. -/
def patchPort (template : Bytes) (pos : ℕ) (port : UInt16) : Bytes :=
  (template.set pos (port >>> 8).toUInt8).set (pos + 1) port.toUInt8

def setupEventResponsePlist (eventPort timingPort : UInt16) : Bytes :=
  patchPort (patchPort eventTemplate 35 eventPort) 38 timingPort

def setupStreamResponsePlist (dataPort controlPort : UInt16) (type : ℤ) : Bytes :=
  if type = 96 then patchPort (patchPort audioStreamTemplate 55 dataPort) 58 controlPort
  else patchPort videoStreamTemplate 41 dataPort

/-! ## What can throw -/

theorem appendAscii_of_short {s : Bytes} (h : s.length < 15) :
    appendAscii s = .ok (UInt8.ofNat (0x50 + s.length) :: s) :=
  if_neg (not_le.mpr h)

/-- With a short host every text fits, and the list is built. -/
theorem setupPtpResponsePlist_of_short (eventPort : UInt16) {host addr : Bytes}
    (haddr : (if host = [] then ascii "127.0.0.1" else host) = addr) (hshort : addr.length < 15) :
    setupPtpResponsePlist eventPort host = .ok (encodePlist [
      [0xd3, 0x01, 0x02, 0x03, 0x04, 0x05, 0x0b], 0x59 :: ascii "eventPort",
      0x5e :: ascii "timingPeerInfo", 0x5a :: ascii "timingPort", 0x11 :: portBytes eventPort,
      [0xd2, 0x06, 0x07, 0x08, 0x0a], 0x59 :: ascii "Addresses", 0x52 :: ascii "ID", [0xa1, 0x09],
      UInt8.ofNat (0x50 + addr.length) :: addr, UInt8.ofNat (0x50 + addr.length) :: addr,
      [0x10, 0x00]]) := by
  simp only [setupPtpResponsePlist, haddr]
  rw [if_neg (not_le.mpr hshort), appendAscii_of_short hshort,
    appendAscii_of_short (show (ascii "eventPort").length < 15 by decide),
    appendAscii_of_short (show (ascii "timingPeerInfo").length < 15 by decide),
    appendAscii_of_short (show (ascii "timingPort").length < 15 by decide),
    appendAscii_of_short (show (ascii "Addresses").length < 15 by decide),
    appendAscii_of_short (show (ascii "ID").length < 15 by decide)]
  rfl

/-- The PTP answer throws on a long host, and only on one: its other texts are
    short. -/
theorem setupPtpResponsePlist_throws_iff (eventPort : UInt16) (host : Bytes) :
    (∃ e, setupPtpResponsePlist eventPort host = .error e) ↔ 15 ≤ host.length := by
  have hdefault : (ascii "127.0.0.1").length < 15 := by decide
  by_cases hlong : 15 ≤ host.length
  · have hne : host ≠ [] := by
      intro he
      simp [he] at hlong
    simp [setupPtpResponsePlist, hne, hlong]
  · have haddr : (if host = [] then ascii "127.0.0.1" else host).length < 15 := by
      split
      · exact hdefault
      · omega
    rw [setupPtpResponsePlist_of_short eventPort rfl haddr]
    refine iff_of_false ?_ hlong
    intro hthrows
    obtain ⟨e, he⟩ := hthrows
    cases he

end AirPlay2
