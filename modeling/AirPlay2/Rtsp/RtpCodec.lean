import Mathlib.Data.List.GetD
import AirPlay2.Lib.BigEndian
import AirPlay2.Rtsp.Receiver

/- RTP packets on the wire. `RtpMessage` is a packet of RFC 3550 with everything the
   format has, the list of contributing sources, a header extension and padding
   included, and `encode` writes it as the format says. The receiver keeps six of its
   fields, and reads them back from the encoding of every message that fits its buffer
   (`receive_encode`). -/
namespace AirPlay2
open Lib

/-! ## What the receiver accepts -/

/-- `RtpReceiver::receive` when the next datagram is `datagram`: `recvfrom` stores as much
    of it as the buffer holds. -/
def receiveDatagram (datagram : Bytes) : Option RtpPacket := receive (datagram.take 65536)

/-- A datagram whose parts lie inside it is accepted, and its payload is what lies
    between the header and the padding. -/
theorem receive_of_parts {buffer : Bytes} (offset padding : ℕ) (hmin : 12 ≤ buffer.length)
    (hversion : buffer.getD 0 0 >>> 6 = 2)
    (hoffset : (if buffer.getD 0 0 &&& 0x10 != 0 then
        12 + (buffer.getD 0 0 &&& 0x0f).toNat * 4 + 4 +
          ((buffer.getD (12 + (buffer.getD 0 0 &&& 0x0f).toNat * 4 + 2) 0).toNat * 256 +
            (buffer.getD (12 + (buffer.getD 0 0 &&& 0x0f).toNat * 4 + 3) 0).toNat) * 4
      else 12 + (buffer.getD 0 0 &&& 0x0f).toNat * 4) = offset)
    (hpadding : (if buffer.getD 0 0 &&& 0x20 ≠ 0 then (buffer.getD (buffer.length - 1) 0).toNat
      else 0) = padding)
    (hfits : offset + padding ≤ buffer.length) :
    receive buffer = some
      { payloadType := buffer.getD 1 0 &&& 0x7f
        marker := buffer.getD 1 0 &&& 0x80 != 0
        sequence := (buffer.getD 2 0).toUInt16 <<< 8 ||| (buffer.getD 3 0).toUInt16
        timestamp := (buffer.getD 4 0).toUInt32 <<< 24 ||| (buffer.getD 5 0).toUInt32 <<< 16 |||
          (buffer.getD 6 0).toUInt32 <<< 8 ||| (buffer.getD 7 0).toUInt32
        ssrc := (buffer.getD 8 0).toUInt32 <<< 24 ||| (buffer.getD 9 0).toUInt32 <<< 16 |||
          (buffer.getD 10 0).toUInt32 <<< 8 ||| (buffer.getD 11 0).toUInt32
        payload := (buffer.take (buffer.length - padding)).drop offset } := by
  -- the two checks before the last one compare with smaller offsets
  have hcsrcs : ¬ buffer.length < 12 + (buffer.getD 0 0 &&& 0x0f).toNat * 4 := by
    split at hoffset <;> omega
  have hprofile : ¬ ((buffer.getD 0 0 &&& 0x10 != 0) = true ∧
      buffer.length < 12 + (buffer.getD 0 0 &&& 0x0f).toNat * 4 + 4) := by
    intro hshort
    rw [if_pos hshort.1] at hoffset
    omega
  unfold receive
  dsimp only
  rw [if_neg (Nat.not_lt.mpr hmin), if_neg (not_not.mpr hversion), if_neg hcsrcs]
  simp only [Bool.and_eq_true, decide_eq_true_eq]
  rw [if_neg hprofile, hoffset, hpadding, if_neg (by omega), if_neg (by omega)]

/-! ## Messages -/

/-- A packet of RFC 3550. `padding` holds the padding bytes before the last one, which
    counts them all. -/
structure RtpMessage where
  payloadType : UInt8
  marker : Bool := false
  sequence : UInt16 := 0
  timestamp : UInt32 := 0
  ssrc : UInt32 := 0
  csrcs : List UInt32 := []
  extension : Option (UInt16 × List UInt32) := none
  payload : Bytes := []
  padding : Option Bytes := none
  payloadType_lt : payloadType.toNat < 128
  csrcs_le : csrcs.length ≤ 15
  padding_le : ∀ filler, padding = some filler → filler.length < 255

namespace RtpMessage

variable (m : RtpMessage)

/-- Version 2, the padding and extension bits and the CSRC count. -/
def firstByte : UInt8 :=
  0x80 ||| (if m.padding.isSome then 0x20 else 0) ||| (if m.extension.isSome then 0x10 else 0) |||
    UInt8.ofNat m.csrcs.length

def secondByte : UInt8 := (if m.marker then 0x80 else 0) ||| m.payloadType

def words (ws : List UInt32) : Bytes := ws.flatMap fun w => toBytes 4 w.toNat

/-- The part an extension takes: the profile, the number of words and the words. -/
def extensionPart : Option (UInt16 × List UInt32) → Bytes
  | none => []
  | some (profile, ws) => toBytes 2 profile.toNat ++ toBytes 2 ws.length ++ words ws

/-- The part padding takes, its last byte the count. -/
def paddingPart : Option Bytes → Bytes
  | none => []
  | some filler => filler ++ [UInt8.ofNat (filler.length + 1)]

def extensionBytes : Bytes := extensionPart m.extension

def paddingBytes : Bytes := paddingPart m.padding

def encode : Bytes :=
  [m.firstByte, m.secondByte] ++ toBytes 2 m.sequence.toNat ++ toBytes 4 m.timestamp.toNat ++
    toBytes 4 m.ssrc.toNat ++ words m.csrcs ++ m.extensionBytes ++ m.payload ++ m.paddingBytes

/-- Where the payload starts. -/
def payloadOffset : ℕ := 12 + m.csrcs.length * 4 + m.extensionBytes.length

/-- The fields the receiver keeps. -/
def packet : RtpPacket :=
  { payloadType := m.payloadType
    sequence := m.sequence
    timestamp := m.timestamp
    ssrc := m.ssrc
    marker := m.marker
    payload := m.payload }

/-! ## The bits of the first two bytes -/

/-- What the receiver reads out of the first byte. -/
theorem firstByte_bits : m.firstByte >>> 6 = 2 ∧ (m.firstByte &&& 0x0f).toNat = m.csrcs.length ∧
    (m.firstByte &&& 0x10 != 0) = m.extension.isSome ∧
    (m.firstByte &&& 0x20 ≠ 0 ↔ m.padding.isSome = true) := by
  have hbits : ∀ (p x : Bool) (cc : Fin 16),
      ((0x80 ||| (if p then 0x20 else 0) ||| (if x then 0x10 else 0) ||| UInt8.ofNat cc : UInt8)
          >>> 6 = 2) ∧
        ((0x80 ||| (if p then 0x20 else 0) ||| (if x then 0x10 else 0) ||| UInt8.ofNat cc : UInt8)
          &&& 0x0f).toNat = cc.val ∧
        (((0x80 ||| (if p then 0x20 else 0) ||| (if x then 0x10 else 0) ||| UInt8.ofNat cc : UInt8)
          &&& 0x10) != 0) = x ∧
        (((0x80 ||| (if p then 0x20 else 0) ||| (if x then 0x10 else 0) ||| UInt8.ofNat cc : UInt8)
          &&& 0x20) ≠ 0 ↔ p = true) := by
    decide +kernel
  exact hbits m.padding.isSome m.extension.isSome ⟨m.csrcs.length, by have := m.csrcs_le; omega⟩

theorem secondByte_bits : m.secondByte &&& 0x7f = m.payloadType ∧
    (m.secondByte &&& 0x80 != 0) = m.marker := by
  have hbits : ∀ (marker : Bool) (pt : Fin 128),
      (((if marker then 0x80 else 0) ||| UInt8.ofNat pt : UInt8) &&& 0x7f = UInt8.ofNat pt) ∧
        ((((if marker then 0x80 else 0) ||| UInt8.ofNat pt : UInt8) &&& 0x80) != 0) = marker := by
    decide +kernel
  have hpt : UInt8.ofNat m.payloadType.toNat = m.payloadType := UInt8.ofNat_toNat
  have h := hbits m.marker ⟨m.payloadType.toNat, m.payloadType_lt⟩
  rwa [hpt] at h

/-! ## The parts of the encoding -/

@[simp] theorem length_words (ws : List UInt32) : (words ws).length = 4 * ws.length := by
  induction ws with
  | nil => rfl
  | cons w ws ih =>
    rw [words, List.flatMap_cons, List.length_append, length_toBytes, List.length_cons]
    rw [words] at ih
    omega

/-- What stands before the extension. -/
def header : Bytes :=
  [m.firstByte, m.secondByte] ++ toBytes 2 m.sequence.toNat ++ toBytes 4 m.timestamp.toNat ++
    toBytes 4 m.ssrc.toNat ++ words m.csrcs

theorem encode_eq : m.encode = m.header ++ m.extensionBytes ++ m.payload ++ m.paddingBytes := rfl

@[simp] theorem length_header : m.header.length = 12 + m.csrcs.length * 4 := by
  simp only [header, List.length_append, length_toBytes, length_words, List.length_cons,
    List.length_nil]
  omega

@[simp] theorem length_encode :
    m.encode.length = m.payloadOffset + m.payload.length + m.paddingBytes.length := by
  rw [encode_eq, payloadOffset, List.length_append, List.length_append, List.length_append,
    length_header]

/-- The twelve fixed bytes, put together the way the receiver does. -/
theorem encode_head : ∃ s₀ s₁ t₀ t₁ t₂ t₃ r₀ r₁ r₂ r₃ : UInt8, ∃ rest : Bytes,
    m.encode = m.firstByte :: m.secondByte :: s₀ :: s₁ :: t₀ :: t₁ :: t₂ :: t₃ :: r₀ :: r₁ :: r₂ ::
      r₃ :: rest ∧
    s₀.toUInt16 <<< 8 ||| s₁.toUInt16 = m.sequence ∧
    t₀.toUInt32 <<< 24 ||| t₁.toUInt32 <<< 16 ||| t₂.toUInt32 <<< 8 ||| t₃.toUInt32 = m.timestamp ∧
    r₀.toUInt32 <<< 24 ||| r₁.toUInt32 <<< 16 ||| r₂.toUInt32 <<< 8 ||| r₃.toUInt32 = m.ssrc := by
  obtain ⟨s₀, s₁, hs, -, hsequence⟩ := word16_of_bytes m.sequence
  obtain ⟨t₀, t₁, t₂, t₃, ht, htimestamp⟩ := word32_of_bytes m.timestamp
  obtain ⟨r₀, r₁, r₂, r₃, hr, hssrc⟩ := word32_of_bytes m.ssrc
  refine ⟨s₀, s₁, t₀, t₁, t₂, t₃, r₀, r₁, r₂, r₃,
    words m.csrcs ++ (m.extensionBytes ++ (m.payload ++ m.paddingBytes)), ?_, hsequence,
    htimestamp, hssrc⟩
  rw [encode, hs, ht, hr]
  simp only [List.append_assoc, List.cons_append, List.nil_append]

/-- The bytes from the extension on. -/
theorem encode_getD_extension (i : ℕ) :
    m.encode.getD (12 + m.csrcs.length * 4 + i) 0 =
      (m.extensionBytes ++ (m.payload ++ m.paddingBytes)).getD i 0 := by
  have hsplit : m.encode = m.header ++ (m.extensionBytes ++ (m.payload ++ m.paddingBytes)) := by
    simp only [encode_eq, List.append_assoc]
  rw [hsplit, ← length_header, List.getD_append_right _ _ _ _ (by omega), Nat.add_sub_cancel_left]

/-- The extension is as long as its word count says. -/
theorem extension_read (h : m.encode.length ≤ 65536) {e : UInt16 × List UInt32}
    (hext : m.extension = some e) :
    (m.encode.getD (12 + m.csrcs.length * 4 + 2) 0).toNat * 256 +
        (m.encode.getD (12 + m.csrcs.length * 4 + 3) 0).toNat = e.2.length ∧
      m.extensionBytes.length = 4 + e.2.length * 4 := by
  have hbytes : m.extensionBytes = toBytes 2 e.1.toNat ++ toBytes 2 e.2.length ++ words e.2 := by
    rw [extensionBytes, hext]
    rfl
  have hlen : m.extensionBytes.length = 4 + e.2.length * 4 := by
    rw [hbytes, List.length_append, List.length_append, length_toBytes, length_toBytes,
      length_words]
    omega
  refine ⟨?_, hlen⟩
  have hlt : e.2.length < 256 ^ 2 := by
    rw [length_encode, payloadOffset, hlen] at h
    omega
  have hspell : ofBytes (toBytes 2 e.2.length) = e.2.length := ofBytes_toBytes hlt
  rw [encode_getD_extension, encode_getD_extension, hbytes]
  simpa [toBytes, ofBytes] using hspell

/-- The last byte counts the padding. -/
theorem padding_read {filler : Bytes} (hpad : m.padding = some filler) :
    (m.encode.getD (m.encode.length - 1) 0).toNat = m.paddingBytes.length := by
  have hbytes : m.paddingBytes = filler ++ [UInt8.ofNat (filler.length + 1)] := by
    rw [paddingBytes, hpad]
    rfl
  have hlt := m.padding_le filler hpad
  have hsplit : m.encode = (m.header ++ m.extensionBytes ++ m.payload ++ filler) ++
      [UInt8.ofNat (filler.length + 1)] := by
    rw [encode_eq, hbytes, ← List.append_assoc]
  rw [hsplit, List.length_append, List.length_singleton, Nat.add_sub_cancel,
    List.getD_append_right _ _ _ _ (le_refl _), Nat.sub_self, hbytes]
  simp only [List.getD_cons_zero, UInt8.toNat_ofNat', List.length_append, List.length_singleton]
  omega

/-- The payload lies between the extension and the padding. -/
theorem payload_read :
    (m.encode.take (m.encode.length - m.paddingBytes.length)).drop m.payloadOffset = m.payload := by
  have hoffset : (m.header ++ m.extensionBytes).length = m.payloadOffset := by
    rw [List.length_append, length_header, payloadOffset]
  rw [encode_eq, List.length_append, Nat.add_sub_cancel, List.take_left, ← hoffset, List.drop_left]

/-! ## Receiving what was encoded -/

/-- The offset the receiver computes is where the payload starts. -/
theorem offset_read (h : m.encode.length ≤ 65536) :
    (if m.firstByte &&& 0x10 != 0 then
        12 + (m.firstByte &&& 0x0f).toNat * 4 + 4 +
          ((m.encode.getD (12 + (m.firstByte &&& 0x0f).toNat * 4 + 2) 0).toNat * 256 +
            (m.encode.getD (12 + (m.firstByte &&& 0x0f).toNat * 4 + 3) 0).toNat) * 4
      else 12 + (m.firstByte &&& 0x0f).toNat * 4) = m.payloadOffset := by
  obtain ⟨-, hcount, hextension, -⟩ := m.firstByte_bits
  rw [hcount, hextension, payloadOffset]
  cases hext : m.extension with
  | none => simp [extensionBytes, extensionPart, hext]
  | some e =>
    obtain ⟨hwords, hlen⟩ := m.extension_read h hext
    rw [hwords, hlen, Option.isSome_some, if_pos rfl, Nat.add_assoc _ 4]

/-- The padding the receiver takes off is the padding of the message. -/
theorem padding_taken :
    (if m.firstByte &&& 0x20 ≠ 0 then (m.encode.getD (m.encode.length - 1) 0).toNat else 0) =
      m.paddingBytes.length := by
  obtain ⟨-, -, -, hbit⟩ := m.firstByte_bits
  cases hpad : m.padding with
  | none =>
    rw [if_neg (by simp [hbit, hpad]), paddingBytes, hpad, paddingPart, List.length_nil]
  | some filler =>
    rw [if_pos (by simp [hbit, hpad]), m.padding_read hpad]

/-- The buffer holds the whole encoding. -/
theorem receive_encoding (m : RtpMessage) (h : m.encode.length ≤ 65536) :
    receive m.encode = some m.packet := by
  obtain ⟨hversion, -⟩ := m.firstByte_bits
  obtain ⟨htype, hmarker⟩ := m.secondByte_bits
  obtain ⟨s₀, s₁, t₀, t₁, t₂, t₃, r₀, r₁, r₂, r₃, rest, hhead, hsequence, htimestamp, hssrc⟩ :=
    m.encode_head
  have hfirst : m.encode.getD 0 0 = m.firstByte := by
    rw [hhead, List.getD_cons_zero]
  have hmin : 12 ≤ m.encode.length := by
    rw [m.length_encode, payloadOffset]
    omega
  have hparts := receive_of_parts m.payloadOffset m.paddingBytes.length hmin
    (by rw [hfirst, hversion]) (by rw [hfirst, m.offset_read h])
    (by rw [hfirst, m.padding_taken]) (by rw [m.length_encode]; omega)
  rw [hparts, m.payload_read, hhead]
  simp only [List.getD_cons_zero, List.getD_cons_succ, htype, hmarker, hsequence, htimestamp, hssrc]
  rfl

/-- **Decoding undoes encoding**: every message whose encoding fits the buffer is
    received, with the fields it was encoded from. -/
theorem receive_encode (m : RtpMessage) (h : m.encode.length ≤ 65536) :
    receiveDatagram m.encode = some m.packet := by
  rw [receiveDatagram, List.take_of_length_le h, m.receive_encoding h]

/-- Two contributing sources, a one-word extension and two bytes of padding around three
    bytes of payload. -/
def packed : RtpMessage where
  payloadType := 96
  marker := true
  sequence := 513
  timestamp := 0x01020304
  ssrc := 0xdeadbeef
  csrcs := [5, 6]
  extension := some (0xbede, [0x10ff0000])
  payload := [10, 11, 12]
  padding := some [0]
  payloadType_lt := by decide
  csrcs_le := by decide
  padding_le := by
    intro filler hpad
    cases hpad
    decide

theorem receive_packed : packed.encode.length = 33 ∧
    receiveDatagram packed.encode = some packed.packet := by
  have hlen : packed.encode.length = 33 := by decide
  exact ⟨hlen, receive_encode packed (by rw [hlen]; decide)⟩

end RtpMessage
end AirPlay2
