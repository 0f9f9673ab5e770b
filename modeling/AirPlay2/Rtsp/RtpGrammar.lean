import AirPlay2.Rtsp.RtpCodec

/- Which datagrams the receiver accepts. `receiveInto` is `RtpReceiver::receive` with
   every read of the buffer checked against the received length; no read fails
   (`receiveInto_eq`). A datagram is well formed when its header fits and, with the padding
   bit, its last byte counts at least itself and no more than lies behind the header; these
   are the encodings of messages, received with the fields they were encoded from
   (`wellFormed_iff_received`). The receiver decides this up to one case, a padding bit over a
   count of zero (`receive_exact_iff`). -/
namespace AirPlay2
open Lib RtpMessage

/-! ## The receiver with its reads checked -/

/-- A read of the buffer; `none` at or past the received length. -/
def readByte (d : Bytes) (i : ℕ) : Option UInt8 := d[i]?

/-- The padding count, read only with the padding bit. -/
def readPadding (d : Bytes) (b0 : UInt8) : Option ℕ :=
  if b0 &&& 0x20 ≠ 0 then (readByte d (d.length - 1)).map UInt8.toNat else some 0

/-- The rest of `receive`, once the payload is known to start at `offset`. -/
def receivePayload (d : Bytes) (packet : RtpPacket) (b0 b1 : UInt8) (offset : ℕ) :
    Option (Bool × RtpPacket) := do
  let padding ← readPadding d b0
  if d.length - offset < padding then some (false, packet)
  else do
    let b2 ← readByte d 2
    let b3 ← readByte d 3
    let b4 ← readByte d 4
    let b5 ← readByte d 5
    let b6 ← readByte d 6
    let b7 ← readByte d 7
    let b8 ← readByte d 8
    let b9 ← readByte d 9
    let b10 ← readByte d 10
    let b11 ← readByte d 11
    some (true,
      { payloadType := b1 &&& 0x7f
        marker := b1 &&& 0x80 != 0
        sequence := b2.toUInt16 <<< 8 ||| b3.toUInt16
        timestamp := b4.toUInt32 <<< 24 ||| b5.toUInt32 <<< 16 ||| b6.toUInt32 <<< 8 |||
          b7.toUInt32
        ssrc := b8.toUInt32 <<< 24 ||| b9.toUInt32 <<< 16 ||| b10.toUInt32 <<< 8 |||
          b11.toUInt32
        payload := (d.take (d.length - padding)).drop offset })

/-- `RtpReceiver::receive` when `d` is what was received: what it returns, and the caller's
    packet after it. `none` is a read at or past the received length. -/
def receiveInto (d : Bytes) (packet : RtpPacket) : Option (Bool × RtpPacket) :=
  if d.length < 12 then some (false, packet)
  else do
    let b0 ← readByte d 0
    if b0 >>> 6 ≠ 2 then some (false, packet)
    else do
      let b1 ← readByte d 1
      let offset := 12 + (b0 &&& 0x0f).toNat * 4
      if d.length < offset then some (false, packet)
      else if b0 &&& 0x10 != 0 then
        if d.length < offset + 4 then some (false, packet)
        else do
          let high ← readByte d (offset + 2)
          let low ← readByte d (offset + 3)
          let words := high.toUInt16 <<< 8 ||| low.toUInt16
          let offset := offset + 4 + words.toNat * 4
          if d.length < offset then some (false, packet)
          else receivePayload d packet b0 b1 offset
      else receivePayload d packet b0 b1 offset

/-! ## The grammar -/

/-- The number of words the extension header gives. -/
def extensionWords (d : Bytes) (offset : ℕ) : ℕ :=
  (d.getD (offset + 2) 0).toNat * 256 + (d.getD (offset + 3) 0).toNat

/-- Where the header ends: the fixed part, the contributing sources and the extension. -/
def headerEnd (d : Bytes) : ℕ :=
  let offset := 12 + (d.getD 0 0 &&& 0x0f).toNat * 4
  if d.getD 0 0 &&& 0x10 != 0 then offset + 4 + extensionWords d offset * 4 else offset

/-- Version 2, and a header that lies within the datagram. -/
structure HeaderFits (d : Bytes) : Prop where
  fixed : 12 ≤ d.length
  version : d.getD 0 0 >>> 6 = 2
  fits : headerEnd d ≤ d.length

/-- The padding bit. -/
def padded (d : Bytes) : Bool := d.getD 0 0 &&& 0x20 != 0

def lastByte (d : Bytes) : ℕ := (d.getD (d.length - 1) 0).toNat

/-- A packet of RFC 3550. -/
structure WellFormedRtp (d : Bytes) : Prop where
  header : HeaderFits d
  padding : padded d = true → 1 ≤ lastByte d ∧ lastByte d ≤ d.length - headerEnd d

/-- What the receiver takes off at the end. -/
def paddingTaken (d : Bytes) : ℕ := if padded d then lastByte d else 0

/-! ## Every read is within the datagram -/

theorem readByte_eq {d : Bytes} {i : ℕ} (h : i < d.length) : readByte d i = some (d.getD i 0) := by
  rw [readByte, List.getD_eq_getElem?_getD, List.getElem?_eq_getElem h, Option.getD_some]

theorem paddingTaken_eq (d : Bytes) : paddingTaken d =
    if d.getD 0 0 &&& 0x20 ≠ 0 then (d.getD (d.length - 1) 0).toNat else 0 := by
  rw [paddingTaken, padded]
  by_cases hbit : d.getD 0 0 &&& 0x20 = 0
  · rw [if_neg (not_not.mpr hbit), hbit]
    rfl
  · rw [if_pos hbit, if_pos (bne_iff_ne.mpr hbit)]
    rfl

theorem receivePayload_eq {d : Bytes} (hmin : 12 ≤ d.length) (packet : RtpPacket) (offset : ℕ) :
    receivePayload d packet (d.getD 0 0) (d.getD 1 0) offset =
      some (if d.length - offset < paddingTaken d then (false, packet)
        else (true,
          { payloadType := d.getD 1 0 &&& 0x7f
            marker := d.getD 1 0 &&& 0x80 != 0
            sequence := (d.getD 2 0).toUInt16 <<< 8 ||| (d.getD 3 0).toUInt16
            timestamp := (d.getD 4 0).toUInt32 <<< 24 ||| (d.getD 5 0).toUInt32 <<< 16 |||
              (d.getD 6 0).toUInt32 <<< 8 ||| (d.getD 7 0).toUInt32
            ssrc := (d.getD 8 0).toUInt32 <<< 24 ||| (d.getD 9 0).toUInt32 <<< 16 |||
              (d.getD 10 0).toUInt32 <<< 8 ||| (d.getD 11 0).toUInt32
            payload := (d.take (d.length - paddingTaken d)).drop offset })) := by
  have hread : readPadding d (d.getD 0 0) = some (paddingTaken d) := by
    rw [readPadding, readByte_eq (by omega), paddingTaken_eq]
    split <;> rfl
  have hreads : ∀ i < 12, readByte d i = some (d.getD i 0) := fun i hi =>
    readByte_eq (by omega)
  unfold receivePayload
  rw [hread, hreads 2 (by decide), hreads 3 (by decide), hreads 4 (by decide), hreads 5 (by decide),
    hreads 6 (by decide), hreads 7 (by decide), hreads 8 (by decide), hreads 9 (by decide),
    hreads 10 (by decide), hreads 11 (by decide)]
  show (if d.length - offset < paddingTaken d then some (false, packet) else some (true, _)) = _
  split <;> rfl

/-- **No read leaves the datagram**, and the receiver decides as `receive` does; a refused
    datagram leaves the caller's packet alone. -/
theorem receiveInto_eq (d : Bytes) (packet : RtpPacket) :
    receiveInto d packet = some (match receive d with
      | some p => (true, p)
      | none => (false, packet)) := by
  unfold receiveInto receive
  dsimp only
  rw [← paddingTaken_eq]
  by_cases hmin : d.length < 12
  · rw [if_pos hmin, if_pos hmin]
  · rw [if_neg hmin, if_neg hmin, readByte_eq (by omega), readByte_eq (by omega)]
    simp only [Option.bind_eq_bind, Option.bind_some]
    by_cases hversion : d.getD 0 0 >>> 6 ≠ 2
    · rw [if_pos hversion, if_pos hversion]
    · rw [if_neg hversion, if_neg hversion]
      by_cases hcsrcs : d.length < 12 + (d.getD 0 0 &&& 0x0f).toNat * 4
      · rw [if_pos hcsrcs, if_pos hcsrcs]
      · rw [if_neg hcsrcs, if_neg hcsrcs]
        cases hextension : (d.getD 0 0 &&& 0x10 != 0) with
        | false =>
          simp only [Bool.false_eq_true, if_false, Bool.false_and]
          rw [if_neg hcsrcs, receivePayload_eq (by omega)]
          split <;> rfl
        | true =>
          simp only [if_true, Bool.true_and, decide_eq_true_eq]
          by_cases hprofile : d.length < 12 + (d.getD 0 0 &&& 0x0f).toNat * 4 + 4
          · rw [if_pos hprofile, if_pos hprofile]
          · rw [if_neg hprofile, if_neg hprofile, readByte_eq (by omega), readByte_eq (by omega)]
            simp only [Option.bind_some, toNat_word16]
            have hwords : ∀ high low : UInt8, ofBytes [high, low] = high.toNat * 256 + low.toNat := by
              intro high low
              simp [ofBytes]
            rw [hwords, receivePayload_eq (by omega)]
            split
            · rfl
            · split <;> rfl

/-! ## The grammar is the image of the encoder -/

/-- Four bytes at a time are words. -/
theorem words_surjective (n : ℕ) (bs : Bytes) (h : bs.length = 4 * n) :
    ∃ ws : List UInt32, ws.length = n ∧ RtpMessage.words ws = bs := by
  induction n generalizing bs with
  | zero => exact ⟨[], rfl, (List.eq_nil_of_length_eq_zero h).symm⟩
  | succ n ih =>
    obtain ⟨ws, hlen, hwords⟩ := ih (bs.drop 4) (by rw [List.length_drop]; omega)
    have htake : (bs.take 4).length = 4 := by rw [List.length_take]; omega
    have hlt : ofBytes (bs.take 4) < 2 ^ 32 := by
      have h4 := ofBytes_lt (bs.take 4)
      rw [htake] at h4
      exact h4
    have hword : toBytes 4 (UInt32.ofNat (ofBytes (bs.take 4))).toNat = bs.take 4 := by
      rw [UInt32.toNat_ofNat_of_lt' hlt]
      calc toBytes 4 (ofBytes (bs.take 4))
          = toBytes (bs.take 4).length (ofBytes (bs.take 4)) := by rw [htake]
        _ = bs.take 4 := toBytes_ofBytes _
    refine ⟨UInt32.ofNat (ofBytes (bs.take 4)) :: ws, by rw [List.length_cons, hlen], ?_⟩
    rw [RtpMessage.words, List.flatMap_cons, hword]
    exact (congrArg (bs.take 4 ++ ·) hwords).trans (List.take_append_drop 4 bs)

/-- Bytes that lie within `d`, read one by one. -/
theorem take_drop_eq {d : Bytes} {i n : ℕ} (h : i + n ≤ d.length) :
    (d.drop i).take n = (List.range n).map fun k => d.getD (i + k) 0 := by
  apply List.ext_getElem?
  intro k
  rw [List.getElem?_take, List.getElem?_map]
  by_cases hk : k < n
  · rw [if_pos hk, List.getElem?_drop, List.getElem?_range hk, Option.map_some]
    exact readByte_eq (by omega)
  · rw [if_neg hk, List.getElem?_eq_none (by rw [List.length_range]; omega)]
    rfl

theorem drop_split (d : Bytes) (i n : ℕ) : d.drop i = (d.drop i).take n ++ d.drop (i + n) := by
  rw [← List.drop_drop, List.take_append_drop]

theorem firstByte_eq {b : UInt8} (h : b >>> 6 = 2) :
    0x80 ||| (if b &&& 0x20 != 0 then 0x20 else 0) ||| (if b &&& 0x10 != 0 then 0x10 else 0) |||
      (b &&& 0x0f) = b ∧ (b &&& 0x0f).toNat ≤ 15 := by
  have hbits : ∀ n : Fin 256, UInt8.ofNat n >>> 6 = 2 →
      0x80 ||| (if UInt8.ofNat n &&& 0x20 != 0 then 0x20 else 0) |||
        (if UInt8.ofNat n &&& 0x10 != 0 then 0x10 else 0) |||
        (UInt8.ofNat n &&& 0x0f) = UInt8.ofNat n ∧
          (UInt8.ofNat n &&& 0x0f).toNat ≤ 15 := by
    decide +kernel
  have hb := hbits ⟨b.toNat, b.toNat_lt⟩
  simp only [UInt8.ofNat_toNat] at hb
  exact hb h

theorem secondByte_eq (b : UInt8) :
    (if b &&& 0x80 != 0 then 0x80 else 0) ||| (b &&& 0x7f) = b ∧ (b &&& 0x7f).toNat < 128 := by
  have hbits : ∀ n : Fin 256,
      (if UInt8.ofNat n &&& 0x80 != 0 then 0x80 else 0) ||| (UInt8.ofNat n &&& 0x7f) =
        UInt8.ofNat n ∧ (UInt8.ofNat n &&& 0x7f).toNat < 128 := by
    decide +kernel
  have hb := hbits ⟨b.toNat, b.toNat_lt⟩
  simpa only [UInt8.ofNat_toNat] using hb

/-- What lies between the contributing sources and the end of the header is an extension. -/
theorem HeaderFits.exists_extension {d : Bytes} (h : HeaderFits d) :
    ∃ extension : Option (UInt16 × List UInt32),
      extension.isSome = (d.getD 0 0 &&& 0x10 != 0) ∧
      extensionPart extension =
        (d.drop (12 + (d.getD 0 0 &&& 0x0f).toNat * 4)).take
          (headerEnd d - (12 + (d.getD 0 0 &&& 0x0f).toNat * 4)) := by
  obtain ⟨-, -, hend⟩ := h
  unfold headerEnd at hend ⊢
  dsimp only at hend ⊢
  generalize 12 + (d.getD 0 0 &&& 0x0f).toNat * 4 = offset at hend ⊢
  cases hbit : (d.getD 0 0 &&& 0x10 != 0) with
  | false =>
    refine ⟨none, rfl, ?_⟩
    rw [if_neg (by decide), Nat.sub_self]
    rfl
  | true =>
    rw [hbit, if_pos rfl] at hend
    obtain ⟨ws, hlen, hwords⟩ := words_surjective (extensionWords d offset)
      ((d.drop (offset + 4)).take (extensionWords d offset * 4))
      (by rw [List.length_take, List.length_drop]; omega)
    refine ⟨some ((d.getD offset 0).toUInt16 <<< 8 ||| (d.getD (offset + 1) 0).toUInt16, ws),
      rfl, ?_⟩
    have hcount : toBytes 2 ws.length = [d.getD (offset + 2) 0, d.getD (offset + 3) 0] := by
      have hspell : ws.length = ofBytes [d.getD (offset + 2) 0, d.getD (offset + 3) 0] := by
        rw [hlen, extensionWords]
        simp [ofBytes]
      rw [hspell]
      exact toBytes_ofBytes [d.getD (offset + 2) 0, d.getD (offset + 3) 0]
    have hhead : (d.drop offset).take 4 = [d.getD offset 0, d.getD (offset + 1) 0,
        d.getD (offset + 2) 0, d.getD (offset + 3) 0] := take_drop_eq (by omega)
    have hlength : offset + 4 + extensionWords d offset * 4 - offset =
        4 + extensionWords d offset * 4 := by omega
    rw [if_pos rfl, hlength, List.take_add, List.drop_drop, hhead, extensionPart, toBytes_word16,
      hcount, hwords]
    rfl

/-- What the receiver takes off at the end is padding. -/
theorem WellFormedRtp.exists_padding {d : Bytes} (h : WellFormedRtp d) :
    paddingTaken d ≤ d.length - headerEnd d ∧
      ∃ padding : Option Bytes, padding.isSome = padded d ∧
        (∀ filler, padding = some filler → filler.length < 255) ∧
        paddingPart padding = d.drop (d.length - paddingTaken d) := by
  have hmin := h.header.fixed
  unfold paddingTaken
  cases hpadded : padded d with
  | false =>
    refine ⟨Nat.zero_le _, none, rfl, nofun, ?_⟩
    rw [if_neg (by decide), Nat.sub_zero, List.drop_length]
    rfl
  | true =>
    obtain ⟨hone, hle⟩ := h.padding hpadded
    have hlt : lastByte d < 256 := UInt8.toNat_lt _
    have hlast : d.getD (d.length - 1) 0 = UInt8.ofNat (lastByte d) := UInt8.ofNat_toNat.symm
    have hfiller : ((d.drop (d.length - lastByte d)).take (lastByte d - 1)).length =
        lastByte d - 1 := by
      rw [List.length_take, List.length_drop]
      omega
    refine ⟨hle, some ((d.drop (d.length - lastByte d)).take (lastByte d - 1)), rfl, ?_, ?_⟩
    · intro filler hsome
      rw [← Option.some.inj hsome, hfiller]
      omega
    · have hone : (d.drop (d.length - 1)).take 1 = [d.getD (d.length - 1) 0] :=
        take_drop_eq (by omega)
      have hend : (d.drop (d.length - 1)).take 1 = d.drop (d.length - 1) := by
        rw [List.take_of_length_le]
        rw [List.length_drop]
        omega
      have hsplit : d.drop (d.length - lastByte d) =
          (d.drop (d.length - lastByte d)).take (lastByte d - 1) ++ d.drop (d.length - 1) := by
        have hindex : d.length - lastByte d + (lastByte d - 1) = d.length - 1 := by omega
        rw [← hindex]
        exact drop_split d _ _
      rw [if_pos rfl, paddingPart, hfiller, Nat.sub_add_cancel (by assumption), ← hlast, ← hone, hend]
      exact hsplit.symm

/-- The parts of a well-formed datagram put together again. -/
theorem WellFormedRtp.exists_message {d : Bytes} (h : WellFormedRtp d) :
    ∃ m : RtpMessage, m.encode = d := by
  obtain ⟨extension, hextension, hextBytes⟩ := h.header.exists_extension
  obtain ⟨htaken, padding, hpadding, hfiller, hpadBytes⟩ := h.exists_padding
  obtain ⟨hmin, hversion, hend⟩ := h.header
  obtain ⟨hfirst, hcount⟩ := firstByte_eq hversion
  obtain ⟨hsecond, htype⟩ := secondByte_eq (d.getD 1 0)
  have hoffset : 12 + (d.getD 0 0 &&& 0x0f).toNat * 4 ≤ headerEnd d := by
    unfold headerEnd
    dsimp only
    split <;> omega
  obtain ⟨csrcs, hcsrcs, hcsrcBytes⟩ := words_surjective (d.getD 0 0 &&& 0x0f).toNat
    ((d.drop 12).take ((d.getD 0 0 &&& 0x0f).toNat * 4))
    (by rw [List.length_take, List.length_drop]; omega)
  refine ⟨{ payloadType := d.getD 1 0 &&& 0x7f
            marker := d.getD 1 0 &&& 0x80 != 0
            sequence := (d.getD 2 0).toUInt16 <<< 8 ||| (d.getD 3 0).toUInt16
            timestamp := (d.getD 4 0).toUInt32 <<< 24 ||| (d.getD 5 0).toUInt32 <<< 16 |||
              (d.getD 6 0).toUInt32 <<< 8 ||| (d.getD 7 0).toUInt32
            ssrc := (d.getD 8 0).toUInt32 <<< 24 ||| (d.getD 9 0).toUInt32 <<< 16 |||
              (d.getD 10 0).toUInt32 <<< 8 ||| (d.getD 11 0).toUInt32
            csrcs := csrcs
            extension := extension
            payload := (d.drop (headerEnd d)).take (d.length - paddingTaken d - headerEnd d)
            padding := padding
            payloadType_lt := htype
            csrcs_le := by rw [hcsrcs]; exact hcount
            padding_le := hfiller }, ?_⟩
  have hcount : UInt8.ofNat csrcs.length = d.getD 0 0 &&& 0x0f := by
    rw [hcsrcs, UInt8.ofNat_toNat]
  have hfixed : d.take 12 = [d.getD 0 0, d.getD 1 0, d.getD 2 0, d.getD 3 0, d.getD 4 0,
      d.getD 5 0, d.getD 6 0, d.getD 7 0, d.getD 8 0, d.getD 9 0, d.getD 10 0, d.getD 11 0] := by
    have hbytes := take_drop_eq (d := d) (i := 0) (n := 12) (by omega)
    simp only [Nat.zero_add] at hbytes
    exact hbytes
  -- the datagram cut where its parts meet
  have hcut : d = d.take 12 ++ ((d.drop 12).take ((d.getD 0 0 &&& 0x0f).toNat * 4) ++
      ((d.drop (12 + (d.getD 0 0 &&& 0x0f).toNat * 4)).take
          (headerEnd d - (12 + (d.getD 0 0 &&& 0x0f).toNat * 4)) ++
        ((d.drop (headerEnd d)).take (d.length - paddingTaken d - headerEnd d) ++
          d.drop (d.length - paddingTaken d)))) := by
    have hpayload : headerEnd d + (d.length - paddingTaken d - headerEnd d) =
        d.length - paddingTaken d := by omega
    have hheader : 12 + (d.getD 0 0 &&& 0x0f).toNat * 4 +
        (headerEnd d - (12 + (d.getD 0 0 &&& 0x0f).toNat * 4)) = headerEnd d := by omega
    have h₁ := drop_split d (headerEnd d) (d.length - paddingTaken d - headerEnd d)
    have h₂ := drop_split d (12 + (d.getD 0 0 &&& 0x0f).toNat * 4)
      (headerEnd d - (12 + (d.getD 0 0 &&& 0x0f).toNat * 4))
    have h₃ := drop_split d 12 ((d.getD 0 0 &&& 0x0f).toNat * 4)
    rw [hpayload] at h₁
    rw [hheader] at h₂
    rw [← h₁, ← h₂, ← h₃, List.take_append_drop]
  rw [RtpMessage.encode, RtpMessage.extensionBytes, RtpMessage.paddingBytes, RtpMessage.firstByte,
    RtpMessage.secondByte]
  dsimp only
  rw [hextension, hpadding, hcount, hsecond, toBytes_word16, toBytes_word32,
    toBytes_word32, hcsrcBytes, hextBytes, hpadBytes, padded, hfirst]
  conv_rhs => rw [hcut, hfixed]
  simp only [List.cons_append, List.nil_append, List.append_assoc]

theorem wellFormed_encode (m : RtpMessage) (h : m.encode.length ≤ 65536) :
    WellFormedRtp m.encode := by
  obtain ⟨hversion, -, -, hbit⟩ := m.firstByte_bits
  have hfirst : m.encode.getD 0 0 = m.firstByte := rfl
  have hend : headerEnd m.encode = m.payloadOffset := by
    rw [← m.offset_read h, headerEnd, hfirst]
    rfl
  have hlen := m.length_encode
  refine ⟨⟨?_, ?_, ?_⟩, ?_⟩
  · rw [hlen, RtpMessage.payloadOffset]
    omega
  · rw [hfirst, hversion]
  · rw [hend, hlen]
    omega
  · intro hpadded
    rw [padded, hfirst, bne_iff_ne, hbit] at hpadded
    obtain ⟨filler, hfiller⟩ := Option.isSome_iff_exists.mp hpadded
    have hlast : lastByte m.encode = m.paddingBytes.length := m.padding_read hfiller
    have hpos : 1 ≤ m.paddingBytes.length := by
      rw [RtpMessage.paddingBytes, hfiller, paddingPart, List.length_append, List.length_singleton]
      omega
    rw [hlast, hend, hlen]
    omega

/-- **The well-formed datagrams are the encodings of messages**, and each is received with
    the fields of the message it encodes. -/
theorem wellFormed_iff_received {d : Bytes} (h : d.length ≤ 65536) :
    WellFormedRtp d ↔ ∃ m : RtpMessage, m.encode = d ∧ receiveDatagram d = some m.packet := by
  refine ⟨?_, ?_⟩
  · intro hwf
    obtain ⟨m, rfl⟩ := hwf.exists_message
    refine ⟨m, rfl, ?_⟩
    rw [receiveDatagram, List.take_of_length_le h]
    exact m.receive_encoding h
  · intro hmessage
    obtain ⟨m, rfl, -⟩ := hmessage
    exact wellFormed_encode m h

/-- One byte of payload before two of padding. -/
def twoPadded : Bytes := [0xa0, 96, 0, 1, 0, 0, 0, 0, 0, 0, 0, 0, 7, 0, 2]

theorem twoPadded_received :
    ∃ m : RtpMessage, m.encode = twoPadded ∧ receiveDatagram twoPadded = some m.packet :=
  (wellFormed_iff_received (by decide)).mp
    ⟨⟨by decide, by decide, by decide⟩, fun _ => ⟨by decide, by decide⟩⟩

/-! ## What is accepted -/

/-- The receiver accepts a datagram whose header fits when what it takes for padding lies
    behind the header. -/
theorem receive_isSome_iff (d : Bytes) :
    (receive d).isSome = true ↔ HeaderFits d ∧ paddingTaken d ≤ d.length - headerEnd d := by
  refine ⟨?_, ?_⟩
  · intro haccepted
    unfold receive at haccepted
    dsimp only at haccepted
    rw [← paddingTaken_eq] at haccepted
    by_cases hmin : d.length < 12
    · rw [if_pos hmin] at haccepted
      cases haccepted
    · rw [if_neg hmin] at haccepted
      by_cases hversion : d.getD 0 0 >>> 6 ≠ 2
      · rw [if_pos hversion] at haccepted
        cases haccepted
      · rw [if_neg hversion] at haccepted
        split at haccepted
        · cases haccepted
        · split at haccepted
          · cases haccepted
          · change (if d.length < headerEnd d then none
              else if d.length - headerEnd d < paddingTaken d then none
              else some _).isSome = true at haccepted
            by_cases hend : d.length < headerEnd d
            · rw [if_pos hend] at haccepted
              cases haccepted
            · rw [if_neg hend] at haccepted
              by_cases htaken : d.length - headerEnd d < paddingTaken d
              · rw [if_pos htaken] at haccepted
                cases haccepted
              · exact ⟨⟨Nat.not_lt.mp hmin, not_not.mp hversion, Nat.not_lt.mp hend⟩,
                  Nat.not_lt.mp htaken⟩
  · intro hfits
    obtain ⟨⟨hmin, hversion, hend⟩, htaken⟩ := hfits
    rw [receive_of_parts (headerEnd d) (paddingTaken d) hmin hversion rfl
      (paddingTaken_eq d).symm (by omega)]
    rfl

/-- What is asked of the receiver for a received datagram: no read past its end, acceptance
    exactly of the well formed, and a packet that a refusal leaves alone. -/
def ReceivesExactly (d : Bytes) : Prop :=
  ∀ packet, ∃ ok after, receiveInto d packet = some (ok, after) ∧
    (ok = true ↔ WellFormedRtp d) ∧ (ok = false → after = packet)

/-- **The receiver accepts the grammar but for one case**: a datagram whose header fits and
    whose padding bit stands over a last byte of zero. -/
theorem receive_exact_iff (d : Bytes) :
    ReceivesExactly d ↔ ¬ (HeaderFits d ∧ padded d = true ∧ lastByte d = 0) := by
  have hdecides : ReceivesExactly d ↔ ((receive d).isSome = true ↔ WellFormedRtp d) := by
    refine ⟨?_, ?_⟩
    · intro hexact
      obtain ⟨ok, after, heq, hok, -⟩ := hexact {}
      rw [receiveInto_eq] at heq
      cases hreceive : receive d with
      | none =>
        rw [hreceive] at heq
        obtain ⟨rfl, -⟩ := Prod.mk.inj (Option.some.inj heq)
        exact hok
      | some p =>
        rw [hreceive] at heq
        obtain ⟨rfl, -⟩ := Prod.mk.inj (Option.some.inj heq)
        exact hok
    · intro haccepts packet
      refine ⟨_, _, receiveInto_eq d packet, ?_, ?_⟩
      · rw [← haccepts]
        cases receive d <;> rfl
      · cases receive d with
        | none => exact fun _ => rfl
        | some p => exact fun hok => Bool.noConfusion hok
  rw [hdecides, receive_isSome_iff]
  refine ⟨?_, ?_⟩
  · intro haccepts hzero
    obtain ⟨hheader, hpadded, hlast⟩ := hzero
    have htaken : paddingTaken d = 0 := by rw [paddingTaken, if_pos hpadded, hlast]
    have hwf := haccepts.mp ⟨hheader, by omega⟩
    have hcount := (hwf.padding hpadded).1
    omega
  · intro hnot
    refine ⟨?_, ?_⟩
    · intro hfits
      obtain ⟨hheader, htaken⟩ := hfits
      refine ⟨hheader, ?_⟩
      intro hpadded
      rw [paddingTaken, if_pos hpadded] at htaken
      have hlast : lastByte d ≠ 0 := fun hzero => hnot ⟨hheader, hpadded, hzero⟩
      omega
    · intro hwf
      refine ⟨hwf.header, ?_⟩
      rw [paddingTaken]
      split
      · rename_i hpadded
        exact (hwf.padding hpadded).2
      · exact Nat.zero_le _

/-- Two bytes of payload under the padding bit, the last of them zero. -/
def zeroCount : Bytes := [0xa0, 96, 0, 1, 0, 0, 0, 0, 0, 0, 0, 0, 7, 0]

/-- It is accepted, and it is no packet. -/
theorem zeroCount_accepted : ¬ ∀ d : Bytes, d.length ≤ 65536 → ReceivesExactly d := by
  intro hall
  have hexact := hall zeroCount (by decide)
  obtain ⟨ok, after, heq, hok, -⟩ := hexact {}
  have haccepted : (receive zeroCount).isSome = true := by decide
  have hnot : ¬ WellFormedRtp zeroCount := by
    intro hwf
    exact absurd (hwf.padding (by decide)).1 (by decide)
  obtain ⟨p, hp⟩ := Option.isSome_iff_exists.mp haccepted
  rw [receiveInto_eq, hp] at heq
  obtain ⟨rfl, -⟩ := Prod.mk.inj (Option.some.inj heq)
  exact hnot (hok.mp rfl)

end AirPlay2
