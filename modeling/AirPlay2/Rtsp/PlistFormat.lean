import AirPlay2.Lib.BinaryPlist
import AirPlay2.Rtsp.Plist

/- The SETUP answers as a reader of binary property lists sees them. The PTP answer has its
   objects, table and trailer in place and is read as it is meant
   (`setupPtpResponsePlist_read`), but with a zero byte too many before the trailer, so no
   reader that checks the length takes it (`setupPtpResponsePlist_not_exact`). The templates of
   the other answers are short of the bytes of their arrays: the trailer does not stand at the
   end, and what is read there puts the table past it (`setupTemplates_unreadable`). -/
namespace AirPlay2
open Lib Lib.BinaryPlist

/-! ## The trailer of a list that is built -/

/-- The trailer `setup_ptp_response_plist` writes, by the format's words for its numbers. -/
def plistTrailer (objects : List Bytes) : Trailer :=
  { offsetSize := offsetSize ((objectOffsets 8 objects).getLastD 0) 8 1
    refSize := 1
    numObjects := objects.length
    topObject := 0
    tableOffset := 8 + objects.flatten.length }

theorem objectOffsets_eq (start : ℕ) (objects : List Bytes) :
    objectOffsets start objects = startsFrom start objects := by
  induction objects generalizing start with
  | nil => rfl
  | cons object objects ih => rw [objectOffsets, ih, startsFrom]

/-- The loop stops at a width that holds the offset. -/
theorem lt_offsetSize {last fuel size : ℕ} (h : last < 256 ^ (size + fuel)) :
    last < 256 ^ offsetSize last fuel size ∧ size ≤ offsetSize last fuel size ∧
      offsetSize last fuel size ≤ size + fuel := by
  induction fuel generalizing size with
  | zero => exact ⟨h, le_refl size, le_refl size⟩
  | succ fuel ih =>
    rw [offsetSize]
    split
    · have hsum : size + (fuel + 1) = size + 1 + fuel := by omega
      rw [hsum] at h
      obtain ⟨hlt, hle, hge⟩ := ih h
      exact ⟨hlt, by omega, by omega⟩
    · rename_i hshift
      have hzero : last / 2 ^ (size * 8) = 0 := by
        rw [← Nat.shiftRight_eq_div_pow]
        exact not_not.mp hshift
      have hpow : 2 ^ (size * 8) = 256 ^ size := by rw [Nat.mul_comm, Nat.pow_mul]
      rw [hpow] at hzero
      refine ⟨?_, le_refl size, by omega⟩
      exact (Nat.div_eq_zero_iff_lt (Nat.pow_pos (by decide))).mp hzero

/-- A list that is built: seven zeros stand between the table and the offset width, one more
    than the trailer has. -/
theorem encodePlist_eq (objects : List Bytes) :
    encodePlist objects = ascii "bplist00" ++ (objects.flatten ++
      ((startsFrom 8 objects).flatMap (toBytes (plistTrailer objects).offsetSize) ++
        ([0] ++ encodeTrailer (plistTrailer objects)))) := by
  have hheader : (ascii "bplist00").length = 8 := by decide
  have hbyte : ∀ n : ℕ, toBytes 1 n = [UInt8.ofNat n] := by
    intro n
    simp [toBytes]
  have hzeros : List.replicate 8 (0 : UInt8) = toBytes 8 0 := by decide
  unfold encodePlist encodeTrailer plistTrailer
  simp only [objectOffsets_eq, hheader, length_startsFrom, hbyte, hzeros, List.length_append,
    List.append_assoc]
  rfl

section Built

variable (objects : List Bytes)

theorem length_encodePlist : (encodePlist objects).length =
    (plistTrailer objects).tableOffset +
      (plistTrailer objects).numObjects * (plistTrailer objects).offsetSize + 33 := by
  have hheader : (ascii "bplist00").length = 8 := by decide
  rw [encodePlist_eq]
  simp only [List.length_append, hheader, length_encodeTrailer, length_numbers, length_startsFrom,
    List.length_singleton]
  show 8 + (objects.flatten.length + (objects.length * (plistTrailer objects).offsetSize + (1 + 32))) =
    8 + objects.flatten.length + objects.length * (plistTrailer objects).offsetSize + 33
  omega

/-- The objects stand behind the header, the table behind the objects. -/
theorem encodePlist_at : At (encodePlist objects) 8 objects.flatten ∧
    At (encodePlist objects) (plistTrailer objects).tableOffset
      ((startsFrom 8 objects).flatMap (toBytes (plistTrailer objects).offsetSize)) := by
  have hheader : (ascii "bplist00").length = 8 := by decide
  have h := at_whole (encodePlist objects)
  nth_rewrite 2 [encodePlist_eq] at h
  have hbehind := h.right
  rw [hheader, Nat.zero_add] at hbehind
  exact ⟨hbehind.left, hbehind.right.left⟩

variable {objects}
variable (hsize : 8 + objects.flatten.length < 256 ^ 8)

include hsize

theorem offsetSize_bounds :
    (startsFrom 8 objects).getLastD 0 < 256 ^ (plistTrailer objects).offsetSize ∧
      1 ≤ (plistTrailer objects).offsetSize ∧ (plistTrailer objects).offsetSize ≤ 9 := by
  have hlast : (startsFrom 8 objects).getLastD 0 < 256 ^ (1 + 8) :=
    calc (startsFrom 8 objects).getLastD 0 ≤ 8 + objects.flatten.length :=
          getLastD_startsFrom_le objects (Nat.zero_le 8)
      _ < 256 ^ 8 := hsize
      _ ≤ 256 ^ (1 + 8) := by decide
  have hwidth : (plistTrailer objects).offsetSize = offsetSize ((startsFrom 8 objects).getLastD 0) 8 1 := by
    rw [← objectOffsets_eq]
    rfl
  rw [hwidth]
  exact lt_offsetSize hlast

theorem readTrailer_encodePlist (hcount : objects.length < 256 ^ 8) :
    readTrailer (encodePlist objects) = some (plistTrailer objects) := by
  obtain ⟨-, -, hwidth⟩ := offsetSize_bounds hsize
  have hfits : (plistTrailer objects).Fits :=
    { offsetSize := hwidth.trans_lt (by decide)
      refSize := (by decide : 1 < 256)
      numObjects := hcount
      topObject := (by decide : 0 < 256 ^ 8)
      tableOffset := hsize }
  rw [encodePlist_eq]
  simp only [← List.append_assoc]
  exact readTrailer_append hfits _

end Built

/-- Objects that fit are laid out as the format has it. -/
theorem encodePlist_laid {objects : List PObject} (hfits : ∀ object ∈ objects, object.Fits 1)
    (hsize : 8 + (objects.map (encodeObject 1)).flatten.length < 256 ^ 8)
    (hcount : objects.length < 256 ^ 8) :
    Laid (encodePlist (objects.map (encodeObject 1))) (plistTrailer (objects.map (encodeObject 1)))
      objects := by
  obtain ⟨hlast, hone, -⟩ := offsetSize_bounds hsize
  obtain ⟨hbody, htable⟩ := encodePlist_at (objects.map (encodeObject 1))
  have hlength := length_encodePlist (objects.map (encodeObject 1))
  have hmap : (objects.map (encodeObject 1)).length < 256 ^ 8 := by rw [List.length_map]; exact hcount
  exact
    { header := by
        rw [encodePlist_eq]
        exact List.prefix_append _ _
      trailer := readTrailer_encodePlist hsize hmap
      count := List.length_map _
      offsetSize := hone
      refSize := Nat.one_pos
      body := by
        rw [List.flatMap_def]
        exact hbody
      fits := hfits
      table := htable
      starts := fun start hstart => (le_getLastD_startsFrom hstart 0).trans_lt hlast
      tableEnd := by omega }

/-! ## The PTP answer -/

/-- The objects of the PTP answer. -/
def ptpObjects (eventPort : UInt16) (addr : Bytes) : List PObject :=
  [.dict [1, 2, 3] [4, 5, 11], .string (ascii "eventPort"), .string (ascii "timingPeerInfo"),
    .string (ascii "timingPort"), .int 1 eventPort.toNat, .dict [6, 7] [8, 10],
    .string (ascii "Addresses"), .string (ascii "ID"), .array [9], .string addr, .string addr,
    .int 0 0]

/-- The host of the answer; an empty one means the loopback address. -/
def ptpAddress (host : Bytes) : Bytes := if host = [] then ascii "127.0.0.1" else host

/-- What the PTP answer is meant to say. -/
def ptpAnswer (eventPort : UInt16) (host : Bytes) : Plist :=
  .dict [(ascii "eventPort", .int eventPort.toNat),
    (ascii "timingPeerInfo", .dict [(ascii "Addresses", .array [.string (ptpAddress host)]),
      (ascii "ID", .string (ptpAddress host))]),
    (ascii "timingPort", .int 0)]

theorem portBytes_eq (port : UInt16) : portBytes port = toBytes 2 port.toNat := bytes16_eq port

theorem length_ptpAddress {host : Bytes} (hlength : host.length < 15) :
    (ptpAddress host).length < 15 := by
  unfold ptpAddress
  split
  · decide
  · exact hlength

/-- The answer is built from these objects. -/
theorem setupPtpResponsePlist_eq (eventPort : UInt16) {host : Bytes} (hlength : host.length < 15) :
    setupPtpResponsePlist eventPort host =
      .ok (encodePlist ((ptpObjects eventPort (ptpAddress host)).map (encodeObject 1))) := by
  have haddr : (if host = [] then ascii "127.0.0.1" else host) = ptpAddress host := rfl
  rw [setupPtpResponsePlist_of_short eventPort haddr (length_ptpAddress hlength), portBytes_eq]
  rfl

theorem string_fits {s : Bytes} (hlength : s.length < 15) (hascii : s.all (· < 128) = true) :
    (PObject.string s).Fits 1 := by
  refine ⟨hlength, ?_⟩
  intro c hc
  exact of_decide_eq_true (List.all_eq_true.mp hascii c hc)

theorem ptpObjects_fit (eventPort : UInt16) {addr : Bytes} (hlength : addr.length < 15)
    (hascii : ∀ c ∈ addr, c < 128) : ∀ object ∈ ptpObjects eventPort addr, object.Fits 1 := by
  have hport : eventPort.toNat < 256 ^ 2 ^ 1 := eventPort.toNat_lt
  intro object hobject
  simp only [ptpObjects, List.mem_cons, List.not_mem_nil, or_false] at hobject
  obtain rfl | rfl | rfl | rfl | rfl | rfl | rfl | rfl | rfl | rfl | rfl | rfl := hobject
  · exact ⟨by decide, rfl, by decide, by decide⟩
  · exact string_fits (by decide) (by decide)
  · exact string_fits (by decide) (by decide)
  · exact string_fits (by decide) (by decide)
  · exact ⟨by decide, hport⟩
  · exact ⟨by decide, rfl, by decide, by decide⟩
  · exact string_fits (by decide) (by decide)
  · exact string_fits (by decide) (by decide)
  · exact ⟨by decide, by decide⟩
  · exact ⟨hlength, hascii⟩
  · exact ⟨hlength, hascii⟩
  · exact ⟨by decide, by decide⟩

theorem length_ptpObjects (eventPort : UInt16) (addr : Bytes) :
    ((ptpObjects eventPort addr).map (encodeObject 1)).flatten.length = 70 + 2 * addr.length := by
  simp only [ptpObjects, List.map_cons, List.map_nil, List.flatten_cons, List.flatten_nil,
    List.length_append, List.length_nil]
  show 7 + (10 + (15 + (11 + (3 + (5 + (10 + (3 + (2 + (addr.length + 1 + (addr.length + 1 +
    (2 + 0))))))))))) = 70 + 2 * addr.length
  omega

/-- The answer is small. -/
theorem ptpObjects_size (eventPort : UInt16) {host : Bytes} (hlength : host.length < 15) :
    8 + ((ptpObjects eventPort (ptpAddress host)).map (encodeObject 1)).flatten.length < 256 ^ 8 := by
  have haddr := length_ptpAddress hlength
  rw [length_ptpObjects]
  calc 8 + (70 + 2 * (ptpAddress host).length) < 256 := by omega
    _ ≤ 256 ^ 8 := by decide

theorem resolve_ptpObjects (eventPort : UInt16) (host : Bytes) :
    resolve (fun i => (ptpObjects eventPort (ptpAddress host))[i]?) 12 0 =
      some (ptpAnswer eventPort host) := rfl

/-- The answer is a binary property list to the byte, with its twelve objects where the table
    has them and the trailer at the end, and says what it is meant to say. -/
def PtpAnswered (eventPort : UInt16) (host : Bytes) : Prop :=
  ∃ body t starts, setupPtpResponsePlist eventPort host = .ok body ∧ Indexed body t starts ∧
    t.numObjects = 12 ∧ t.Exact body ∧ decode body = some (ptpAnswer eventPort host)

/-- The same answer but for its length, which is one byte more than the trailer implies. -/
def PtpReadable (eventPort : UInt16) (host : Bytes) : Prop :=
  ∃ body t starts, setupPtpResponsePlist eventPort host = .ok body ∧ Indexed body t starts ∧
    t.numObjects = 12 ∧ body.length = t.tableOffset + t.numObjects * t.offsetSize + 32 + 1 ∧
    decode body = some (ptpAnswer eventPort host)

/-- Every host that fits is read back. -/
theorem setupPtpResponsePlist_read (eventPort : UInt16) {host : Bytes} (hlength : host.length < 15)
    (hascii : ∀ c ∈ host, c < 128) : PtpReadable eventPort host := by
  have haddr : (ptpAddress host).length < 15 := length_ptpAddress hlength
  have hbytes : ∀ c ∈ ptpAddress host, c < 128 := by
    unfold ptpAddress
    split
    · exact (string_fits (by decide) (by decide)).2
    · exact hascii
  have hlaid := encodePlist_laid (ptpObjects_fit eventPort haddr hbytes)
    (ptpObjects_size eventPort hlength) (show 12 < 256 ^ 8 by decide)
  refine ⟨_, _, _, setupPtpResponsePlist_eq eventPort hlength, hlaid.indexed ?_, rfl, ?_, ?_⟩
  · rw [List.flatMap_def]
    rfl
  · exact length_encodePlist _
  · exact hlaid.decode.trans (resolve_ptpObjects eventPort host)

/-- No answer has the length its trailer implies. -/
theorem setupPtpResponsePlist_not_exact {eventPort : UInt16} {host body : Bytes} {t : Trailer}
    (hbody : setupPtpResponsePlist eventPort host = .ok body) (ht : readTrailer body = some t) :
    ¬ t.Exact body := by
  have hlength : host.length < 15 := by
    by_contra hlong
    obtain ⟨e, he⟩ := (setupPtpResponsePlist_throws_iff eventPort host).mpr (not_lt.mp hlong)
    rw [hbody] at he
    cases he
  obtain rfl := Except.ok.inj ((setupPtpResponsePlist_eq eventPort hlength).symm.trans hbody)
  rw [readTrailer_encodePlist (ptpObjects_size eventPort hlength) (show 12 < 256 ^ 8 by decide)] at ht
  obtain rfl := Option.some.inj ht
  intro hexact
  have htotal := length_encodePlist ((ptpObjects eventPort (ptpAddress host)).map (encodeObject 1))
  unfold Trailer.Exact at hexact
  omega

/-- **The PTP answer is never a property list to the byte**: of every host that fits, the
    answer is read as it is meant and is one byte too long. -/
theorem ptpAnswered_never (eventPort : UInt16) (host : Bytes) : ¬ PtpAnswered eventPort host ∧
    (host.length < 15 → (∀ c ∈ host, c < 128) → PtpReadable eventPort host) := by
  refine ⟨?_, setupPtpResponsePlist_read eventPort⟩
  intro h
  obtain ⟨body, t, starts, hbody, hindexed, -, hexact, -⟩ := h
  exact setupPtpResponsePlist_not_exact hbody hindexed.trailer hexact

/-- The answer to the loopback address: 141 bytes where the trailer implies 140. -/
theorem ptpAnswered_loopback : ¬ PtpAnswered 7000 [] := by
  intro h
  obtain ⟨body, t, starts, hbody, hindexed, -, hexact, -⟩ := h
  exact setupPtpResponsePlist_not_exact hbody hindexed.trailer hexact

/-! ## The templates -/

/-- What the answer without PTP is meant to say. -/
def eventAnswer (eventPort timingPort : UInt16) : Plist :=
  .dict [(ascii "eventPort", .int eventPort.toNat), (ascii "timingPort", .int timingPort.toNat)]

/-- What the answer to a stream SETUP is meant to say. -/
def streamAnswer (dataPort controlPort : UInt16) (type : ℤ) : Plist :=
  .dict [(ascii "streams", .array [.dict
    (if type = 96 then
      [(ascii "dataPort", .int dataPort.toNat), (ascii "controlPort", .int controlPort.toNat),
        (ascii "type", .int 96)]
    else [(ascii "dataPort", .int dataPort.toNat), (ascii "type", .int 110)])])]

theorem length_patchPort (template : Bytes) (pos : ℕ) (port : UInt16) :
    (patchPort template pos port).length = template.length := by
  rw [patchPort, List.length_set, List.length_set]

/-- A port that is patched in before the trailer leaves it as it is. -/
theorem readTrailer_patchPort {template : Bytes} {pos : ℕ} (h : pos + 33 < template.length)
    (port : UInt16) : readTrailer (patchPort template pos port) = readTrailer template := by
  have hread : ∀ width k, readNumber (patchPort template pos port) width (template.length - 32 + k) =
      readNumber template width (template.length - 32 + k) := by
    intro width k
    unfold patchPort
    rw [readNumber_set (by omega), readNumber_set (by omega)]
  simp only [readTrailer, length_patchPort, hread]

/-- The last eight bytes of each template are the table's place times a power of 256, for the
    bytes that its array is short of. -/
theorem readTrailer_templates :
    (readTrailer eventTemplate).map Trailer.tableOffset = some (0x28 * 256 ^ 3) ∧
      (readTrailer audioStreamTemplate).map Trailer.tableOffset = some (0x3e * 256 ^ 5) ∧
      (readTrailer videoStreamTemplate).map Trailer.tableOffset = some (0x2d * 256 ^ 4) := by
  refine ⟨?_, ?_, ?_⟩ <;> decide +kernel

/-- What ends as a template whose table lies past its end is not read. -/
theorem decode_like_template {template msg : Bytes} {offset : ℕ}
    (hlength : msg.length = template.length) (htrailer : readTrailer msg = readTrailer template)
    (htable : (readTrailer template).map Trailer.tableOffset = some offset)
    (hend : template.length ≤ offset) : decode msg = none := by
  obtain ⟨t, ht, rfl⟩ := Option.map_eq_some_iff.mp htable
  exact decode_eq_none (htrailer.trans ht) (by omega)

theorem setupEventResponsePlist_unreadable (eventPort timingPort : UInt16) :
    decode (setupEventResponsePlist eventPort timingPort) = none := by
  have htemplate : eventTemplate.length = 77 := by decide
  have hlength : (patchPort eventTemplate 35 eventPort).length = 77 := by
    rw [length_patchPort, htemplate]
  apply decode_like_template _ _ readTrailer_templates.1 (by decide)
  · rw [setupEventResponsePlist, length_patchPort, length_patchPort]
  · rw [setupEventResponsePlist, readTrailer_patchPort (by omega), readTrailer_patchPort (by omega)]

theorem setupStreamResponsePlist_unreadable (dataPort controlPort : UInt16) (type : ℤ) :
    decode (setupStreamResponsePlist dataPort controlPort type) = none := by
  unfold setupStreamResponsePlist
  split
  · have htemplate : audioStreamTemplate.length = 104 := by decide
    have hlength : (patchPort audioStreamTemplate 55 dataPort).length = 104 := by
      rw [length_patchPort, htemplate]
    apply decode_like_template _ _ readTrailer_templates.2.1 (by decide)
    · rw [length_patchPort, length_patchPort]
    · rw [readTrailer_patchPort (by omega), readTrailer_patchPort (by omega)]
  · have htemplate : videoStreamTemplate.length = 85 := by decide
    apply decode_like_template _ _ readTrailer_templates.2.2 (by decide)
    · exact length_patchPort _ _ _
    · rw [readTrailer_patchPort (by omega)]

/-- **No SETUP answer from a template is a property list**, whatever the ports and the type. -/
theorem setupTemplates_unreadable (eventPort timingPort dataPort controlPort : UInt16) (type : ℤ) :
    decode (setupEventResponsePlist eventPort timingPort) ≠ some (eventAnswer eventPort timingPort) ∧
      decode (setupStreamResponsePlist dataPort controlPort type) ≠
        some (streamAnswer dataPort controlPort type) := by
  rw [setupEventResponsePlist_unreadable, setupStreamResponsePlist_unreadable]
  exact ⟨nofun, nofun⟩

/-- The answers with the ports of a first session. -/
theorem setupTemplates_first :
    decode (setupEventResponsePlist 7001 7002) ≠ some (eventAnswer 7001 7002) ∧
      decode (setupStreamResponsePlist 7003 7004 96) ≠ some (streamAnswer 7003 7004 96) ∧
      decode (setupStreamResponsePlist 7003 7004 110) ≠ some (streamAnswer 7003 7004 110) := by
  rw [setupEventResponsePlist_unreadable, setupStreamResponsePlist_unreadable,
    setupStreamResponsePlist_unreadable]
  exact ⟨nofun, nofun, nofun⟩

end AirPlay2
