import AirPlay2.Lib.Reading

/- Binary property lists (`bplist00`). A file is a header, objects one behind the other, a
   table of where each starts, and a trailer in the last 32 bytes. A reader begins at the
   trailer, which says where the table is and how wide its entries are; objects refer to
   each other by number, and the value is what the top object stands for (`decode`). A file
   that holds nothing else has the length the trailer implies (`Trailer.Exact`); one that
   has more bytes between the table and the trailer is still read (`Laid.decode`). -/
namespace Lib.BinaryPlist
open Lib

/-! ## Values and objects -/

/-- The value of a property list; a dictionary is in the order of the file. -/
inductive Plist where
  | bool (b : Bool)
  | int (n : ℤ)
  | data (bytes : Bytes)
  | string (s : Bytes)
  | array (items : List Plist)
  | dict (entries : List (Bytes × Plist))

/-- An object as it is stored: a number in `2 ^ exponent` bytes, and references to other
    objects by their number. -/
inductive PObject where
  | bool (b : Bool)
  | int (exponent n : ℕ)
  | data (bytes : Bytes)
  | string (s : Bytes)
  | array (refs : List ℕ)
  | dict (keys values : List ℕ)
  deriving DecidableEq

/-- Numbers of eight bytes are signed, shorter ones are not. -/
def intValue (exponent n : ℕ) : ℤ := if exponent = 3 ∧ 2 ^ 63 ≤ n then n - 2 ^ 64 else n

/-! ## Reading one object -/

/-- The count of a marker and where the parts start; 15 means that a number follows. -/
def readCount (msg : Bytes) (pos low : ℕ) : Option (ℕ × ℕ) :=
  if low < 15 then some (low, pos + 1)
  else
    match msg[pos + 1]? with
    | none => none
    | some marker =>
      let exponent := marker.toNat % 16
      if marker.toNat / 16 = 1 ∧ exponent ≤ 3 then
        (readNumber msg (2 ^ exponent) (pos + 2)).map fun n => (n, pos + 2 + 2 ^ exponent)
      else none

/-- An object of `count` parts from `start` on. -/
def readParts (msg : Bytes) (refSize kind count start : ℕ) : Option (PObject × ℕ) :=
  if kind = 4 then (readBytes msg count start).map fun bytes => (.data bytes, start + count)
  else if kind = 5 then
    (readBytes msg count start).bind fun s =>
      if s.all (· < 128) then some (.string s, start + count) else none
  else if kind = 10 then
    (readNumbers msg refSize count start).map fun refs => (.array refs, start + count * refSize)
  else if kind = 13 then
    (readNumbers msg refSize count start).bind fun keys =>
      (readNumbers msg refSize count (start + count * refSize)).map fun values =>
        (.dict keys values, start + count * refSize + count * refSize)
  else none

/-- The object at `pos`, and where it ends. -/
def decodeObject (msg : Bytes) (refSize pos : ℕ) : Option (PObject × ℕ) :=
  match msg[pos]? with
  | none => none
  | some marker =>
    let kind := marker.toNat / 16
    let low := marker.toNat % 16
    if kind = 0 then
      if low = 8 ∨ low = 9 then some (.bool (low = 9), pos + 1) else none
    else if kind = 1 then
      if low ≤ 3 then
        (readNumber msg (2 ^ low) (pos + 1)).map fun n => (.int low n, pos + 1 + 2 ^ low)
      else none
    else
      (readCount msg pos low).bind fun parts => readParts msg refSize kind parts.1 parts.2

/-- The starts of `n` objects one behind the other, and where the last one ends. -/
def objectStarts (msg : Bytes) (refSize : ℕ) : ℕ → ℕ → Option (List ℕ × ℕ)
  | 0, pos => some ([], pos)
  | n + 1, pos => do
    let object ← decodeObject msg refSize pos
    let rest ← objectStarts msg refSize n object.2
    some (pos :: rest.1, rest.2)

/-! ## Reading a file -/

/-- What an object stands for. References that never end are given up on. -/
def resolve (object : ℕ → Option PObject) : ℕ → ℕ → Option Plist
  | 0, _ => none
  | fuel + 1, i =>
    match object i with
    | none => none
    | some (.bool b) => some (.bool b)
    | some (.int exponent n) => some (.int (intValue exponent n))
    | some (.data bytes) => some (.data bytes)
    | some (.string s) => some (.string s)
    | some (.array refs) => (refs.mapM (resolve object fuel)).map .array
    | some (.dict keys values) =>
      (keys.mapM fun key => match object key with | some (.string s) => some s | _ => none).bind
        fun keys => (values.mapM (resolve object fuel)).map fun values => .dict (keys.zip values)

structure Trailer where
  offsetSize : ℕ
  refSize : ℕ
  numObjects : ℕ
  topObject : ℕ
  tableOffset : ℕ
  deriving DecidableEq

/-- The trailer in the last 32 bytes; the first six are not used. -/
def readTrailer (msg : Bytes) : Option Trailer :=
  if msg.length < 32 then none
  else do
    let start := msg.length - 32
    let offsetSize ← readNumber msg 1 (start + 6)
    let refSize ← readNumber msg 1 (start + 7)
    let numObjects ← readNumber msg 8 (start + 8)
    let topObject ← readNumber msg 8 (start + 16)
    let tableOffset ← readNumber msg 8 (start + 24)
    some
      { offsetSize := offsetSize, refSize := refSize, numObjects := numObjects
        topObject := topObject, tableOffset := tableOffset }

/-- The object a number refers to, by the table of starts. -/
def objectAt (msg : Bytes) (refSize : ℕ) (starts : List ℕ) (i : ℕ) : Option PObject :=
  starts[i]?.bind fun start => (decodeObject msg refSize start).map Prod.fst

/-- The value of a file. The table ends before the trailer. -/
def decode (msg : Bytes) : Option Plist :=
  if !(ascii "bplist00").isPrefixOf msg then none
  else
    match readTrailer msg with
    | none => none
    | some t =>
      if msg.length < t.tableOffset + t.numObjects * t.offsetSize + 32 ∨ t.offsetSize = 0 ∨
          t.refSize = 0 then none
      else
        (readNumbers msg t.offsetSize t.numObjects t.tableOffset).bind fun starts =>
          resolve (objectAt msg t.refSize starts) t.numObjects t.topObject

/-- The file ends with the table and the trailer. -/
def Trailer.Exact (t : Trailer) (msg : Bytes) : Prop :=
  msg.length = t.tableOffset + t.numObjects * t.offsetSize + 32

/-! ## Writing objects -/

/-- The first byte of an object. -/
def marker (kind low : ℕ) : UInt8 := UInt8.ofNat (16 * kind + low)

/-- An object of fewer than fifteen parts. -/
def encodeObject (refSize : ℕ) : PObject → Bytes
  | .bool b => [marker 0 (if b then 9 else 8)]
  | .int exponent n => marker 1 exponent :: toBytes (2 ^ exponent) n
  | .data bytes => marker 4 bytes.length :: bytes
  | .string s => marker 5 s.length :: s
  | .array refs => marker 10 refs.length :: refs.flatMap (toBytes refSize)
  | .dict keys values =>
    marker 13 keys.length :: (keys.flatMap (toBytes refSize) ++ values.flatMap (toBytes refSize))

/-- The parts of the object fit their fields. -/
def PObject.Fits (refSize : ℕ) : PObject → Prop
  | .bool _ => True
  | .int exponent n => exponent ≤ 3 ∧ n < 256 ^ 2 ^ exponent
  | .data bytes => bytes.length < 15
  | .string s => s.length < 15 ∧ ∀ c ∈ s, c < 128
  | .array refs => refs.length < 15 ∧ ∀ r ∈ refs, r < 256 ^ refSize
  | .dict keys values => keys.length < 15 ∧ values.length = keys.length ∧
      (∀ r ∈ keys, r < 256 ^ refSize) ∧ ∀ r ∈ values, r < 256 ^ refSize

variable {msg : Bytes} {pos : ℕ}

theorem toNat_marker {kind low : ℕ} (hkind : kind < 16) (hlow : low < 16) :
    (marker kind low).toNat / 16 = kind ∧ (marker kind low).toNat % 16 = low := by
  have hbyte : (marker kind low).toNat = 16 * kind + low := by
    rw [marker, UInt8.toNat_ofNat']
    omega
  rw [hbyte]
  omega

/-- An object ends where its parts behind the marker end. -/
theorem behind_marker (pos length : ℕ) : pos + 1 + length = pos + (length + 1) := by
  rw [Nat.add_assoc, Nat.add_comm 1]

/-- The count in the marker, and the kind, give the parts behind it. -/
theorem decodeObject_counted {refSize kind count : ℕ} {parts : Bytes} (hkind : 1 < kind ∧ kind < 16)
    (hcount : count < 15) (h : At msg pos (marker kind count :: parts)) :
    decodeObject msg refSize pos = readParts msg refSize kind count (pos + 1) := by
  obtain ⟨hdiv, hmod⟩ := toNat_marker hkind.2 (show count < 16 by omega)
  have hread : readCount msg pos count = some (count, pos + 1) := if_pos hcount
  rw [decodeObject, h.head]
  dsimp only
  rw [hdiv, hmod, if_neg (by omega), if_neg (by omega), hread, Option.bind_some]

/-- **An object is read back where it stands.** -/
theorem decodeObject_at {refSize : ℕ} {object : PObject} (hfits : object.Fits refSize)
    (h : At msg pos (encodeObject refSize object)) :
    decodeObject msg refSize pos = some (object, pos + (encodeObject refSize object).length) := by
  cases object with
  | bool b =>
    rw [decodeObject, h.head]
    cases b <;> rfl
  | int exponent n =>
    obtain ⟨hexponent, hn⟩ := hfits
    obtain ⟨hdiv, hmod⟩ := toNat_marker (show 1 < 16 by decide) (show exponent < 16 by omega)
    have hread := h.tail.readNumber hn
    rw [decodeObject, h.head]
    dsimp only
    rw [hdiv, hmod, if_neg (by decide), if_pos rfl, if_pos hexponent, hread, Option.map_some,
      encodeObject, List.length_cons, length_toBytes, behind_marker]
  | data bytes =>
    have hread := h.tail.readBytes
    rw [decodeObject_counted (by decide) hfits h, readParts, if_pos rfl, hread, Option.map_some,
      encodeObject, List.length_cons, behind_marker]
  | string s =>
    obtain ⟨hlength, hascii⟩ := hfits
    have hread := h.tail.readBytes
    have hall : s.all (· < 128) = true := by
      rw [List.all_eq_true]
      exact fun c hc => decide_eq_true (hascii c hc)
    rw [decodeObject_counted (by decide) hlength h, readParts, if_neg (by decide), if_pos rfl,
      hread, Option.bind_some, if_pos hall, encodeObject, List.length_cons, behind_marker]
  | array refs =>
    obtain ⟨hlength, hrefs⟩ := hfits
    have hread := h.tail.readNumbers hrefs
    rw [decodeObject_counted (by decide) hlength h, readParts, if_neg (by decide),
      if_neg (by decide), if_pos rfl, hread, Option.map_some, encodeObject, List.length_cons,
      length_numbers, behind_marker]
  | dict keys values =>
    obtain ⟨hlength, hvalues, hkeys, hrefs⟩ := hfits
    have hparts := h.tail
    have hread := hparts.left.readNumbers hkeys
    have hreadValues := hparts.right.readNumbers hrefs
    rw [length_numbers, hvalues] at hreadValues
    rw [decodeObject_counted (by decide) hlength h, readParts, if_neg (by decide),
      if_neg (by decide), if_neg (by decide), if_pos rfl, hread, Option.bind_some, hreadValues,
      Option.map_some, encodeObject, List.length_cons, List.length_append, length_numbers,
      length_numbers, hvalues, Nat.add_assoc (pos + 1), behind_marker]

/-! ## Files laid out as the format has it -/

/-- The starts of pieces one behind the other. -/
def startsFrom (start : ℕ) : List Bytes → List ℕ
  | [] => []
  | piece :: pieces => start :: startsFrom (start + piece.length) pieces

def encodeTrailer (t : Trailer) : Bytes :=
  List.replicate 6 0 ++ toBytes 1 t.offsetSize ++ toBytes 1 t.refSize ++ toBytes 8 t.numObjects ++
    toBytes 8 t.topObject ++ toBytes 8 t.tableOffset

/-- The trailer's numbers fit their fields. -/
structure Trailer.Fits (t : Trailer) : Prop where
  offsetSize : t.offsetSize < 256
  refSize : t.refSize < 256
  numObjects : t.numObjects < 256 ^ 8
  topObject : t.topObject < 256 ^ 8
  tableOffset : t.tableOffset < 256 ^ 8

theorem length_startsFrom (start : ℕ) (pieces : List Bytes) :
    (startsFrom start pieces).length = pieces.length := by
  induction pieces generalizing start with
  | nil => rfl
  | cons piece pieces ih => rw [startsFrom, List.length_cons, ih, List.length_cons]

theorem length_encodeTrailer (t : Trailer) : (encodeTrailer t).length = 32 := by
  simp only [encodeTrailer, List.length_append, List.length_replicate, length_toBytes]

/-- The trailer is read back from the end of the file. -/
theorem readTrailer_append {t : Trailer} (hfits : t.Fits) (before : Bytes) :
    readTrailer (before ++ encodeTrailer t) = some t := by
  have hmiddle := at_middle before (encodeTrailer t) []
  rw [List.append_nil] at hmiddle
  have hat : At (before ++ encodeTrailer t) before.length
      (List.replicate 6 0 ++ toBytes 1 t.offsetSize ++ toBytes 1 t.refSize ++
        toBytes 8 t.numObjects ++ toBytes 8 t.topObject ++ toBytes 8 t.tableOffset) := hmiddle
  have hoffset := hat.left.left.left.left.right.readNumber (show _ < 256 ^ 1 from hfits.offsetSize)
  have href := hat.left.left.left.right.readNumber (show _ < 256 ^ 1 from hfits.refSize)
  have hnum := hat.left.left.right.readNumber hfits.numObjects
  have htop := hat.left.right.readNumber hfits.topObject
  have htable := hat.right.readNumber hfits.tableOffset
  have hstart : (before ++ encodeTrailer t).length - 32 = before.length := by
    rw [List.length_append, length_encodeTrailer, Nat.add_sub_cancel]
  have hlong : ¬ (before ++ encodeTrailer t).length < 32 := by
    rw [List.length_append, length_encodeTrailer]
    omega
  simp only [List.length_append, List.length_replicate, length_toBytes, Nat.reduceAdd] at *
  rw [readTrailer, List.length_append, if_neg hlong]
  simp only [hstart, hoffset, href, hnum, htop, htable, Option.bind_eq_bind, Option.bind_some]

theorem readTrailer_at {t : Trailer} (hfits : t.Fits) (h : At msg pos (encodeTrailer t))
    (hend : msg.length = pos + 32) : readTrailer msg = some t := by
  obtain ⟨-, htrailer⟩ := h
  rw [length_encodeTrailer, List.take_of_length_le (by rw [List.length_drop]; omega)] at htrailer
  have hsplit : msg = msg.take pos ++ encodeTrailer t := by
    rw [← htrailer, List.take_append_drop]
  rw [hsplit]
  exact readTrailer_append hfits _

/-- Header, objects, table and trailer are in place; more may stand between the last two. -/
structure Laid (msg : Bytes) (t : Trailer) (objects : List PObject) : Prop where
  header : ascii "bplist00" <+: msg
  trailer : readTrailer msg = some t
  count : t.numObjects = objects.length
  offsetSize : 0 < t.offsetSize
  refSize : 0 < t.refSize
  body : At msg 8 (objects.flatMap (encodeObject t.refSize))
  fits : ∀ object ∈ objects, object.Fits t.refSize
  table : At msg t.tableOffset
    ((startsFrom 8 (objects.map (encodeObject t.refSize))).flatMap (toBytes t.offsetSize))
  starts : ∀ start ∈ startsFrom 8 (objects.map (encodeObject t.refSize)), start < 256 ^ t.offsetSize
  tableEnd : t.tableOffset + t.numObjects * t.offsetSize + 32 ≤ msg.length

/-- Each object is read where the table says it starts. -/
theorem decodeObject_startsFrom {refSize : ℕ} {objects : List PObject}
    (hfits : ∀ object ∈ objects, object.Fits refSize)
    (h : At msg pos (objects.flatMap (encodeObject refSize))) (i : ℕ) :
    objectAt msg refSize (startsFrom pos (objects.map (encodeObject refSize))) i = objects[i]? := by
  induction objects generalizing pos i with
  | nil => rfl
  | cons object objects ih =>
    rw [List.flatMap_cons] at h
    have hfirst := decodeObject_at (hfits object List.mem_cons_self) h.left
    cases i with
    | zero =>
      show (decodeObject msg refSize pos).map Prod.fst = some object
      rw [hfirst]
      rfl
    | succ i => exact ih (fun k hk => hfits k (List.mem_cons_of_mem object hk)) h.right i

/-- Objects one behind the other are found where they start. -/
theorem objectStarts_at {refSize : ℕ} {objects : List PObject}
    (hfits : ∀ object ∈ objects, object.Fits refSize)
    (h : At msg pos (objects.flatMap (encodeObject refSize))) :
    objectStarts msg refSize objects.length pos =
      some (startsFrom pos (objects.map (encodeObject refSize)),
        pos + (objects.flatMap (encodeObject refSize)).length) := by
  induction objects generalizing pos with
  | nil => rfl
  | cons object objects ih =>
    rw [List.flatMap_cons] at h
    have hfirst := decodeObject_at (hfits object List.mem_cons_self) h.left
    have hrest := ih (fun k hk => hfits k (List.mem_cons_of_mem object hk)) h.right
    simp only [List.length_cons, objectStarts, hfirst, hrest, Option.bind_eq_bind, Option.bind_some,
      List.map_cons, startsFrom, List.flatMap_cons, List.length_append, Nat.add_assoc]

/-- The last start is within the pieces. -/
theorem getLastD_startsFrom_le (pieces : List Bytes) {start d : ℕ} (hd : d ≤ start) :
    (startsFrom start pieces).getLastD d ≤ start + pieces.flatten.length := by
  induction pieces generalizing start d with
  | nil => exact hd
  | cons piece pieces ih =>
    have hrest := ih (Nat.le_add_right start piece.length)
    rw [startsFrom, List.getLastD_cons, List.flatten_cons, List.length_append, ← Nat.add_assoc]
    exact hrest

/-- Starts come in order: the last one is the largest. -/
theorem le_getLastD_startsFrom {start s : ℕ} {pieces : List Bytes} (h : s ∈ startsFrom start pieces)
    (d : ℕ) : s ≤ (startsFrom start pieces).getLastD d := by
  have hstart : ∀ (pieces : List Bytes) (start low : ℕ), low ≤ start →
      low ≤ (startsFrom start pieces).getLastD low := by
    intro pieces
    induction pieces with
    | nil => exact fun _ low _ => le_refl low
    | cons piece pieces ih =>
      intro start low hle
      rw [startsFrom, List.getLastD_cons]
      exact hle.trans (ih (start + piece.length) start (Nat.le_add_right _ _))
  induction pieces generalizing start d with
  | nil => cases h
  | cons piece pieces ih =>
    rw [startsFrom, List.getLastD_cons]
    obtain rfl | h := List.mem_cons.mp h
    · exact hstart pieces (s + piece.length) s (Nat.le_add_right _ _)
    · exact ih h start

/-- The table gives the start of each object, and the objects fill the place between the
    header and the table. -/
structure Indexed (msg : Bytes) (t : Trailer) (starts : List ℕ) : Prop where
  header : ascii "bplist00" <+: msg
  trailer : readTrailer msg = some t
  table : readNumbers msg t.offsetSize t.numObjects t.tableOffset = some starts
  objects : objectStarts msg t.refSize t.numObjects 8 = some (starts, t.tableOffset)

/-- The table is read back. -/
theorem Laid.readTable {t : Trailer} {objects : List PObject} (h : Laid msg t objects) :
    readNumbers msg t.offsetSize t.numObjects t.tableOffset =
      some (startsFrom 8 (objects.map (encodeObject t.refSize))) := by
  have hread := h.table.readNumbers h.starts
  rw [length_startsFrom, List.length_map, ← h.count] at hread
  exact hread

/-- **A file laid out so is read as its objects say.** -/
theorem Laid.decode {t : Trailer} {objects : List PObject} (h : Laid msg t objects) :
    decode msg = resolve (fun i => objects[i]?) objects.length t.topObject := by
  have hbegins : (ascii "bplist00").isPrefixOf msg = true := List.isPrefixOf_iff_prefix.mpr h.header
  have hend := h.tableEnd
  have hoffset := h.offsetSize
  have href := h.refSize
  have hobjects : objectAt msg t.refSize (startsFrom 8 (objects.map (encodeObject t.refSize))) =
      fun i => objects[i]? := by
    funext i
    exact decodeObject_startsFrom h.fits h.body i
  rw [BinaryPlist.decode, hbegins, h.trailer]
  dsimp only
  rw [Bool.not_true, if_neg (by decide), if_neg (by omega), h.readTable, Option.bind_some, hobjects,
    h.count]

theorem Laid.indexed {t : Trailer} {objects : List PObject} (h : Laid msg t objects)
    (htable : t.tableOffset = 8 + (objects.flatMap (encodeObject t.refSize)).length) :
    Indexed msg t (startsFrom 8 (objects.map (encodeObject t.refSize))) where
  header := h.header
  trailer := h.trailer
  table := h.readTable
  objects := by rw [h.count, objectStarts_at h.fits h.body, htable]

/-- A table that the trailer puts past the end is not read. -/
theorem decode_eq_none {t : Trailer} (htrailer : readTrailer msg = some t)
    (hend : msg.length < t.tableOffset + t.numObjects * t.offsetSize + 32) : decode msg = none := by
  rw [decode, htrailer]
  dsimp only
  rw [if_pos (Or.inl hend)]
  split <;> rfl

/-! ## Strings by key

The strings of the top dictionary as the bytes they are, whatever their characters. -/

/-- The bytes of the string object at `pos`. -/
def stringAt (msg : Bytes) (pos : ℕ) : Option Bytes :=
  match msg[pos]? with
  | none => none
  | some marker =>
    if marker.toNat / 16 = 5 then
      (readCount msg pos (marker.toNat % 16)).bind fun parts => readBytes msg parts.1 parts.2
    else none

/-- The string the top dictionary has under a key. -/
def stringField (msg key : Bytes) : Option Bytes :=
  (readTrailer msg).bind fun t =>
    (readNumbers msg t.offsetSize t.numObjects t.tableOffset).bind fun starts =>
      match objectAt msg t.refSize starts t.topObject with
      | some (.dict keys values) =>
        let names := keys.map fun k => starts[k]?.bind (stringAt msg)
        (names.idxOf? (some key)).bind fun i =>
          values[i]?.bind fun v => starts[v]?.bind (stringAt msg)
      | _ => none

/-- The UTF-16 units of the string object at `pos`, in either of its two forms. -/
def textAt (msg : Bytes) (pos : ℕ) : Option (List ℕ) :=
  match msg[pos]? with
  | none => none
  | some marker =>
    if marker.toNat / 16 = 6 then
      (readCount msg pos (marker.toNat % 16)).bind fun parts => readNumbers msg 2 parts.1 parts.2
    else (stringAt msg pos).map (·.map UInt8.toNat)

/-- The object that dictionary `i` has under a key. -/
def fieldAt (msg : Bytes) (refSize : ℕ) (starts : List ℕ) (i : ℕ) (key : Bytes) : Option ℕ :=
  match objectAt msg refSize starts i with
  | some (.dict keys values) =>
    (keys.findIdx? fun k => starts[k]?.bind (textAt msg) == some (key.map UInt8.toNat)).bind
      fun j => values[j]?
  | _ => none

/-- The bytes of a string object stand in the message. -/
theorem stringAt_stands {s : Bytes} (h : stringAt msg pos = some s) : ∃ i, s <+: msg.drop i := by
  unfold stringAt at h
  split at h
  · cases h
  · split at h
    · obtain ⟨parts, -, hbytes⟩ := Option.bind_eq_some_iff.mp h
      unfold readBytes at hbytes
      split at hbytes
      · rw [← Option.some.inj hbytes]
        exact ⟨_, List.take_prefix _ _⟩
      · cases hbytes
    · cases h

/-- The objects of several parts are no ints. -/
theorem readParts_ne_int {refSize kind count start exponent n next : ℕ} :
    readParts msg refSize kind count start ≠ some (.int exponent n, next) := by
  intro h
  unfold readParts at h
  split at h
  · obtain ⟨bytes, -, heq⟩ := Option.map_eq_some_iff.mp h
    cases heq
  · split at h
    · obtain ⟨bytes, -, heq⟩ := Option.bind_eq_some_iff.mp h
      split at heq
      · cases heq
      · cases heq
    · split at h
      · obtain ⟨refs, -, heq⟩ := Option.map_eq_some_iff.mp h
        cases heq
      · split at h
        · obtain ⟨keys, -, hvalues⟩ := Option.bind_eq_some_iff.mp h
          obtain ⟨values, -, heq⟩ := Option.map_eq_some_iff.mp hvalues
          cases heq
        · cases h

/-- A number of one byte is the byte. -/
theorem readNumber_one {n : ℕ} (h : readNumber msg 1 pos = some n) :
    msg[pos]? = some (UInt8.ofNat n) := by
  obtain ⟨hle, -⟩ := readNumber_lt h
  have hlt : pos < msg.length := by omega
  have hwindow : (msg.drop pos).take 1 = [msg[pos]] := by
    rw [List.drop_eq_getElem_cons hlt, List.take_succ_cons, List.take_zero]
  rw [readNumber, if_pos hle, hwindow, Option.some.injEq] at h
  rw [List.getElem?_eq_getElem hlt, ← h]
  simp [ofBytes]

/-- An int object of one byte: its marker, and the number behind it. -/
theorem decodeObject_int {refSize n next : ℕ}
    (h : decodeObject msg refSize pos = some (.int 0 n, next)) :
    msg[pos]? = some 0x10 ∧ msg[pos + 1]? = some (UInt8.ofNat n) := by
  unfold decodeObject at h
  cases hmarker : msg[pos]? with
  | none =>
    rw [hmarker] at h
    cases h
  | some marker =>
    rw [hmarker] at h
    dsimp only at h
    split at h
    · split at h
      · cases h
      · cases h
    · split at h
      · rename_i hkind
        split at h
        · obtain ⟨m, hread, heq⟩ := Option.map_eq_some_iff.mp h
          obtain ⟨hobject, -⟩ := Prod.mk.inj heq
          obtain ⟨hlow, rfl⟩ := PObject.int.inj hobject
          rw [hlow] at hread
          have hten : marker = 0x10 := by
            apply UInt8.toNat_inj.mp
            show marker.toNat = 16
            omega
          rw [hten]
          exact ⟨rfl, readNumber_one hread⟩
        · cases h
      · obtain ⟨parts, -, hparts⟩ := Option.bind_eq_some_iff.mp h
        exact absurd hparts readParts_ne_int

theorem stringField_eq {t : Trailer} {starts keys values : List ℕ} {key s : Bytes} {i v : ℕ}
    (htrailer : readTrailer msg = some t)
    (htable : readNumbers msg t.offsetSize t.numObjects t.tableOffset = some starts)
    (htop : objectAt msg t.refSize starts t.topObject = some (.dict keys values))
    (hkey : (keys.map fun k => starts[k]?.bind (stringAt msg)).idxOf? (some key) = some i)
    (hvalue : values[i]? = some v) (hstart : starts[v]? = some pos)
    (hs : stringAt msg pos = some s) : stringField msg key = some s := by
  rw [stringField, htrailer, Option.bind_some, htable, Option.bind_some, htop]
  dsimp only
  rw [hkey, Option.bind_some, hvalue, Option.bind_some, hstart, Option.bind_some, hs]

theorem byte_front {seg : Bytes} (h : seg <+: msg) {b : UInt8} (hb : seg[pos]? = some b) :
    msg[pos]? = some b := by
  obtain ⟨rest, rfl⟩ := h
  obtain ⟨hlt, -⟩ := List.getElem?_eq_some_iff.mp hb
  rw [List.getElem?_append_left hlt, hb]

/-- What is read inside the front of a message is read of the message. -/
theorem window_front {seg : Bytes} (h : seg <+: msg) {n : ℕ} (hn : pos + n ≤ seg.length) :
    pos + n ≤ msg.length ∧ (msg.drop pos).take n = (seg.drop pos).take n := by
  obtain ⟨rest, rfl⟩ := h
  refine ⟨?_, ?_⟩
  · rw [List.length_append]
    omega
  · rw [List.drop_append_of_le_length (by omega), List.take_append_of_le_length]
    rw [List.length_drop]
    omega

theorem readNumber_front {seg : Bytes} (h : seg <+: msg) {width n : ℕ}
    (hn : readNumber seg width pos = some n) : readNumber msg width pos = some n := by
  unfold readNumber at hn ⊢
  split at hn
  · rename_i hin
    obtain ⟨hle, hwindow⟩ := window_front h hin
    rw [if_pos hle, hwindow, hn]
  · cases hn

theorem readBytes_front {seg : Bytes} (h : seg <+: msg) {length : ℕ} {bytes : Bytes}
    (hbytes : readBytes seg length pos = some bytes) : readBytes msg length pos = some bytes := by
  unfold readBytes at hbytes ⊢
  split at hbytes
  · rename_i hin
    obtain ⟨hle, hwindow⟩ := window_front h hin
    rw [if_pos hle, hwindow, hbytes]
  · cases hbytes

theorem readCount_front {seg : Bytes} (h : seg <+: msg) {low : ℕ} {parts : ℕ × ℕ}
    (hparts : readCount seg pos low = some parts) : readCount msg pos low = some parts := by
  unfold readCount at hparts ⊢
  split at hparts
  · rename_i hlow
    rw [if_pos hlow, hparts]
  · rename_i hlow
    rw [if_neg hlow]
    cases hmarker : seg[pos + 1]? with
    | none =>
      rw [hmarker] at hparts
      cases hparts
    | some marker =>
      rw [hmarker] at hparts
      rw [byte_front h hmarker]
      dsimp only at hparts ⊢
      split at hparts
      · rename_i hkind
        obtain ⟨n, hn, rfl⟩ := Option.map_eq_some_iff.mp hparts
        rw [if_pos hkind, readNumber_front h hn, Option.map_some]
      · cases hparts

/-- A string in the front of a message is a string of the message. -/
theorem stringAt_front {seg s : Bytes} (h : seg <+: msg) (hs : stringAt seg pos = some s) :
    stringAt msg pos = some s := by
  unfold stringAt at hs ⊢
  cases hmarker : seg[pos]? with
  | none =>
    rw [hmarker] at hs
    cases hs
  | some marker =>
    rw [hmarker] at hs
    rw [byte_front h hmarker]
    dsimp only at hs ⊢
    split at hs
    · rename_i hkind
      obtain ⟨parts, hparts, hbytes⟩ := Option.bind_eq_some_iff.mp hs
      rw [if_pos hkind, readCount_front h hparts, Option.bind_some, readBytes_front h hbytes]
    · cases hs

/-- The same of all the strings that some numbers refer to. -/
theorem strings_front {seg : Bytes} (h : seg <+: msg) {starts keys : List ℕ} {names : List Bytes}
    (hnames : keys.map (fun k => starts[k]?.bind (stringAt seg)) = names.map some) :
    keys.map (fun k => starts[k]?.bind (stringAt msg)) = names.map some := by
  rw [← hnames]
  apply List.map_congr_left
  intro k hk
  have hmem : starts[k]?.bind (stringAt seg) ∈ names.map some := by
    rw [← hnames]
    exact List.mem_map.mpr ⟨k, hk, rfl⟩
  obtain ⟨name, -, hname⟩ := List.mem_map.mp hmem
  obtain ⟨start, hstart, hread⟩ := Option.bind_eq_some_iff.mp hname.symm
  simp only [hstart, Option.bind_some, hread]
  exact stringAt_front h hread

/-- A string with a count behind its marker. -/
theorem stringAt_counted {s : Bytes} (hlength : s.length < 256)
    (h : At msg pos (0x5f :: 0x10 :: UInt8.ofNat s.length :: s)) : stringAt msg pos = some s := by
  have hcount : readCount msg pos 15 = some (s.length, pos + 2 + 1) := by
    have hnumber : At msg (pos + 1 + 1) (toBytes 1 s.length ++ s) := by
      have hone : toBytes 1 s.length = [UInt8.ofNat s.length] := by simp [toBytes]
      rw [hone]
      exact h.tail.tail
    have hread := hnumber.left.readNumber hlength
    have hdiv : (0x10 : UInt8).toNat / 16 = 1 ∧ (0x10 : UInt8).toNat % 16 = 0 := by decide
    rw [readCount, if_neg (by decide), h.tail.head]
    dsimp only
    rw [hdiv.2, if_pos ⟨hdiv.1, by decide⟩]
    show (readNumber msg 1 (pos + 1 + 1)).map _ = _
    rw [hread, Option.map_some]
    rfl
  have hbytes := h.tail.tail.tail.readBytes
  have hkind : (0x5f : UInt8).toNat / 16 = 5 ∧ (0x5f : UInt8).toNat % 16 = 15 := by decide
  rw [stringAt, h.head]
  dsimp only
  rw [if_pos hkind.1, hkind.2, hcount, Option.bind_some]
  exact hbytes

end Lib.BinaryPlist
