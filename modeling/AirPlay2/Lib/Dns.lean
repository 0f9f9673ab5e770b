import AirPlay2.Lib.Reading

/- DNS messages (RFC 1035). The decoder works by position over the whole message, follows
   compression pointers, and holds every record to its length: a name in record data ends
   where the data ends, strings fill it, an address has four bytes. A message is the
   records its counts give and nothing behind them. Names and records written without
   compression are read back (`decodeName_at`, `decodeRecord_at`). -/
namespace Lib.Dns
open Lib

/-! ## Names -/

/-- A name at `pos`, as its labels, and where it ends. A pointer leads backwards. -/
def decodeName (msg : Bytes) : ℕ → ℕ → Option (List Bytes × ℕ)
  | 0, _ => none
  | fuel + 1, pos =>
    match msg[pos]? with
    | none => none
    | some n =>
      if n = 0 then some ([], pos + 1)
      else if n < 64 then
        if msg.length < pos + 1 + n.toNat then none
        else (decodeName msg fuel (pos + 1 + n.toNat)).map fun next =>
          ((msg.drop (pos + 1)).take n.toNat :: next.1, next.2)
      else if n < 192 then none
      else
        match msg[pos + 1]? with
        | none => none
        | some low =>
          let target := (n.toNat - 192) * 256 + low.toNat
          if pos ≤ target then none
          else (decodeName msg fuel target).map fun next => (next.1, pos + 2)

/-- The length of a label fits its byte, and is not that of the end. -/
def IsLabel (label : Bytes) : Prop := label ≠ [] ∧ label.length ≤ 63

instance (label : Bytes) : Decidable (IsLabel label) := inferInstanceAs (Decidable (_ ∧ _))

/-- A name without compression. -/
def encodeName (labels : List Bytes) : Bytes :=
  labels.flatMap (fun label => UInt8.ofNat label.length :: label) ++ [0]

/-- The bytes a name takes at most: as many as without compression, and one more. -/
def nameBound (labels : List Bytes) : ℕ := (labels.map fun label => label.length + 1).sum + 2

theorem length_encodeName (labels : List Bytes) :
    (encodeName labels).length = (labels.map fun label => label.length + 1).sum + 1 := by
  simp [encodeName, List.length_flatMap]

theorem encodeName_cons (label : Bytes) (labels : List Bytes) :
    encodeName (label :: labels) = UInt8.ofNat label.length :: (label ++ encodeName labels) := by
  simp [encodeName]

theorem label_byte {label : Bytes} (h : label.length ≤ 63) :
    (UInt8.ofNat label.length).toNat = label.length := by
  rw [UInt8.toNat_ofNat']
  omega

variable {msg : Bytes} {pos fuel : ℕ}

/-- A label in front of a name. -/
theorem decodeName_label {label rest : Bytes} (hlabel : IsLabel label)
    (h : At msg pos (UInt8.ofNat label.length :: (label ++ rest))) :
    decodeName msg (fuel + 1) pos =
      (decodeName msg fuel (pos + 1 + label.length)).map fun next => (label :: next.1, next.2) := by
  obtain ⟨hne, hle⟩ := hlabel
  have hbyte := label_byte hle
  have hpos : 0 < label.length := List.length_pos_iff.mpr hne
  have hzero : UInt8.ofNat label.length ≠ 0 := by
    intro hz
    rw [hz] at hbyte
    exact absurd hbyte.symm (Nat.ne_of_gt hpos)
  have hlt : UInt8.ofNat label.length < 64 := by
    rw [UInt8.lt_iff_toNat_lt, hbyte]
    exact Nat.lt_succ_of_le hle
  obtain ⟨hfits, hread⟩ := h.tail.left
  rw [decodeName, h.head]
  dsimp only
  rw [if_neg hzero, if_pos hlt, hbyte, if_neg (by omega), hread]

theorem decodeName_end (h : At msg pos [0]) : decodeName msg (fuel + 1) pos = some ([], pos + 1) := by
  rw [decodeName, h.head]
  rfl

/-- A name is read back where it stands. -/
theorem decodeName_at {labels : List Bytes} (hlabels : ∀ label ∈ labels, IsLabel label)
    (h : At msg pos (encodeName labels)) (hfuel : labels.length < fuel) :
    decodeName msg fuel pos = some (labels, pos + (encodeName labels).length) := by
  induction labels generalizing pos fuel with
  | nil =>
    obtain ⟨fuel, rfl⟩ := Nat.exists_eq_succ_of_ne_zero (Nat.ne_of_gt hfuel)
    exact decodeName_end h
  | cons label labels ih =>
    obtain ⟨fuel, rfl⟩ := Nat.exists_eq_succ_of_ne_zero (Nat.ne_of_gt (Nat.zero_lt_of_lt hfuel))
    rw [encodeName_cons] at h
    have hrest := ih (fun k hk => hlabels k (List.mem_cons_of_mem label hk)) h.tail.right
      (Nat.lt_of_succ_lt_succ hfuel)
    rw [decodeName_label (hlabels label List.mem_cons_self) h, hrest, encodeName_cons]
    simp only [Option.map_some, List.length_cons, List.length_append, Option.some.injEq,
      Prod.mk.injEq, true_and]
    omega

/-- A name that was read has labels, and takes as many bytes as they need at most. -/
theorem decodeName_bound {labels : List Bytes} {e : ℕ}
    (h : decodeName msg fuel pos = some (labels, e)) :
    (∀ label ∈ labels, IsLabel label) ∧ pos < e ∧ e ≤ pos + nameBound labels := by
  induction fuel generalizing pos labels e with
  | zero => cases h
  | succ fuel ih =>
    rw [decodeName] at h
    cases hbyte : msg[pos]? with
    | none =>
      rw [hbyte] at h
      cases h
    | some n =>
      rw [hbyte] at h
      dsimp only at h
      split at h
      · obtain ⟨rfl, rfl⟩ := Prod.mk.inj (Option.some.inj h)
        exact ⟨nofun, by omega, by simp [nameBound]⟩
      · rename_i hzero
        split at h
        · rename_i hlt
          split at h
          · cases h
          · rename_i hfits
            obtain ⟨next, hnext, heq⟩ := Option.map_eq_some_iff.mp h
            obtain ⟨rfl, rfl⟩ := Prod.mk.inj heq
            obtain ⟨hlabels, hafter, hbound⟩ := ih hnext
            have hlen : ((msg.drop (pos + 1)).take n.toNat).length = n.toNat := by
              rw [List.length_take, List.length_drop]
              omega
            have hpos : n.toNat ≠ 0 := fun hz => hzero (UInt8.toNat_inj.mp hz)
            have hsmall : n.toNat < 64 := UInt8.lt_iff_toNat_lt.mp hlt
            refine ⟨?_, by omega, ?_⟩
            · intro label hlabel
              obtain rfl | hlabel := List.mem_cons.mp hlabel
              · refine ⟨?_, by omega⟩
                intro hnil
                rw [hnil] at hlen
                exact hpos hlen.symm
              · exact hlabels label hlabel
            · simp only [nameBound, List.map_cons, List.sum_cons, hlen] at hbound ⊢
              omega
        · split at h
          · cases h
          · split at h
            · cases h
            · split at h
              · cases h
              · obtain ⟨next, hnext, heq⟩ := Option.map_eq_some_iff.mp h
                obtain ⟨rfl, rfl⟩ := Prod.mk.inj heq
                obtain ⟨hlabels, -, -⟩ := ih hnext
                exact ⟨hlabels, by omega, by simp only [nameBound]; omega⟩

/-! ## Strings -/

/-- Strings, each behind its length, up to the end of the data. -/
def decodeStrings : ℕ → Bytes → Option (List Bytes)
  | _, [] => some []
  | 0, _ :: _ => none
  | fuel + 1, n :: rest =>
    if rest.length < n.toNat then none
    else (decodeStrings fuel (rest.drop n.toNat)).map (rest.take n.toNat :: ·)

def encodeStrings (items : List Bytes) : Bytes :=
  items.flatMap fun item => UInt8.ofNat item.length :: item

theorem decodeStrings_encode {items : List Bytes} (hshort : ∀ item ∈ items, item.length ≤ 255)
    (hfuel : (encodeStrings items).length ≤ fuel) :
    decodeStrings fuel (encodeStrings items) = some items := by
  induction items generalizing fuel with
  | nil => cases fuel <;> rfl
  | cons item items ih =>
    have hcons : encodeStrings (item :: items) =
        UInt8.ofNat item.length :: (item ++ encodeStrings items) := by
      simp [encodeStrings]
    have hle := hshort item List.mem_cons_self
    have hbyte : (UInt8.ofNat item.length).toNat = item.length := by
      rw [UInt8.toNat_ofNat']
      omega
    rw [hcons, List.length_cons, List.length_append] at hfuel
    obtain ⟨fuel, rfl⟩ := Nat.exists_eq_succ_of_ne_zero (show fuel ≠ 0 by omega)
    have hrest := ih (fun k hk => hshort k (List.mem_cons_of_mem item hk))
      (show (encodeStrings items).length ≤ fuel by omega)
    rw [hcons, decodeStrings, hbyte, List.length_append, if_neg (by omega), List.drop_left,
      List.take_left, hrest, Option.map_some]

/-- Strings that were read are all of the data. -/
theorem length_of_decodeStrings {bs : Bytes} {items : List Bytes}
    (h : decodeStrings fuel bs = some items) : bs.length = (encodeStrings items).length := by
  induction fuel generalizing bs items with
  | zero =>
    cases bs with
    | nil =>
      obtain rfl := Option.some.inj h
      rfl
    | cons n rest => cases h
  | succ fuel ih =>
    cases bs with
    | nil =>
      obtain rfl := Option.some.inj h
      rfl
    | cons n rest =>
      rw [decodeStrings] at h
      split at h
      · cases h
      · rename_i hfits
        obtain ⟨next, hnext, rfl⟩ := Option.map_eq_some_iff.mp h
        have hrest := ih hnext
        rw [List.length_drop] at hrest
        have htake : (rest.take n.toNat).length = n.toNat := by
          rw [List.length_take]
          omega
        simp only [encodeStrings, List.flatMap_cons, List.cons_append, List.length_cons,
          List.length_append, htake] at hrest ⊢
        omega

/-! ## Records -/

inductive RData where
  | a (address : ℕ)
  | ptr (target : List Bytes)
  | txt (strings : List Bytes)
  | srv (priority weight port : ℕ) (target : List Bytes)
  | other (data : Bytes)
  deriving DecidableEq

structure Record where
  owner : List Bytes
  type : ℕ
  cls : ℕ
  ttl : ℕ
  data : RData
  deriving DecidableEq

/-- The data of a record of a type. -/
def decodeData (msg : Bytes) (type start length : ℕ) : Option RData :=
  if type = 1 then
    if length = 4 then (readNumber msg 4 start).map .a else none
  else if type = 12 then do
    let name ← decodeName msg msg.length start
    if name.2 = start + length then some (.ptr name.1) else none
  else if type = 16 then
    (decodeStrings length ((msg.drop start).take length)).map .txt
  else if type = 33 then do
    let priority ← readNumber msg 2 start
    let weight ← readNumber msg 2 (start + 2)
    let port ← readNumber msg 2 (start + 4)
    let name ← decodeName msg msg.length (start + 6)
    if name.2 = start + length then some (.srv priority weight port name.1) else none
  else some (.other ((msg.drop start).take length))

/-- A record at `pos`, and where it ends. -/
def decodeRecord (msg : Bytes) (pos : ℕ) : Option (Record × ℕ) := do
  let name ← decodeName msg msg.length pos
  let type ← readNumber msg 2 name.2
  let cls ← readNumber msg 2 (name.2 + 2)
  let ttl ← readNumber msg 4 (name.2 + 4)
  let length ← readNumber msg 2 (name.2 + 8)
  if msg.length < name.2 + 10 + length then none
  else do
    let data ← decodeData msg type (name.2 + 10) length
    some ({ owner := name.1, type := type, cls := cls, ttl := ttl, data := data },
      name.2 + 10 + length)

/-! ### Writing records -/

def encodeData : RData → Bytes
  | .a address => toBytes 4 address
  | .ptr target => encodeName target
  | .txt strings => encodeStrings strings
  | .srv priority weight port target =>
    toBytes 2 priority ++ toBytes 2 weight ++ toBytes 2 port ++ encodeName target
  | .other data => data

/-- What stands before the data of a record, with the length it gives. -/
def recordHead (owner : List Bytes) (type cls ttl length : ℕ) : Bytes :=
  encodeName owner ++ toBytes 2 type ++ toBytes 2 cls ++ toBytes 4 ttl ++ toBytes 2 length

def encodeRecord (r : Record) : Bytes :=
  recordHead r.owner r.type r.cls r.ttl (encodeData r.data).length ++ encodeData r.data

/-- The data is of the type, and its parts fit their fields. -/
def RData.Fits (type : ℕ) : RData → Prop
  | .a address => type = 1 ∧ address < 256 ^ 4
  | .ptr target => type = 12 ∧ ∀ label ∈ target, IsLabel label
  | .txt strings => type = 16 ∧ ∀ item ∈ strings, item.length ≤ 255
  | .srv priority weight port target => type = 33 ∧ priority < 65536 ∧ weight < 65536 ∧
      port < 65536 ∧ ∀ label ∈ target, IsLabel label
  | .other _ => type ≠ 1 ∧ type ≠ 12 ∧ type ≠ 16 ∧ type ≠ 33

structure Record.Fits (r : Record) : Prop where
  owner : ∀ label ∈ r.owner, IsLabel label
  type : r.type < 65536
  cls : r.cls < 65536
  ttl : r.ttl < 256 ^ 4
  data : r.data.Fits r.type
  length : (encodeData r.data).length < 65536

theorem length_recordHead (owner : List Bytes) (type cls ttl length : ℕ) :
    (recordHead owner type cls ttl length).length = (encodeName owner).length + 10 := by
  simp only [recordHead, List.length_append, length_toBytes]

/-- A name that stands in a message is shorter than it in labels. -/
theorem labels_lt_length {labels : List Bytes} (h : At msg pos (encodeName labels)) :
    labels.length < msg.length := by
  have hle := h.1
  have hsum : ∀ ls : List Bytes, ls.length ≤ (ls.map fun label => label.length + 1).sum := by
    intro ls
    induction ls with
    | nil => exact Nat.zero_le _
    | cons l ls ih =>
      rw [List.map_cons, List.sum_cons, List.length_cons]
      omega
  have hlabels := hsum labels
  rw [length_encodeName] at hle
  omega

/-- A name is read back where it stands, with fuel for the whole message. -/
theorem decodeName_whole {labels : List Bytes} (hlabels : ∀ label ∈ labels, IsLabel label)
    (h : At msg pos (encodeName labels)) :
    decodeName msg msg.length pos = some (labels, pos + (encodeName labels).length) :=
  decodeName_at hlabels h (labels_lt_length h)

/-- Data is read back where it stands. -/
theorem decodeData_at {type start : ℕ} {data : RData} (hfits : data.Fits type)
    (h : At msg start (encodeData data)) :
    decodeData msg type start (encodeData data).length = some data := by
  cases data with
  | a address =>
    obtain ⟨rfl, haddress⟩ := hfits
    have hread := h.readNumber haddress
    simp [decodeData, encodeData, hread]
  | ptr target =>
    obtain ⟨rfl, htarget⟩ := hfits
    have hname := decodeName_whole htarget h
    simp [decodeData, encodeData, hname]
  | txt strings =>
    obtain ⟨rfl, hshort⟩ := hfits
    have hstrings := decodeStrings_encode hshort (le_refl (encodeStrings strings).length)
    have hread : (msg.drop start).take (encodeStrings strings).length = encodeStrings strings := h.2
    simp [decodeData, encodeData, hread, hstrings]
  | srv priority weight port target =>
    obtain ⟨rfl, hpriority, hweight, hport, htarget⟩ := hfits
    change At msg start
      (toBytes 2 priority ++ toBytes 2 weight ++ toBytes 2 port ++ encodeName target) at h
    have hname := decodeName_whole htarget h.right
    have hportRead := h.left.right.readNumber (show port < 256 ^ 2 from hport)
    have hweightRead := h.left.left.right.readNumber (show weight < 256 ^ 2 from hweight)
    have hpriorityRead := h.left.left.left.readNumber (show priority < 256 ^ 2 from hpriority)
    simp only [List.length_append, length_toBytes, Nat.reduceAdd] at hname hportRead hweightRead
    have hlength : (encodeData (.srv priority weight port target)).length =
        6 + (encodeName target).length := by
      simp only [encodeData, List.length_append, length_toBytes, Nat.reduceAdd]
    simp [decodeData, hlength, hname, hportRead, hweightRead, hpriorityRead, Nat.add_assoc]
  | other bytes =>
    obtain ⟨ha, hptr, htxt, hsrv⟩ := hfits
    have hread : (msg.drop start).take bytes.length = bytes := h.2
    simp [decodeData, encodeData, ha, hptr, htxt, hsrv, hread]

/-- **A record is read back where it stands.** -/
theorem decodeRecord_at {r : Record} (hfits : r.Fits) (h : At msg pos (encodeRecord r)) :
    decodeRecord msg pos = some (r, pos + (encodeRecord r).length) := by
  unfold encodeRecord at h
  have hend := h.right.1
  have hdata := decodeData_at hfits.data h.right
  have hhead := h.left
  unfold recordHead at hhead
  have hlength := hhead.right.readNumber (show _ < 256 ^ 2 from hfits.length)
  have httl := hhead.left.right.readNumber hfits.ttl
  have hcls := hhead.left.left.right.readNumber (show _ < 256 ^ 2 from hfits.cls)
  have htype := hhead.left.left.left.right.readNumber (show _ < 256 ^ 2 from hfits.type)
  have hname := decodeName_whole hfits.owner hhead.left.left.left.left
  simp only [List.length_append, length_toBytes, length_recordHead, ← Nat.add_assoc] at *
  unfold decodeRecord
  simp only [hname, htype, hcls, httl, hlength, Option.bind_eq_bind, Option.bind_some]
  rw [if_neg (by omega), hdata, Option.bind_some, encodeRecord, List.length_append,
    length_recordHead, ← Nat.add_assoc, ← Nat.add_assoc]

/-! ### Records that were read -/

/-- What a record that was read says of the message. -/
theorem decodeRecord_inv {r : Record} {e : ℕ} (h : decodeRecord msg pos = some (r, e)) :
    ∃ p length, decodeName msg msg.length pos = some (r.owner, p) ∧ length < 65536 ∧
      readNumber msg 2 (p + 8) = some length ∧ p + 10 + length ≤ msg.length ∧
      decodeData msg r.type (p + 10) length = some r.data ∧ e = p + 10 + length := by
  unfold decodeRecord at h
  simp only [Option.bind_eq_bind, Option.bind_eq_some_iff] at h
  obtain ⟨name, hname, type, -, cls, -, ttl, -, length, hlength, h⟩ := h
  split at h
  · cases h
  · rename_i hfits
    simp only [Option.bind_eq_some_iff] at h
    obtain ⟨data, hdata, heq⟩ := h
    obtain ⟨rfl, rfl⟩ := Prod.mk.inj (Option.some.inj heq)
    exact ⟨name.2, length, hname, (readNumber_lt hlength).2, hlength, not_lt.mp hfits, hdata, rfl⟩

/-- The bytes the data of a record takes at most. -/
def dataBound : RData → ℕ
  | .a _ => 4
  | .ptr target => nameBound target
  | .txt strings => (encodeStrings strings).length
  | .srv _ _ _ target => 6 + nameBound target
  | .other data => data.length

theorem decodeData_bound {type start length : ℕ} {data : RData} (hfits : start + length ≤ msg.length)
    (h : decodeData msg type start length = some data) : length ≤ dataBound data := by
  have hslice : ((msg.drop start).take length).length = length := by
    rw [List.length_take, List.length_drop]
    omega
  unfold decodeData at h
  split at h
  · split at h
    · rename_i hfour
      obtain ⟨address, -, rfl⟩ := Option.map_eq_some_iff.mp h
      exact hfour.le
    · cases h
  · split at h
    · simp only [Option.bind_eq_bind, Option.bind_eq_some_iff] at h
      obtain ⟨name, hname, h⟩ := h
      split at h
      · rename_i hend
        obtain rfl := Option.some.inj h
        obtain ⟨-, -, hbound⟩ := decodeName_bound hname
        simp only [dataBound]
        omega
      · cases h
    · split at h
      · obtain ⟨items, hitems, rfl⟩ := Option.map_eq_some_iff.mp h
        have hlen := length_of_decodeStrings hitems
        rw [hslice] at hlen
        exact hlen.le
      · split at h
        · simp only [Option.bind_eq_bind, Option.bind_eq_some_iff] at h
          obtain ⟨priority, -, weight, -, port, -, name, hname, h⟩ := h
          split at h
          · rename_i hend
            obtain rfl := Option.some.inj h
            obtain ⟨-, -, hbound⟩ := decodeName_bound hname
            simp only [dataBound]
            omega
          · cases h
        · obtain rfl := Option.some.inj h
          exact hslice.symm.le

/-- Strings that were read fill their data. -/
theorem length_of_decodeData_txt {start length : ℕ} {items : List Bytes}
    (hfits : start + length ≤ msg.length)
    (h : decodeData msg 16 start length = some (.txt items)) :
    length = (encodeStrings items).length := by
  have hslice : ((msg.drop start).take length).length = length := by
    rw [List.length_take, List.length_drop]
    omega
  have hread : (decodeStrings length ((msg.drop start).take length)).map RData.txt =
      some (.txt items) := h
  obtain ⟨strings, hstrings, heq⟩ := Option.map_eq_some_iff.mp hread
  obtain rfl := RData.txt.inj heq
  rw [← length_of_decodeStrings hstrings, hslice]

/-- A name that was read as record data ends where the data ends. -/
theorem decodeName_of_decodeData_ptr {start length : ℕ} {target : List Bytes}
    (h : decodeData msg 12 start length = some (.ptr target)) :
    decodeName msg msg.length start = some (target, start + length) := by
  have hread : ((decodeName msg msg.length start).bind fun name =>
      if name.2 = start + length then some (RData.ptr name.1) else none) = some (.ptr target) := h
  obtain ⟨name, hname, hend⟩ := Option.bind_eq_some_iff.mp hread
  split at hend
  · rename_i heq
    rw [hname, ← heq, ← RData.ptr.inj (Option.some.inj hend)]
  · cases hend

/-- A record takes the bytes of its name and data and ten between. -/
theorem decodeRecord_bound {r : Record} {e : ℕ} (h : decodeRecord msg pos = some (r, e)) :
    e ≤ pos + nameBound r.owner + 10 + dataBound r.data := by
  obtain ⟨p, length, hname, -, -, hfits, hdata, rfl⟩ := decodeRecord_inv h
  obtain ⟨-, -, hp⟩ := decodeName_bound hname
  have hlength := decodeData_bound hfits hdata
  omega

/-! ## Messages -/

structure Question where
  owner : List Bytes
  type : ℕ
  cls : ℕ
  deriving DecidableEq

structure Message where
  id : ℕ
  flags : ℕ
  questions : List Question
  answers : List Record
  authority : List Record
  additional : List Record
  deriving DecidableEq

def decodeQuestion (msg : Bytes) (pos : ℕ) : Option (Question × ℕ) := do
  let name ← decodeName msg msg.length pos
  let type ← readNumber msg 2 name.2
  let cls ← readNumber msg 2 (name.2 + 2)
  some ({ owner := name.1, type := type, cls := cls }, name.2 + 4)

/-- As many as a count says, one behind the other. -/
def decodeMany {α : Type} (decode : ℕ → Option (α × ℕ)) : ℕ → ℕ → Option (List α × ℕ)
  | 0, pos => some ([], pos)
  | n + 1, pos => do
    let first ← decode pos
    let rest ← decodeMany decode n first.2
    some (first.1 :: rest.1, rest.2)

theorem decodeMany_cons {α : Type} {decode : ℕ → Option (α × ℕ)} {n e : ℕ} {a : α} {as : List α}
    (h : decodeMany decode (n + 1) pos = some (a :: as, e)) :
    ∃ p, decode pos = some (a, p) ∧ decodeMany decode n p = some (as, e) := by
  simp only [decodeMany, Option.bind_eq_bind, Option.bind_eq_some_iff] at h
  obtain ⟨first, hfirst, rest, hrest, heq⟩ := h
  obtain ⟨hcons, rfl⟩ := Prod.mk.inj (Option.some.inj heq)
  obtain ⟨rfl, rfl⟩ := List.cons.inj hcons
  exact ⟨first.2, hfirst, hrest⟩

/-- A whole message: what its counts say, up to its end. -/
def decodeMessage (msg : Bytes) : Option Message := do
  let id ← readNumber msg 2 0
  let flags ← readNumber msg 2 2
  let qd ← readNumber msg 2 4
  let an ← readNumber msg 2 6
  let ns ← readNumber msg 2 8
  let ar ← readNumber msg 2 10
  let questions ← decodeMany (decodeQuestion msg) qd 12
  let answers ← decodeMany (decodeRecord msg) an questions.2
  let authority ← decodeMany (decodeRecord msg) ns answers.2
  let additional ← decodeMany (decodeRecord msg) ar authority.2
  if additional.2 = msg.length then
    some { id := id, flags := flags, questions := questions.1, answers := answers.1
           authority := authority.1, additional := additional.1 }
  else none

def encodeQuestion (q : Question) : Bytes := encodeName q.owner ++ toBytes 2 q.type ++ toBytes 2 q.cls

/-- The fixed header. -/
def encodeHeader (id flags qd an ns ar : ℕ) : Bytes :=
  toBytes 2 id ++ toBytes 2 flags ++ toBytes 2 qd ++ toBytes 2 an ++ toBytes 2 ns ++ toBytes 2 ar

/-- Records written one behind the other are read back. -/
theorem decodeMany_at {records : List Record} (hfits : ∀ r ∈ records, r.Fits)
    (h : At msg pos (records.flatMap encodeRecord)) :
    decodeMany (decodeRecord msg) records.length pos =
      some (records, pos + (records.flatMap encodeRecord).length) := by
  induction records generalizing pos with
  | nil => rfl
  | cons r records ih =>
    rw [List.flatMap_cons] at h
    have hfirst := decodeRecord_at (hfits r List.mem_cons_self) h.left
    have hrest := ih (fun k hk => hfits k (List.mem_cons_of_mem r hk)) h.right
    simp only [List.length_cons, decodeMany, hfirst, hrest, Option.bind_eq_bind, Option.bind_some,
      List.flatMap_cons, List.length_append, Nat.add_assoc]

/-- A message that only answers is decoded as its answers are. -/
theorem decodeMessage_answers {id flags an : ℕ} (h : At msg 0 (encodeHeader id flags 0 an 0 0))
    (hid : id < 65536) (hflags : flags < 65536) (han : an < 65536) :
    decodeMessage msg = (decodeMany (decodeRecord msg) an 12).bind fun answers =>
      if answers.2 = msg.length then
        some { id := id, flags := flags, questions := [], answers := answers.1, authority := []
               additional := [] }
      else none := by
  unfold encodeHeader at h
  have hidRead := h.left.left.left.left.left.readNumber (show id < 256 ^ 2 from hid)
  have hflagsRead := h.left.left.left.left.right.readNumber (show flags < 256 ^ 2 from hflags)
  have hqd := h.left.left.left.right.readNumber (show 0 < 256 ^ 2 by decide)
  have hanRead := h.left.left.right.readNumber (show an < 256 ^ 2 from han)
  have hns := h.left.right.readNumber (show 0 < 256 ^ 2 by decide)
  have har := h.right.readNumber (show 0 < 256 ^ 2 by decide)
  simp only [List.length_append, length_toBytes, Nat.zero_add, Nat.reduceAdd] at *
  unfold decodeMessage
  simp only [hidRead, hflagsRead, hqd, hanRead, hns, har, Option.bind_eq_bind, Option.bind_some,
    decodeMany]

/-- The answers of a message that was read fill it. -/
theorem answers_of_decodeMessage {id flags an : ℕ} {m : Message}
    (h : At msg 0 (encodeHeader id flags 0 an 0 0)) (hid : id < 65536) (hflags : flags < 65536)
    (han : an < 65536) (hm : decodeMessage msg = some m) :
    decodeMany (decodeRecord msg) an 12 = some (m.answers, msg.length) := by
  rw [decodeMessage_answers h hid hflags han] at hm
  obtain ⟨answers, hmany, hend⟩ := Option.bind_eq_some_iff.mp hm
  split at hend
  · rename_i hlast
    rw [hmany, ← Option.some.inj hend, ← hlast]
  · cases hend

/-- **A message of answers is read back.** -/
theorem decodeMessage_encode {id flags : ℕ} {records : List Record} (hid : id < 65536)
    (hflags : flags < 65536) (hcount : records.length < 65536) (hfits : ∀ r ∈ records, r.Fits) :
    decodeMessage (encodeHeader id flags 0 records.length 0 0 ++ records.flatMap encodeRecord) =
      some { id := id, flags := flags, questions := [], answers := records, authority := []
             additional := [] } := by
  have hwhole := at_whole (encodeHeader id flags 0 records.length 0 0 ++ records.flatMap encodeRecord)
  have hrecords := decodeMany_at hfits hwhole.right
  have hhead : (encodeHeader id flags 0 records.length 0 0).length = 12 := rfl
  rw [hhead, Nat.zero_add] at hrecords
  rw [decodeMessage_answers hwhole.left hid hflags hcount, hrecords, Option.bind_some,
    List.length_append, hhead, if_pos rfl]

/-- The bytes records take at most. -/
def recordBound (r : Record) : ℕ := nameBound r.owner + 10 + dataBound r.data

theorem decodeMany_bound {n e : ℕ} {records : List Record}
    (h : decodeMany (decodeRecord msg) n pos = some (records, e)) :
    e ≤ pos + (records.map recordBound).sum := by
  induction n generalizing pos records with
  | zero =>
    obtain ⟨rfl, rfl⟩ := Prod.mk.inj (Option.some.inj h)
    exact Nat.le_add_right _ _
  | succ n ih =>
    simp only [decodeMany, Option.bind_eq_bind, Option.bind_eq_some_iff] at h
    obtain ⟨first, hfirst, rest, hrest, heq⟩ := h
    obtain ⟨rfl, rfl⟩ := Prod.mk.inj (Option.some.inj heq)
    have hhead := decodeRecord_bound hfirst
    have htail := ih hrest
    simp only [List.map_cons, List.sum_cons, recordBound] at htail ⊢
    omega

end Lib.Dns
