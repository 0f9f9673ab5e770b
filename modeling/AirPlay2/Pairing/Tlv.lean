import AirPlay2.Lib.Text

/- The TLV8 codec of the pairing messages (`airplay_pairing.cpp`): an item is a
   type byte, a length byte and the value. The encoder splits a value over 255
   bytes into items of one type; the decoder keeps the items apart and `findTlv`
   takes the first of a type, so of such a value it gives the first 255 bytes
   (`findTlv_encode`). -/
namespace AirPlay2
open Lib

structure Tlv where
  type : UInt8
  value : Bytes
  deriving DecidableEq, Repr

/-- The decoding loop over the bytes left; `none` is the `return {}` of a value
    that runs past the end, or of a dangling last byte. Every round takes two bytes
    or more, so the number of bytes is fuel enough (`decodeLoop_fuel`). -/
def decodeLoop : ℕ → Bytes → Option (List Tlv)
  | _, [] => some []
  | fuel + 1, t :: n :: rest =>
    if rest.length < n.toNat then none
    else (decodeLoop fuel (rest.drop n.toNat)).map (⟨t, rest.take n.toNat⟩ :: ·)
  | _, _ => none

def decodeTlv (input : Bytes) : List Tlv := (decodeLoop input.length input).getD []

def findTlv (ts : List Tlv) (type : UInt8) : Option Bytes :=
  (ts.find? (fun t => t.type = type)).map Tlv.value

/-- The `do … while (off < value.size())` loop of `add_tlv`, on the value left. -/
def addTlvLoop (type : UInt8) : ℕ → Bytes → Bytes
  | 0, _ => []
  | fuel + 1, value =>
    let n := min 255 value.length
    type :: UInt8.ofNat n :: value.take n ++
      if n < value.length then addTlvLoop type fuel (value.drop n) else []

def addTlv (out : Bytes) (type : UInt8) (value : Bytes) : Bytes :=
  out ++ addTlvLoop type (value.length + 1) value

/-- A message: its items one after another. -/
def encodeTlvs (items : List (UInt8 × Bytes)) : Bytes :=
  items.foldl (fun out item => addTlv out item.1 item.2) []

/-! ## The items of an encoded value -/

/-- One item on the wire. -/
def Tlv.bytes (t : Tlv) : Bytes := t.type :: UInt8.ofNat t.value.length :: t.value

/-- The items `add_tlv` writes for a value. -/
def fragments (type : UInt8) : ℕ → Bytes → List Tlv
  | 0, _ => []
  | fuel + 1, value =>
    let n := min 255 value.length
    ⟨type, value.take n⟩ :: if n < value.length then fragments type fuel (value.drop n) else []

theorem addTlvLoop_eq (type : UInt8) (fuel : ℕ) (value : Bytes) :
    addTlvLoop type fuel value = (fragments type fuel value).flatMap Tlv.bytes := by
  induction fuel generalizing value with
  | zero => rfl
  | succ fuel ih =>
    simp only [addTlvLoop, fragments, List.flatMap_cons, Tlv.bytes, List.length_take]
    split
    · simp [ih]
    · simp

theorem fragments_short (type : UInt8) (fuel : ℕ) (value : Bytes) :
    ∀ t ∈ fragments type fuel value, t.type = type ∧ t.value.length ≤ 255 := by
  induction fuel generalizing value with
  | zero => simp [fragments]
  | succ fuel ih =>
    intro t ht
    simp only [fragments, List.mem_cons] at ht
    obtain rfl | ht := ht
    · exact ⟨rfl, by simp⟩
    · split at ht
      · exact ih _ t ht
      · simp at ht

/-- Nothing of the value is lost in them. -/
theorem fragments_join (type : UInt8) {fuel : ℕ} {value : Bytes} (h : value.length < fuel) :
    (fragments type fuel value).flatMap Tlv.value = value := by
  induction fuel generalizing value with
  | zero => omega
  | succ fuel ih =>
    simp only [fragments, List.flatMap_cons]
    split
    · rename_i hmore
      rw [ih (by rw [List.length_drop]; omega), List.take_append_drop]
    · rename_i hlast
      rw [List.flatMap_nil, List.append_nil, List.take_of_length_le (by omega)]

/-- The items of a whole message. -/
def allFragments (items : List (UInt8 × Bytes)) : List Tlv :=
  items.flatMap (fun item => fragments item.1 (item.2.length + 1) item.2)

theorem encodeTlvs_eq (items : List (UInt8 × Bytes)) :
    encodeTlvs items = (allFragments items).flatMap Tlv.bytes := by
  have hgen : ∀ out, items.foldl (fun out item => addTlv out item.1 item.2) out =
      out ++ (allFragments items).flatMap Tlv.bytes := by
    induction items with
    | nil => simp [allFragments]
    | cons item items ih =>
      intro out
      rw [List.foldl_cons, ih]
      simp [allFragments, addTlv, addTlvLoop_eq, List.flatMap_append]
  simpa [encodeTlvs] using hgen []

/-! ## Decoding -/

/-- The loop does not see how much fuel it has left. -/
theorem decodeLoop_fuel {input : Bytes} {f g : ℕ} (hf : input.length ≤ f)
    (hg : input.length ≤ g) : decodeLoop f input = decodeLoop g input := by
  induction f generalizing input g with
  | zero =>
    have hnil := List.eq_nil_of_length_eq_zero (Nat.le_zero.mp hf)
    subst hnil
    cases g <;> rfl
  | succ f ih =>
    match input, g with
    | [], 0 => rfl
    | [], _ + 1 => rfl
    | [_], _ + 1 => rfl
    | t :: n :: rest, g + 1 =>
      simp only [List.length_cons] at hf hg
      simp only [decodeLoop]
      split
      · rfl
      · have hrest : decodeLoop f (rest.drop n.toNat) = decodeLoop g (rest.drop n.toNat) :=
          ih (by simp; omega) (by simp; omega)
        rw [hrest]

/-- Items short enough for their length byte are read back one by one. -/
theorem decodeLoop_bytes {ts : List Tlv} (hs : ∀ t ∈ ts, t.value.length ≤ 255) {fuel : ℕ}
    (hf : (ts.flatMap Tlv.bytes).length ≤ fuel) :
    decodeLoop fuel (ts.flatMap Tlv.bytes) = some ts := by
  induction ts generalizing fuel with
  | nil => cases fuel <;> rfl
  | cons t ts ih =>
    have ht := hs t List.mem_cons_self
    have hn : (UInt8.ofNat t.value.length).toNat = t.value.length := by
      rw [UInt8.toNat_ofNat']; omega
    simp only [List.flatMap_cons, Tlv.bytes, List.cons_append, List.length_cons,
      List.length_append] at hf
    cases fuel with
    | zero => omega
    | succ fuel =>
      have hrec : decodeLoop fuel (ts.flatMap Tlv.bytes) = some ts :=
        ih (fun u hu => hs u (List.mem_cons_of_mem _ hu)) (by omega)
      simp [List.flatMap_cons, Tlv.bytes, decodeLoop, hn, hrec]

theorem decodeTlv_encode (items : List (UInt8 × Bytes)) :
    decodeTlv (encodeTlvs items) = allFragments items := by
  have hs : ∀ t ∈ allFragments items, t.value.length ≤ 255 := by
    intro t ht
    obtain ⟨item, -, ht⟩ := List.mem_flatMap.mp ht
    exact (fragments_short _ _ _ t ht).2
  rw [decodeTlv, encodeTlvs_eq, decodeLoop_bytes hs (Nat.le_refl _), Option.getD_some]

theorem fragments_head (type : UInt8) (value : Bytes) :
    ∃ rest, fragments type (value.length + 1) value = ⟨type, value.take 255⟩ :: rest := by
  have htake : value.take (min 255 value.length) = value.take 255 := by
    rw [List.take_eq_take_iff]
    omega
  simp only [fragments, htake]
  exact ⟨_, rfl⟩

/-- Of an encoded value, the first item is what a lookup finds. -/
theorem findTlv_encode {items : List (UInt8 × Bytes)} (hn : (items.map Prod.fst).Nodup)
    {type : UInt8} {value : Bytes} (h : (type, value) ∈ items) :
    findTlv (decodeTlv (encodeTlvs items)) type = some (value.take 255) := by
  rw [decodeTlv_encode]
  induction items with
  | nil => simp at h
  | cons item items ih =>
    simp only [List.map_cons, List.nodup_cons] at hn
    simp only [allFragments, List.flatMap_cons, findTlv, List.find?_append] at ih ⊢
    obtain rfl | h := List.mem_cons.mp h
    · obtain ⟨rest, hr⟩ := fragments_head type value
      rw [hr]
      simp
    · have hne : item.1 ≠ type := fun he => hn.1 (he ▸ List.mem_map.mpr ⟨_, h, rfl⟩)
      have hnone : (fragments item.1 (item.2.length + 1) item.2).find?
          (fun t => t.type = type) = none := by
        rw [List.find?_eq_none]
        intro t ht
        simpa [(fragments_short _ _ _ t ht).1] using hne
      rw [hnone, Option.none_or]
      exact ih hn.2 h

/-- **A value comes back whole iff it fits one item.** Looking up a listed type in what
    was encoded gives the value that was put in exactly for values of at most 255 bytes. -/
theorem findTlv_encode_iff {items : List (UInt8 × Bytes)} (hn : (items.map Prod.fst).Nodup)
    {type : UInt8} {value : Bytes} (h : (type, value) ∈ items) :
    findTlv (decodeTlv (encodeTlvs items)) type = some value ↔ value.length ≤ 255 := by
  rw [findTlv_encode hn h]
  refine ⟨?_, ?_⟩
  · intro hwhole
    have hlen : (value.take 255).length = value.length := by
      rw [Option.some.inj hwhole]
    rw [List.length_take] at hlen
    omega
  · intro hshort
    rw [List.take_of_length_le hshort]

theorem findTlv_encode_iff_proof :
    findTlv (decodeTlv (encodeTlvs [(6, [3]), (4, List.replicate 64 7)])) 4 =
        some (List.replicate 64 7) ↔
      (List.replicate 64 (7 : UInt8)).length ≤ 255 :=
  findTlv_encode_iff (by decide) (by decide)

/-- The public key of M3 does not come back: 384 bytes, in two items. -/
theorem findTlv_publicKey_cut :
    ¬ ∀ items : List (UInt8 × Bytes), (items.map Prod.fst).Nodup → ∀ item ∈ items,
      findTlv (decodeTlv (encodeTlvs items)) item.1 = some item.2 := by
  intro hround
  obtain ⟨key, hkey⟩ : ∃ key : Bytes, key.length = 384 := ⟨List.replicate 384 1, List.length_replicate⟩
  have hn : (([(6, [3]), (3, key)] : List (UInt8 × Bytes)).map Prod.fst).Nodup := by
    show ([6, 3] : List UInt8).Nodup
    decide
  have hmem : (3, key) ∈ ([(6, [3]), (3, key)] : List (UInt8 × Bytes)) :=
    List.mem_cons_of_mem _ List.mem_cons_self
  have hcut : some (key.take 255) = some key :=
    (findTlv_encode hn hmem).symm.trans (hround _ hn _ hmem)
  have hlen : (key.take 255).length = key.length := by
    rw [Option.some.inj hcut]
  rw [List.length_take, hkey] at hlen
  omega

end AirPlay2
