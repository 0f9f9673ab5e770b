import AirPlay2.Lib.Reading
import AirPlay2.Pairing.Tlv

/- What `decode_tlv` accepts, which is all that stands between an attacker's bytes and the
   pairing states. The grammar is `TlvText`: items one behind the other, each a type byte, a
   length byte and exactly that many bytes of value. The loop of the source goes by an index
   into the input, here with every read checked (`readTlv`).

   What is proved:
     1. `TlvText.bytes` — a text of the grammar is its items written back.
     2. `decodeLoop_iff` — the decoder's loop gives the items of a text, and of nothing else.
     3. `readTlv_eq` — no read of the source's loop is past the end, and what it returns is
        what `decodeTlv` returns.
     4. `decodeTlv_exact` — a list with items is returned for the texts with items, and for
        no other input. -/
namespace AirPlay2
open Lib

/-- The bytes of a list of items, `type length value` each. -/
inductive TlvText : Bytes → List Tlv → Prop
  | done : TlvText [] []
  | item {type length : UInt8} {value rest : Bytes} {ts : List Tlv} :
    value.length = length.toNat → TlvText rest ts →
      TlvText (type :: length :: (value ++ rest)) (⟨type, value⟩ :: ts)

/-- The loop of `decode_tlv` from the index `p` on, with `out` decoded so far; `none` is a
    read past the end. -/
def readTlvLoop (input : Bytes) : ℕ → ℕ → List Tlv → Option (List Tlv)
  | 0, _, _ => none
  | fuel + 1, p, out =>
    if p + 2 ≤ input.length then do
      let type ← input[p]?
      let length ← input[p + 1]?
      if p + 2 + length.toNat > input.length then some []
      else
        let value ← readBytes input length.toNat (p + 2)
        readTlvLoop input fuel (p + 2 + length.toNat) (out ++ [⟨type, value⟩])
    else some (if p = input.length then out else [])

/-- `decode_tlv` by its index. Every round goes on by two bytes or more, so there are fewer
    rounds than bytes, the one that ends the loop apart. -/
def readTlv (input : Bytes) : Option (List Tlv) := readTlvLoop input (input.length + 1) 0 []

/-! ## The grammar -/

theorem TlvText.bytes {input : Bytes} {ts : List Tlv} (h : TlvText input ts) :
    ts.flatMap Tlv.bytes = input := by
  induction h with
  | done => rfl
  | @item type length value rest ts hlen _ ih =>
    have hlength : UInt8.ofNat value.length = length := by
      rw [hlen, UInt8.ofNat_toNat]
    rw [List.flatMap_cons, ih]
    simp only [Tlv.bytes, hlength, List.cons_append]

theorem TlvText.fits {input : Bytes} {ts : List Tlv} (h : TlvText input ts) :
    ∀ t ∈ ts, t.value.length ≤ 255 := by
  induction h with
  | done => simp
  | @item type length value rest ts hlen _ ih =>
    intro t ht
    obtain rfl | ht := List.mem_cons.mp ht
    · have hlt := length.toNat_lt
      show value.length ≤ 255
      omega
    · exact ih t ht

/-- What the loop returns is the items of its input. -/
theorem tlvText_of_decodeLoop {fuel : ℕ} {input : Bytes} {ts : List Tlv}
    (h : decodeLoop fuel input = some ts) : TlvText input ts := by
  induction fuel generalizing input ts with
  | zero =>
    cases input with
    | nil => cases h; exact .done
    | cons b bs => simp [decodeLoop] at h
  | succ fuel ih =>
    cases input with
    | nil => cases h; exact .done
    | cons type tail =>
      cases tail with
      | nil => cases h
      | cons length rest =>
        simp only [decodeLoop] at h
        split at h
        · cases h
        · rename_i hfit
          obtain ⟨us, hrec, rfl⟩ := Option.map_eq_some_iff.mp h
          have hlen : (rest.take length.toNat).length = length.toNat := by
            rw [List.length_take]
            omega
          have hitem : TlvText (type :: length :: (rest.take length.toNat ++ rest.drop length.toNat))
              (⟨type, rest.take length.toNat⟩ :: us) := .item hlen (ih hrec)
          rwa [List.take_append_drop] at hitem

theorem decodeLoop_iff {fuel : ℕ} {input : Bytes} (hf : input.length ≤ fuel) (ts : List Tlv) :
    decodeLoop fuel input = some ts ↔ TlvText input ts := by
  refine ⟨tlvText_of_decodeLoop, ?_⟩
  intro h
  have hbytes := h.bytes
  subst hbytes
  exact decodeLoop_bytes h.fits hf

/-! ## The index -/

theorem drop_two {input : Bytes} {p : ℕ} (h : p + 2 ≤ input.length) :
    ∃ type length : UInt8, input[p]? = some type ∧ input[p + 1]? = some length ∧
      input.drop p = type :: length :: input.drop (p + 2) := by
  have hp : p < input.length := by omega
  have hp1 : p + 1 < input.length := by omega
  refine ⟨input[p], input[p + 1], List.getElem?_eq_getElem hp, List.getElem?_eq_getElem hp1, ?_⟩
  rw [List.drop_eq_getElem_cons hp, List.drop_eq_getElem_cons hp1]

/-- A round of the index is a round of the decoder on the bytes left. -/
theorem readTlvLoop_eq {input : Bytes} {fuel p : ℕ} (out : List Tlv) (hp : p ≤ input.length)
    (hf : input.length < p + fuel) :
    readTlvLoop input fuel p out =
      some (((decodeLoop (input.length - p) (input.drop p)).map (out ++ ·)).getD []) := by
  induction fuel generalizing p out with
  | zero => omega
  | succ fuel ih =>
    by_cases hmore : p + 2 ≤ input.length
    · obtain ⟨type, length, htype, hlength, hdrop⟩ := drop_two hmore
      obtain ⟨left, hleft⟩ : ∃ left, input.length - p = left + 1 :=
        ⟨input.length - p - 1, by omega⟩
      rw [hdrop, hleft]
      simp only [readTlvLoop, if_pos hmore, htype, hlength, bind, Option.bind, decodeLoop,
        List.length_drop]
      by_cases hfit : p + 2 + length.toNat > input.length
      · have hshort : input.length - (p + 2) < length.toNat := by omega
        rw [if_pos hfit, if_pos hshort]
        rfl
      · have hlong : ¬ input.length - (p + 2) < length.toNat := by omega
        have hread : readBytes input length.toNat (p + 2) =
            some ((input.drop (p + 2)).take length.toNat) := if_pos (by omega)
        have hrest : decodeLoop left (input.drop (p + 2 + length.toNat)) =
            decodeLoop (input.length - (p + 2 + length.toNat))
              (input.drop (p + 2 + length.toNat)) :=
          decodeLoop_fuel (by rw [List.length_drop]; omega) (by rw [List.length_drop])
        rw [if_neg hfit, if_neg hlong, hread, List.drop_drop, hrest]
        simp only [ih (out ++ [⟨type, (input.drop (p + 2)).take length.toNat⟩])
          (p := p + 2 + length.toNat) (by omega) (by omega), Option.map_map]
        congr 3
        funext us
        simp
    · rw [readTlvLoop, if_neg hmore]
      obtain hend | hone : p = input.length ∨ p + 1 = input.length := by omega
      · -- nothing is left
        rw [if_pos hend, hend, List.drop_length, Nat.sub_self]
        simp [decodeLoop]
      · -- one byte is left, which is no item
        have hlt : p < input.length := by omega
        have hne : p ≠ input.length := by omega
        have hleft : input.length - p = 1 := by omega
        rw [if_neg hne, hleft, List.drop_eq_getElem_cons hlt, hone, List.drop_length]
        rfl

/-- The source's loop reads only inside the input and returns what the decoder returns. -/
theorem readTlv_eq (input : Bytes) : readTlv input = some (decodeTlv input) := by
  rw [readTlv, readTlvLoop_eq [] (Nat.zero_le _) (by omega), Nat.sub_zero, List.drop_zero,
    decodeTlv]
  simp

/-! ## Acceptance -/

theorem decodeTlv_of_text {input : Bytes} {ts : List Tlv} (h : TlvText input ts) :
    decodeTlv input = ts := by
  rw [decodeTlv, (decodeLoop_iff (Nat.le_refl _) ts).mpr h, Option.getD_some]

theorem text_of_decodeTlv {input : Bytes} (h : decodeTlv input ≠ []) :
    TlvText input (decodeTlv input) := by
  cases hd : decodeLoop input.length input with
  | none =>
    rw [decodeTlv, hd] at h
    exact absurd rfl h
  | some ts =>
    rw [decodeTlv, hd, Option.getD_some]
    exact tlvText_of_decodeLoop hd

/-- **`decode_tlv` accepts exactly the grammar.** It returns items iff the input is a text with
    items, then it returns these, in order, and they write the input again; on every other
    input it returns nothing. Its reads stay inside the input in either case. -/
theorem decodeTlv_exact (input : Bytes) :
    (decodeTlv input ≠ [] ↔ ∃ ts, ts ≠ [] ∧ TlvText input ts) ∧
      (∀ ts, ts ≠ [] ∧ TlvText input ts →
        decodeTlv input = ts ∧ (decodeTlv input).flatMap Tlv.bytes = input) ∧
      ((¬ ∃ ts, ts ≠ [] ∧ TlvText input ts) → decodeTlv input = []) ∧
      readTlv input = some (decodeTlv input) := by
  have hiff : decodeTlv input ≠ [] ↔ ∃ ts, ts ≠ [] ∧ TlvText input ts := by
    refine ⟨?_, ?_⟩
    · intro hne
      exact ⟨_, hne, text_of_decodeTlv hne⟩
    · intro h
      obtain ⟨ts, hne, htext⟩ := h
      rwa [decodeTlv_of_text htext]
  refine ⟨hiff, ?_, ?_, readTlv_eq input⟩
  · intro ts h
    obtain ⟨-, htext⟩ := h
    have heq := decodeTlv_of_text htext
    refine ⟨heq, ?_⟩
    rw [heq]
    exact htext.bytes
  · intro hno
    by_contra hne
    exact hno (hiff.mp hne)

end AirPlay2
