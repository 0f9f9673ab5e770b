import AirPlay2.Lib.Slots
import AirPlay2.Media.Alac

/- The format parameters of an SDP merged into a configuration (`alac_config.cpp`).
   A segment `key=value` with a known key and a number assigns to one of four fields,
   any other is skipped, and a number past the field's limit makes the parser give up
   (`parseFmtpToken_eq`). So the result depends only on the assignments to each field,
   in their order (`parseAlacFmtpInto_congr`). -/
namespace AirPlay2
open Lib

/-- `parse_alac_fmtp`: its result, and the configuration it leaves. -/
def parseAlacFmtpInto (fmtp : Bytes) (result : AlacConfig) : Bool × AlacConfig :=
  match (getlines 59 fmtp).foldlM parseFmtpToken result with
  | none => (false, result)
  | some cfg => if cfg.valid then (true, cfg) else (false, result)

/-- What a session takes from its format parameters is the merge into a fresh
    configuration. -/
theorem parseAlacFmtp_eq (fmtp : Bytes) :
    parseAlacFmtp fmtp =
      if (parseAlacFmtpInto fmtp {}).1 then some (parseAlacFmtpInto fmtp {}).2 else none := by
  unfold parseAlacFmtp parseAlacFmtpInto
  cases (getlines 59 fmtp).foldlM parseFmtpToken {} with
  | none => rfl
  | some cfg =>
    dsimp only
    by_cases hvalid : cfg.valid = true
    · simp [hvalid]
    · simp [hvalid]

/-! ## The fields a segment can name -/

inductive FmtpField where
  | sampleRate
  | numChannels
  | bitDepth
  | frameLength
  deriving DecidableEq

namespace FmtpField

/-- The keys a field goes by. -/
def keys : FmtpField → List Bytes
  | .sampleRate => [ascii "sampleRate", ascii "sample_rate", ascii "sample-rate"]
  | .numChannels => [ascii "channels"]
  | .bitDepth => [ascii "bitDepth", ascii "bit_depth", ascii "bit-depth"]
  | .frameLength => [ascii "frameLength", ascii "frame_length", ascii "frame-length"]

/-- The greatest number the field holds. -/
def limit : FmtpField → ℕ
  | .sampleRate => 0xffffffff
  | .numChannels => 255
  | .bitDepth => 65535
  | .frameLength => 0xffffffff

def get (c : AlacConfig) : FmtpField → ℕ
  | .sampleRate => c.sampleRate.toNat
  | .numChannels => c.numChannels.toNat
  | .bitDepth => c.bitDepth.toNat
  | .frameLength => c.frameLength.toNat

def set (c : AlacConfig) (field : FmtpField) (number : ℕ) : AlacConfig :=
  match field with
  | .sampleRate => { c with sampleRate := UInt32.ofNat number }
  | .numChannels => { c with numChannels := UInt8.ofNat number }
  | .bitDepth => { c with bitDepth := UInt16.ofNat number }
  | .frameLength => { c with frameLength := UInt32.ofNat number }

/-- The field of a key. -/
def ofKey (key : Bytes) : Option FmtpField :=
  if key ∈ sampleRate.keys then some .sampleRate
  else if key ∈ numChannels.keys then some .numChannels
  else if key ∈ bitDepth.keys then some .bitDepth
  else if key ∈ frameLength.keys then some .frameLength
  else none

/-- The four fields as slots that take what is within their limits. -/
def slots : Slots AlacConfig FmtpField ℕ where
  get := get
  set := set
  admits field number := number ≤ field.limit
  get_set := by
    intro c field number h
    cases field with
    | sampleRate => exact UInt32.toNat_ofNat_of_lt' (Nat.lt_succ_of_le h)
    | numChannels => exact UInt8.toNat_ofNat_of_lt' (Nat.lt_succ_of_le h)
    | bitDepth => exact UInt16.toNat_ofNat_of_lt' (Nat.lt_succ_of_le h)
    | frameLength => exact UInt32.toNat_ofNat_of_lt' (Nat.lt_succ_of_le h)
  get_set_of_ne := by
    intro c j k number h
    cases k with
    | sampleRate => cases j <;> first | exact absurd rfl h | rfl
    | numChannels => cases j <;> first | exact absurd rfl h | rfl
    | bitDepth => cases j <;> first | exact absurd rfl h | rfl
    | frameLength => cases j <;> first | exact absurd rfl h | rfl

end FmtpField

/-- The configuration with nothing in the four fields. -/
def AlacConfig.rest (c : AlacConfig) : AlacConfig :=
  { c with frameLength := 0, numChannels := 0, sampleRate := 0, bitDepth := 0 }

theorem AlacConfig.rest_set (c : AlacConfig) (field : FmtpField) (number : ℕ) :
    (FmtpField.slots.set c field number).rest = c.rest := by
  cases field <;> rfl

/-- A configuration is its four fields and the rest. -/
theorem AlacConfig.ext_fields {c d : AlacConfig} (hrest : c.rest = d.rest)
    (h : ∀ field, FmtpField.get c field = FmtpField.get d field) : c = d := by
  have hframe : c.frameLength = d.frameLength := UInt32.toNat.inj (h .frameLength)
  have hchannels : c.numChannels = d.numChannels := UInt8.toNat.inj (h .numChannels)
  have hrate : c.sampleRate = d.sampleRate := UInt32.toNat.inj (h .sampleRate)
  have hdepth : c.bitDepth = d.bitDepth := UInt16.toNat.inj (h .bitDepth)
  cases c
  cases d
  simp only [rest, AlacConfig.mk.injEq] at hrest hframe hchannels hrate hdepth ⊢
  simp_all

/-! ## Segments -/

/-- The field whose key stands before the first `=` of a segment. -/
def segmentField (segment : Bytes) : Option FmtpField :=
  match find segment [61] 0 with
  | none => none
  | some eq => FmtpField.ofKey (trim (segment.take eq))

/-- The number behind the first `=`. -/
def segmentNumber (segment : Bytes) : Option ℕ :=
  match find segment [61] 0 with
  | none => none
  | some eq => parseUint (trim (segment.drop (eq + 1)))

/-- The assignment a segment makes. -/
def segmentEntry (segment : Bytes) : Option (FmtpField × ℕ) :=
  match segmentField segment, segmentNumber segment with
  | some field, some number => some (field, number)
  | _, _ => none

/-- The parser's key comparisons, in their order. -/
theorem ofKey_eq (key : Bytes) :
    FmtpField.ofKey key =
      if key = ascii "sampleRate" ∨ key = ascii "sample_rate" ∨ key = ascii "sample-rate" then
        some .sampleRate
      else if key = ascii "channels" then some .numChannels
      else if key = ascii "bitDepth" ∨ key = ascii "bit_depth" ∨ key = ascii "bit-depth" then
        some .bitDepth
      else if key = ascii "frameLength" ∨ key = ascii "frame_length" ∨ key = ascii "frame-length" then
        some .frameLength
      else none := by
  simp only [FmtpField.ofKey, FmtpField.keys, List.mem_cons, List.not_mem_nil, or_false]

theorem parseUint_le {value : Bytes} {number : ℕ} (h : parseUint value = some number) :
    number ≤ 0xffffffff := by
  unfold parseUint at h
  dsimp only at h
  cases hread : stoul 0 (trim value) with
  | none =>
    rw [hread] at h
    cases h
  | some r =>
    rw [hread] at h
    dsimp only at h
    split at h
    · cases h
    · rename_i hrange
      obtain rfl := Option.some.inj h
      exact Nat.le_of_not_lt (not_or.mp hrange).2

/-- **One segment.** It assigns its number to its field, unless that is past the limit. -/
theorem parseFmtpToken_eq (cfg : AlacConfig) (segment : Bytes) :
    parseFmtpToken cfg segment =
      match segmentEntry segment with
      | none => some cfg
      | some (field, number) =>
        if field.limit < number then none else some (FmtpField.slots.set cfg field number) := by
  unfold parseFmtpToken segmentEntry segmentField segmentNumber
  cases find segment [61] 0 with
  | none => rfl
  | some eq =>
    dsimp only
    rw [ofKey_eq]
    cases hnumber : parseUint (trim (segment.drop (eq + 1))) with
    | none => split_ifs <;> rfl
    | some number =>
      have hlimit : ¬ 0xffffffff < number := Nat.not_lt_of_le (parseUint_le hnumber)
      dsimp only
      split_ifs with hrate hchannels hrange hdepth hrange hframe
      · exact (if_neg hlimit).symm
      · exact (if_pos hrange).symm
      · exact (if_neg hrange).symm
      · exact (if_pos hrange).symm
      · exact (if_neg hrange).symm
      · exact (if_neg hlimit).symm
      · rfl

/-! ## Lists of segments -/

/-- The assignments of the segments. -/
def fmtpEntries (segments : List Bytes) : List (FmtpField × ℕ) := segments.filterMap segmentEntry

theorem fmtpEntries_cons (segment : Bytes) (segments : List Bytes) :
    fmtpEntries (segment :: segments) = (segmentEntry segment).toList ++ fmtpEntries segments := by
  rw [fmtpEntries, List.filterMap_cons]
  cases segmentEntry segment with
  | none => rfl
  | some e => rfl

/-- The number is one the parser gives up on. -/
def pastLimit (e : FmtpField × ℕ) : Bool := e.1.limit < e.2

/-- The segments assign one after the other, unless one of them is past its limit. -/
theorem foldlM_parseFmtpToken (cfg : AlacConfig) (segments : List Bytes) :
    segments.foldlM parseFmtpToken cfg =
      if (fmtpEntries segments).any pastLimit then none
      else some (FmtpField.slots.assign cfg (fmtpEntries segments)) := by
  induction segments generalizing cfg with
  | nil => rfl
  | cons segment segments ih =>
    rw [List.foldlM_cons, parseFmtpToken_eq, fmtpEntries_cons]
    cases segmentEntry segment with
    | none => exact ih cfg
    | some e =>
      obtain ⟨field, number⟩ := e
      dsimp only
      rw [Option.toList_some, List.singleton_append, List.any_cons, pastLimit]
      by_cases hrange : field.limit < number
      · rw [if_pos hrange, decide_eq_true hrange, Bool.true_or, if_pos rfl]
        rfl
      · rw [if_neg hrange, decide_eq_false hrange, Bool.false_or]
        exact ih _

/-- The merge looks at nothing but the assignments. -/
theorem parseAlacFmtpInto_eq (fmtp : Bytes) (base : AlacConfig) :
    parseAlacFmtpInto fmtp base =
      if (fmtpEntries (getlines 59 fmtp)).any pastLimit then (false, base)
      else if (FmtpField.slots.assign base (fmtpEntries (getlines 59 fmtp))).valid then
        (true, FmtpField.slots.assign base (fmtpEntries (getlines 59 fmtp)))
      else (false, base) := by
  rw [parseAlacFmtpInto, foldlM_parseFmtpToken]
  by_cases hrange : (fmtpEntries (getlines 59 fmtp)).any pastLimit = true
  · rw [if_pos hrange, if_pos hrange]
  · rw [if_neg hrange, if_neg hrange]

/-- A refused text leaves the configuration as it was. -/
theorem parseAlacFmtpInto_refused {fmtp : Bytes} {base : AlacConfig}
    (h : (parseAlacFmtpInto fmtp base).1 = false) : (parseAlacFmtpInto fmtp base).2 = base := by
  rw [parseAlacFmtpInto_eq] at h ⊢
  split_ifs at h ⊢
  · rfl
  · rfl

theorem admits_of_any {es : List (FmtpField × ℕ)} (h : es.any pastLimit = false) :
    ∀ e ∈ es, FmtpField.slots.admits e.1 e.2 := by
  intro e he
  apply Nat.le_of_not_lt
  intro hpast
  exact List.any_eq_false.mp h e he (decide_eq_true hpast)

/-- What is accepted: every number is within its limit, and the outcome is valid. -/
theorem parseAlacFmtpInto_accepted {fmtp : Bytes} {base : AlacConfig}
    (h : (parseAlacFmtpInto fmtp base).1 = true) :
    (fmtpEntries (getlines 59 fmtp)).any pastLimit = false ∧
      (FmtpField.slots.assign base (fmtpEntries (getlines 59 fmtp))).valid = true ∧
      parseAlacFmtpInto fmtp base =
        (true, FmtpField.slots.assign base (fmtpEntries (getlines 59 fmtp))) := by
  rw [parseAlacFmtpInto_eq] at h ⊢
  split_ifs at h ⊢ with hrange hvalid
  exact ⟨Bool.eq_false_iff.mpr hrange, hvalid, rfl⟩

/-- Each field of an accepted merge has the last number given for it, or its old one. -/
theorem get_parseAlacFmtpInto {fmtp : Bytes} {base : AlacConfig}
    (h : (parseAlacFmtpInto fmtp base).1 = true) (field : FmtpField) :
    FmtpField.get (parseAlacFmtpInto fmtp base).2 field =
      (lastValue field (fmtpEntries (getlines 59 fmtp))).getD (FmtpField.get base field) := by
  obtain ⟨hrange, -, heq⟩ := parseAlacFmtpInto_accepted h
  rw [heq]
  exact FmtpField.slots.get_assign base (admits_of_any hrange) field

theorem rest_parseAlacFmtpInto (fmtp : Bytes) (base : AlacConfig) :
    (parseAlacFmtpInto fmtp base).2.rest = base.rest := by
  rw [parseAlacFmtpInto_eq]
  split_ifs
  · rfl
  · exact FmtpField.slots.assign_frame AlacConfig.rest_set base _
  · rfl

/-! ## The order of the segments -/

theorem segmentEntry_filter (field : FmtpField) (segment : Bytes) :
    (segmentEntry segment).filter (fun e => e.1 = field) =
      if segmentField segment = some field then segmentEntry segment else none := by
  unfold segmentEntry
  cases segmentField segment with
  | none => rfl
  | some f =>
    cases segmentNumber segment with
    | none => simp
    | some number =>
      by_cases hf : f = field
      · simp [hf]
      · simp [hf]

/-- The assignments to a field come from the segments with its key. -/
theorem fmtpEntries_filter (field : FmtpField) (segments : List Bytes) :
    (fmtpEntries segments).filter (fun e => e.1 = field) =
      fmtpEntries (segments.filter (fun s => segmentField s = some field)) := by
  rw [fmtpEntries, fmtpEntries, List.filter_filterMap, List.filterMap_filter]
  apply List.filterMap_congr
  intro segment _
  rw [segmentEntry_filter]
  simp

/-- Assignments that are the same for every field make the same configuration. -/
theorem assign_congr {es ds : List (FmtpField × ℕ)} (base : AlacConfig)
    (hes : ∀ e ∈ es, FmtpField.slots.admits e.1 e.2) (hds : ∀ d ∈ ds, FmtpField.slots.admits d.1 d.2)
    (h : ∀ field, lastValue field es = lastValue field ds) :
    FmtpField.slots.assign base es = FmtpField.slots.assign base ds := by
  apply AlacConfig.ext_fields
  · rw [FmtpField.slots.assign_frame AlacConfig.rest_set, FmtpField.slots.assign_frame AlacConfig.rest_set]
  · intro field
    have hget := FmtpField.slots.get_assign base hes field
    rw [h field, ← FmtpField.slots.get_assign base hds field] at hget
    exact hget

theorem mem_of_filter_eq {es ds : List (FmtpField × ℕ)}
    (h : ∀ field, es.filter (fun e => e.1 = field) = ds.filter (fun e => e.1 = field))
    {e : FmtpField × ℕ} (he : e ∈ es) : e ∈ ds := by
  have hfiltered : e ∈ ds.filter (fun d => d.1 = e.1) := by
    rw [← h e.1]
    exact List.mem_filter.mpr ⟨he, by simp⟩
  exact List.mem_of_mem_filter hfiltered

/-- **Only the order within a field counts.** -/
theorem parseAlacFmtpInto_congr {fmtp fmtp' : Bytes} (base : AlacConfig)
    (h : ∀ field, (fmtpEntries (getlines 59 fmtp)).filter (fun e => e.1 = field) =
      (fmtpEntries (getlines 59 fmtp')).filter (fun e => e.1 = field)) :
    parseAlacFmtpInto fmtp base = parseAlacFmtpInto fmtp' base := by
  rw [parseAlacFmtpInto_eq, parseAlacFmtpInto_eq]
  generalize fmtpEntries (getlines 59 fmtp) = es at h ⊢
  generalize fmtpEntries (getlines 59 fmtp') = ds at h ⊢
  have hany : es.any pastLimit = ds.any pastLimit := by
    rw [Bool.eq_iff_iff, List.any_eq_true, List.any_eq_true]
    refine ⟨?_, ?_⟩
    · intro hpast
      obtain ⟨e, he, hpast⟩ := hpast
      exact ⟨e, mem_of_filter_eq h he, hpast⟩
    · intro hpast
      obtain ⟨d, hd, hpast⟩ := hpast
      exact ⟨d, mem_of_filter_eq (fun field => (h field).symm) hd, hpast⟩
  rw [hany]
  cases hpast : ds.any pastLimit with
  | true => rfl
  | false =>
    have hassign : FmtpField.slots.assign base es = FmtpField.slots.assign base ds := by
      apply assign_congr base (admits_of_any (hany.trans hpast)) (admits_of_any hpast)
      intro field
      rw [lastValue, h field, lastValue]
    rw [hassign]

/-- Merging the same text into its outcome changes nothing more. -/
theorem parseAlacFmtpInto_again (fmtp : Bytes) (base : AlacConfig) :
    parseAlacFmtpInto fmtp (parseAlacFmtpInto fmtp base).2 = parseAlacFmtpInto fmtp base := by
  cases hok : (parseAlacFmtpInto fmtp base).1 with
  | false => rw [parseAlacFmtpInto_refused hok]
  | true =>
    obtain ⟨hrange, hvalid, heq⟩ := parseAlacFmtpInto_accepted hok
    have hadmits := admits_of_any hrange
    have hagain : FmtpField.slots.assign (FmtpField.slots.assign base
        (fmtpEntries (getlines 59 fmtp))) (fmtpEntries (getlines 59 fmtp)) =
          FmtpField.slots.assign base (fmtpEntries (getlines 59 fmtp)) := by
      rw [← FmtpField.slots.assign_append]
      apply assign_congr base
      · intro e he
        exact hadmits e ((List.mem_append.mp he).elim id id)
      · exact hadmits
      · intro field
        rw [lastValue_append]
        cases lastValue field (fmtpEntries (getlines 59 fmtp)) with
        | none => rfl
        | some number => rfl
    rw [heq, parseAlacFmtpInto_eq, hagain, if_neg (Bool.eq_false_iff.mp hrange), if_pos hvalid]

/-! ## Texts with the same effect -/

theorem AlacConfig.valid_iff (c : AlacConfig) : c.valid = true ↔ ∀ field, FmtpField.get c field ≠ 0 := by
  rw [valid]
  simp only [Bool.and_eq_true, bne_iff_ne]
  refine ⟨?_, ?_⟩
  · intro h field
    obtain ⟨⟨⟨hframe, hchannels⟩, hrate⟩, hdepth⟩ := h
    cases field with
    | sampleRate => exact fun h => hrate (UInt32.toNat.inj h)
    | numChannels => exact fun h => hchannels (UInt8.toNat.inj h)
    | bitDepth => exact fun h => hdepth (UInt16.toNat.inj h)
    | frameLength => exact fun h => hframe (UInt32.toNat.inj h)
  · intro h
    refine ⟨⟨⟨?_, ?_⟩, ?_⟩, ?_⟩
    · exact fun heq => h .frameLength (congrArg UInt32.toNat heq)
    · exact fun heq => h .numChannels (congrArg UInt8.toNat heq)
    · exact fun heq => h .sampleRate (congrArg UInt32.toNat heq)
    · exact fun heq => h .bitDepth (congrArg UInt16.toNat heq)

/-- No configuration takes the assignments: one is past its limit, or a field ends at 0. -/
def Unusable (es : List (FmtpField × ℕ)) : Prop :=
  es.any pastLimit = true ∨ ∃ field, lastValue field es = some 0

/-- Neither can be used, or they give every field the same last number. -/
def SameEffect (es ds : List (FmtpField × ℕ)) : Prop :=
  (Unusable es ∧ Unusable ds) ∨
    (¬ Unusable es ∧ ¬ Unusable ds ∧ ∀ field, lastValue field es = lastValue field ds)

theorem SameEffect.refl (es : List (FmtpField × ℕ)) : SameEffect es es := by
  by_cases h : Unusable es
  · exact Or.inl ⟨h, h⟩
  · exact Or.inr ⟨h, h, fun _ => rfl⟩

theorem parseAlacFmtpInto_unusable {fmtp : Bytes} (h : Unusable (fmtpEntries (getlines 59 fmtp)))
    (base : AlacConfig) : parseAlacFmtpInto fmtp base = (false, base) := by
  cases hok : (parseAlacFmtpInto fmtp base).1 with
  | false => exact Prod.ext hok (parseAlacFmtpInto_refused hok)
  | true =>
    obtain ⟨hrange, hvalid, -⟩ := parseAlacFmtpInto_accepted hok
    obtain hpast | ⟨field, hzero⟩ := h
    · rw [hpast] at hrange
      cases hrange
    · have hget := FmtpField.slots.get_assign base (admits_of_any hrange) field
      rw [hzero] at hget
      exact absurd hget ((AlacConfig.valid_iff _).mp hvalid field)

/-- A configuration with the same small number in the four fields. -/
def AlacConfig.filled (n : UInt8) : AlacConfig where
  frameLength := n.toUInt32
  numChannels := n
  sampleRate := n.toUInt32
  bitDepth := n.toUInt16

theorem AlacConfig.get_filled (n : UInt8) (field : FmtpField) :
    FmtpField.get (AlacConfig.filled n) field = n.toNat := by
  cases field with
  | sampleRate => exact UInt8.toNat_toUInt32 n
  | numChannels => rfl
  | bitDepth => exact UInt8.toNat_toUInt16 n
  | frameLength => exact UInt8.toNat_toUInt32 n

/-- A configuration that has its fields takes what can be used. -/
theorem parseAlacFmtpInto_usable {fmtp : Bytes} (h : ¬ Unusable (fmtpEntries (getlines 59 fmtp)))
    {n : UInt8} (hn : n.toNat ≠ 0) : (parseAlacFmtpInto fmtp (.filled n)).1 = true := by
  obtain ⟨hpast, hzero⟩ := not_or.mp h
  have hvalid : (FmtpField.slots.assign (.filled n) (fmtpEntries (getlines 59 fmtp))).valid = true := by
    apply (AlacConfig.valid_iff _).mpr
    intro field
    have hget : FmtpField.get (FmtpField.slots.assign (.filled n) (fmtpEntries (getlines 59 fmtp))) field =
        (lastValue field (fmtpEntries (getlines 59 fmtp))).getD (FmtpField.get (.filled n) field) :=
      FmtpField.slots.get_assign (.filled n) (admits_of_any (Bool.eq_false_iff.mpr hpast)) field
    rw [hget, AlacConfig.get_filled]
    cases hlast : lastValue field (fmtpEntries (getlines 59 fmtp)) with
    | none => exact hn
    | some number => exact fun hnumber => hzero ⟨field, by rw [hlast]; exact congrArg some hnumber⟩
  rw [parseAlacFmtpInto_eq, if_neg hpast, if_pos hvalid]

/-- **Which texts mean the same.** -/
theorem parseAlacFmtpInto_same_iff (fmtp fmtp' : Bytes) :
    (∀ base, parseAlacFmtpInto fmtp base = parseAlacFmtpInto fmtp' base) ↔
      SameEffect (fmtpEntries (getlines 59 fmtp)) (fmtpEntries (getlines 59 fmtp')) := by
  refine ⟨?_, ?_⟩
  · intro h
    have hone : (1 : UInt8).toNat ≠ 0 := by decide
    by_cases hunusable : Unusable (fmtpEntries (getlines 59 fmtp))
    · refine Or.inl ⟨hunusable, ?_⟩
      by_contra husable
      have haccepted := parseAlacFmtpInto_usable husable hone
      rw [← h, parseAlacFmtpInto_unusable hunusable] at haccepted
      cases haccepted
    · have husable' : ¬ Unusable (fmtpEntries (getlines 59 fmtp')) := by
        intro hunusable'
        have haccepted := parseAlacFmtpInto_usable hunusable hone
        rw [h, parseAlacFmtpInto_unusable hunusable'] at haccepted
        cases haccepted
      refine Or.inr ⟨hunusable, husable', ?_⟩
      intro field
      -- A field that one of them leaves keeps a 1 and a 2, and the other cannot give both.
      have hget (n : UInt8) (hn : n.toNat ≠ 0) :
          (lastValue field (fmtpEntries (getlines 59 fmtp))).getD n.toNat =
            (lastValue field (fmtpEntries (getlines 59 fmtp'))).getD n.toNat := by
        have hleft := get_parseAlacFmtpInto (parseAlacFmtpInto_usable hunusable hn) field
        have hright := get_parseAlacFmtpInto (parseAlacFmtpInto_usable husable' hn) field
        rw [AlacConfig.get_filled] at hleft hright
        rw [← hleft, ← hright, h]
      have h1 := hget 1 (by decide)
      have h2 := hget 2 (by decide)
      cases hl : lastValue field (fmtpEntries (getlines 59 fmtp)) with
      | none =>
        cases hr : lastValue field (fmtpEntries (getlines 59 fmtp')) with
        | none => rfl
        | some number =>
          rw [hl, hr] at h1 h2
          exact absurd (h1.trans h2.symm) (by decide)
      | some number =>
        rw [hl] at h1 h2
        cases hr : lastValue field (fmtpEntries (getlines 59 fmtp')) with
        | none =>
          rw [hr] at h1 h2
          exact absurd (h1.symm.trans h2) (by decide)
        | some number' =>
          rw [hr] at h1
          exact congrArg some h1
  · intro h base
    obtain ⟨hl, hr⟩ | ⟨hl, hr, hsame⟩ := h
    · rw [parseAlacFmtpInto_unusable hl, parseAlacFmtpInto_unusable hr]
    · have hpast := Bool.eq_false_iff.mpr (not_or.mp hl).1
      have hpast' := Bool.eq_false_iff.mpr (not_or.mp hr).1
      rw [parseAlacFmtpInto_eq, parseAlacFmtpInto_eq, hpast, hpast',
        assign_congr base (admits_of_any hpast) (admits_of_any hpast') hsame]

/-! ## Texts made of segments -/

/-- A piece of a text between two semicolons. -/
abbrev FmtpSegment := { s : Bytes // 59 ∉ s }

/-- The segments joined with `;`. -/
def fmtpText (segments : List FmtpSegment) : Bytes := [59].intercalate (segments.map Subtype.val)

/-- The segments that address a field. -/
def addressing (field : FmtpField) (segments : List FmtpSegment) : List FmtpSegment :=
  segments.filter (fun s => segmentField s.val = some field)

/-- A text has the assignments of its segments. -/
theorem fmtpEntries_fmtpText (segments : List FmtpSegment) :
    fmtpEntries (getlines 59 (fmtpText segments)) = fmtpEntries (segments.map Subtype.val) := by
  induction segments with
  | nil => rfl
  | cons segment segments ih =>
    obtain ⟨s, hs⟩ := segment
    cases segments with
    | nil =>
      have htext : fmtpText [⟨s, hs⟩] = s := by simp [fmtpText, List.intercalate]
      rw [htext]
      by_cases hempty : s = []
      · subst hempty
        rfl
      · rw [getlines_of_notMem hs hempty]
        rfl
    | cons t segments =>
      have htext : fmtpText (⟨s, hs⟩ :: t :: segments) = s ++ 59 :: fmtpText (t :: segments) := by
        simp [fmtpText, List.intercalate]
      rw [htext, getlines_append hs, List.map_cons, fmtpEntries_cons, fmtpEntries_cons, ih]

theorem filter_entries_fmtpText (field : FmtpField) (segments : List FmtpSegment) :
    (fmtpEntries (getlines 59 (fmtpText segments))).filter (fun e => e.1 = field) =
      fmtpEntries ((addressing field segments).map Subtype.val) := by
  rw [fmtpEntries_fmtpText, fmtpEntries_filter, addressing, List.filter_map]
  rfl

/-- **Merging format parameters.** A refused text leaves the configuration as it was. An
    accepted one makes it valid, and changes at most the four fields: each has the number
    of the last segment that assigns to it, or its old one. The outcome is the same for
    any list of segments with the same segments for each field in the same order, and
    merging the text once more changes nothing. -/
theorem fmtp_merge (base : AlacConfig) (segments : List FmtpSegment) :
    ((parseAlacFmtpInto (fmtpText segments) base).1 = false →
        (parseAlacFmtpInto (fmtpText segments) base).2 = base) ∧
      ((parseAlacFmtpInto (fmtpText segments) base).1 = true →
        (parseAlacFmtpInto (fmtpText segments) base).2.valid = true ∧
          (parseAlacFmtpInto (fmtpText segments) base).2.rest = base.rest ∧
          ∀ field, FmtpField.get (parseAlacFmtpInto (fmtpText segments) base).2 field =
            (lastValue field (fmtpEntries (segments.map Subtype.val))).getD
              (FmtpField.get base field)) ∧
      (∀ segments', (∀ field, addressing field segments' = addressing field segments) →
        parseAlacFmtpInto (fmtpText segments') base = parseAlacFmtpInto (fmtpText segments) base) ∧
      parseAlacFmtpInto (fmtpText segments) (parseAlacFmtpInto (fmtpText segments) base).2 =
        parseAlacFmtpInto (fmtpText segments) base := by
  refine ⟨parseAlacFmtpInto_refused, ?_, ?_, parseAlacFmtpInto_again _ base⟩
  · intro hok
    refine ⟨?_, rest_parseAlacFmtpInto _ base, ?_⟩
    · obtain ⟨-, hvalid, heq⟩ := parseAlacFmtpInto_accepted hok
      rw [heq]
      exact hvalid
    · intro field
      rw [get_parseAlacFmtpInto hok, fmtpEntries_fmtpText]
  · intro segments' hsame
    apply parseAlacFmtpInto_congr
    intro field
    rw [filter_entries_fmtpText, filter_entries_fmtpText, hsame field]

end AirPlay2
