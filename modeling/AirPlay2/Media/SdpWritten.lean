import AirPlay2.Media.SdpText

/- Descriptions as a sender writes them (`sdp.cpp`): the version, the name, attributes of
   the session, and media sections with theirs. A `:` or `=` in a value, the line ends, the
   indentation and the blank lines are the sender's choice; parsing gives the description
   back (`parseSdp_written`). -/
namespace AirPlay2
open Lib

/-! ## Descriptions -/

/-- A word that a line can hold. -/
abbrev SdpWord := { w : Bytes // IsWord w }

/-- A decimal numeral that fits an `int`. -/
def IsIntNumeral (d : Bytes) : Prop := d ≠ [] ∧ (∀ c ∈ d, isdigit c = true) ∧ digitsValue 10 d < 2 ^ 31

theorem isIntNumeral_iff_all {d : Bytes} :
    IsIntNumeral d ↔ (!d.isEmpty && d.all isdigit && digitsValue 10 d < 2 ^ 31) = true := by
  rw [IsIntNumeral]
  simp [and_assoc]

instance decidableIsIntNumeral (d : Bytes) : Decidable (IsIntNumeral d) :=
  decidable_of_iff' _ isIntNumeral_iff_all

abbrev SdpNumber := { d : Bytes // IsIntNumeral d }

structure SdpAttribute where
  key : Bytes
  value : Bytes
  key_ne_nil : key ≠ []
  key_plain : ∀ c ∈ key, isspace c = false ∧ c ≠ 58 ∧ c ≠ 61
  value_line : 10 ∉ value
  value_trimmed : Trimmed value

namespace SdpAttribute

def entry (a : SdpAttribute) : Bytes × Bytes := (a.key, a.value)

/-- `key:value`. -/
def text (a : SdpAttribute) : Bytes := a.key ++ 58 :: a.value

end SdpAttribute

structure WrittenMedia where
  type : SdpWord
  port : SdpWord
  transport : SdpWord
  payloadType : SdpNumber
  attributes : List SdpAttribute
  keys_nodup : (attributes.map SdpAttribute.key).Nodup
  no_rtpmap : ∀ a ∈ attributes, a.key ≠ ascii "rtpmap"

namespace WrittenMedia

/-- `type port transport payload`. -/
def text (m : WrittenMedia) : Bytes :=
  m.type.val ++ 32 :: (m.port.val ++ 32 :: (m.transport.val ++ 32 :: m.payloadType.val))

def attributeTexts (m : WrittenMedia) : List Bytes := m.attributes.map SdpAttribute.text

def lines (m : WrittenMedia) : List Bytes :=
  (ascii "m=" ++ m.text) :: m.attributeTexts.map (ascii "a=" ++ ·)

end WrittenMedia

structure WrittenSdp where
  sessionName : Bytes
  attributes : List SdpAttribute
  media : List WrittenMedia
  name_line : 10 ∉ sessionName
  name_trimmed : Trimmed sessionName
  media_ne_nil : media ≠ []

namespace WrittenSdp

def attributeTexts (d : WrittenSdp) : List Bytes := d.attributes.map SdpAttribute.text

def lines (d : WrittenSdp) : List Bytes :=
  ascii "v=0" :: (ascii "s=" ++ d.sessionName) ::
    (d.attributeTexts.map (ascii "a=" ++ ·) ++ d.media.flatMap WrittenMedia.lines)

/-- The attributes of the session and of the sections, in the order of the text. -/
def allAttributes (d : WrittenSdp) : List SdpAttribute :=
  d.attributes ++ d.media.flatMap WrittenMedia.attributes

end WrittenSdp

/-! ## Texts -/

/-- Whitespace in front of a line, or alone on it. -/
abbrev Indentation := { blanks : Bytes // ∀ c ∈ blanks, isspace c = true ∧ c ≠ 10 }

inductive SdpLineEnd where
  | lf
  | crlf

/-- What stands in front of the line feed. -/
def SdpLineEnd.front : SdpLineEnd → Bytes
  | .lf => []
  | .crlf => [13]

/-- The text has these lines, indented at will, and blank lines between. -/
inductive WrittenAs : List Bytes → Bytes → Prop where
  | done : WrittenAs [] []
  | blank {lines : List Bytes} {text : Bytes} (indent : Indentation) (ending : SdpLineEnd)
      (h : WrittenAs lines text) : WrittenAs lines (indent.val ++ ending.front ++ 10 :: text)
  | line {lines : List Bytes} {text : Bytes} (indent : Indentation) (line : Bytes) (ending : SdpLineEnd)
      (h : WrittenAs lines text) :
      WrittenAs (line :: lines) (indent.val ++ line ++ ending.front ++ 10 :: text)

theorem SdpLineEnd.isspace_front (ending : SdpLineEnd) : ∀ c ∈ ending.front, isspace c = true := by
  cases ending with
  | lf => simp [front]
  | crlf => simp [front, isspace]

theorem SdpLineEnd.notMem_front (ending : SdpLineEnd) : 10 ∉ ending.front := by
  cases ending <;> decide

theorem Indentation.notMem (indent : Indentation) : 10 ∉ indent.val := fun h => (indent.property 10 h).2 rfl

theorem Indentation.isspace (indent : Indentation) : ∀ c ∈ indent.val, isspace c = true :=
  fun c hc => (indent.property c hc).1

/-- Only the lines themselves count. -/
theorem sdpLines_written {lines : List Bytes} {text : Bytes} (h : WrittenAs lines text)
    (hlines : ∀ line ∈ lines, 10 ∉ line) : sdpLines text = lines.filterMap sdpLine := by
  induction h with
  | done => rfl
  | blank indent ending h ih =>
    have hline : 10 ∉ indent.val ++ ending.front := by
      simp [indent.notMem, ending.notMem_front]
    have hblank : trim (indent.val ++ ending.front) = [] := by
      have htrim := trim_append indent.isspace ending.isspace_front []
      rw [List.append_nil] at htrim
      exact htrim
    rw [sdpLines, getlines_append hline, List.filterMap_cons, sdpLine, hblank]
    exact ih hlines
  | line indent line ending h ih =>
    have hline : 10 ∉ indent.val ++ line ++ ending.front := by
      simp [indent.notMem, ending.notMem_front, hlines line (by simp)]
    have hsame : sdpLine (indent.val ++ line ++ ending.front) = sdpLine line := by
      rw [sdpLine, sdpLine, trim_append indent.isspace ending.isspace_front]
    rw [sdpLines, getlines_append hline, List.filterMap_cons, List.filterMap_cons, hsame, ← sdpLines,
      ih (fun l hl => hlines l (by simp [hl]))]

/-! ## Reading the lines back -/

theorem trimmed_word {w : Bytes} (h : ∀ c ∈ w, isspace c = false) {text : Bytes} (hne : w ≠ [])
    (htext : Trimmed text) : Trimmed (w ++ text) :=
  trimmed_append hne (trimmed_of_forall h) htext

/-- The two characters in front of a line keep it trimmed. -/
theorem trim_tagged {tag : UInt8} (htag : isspace tag = false) {text : Bytes} (h : Trimmed text) :
    trim (tag :: 61 :: text) = tag :: 61 :: text := by
  apply trim_of_trimmed
  have hfront : ∀ c ∈ [tag, 61], isspace c = false := by
    simp [htag, show isspace 61 = false from rfl]
  exact trimmed_word hfront (by simp) h

theorem sdpLine_version : sdpLine (ascii "v=0") = some (.version true) := by decide

theorem sdpLine_sessionName {name : Bytes} (h : Trimmed name) :
    sdpLine (ascii "s=" ++ name) = some (.sessionName name) := by
  show sdpLine (115 :: 61 :: name) = _
  rw [sdpLine, trim_tagged rfl h]
  rfl

theorem sdpLine_media {text : Bytes} (h : Trimmed text) :
    sdpLine (ascii "m=" ++ text) = some (.media text) := by
  show sdpLine (109 :: 61 :: text) = _
  rw [sdpLine, trim_tagged rfl h]
  rfl

theorem sdpLine_attr {text : Bytes} (h : Trimmed text) :
    sdpLine (ascii "a=" ++ text) = some (.attr text) := by
  show sdpLine (97 :: 61 :: text) = _
  rw [sdpLine, trim_tagged rfl h]
  rfl

namespace SdpAttribute

theorem text_trimmed (a : SdpAttribute) : Trimmed a.text := by
  have hkey : ∀ c ∈ a.key ++ [58], isspace c = false := by
    intro c hc
    obtain hc | hc := List.mem_append.mp hc
    · exact (a.key_plain c hc).1
    · rw [List.mem_singleton.mp hc]
      rfl
  have htext := trimmed_word hkey (by simp) a.value_trimmed
  rw [List.append_assoc] at htext
  exact htext

theorem text_line (a : SdpAttribute) : 10 ∉ ascii "a=" ++ a.text := by
  have hkey : 10 ∉ a.key := fun h => absurd (a.key_plain 10 h).1 (by decide)
  have htag : 10 ∉ ascii "a=" := by decide
  simp [text, hkey, htag, a.value_line]

theorem attributeEntry_text (a : SdpAttribute) : attributeEntry a.text = a.entry :=
  attributeEntry_colon (fun h => (a.key_plain 58 h).2.1 rfl) (fun h => (a.key_plain 61 h).2.2 rfl) a.value

end SdpAttribute

namespace WrittenMedia

/-- The four words come back one after the other. -/
theorem parseMedia_text (m : WrittenMedia) :
    parseMedia m.text =
      { type := m.type.val
        transport := m.transport.val
        payloadType := digitsValue 10 m.payloadType.val } := by
  have hspace : ∀ (rest : Bytes) (c : UInt8), (32 :: rest : Bytes).head? = some c → isspace c = true := by
    intro rest c hc
    obtain rfl := Option.some.inj hc
    rfl
  have hpayload : nextWord m.payloadType.val = (m.payloadType.val, []) := by
    have hword : nextWord (m.payloadType.val ++ []) = (m.payloadType.val, []) :=
      nextWord_word ⟨m.payloadType.property.1,
        fun c hc => not_isspace_of_isdigit (m.payloadType.property.2.1 c hc)⟩ (by simp)
    rw [List.append_nil] at hword
    exact hword
  rw [parseMedia, text, nextWord_word m.type.property (hspace _)]
  dsimp only
  rw [nextWord_space rfl, nextWord_word m.port.property (hspace _)]
  dsimp only
  rw [nextWord_space rfl, nextWord_word m.transport.property (hspace _)]
  dsimp only
  rw [nextWord_space rfl, hpayload]
  dsimp only
  rw [if_neg m.payloadType.property.1,
    stoi_digits m.payloadType.property.1 m.payloadType.property.2.1 m.payloadType.property.2.2]
  rfl

theorem text_trimmed (m : WrittenMedia) : Trimmed m.text := by
  have hpayload : Trimmed m.payloadType.val :=
    trimmed_of_forall (fun c hc => not_isspace_of_isdigit (m.payloadType.property.2.1 c hc))
  have htext := trimmed_between m.type.property.1 m.payloadType.property.1
    (trimmed_of_forall m.type.property.2) hpayload (32 :: (m.port.val ++ 32 :: (m.transport.val ++ [32])))
  simp only [List.cons_append, List.append_assoc, List.nil_append] at htext
  exact htext

theorem text_line (m : WrittenMedia) : 10 ∉ ascii "m=" ++ m.text := by
  have hword : ∀ w : SdpWord, 10 ∉ w.val := fun w h => absurd (w.property.2 10 h) (by decide)
  have hnumber : 10 ∉ m.payloadType.val := fun h => absurd (m.payloadType.property.2.1 10 h) (by decide)
  have htag : 10 ∉ ascii "m=" := by decide
  simp [text, hword, hnumber, htag]

theorem lines_line (m : WrittenMedia) : ∀ line ∈ m.lines, 10 ∉ line := by
  intro line hline
  obtain rfl | hline := List.mem_cons.mp hline
  · exact m.text_line
  · obtain ⟨text, htext, rfl⟩ := List.mem_map.mp hline
    obtain ⟨a, -, rfl⟩ := List.mem_map.mp htext
    exact a.text_line

/-- The section its lines make. -/
def toSection (m : WrittenMedia) : SdpSection where
  line := m.text
  attributes := m.attributeTexts

theorem filterMap_attributes (attributes : List SdpAttribute) :
    ((attributes.map SdpAttribute.text).map (ascii "a=" ++ ·)).filterMap sdpLine =
      (attributes.map SdpAttribute.text).map .attr := by
  induction attributes with
  | nil => rfl
  | cons a attributes ih =>
    rw [List.map_cons, List.map_cons, List.filterMap_cons, sdpLine_attr a.text_trimmed, ih]
    rfl

theorem filterMap_lines (m : WrittenMedia) : m.lines.filterMap sdpLine = m.toSection.lines := by
  rw [lines, List.filterMap_cons, sdpLine_media m.text_trimmed, attributeTexts, filterMap_attributes]
  rfl

/-- Attributes other than `rtpmap` change nothing but the map of attributes. -/
theorem foldl_addAttribute {attributes : List SdpAttribute}
    (h : ∀ a ∈ attributes, a.key ≠ ascii "rtpmap") (media : SdpMedia) :
    (attributes.map SdpAttribute.text).foldl addAttribute media =
      { media with
        attributes := (attributes.map SdpAttribute.entry).foldl
          (fun m e => m.assign e.1 e.2) media.attributes } := by
  induction attributes generalizing media with
  | nil => rfl
  | cons a attributes ih =>
    have hentry : (attributeKey a.text, attributeData a.text) = a.entry := a.attributeEntry_text
    obtain ⟨hkey, hdata⟩ := Prod.mk.inj hentry
    rw [List.map_cons, List.foldl_cons, ih (fun b hb => h b (by simp [hb])), addAttribute, hkey, hdata,
      if_neg (h a (by simp))]
    rfl

end WrittenMedia

/-- The section of the result is the one that was written. -/
structure Recovers (media : SdpMedia) (m : WrittenMedia) : Prop where
  type : media.type = m.type.val
  transport : media.transport = m.transport.val
  payloadType : media.payloadType = digitsValue 10 m.payloadType.val
  codec : media.codec = []
  clockRate : media.clockRate = 0
  channels : media.channels = 0
  attributes : media.attributes.entries.Perm (m.attributes.map SdpAttribute.entry)

theorem recovers_toSection (m : WrittenMedia) : Recovers m.toSection.media m := by
  have hnodup : ((m.attributes.map SdpAttribute.entry).map Prod.fst).Nodup := by
    rw [List.map_map]
    exact m.keys_nodup
  have hfresh : ∀ a ∈ m.attributes.map SdpAttribute.entry,
      a.1 ∉ (OrdMap.empty : OrdMap Bytes Bytes).keys := fun _ _ => List.not_mem_nil
  have hperm := OrdMap.foldl_assign_perm hnodup hfresh
  rw [OrdMap.entries_empty, List.append_nil] at hperm
  rw [WrittenMedia.toSection, SdpSection.media, WrittenMedia.attributeTexts,
    WrittenMedia.foldl_addAttribute m.no_rtpmap, m.parseMedia_text]
  exact ⟨rfl, rfl, rfl, rfl, rfl, rfl, hperm⟩

namespace WrittenSdp

/-- What the parser acts on in front of the sections. -/
def sessionLines (d : WrittenSdp) : List SdpLine :=
  .version true :: .sessionName d.sessionName :: d.attributeTexts.map .attr

def sections (d : WrittenSdp) : List SdpSection := d.media.map WrittenMedia.toSection

theorem lines_line (d : WrittenSdp) : ∀ line ∈ d.lines, 10 ∉ line := by
  have hversion : 10 ∉ ascii "v=0" := by decide
  have htag : 10 ∉ ascii "s=" := by decide
  intro line hline
  simp only [lines, List.mem_cons, List.mem_append] at hline
  obtain rfl | rfl | hattr | hmedia := hline
  · exact hversion
  · simp [htag, d.name_line]
  · obtain ⟨text, htext, rfl⟩ := List.mem_map.mp hattr
    obtain ⟨a, -, rfl⟩ := List.mem_map.mp htext
    exact a.text_line
  · obtain ⟨m, -, hline⟩ := List.mem_flatMap.mp hmedia
    exact m.lines_line line hline

theorem filterMap_lines (d : WrittenSdp) :
    d.lines.filterMap sdpLine = linesOf d.sessionLines d.sections := by
  have hmedia : (d.media.flatMap WrittenMedia.lines).filterMap sdpLine =
      d.sections.flatMap SdpSection.lines := by
    rw [sections, List.filterMap_flatMap, List.flatMap_map]
    congr 1
    funext m
    exact m.filterMap_lines
  rw [lines, List.filterMap_cons, sdpLine_version, List.filterMap_cons,
    sdpLine_sessionName d.name_trimmed, List.filterMap_append, attributeTexts,
    WrittenMedia.filterMap_attributes, hmedia]
  rfl

theorem sessionLines_isSession (d : WrittenSdp) : ∀ l ∈ d.sessionLines, l.isSession = true := by
  intro l hl
  simp only [sessionLines, List.mem_cons] at hl
  obtain rfl | rfl | hl := hl
  · rfl
  · rfl
  · obtain ⟨text, -, rfl⟩ := List.mem_map.mp hl
    rfl

theorem allAttributes_lines (d : WrittenSdp) :
    AirPlay2.allAttributes (linesOf d.sessionLines d.sections) =
      d.allAttributes.map SdpAttribute.text := by
  have hsession : AirPlay2.allAttributes d.sessionLines = d.attributeTexts :=
    allAttributes_attr d.attributeTexts
  rw [allAttributes_linesOf, hsession, allAttributes, List.map_append, sections, List.flatMap_map,
    List.map_flatMap]
  rfl

end WrittenSdp

/-- **Parsing recovers the description.** -/
theorem parseSdp_written (d : WrittenSdp) {text : Bytes} (h : WrittenAs d.lines text) :
    ∃ sdp, parseSdp text = some sdp ∧ sdp.sessionName = d.sessionName ∧
      List.Forall₂ Recovers sdp.media d.media ∧
      ∀ slot : SdpSlot, slot.get sdp =
        (lastValue slot.key (d.allAttributes.map SdpAttribute.entry)).getD [] := by
  have hlines : sdpLines text = linesOf d.sessionLines d.sections := by
    rw [sdpLines_written h d.lines_line, d.filterMap_lines]
  have hsections : sdpSections (linesOf d.sessionLines d.sections) = d.sections :=
    sdpSections_linesOf d.sessionLines_isSession d.sections
  have hversion : lastVersion (linesOf d.sessionLines d.sections) = some true := by
    rw [lastVersion_linesOf, lastVersion, WrittenSdp.sessionLines, List.filterMap_cons,
      List.filterMap_cons, filterMap_attr (fun _ => rfl)]
    rfl
  have hname : lastSessionName (linesOf d.sessionLines d.sections) = some d.sessionName := by
    rw [lastSessionName_linesOf, lastSessionName, WrittenSdp.sessionLines, List.filterMap_cons,
      List.filterMap_cons, filterMap_attr (fun _ => rfl)]
    rfl
  have hsome : d.sections.isEmpty = false := by
    rw [WrittenSdp.sections, List.isEmpty_map, List.isEmpty_eq_false_iff]
    exact d.media_ne_nil
  refine ⟨describe (linesOf d.sessionLines d.sections), ?_, ?_, ?_, ?_⟩
  · rw [parseSdp_eq, hlines, hversion, hsections, hsome]
    rfl
  · rw [describe, hname]
    rfl
  · rw [describe, hsections, WrittenSdp.sections, List.map_map]
    apply List.forall₂_map_left_iff.mpr
    apply List.forall₂_same.mpr
    intro m _
    exact recovers_toSection m
  · intro slot
    rw [get_describe, lastWritten, d.allAttributes_lines, List.map_map]
    congr 3
    funext a
    exact a.attributeEntry_text

/-- Lines without indentation, all ended the same way. -/
theorem writtenAs_ended (ending : SdpLineEnd) (lines : List Bytes) :
    WrittenAs lines (lines.flatMap (fun line => line ++ ending.front ++ [10])) := by
  induction lines with
  | nil => exact .done
  | cons line lines ih =>
    have hline := WrittenAs.line ⟨[], by simp⟩ line ending ih
    rw [List.flatMap_cons, List.append_assoc _ [10]]
    exact hline

/-- The first payload type without a fixed meaning. -/
def dynamicPayload : SdpNumber := ⟨ascii "96", by decide +kernel⟩

/-- A session key, and an audio section whose values have `:` and `=`. -/
def kitchenSdp : WrittenSdp where
  sessionName := ascii "iTunes: 1"
  attributes := [⟨ascii "group", ascii "LS 0", by decide, by decide +kernel, by decide, by decide⟩]
  media := [{
    type := ⟨ascii "audio", by decide +kernel⟩
    port := ⟨ascii "0", by decide +kernel⟩
    transport := ⟨ascii "RTP/AVP", by decide +kernel⟩
    payloadType := dynamicPayload
    attributes := [
      ⟨ascii "fmtp", ascii "96 channels=2;bitDepth=16", by decide, by decide +kernel, by decide, by decide⟩,
      ⟨ascii "aesiv", ascii "AAECAw==", by decide, by decide +kernel, by decide, by decide⟩]
    keys_nodup := by decide
    no_rtpmap := by decide }]
  name_line := by decide
  name_trimmed := by decide
  media_ne_nil := by decide

/-- Its text with both line ends comes back. -/
theorem parseSdp_written_kitchen :
    ∃ sdp, parseSdp (kitchenSdp.lines.flatMap (fun line => line ++ SdpLineEnd.crlf.front ++ [10])) =
        some sdp ∧ sdp.sessionName = kitchenSdp.sessionName ∧
      List.Forall₂ Recovers sdp.media kitchenSdp.media ∧
      ∀ slot : SdpSlot, slot.get sdp =
        (lastValue slot.key (kitchenSdp.allAttributes.map SdpAttribute.entry)).getD [] :=
  parseSdp_written kitchenSdp (writtenAs_ended .crlf kitchenSdp.lines)

end AirPlay2
