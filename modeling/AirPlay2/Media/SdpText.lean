import AirPlay2.Lib.Slots
import AirPlay2.Media.Sdp

/- What a description says, line by line (`sdp.cpp`). The parser works through the lines
   with a result that grows and a pointer into it; here its outcome is written down as a
   function of the lines that count (`parseSdp_eq`): a media line and the attributes up to
   the next one are a section, and a field of the session has the last value that any
   section or the session gives for it. -/
namespace AirPlay2
open Lib

/-! ## Lines -/

/-- A line the parser acts on, its text without the first two characters. -/
inductive SdpLine where
  | version (supported : Bool)
  | sessionName (name : Bytes)
  | media (text : Bytes)
  | attr (text : Bytes)
  deriving DecidableEq

def sdpLine (line : Bytes) : Option SdpLine :=
  let line := trim line
  if (ascii "v=").isPrefixOf line then some (.version (line == ascii "v=0"))
  else if (ascii "s=").isPrefixOf line then some (.sessionName (line.drop 2))
  else if (ascii "m=").isPrefixOf line then some (.media (line.drop 2))
  else if (ascii "a=").isPrefixOf line then some (.attr (line.drop 2))
  else none

/-- The lines of a text that the parser acts on. -/
def sdpLines (text : Bytes) : List SdpLine := (getlines 10 text).filterMap sdpLine

def SdpLine.apply (state : AirPlaySdp × Bool) : SdpLine → AirPlaySdp × Bool
  | .version supported => (state.1, supported)
  | .sessionName name => ({ state.1 with sessionName := name }, state.2)
  | .media text => ({ state.1 with media := state.1.media ++ [parseMedia text] }, state.2)
  | .attr text => (parseAttribute text state.1, state.2)

/-- The carriage return in front of a line feed is trimmed anyway. -/
theorem trim_dropCarriageReturn (line : Bytes) :
    trim (if line.getLast? = some 13 then line.dropLast else line) = trim line := by
  by_cases hlast : line.getLast? = some 13
  · obtain ⟨front, rfl⟩ := List.getLast?_eq_some_iff.mp hlast
    rw [if_pos hlast, List.dropLast_concat]
    have hcr : ∀ c ∈ [(13 : UInt8)], isspace c = true := by simp [isspace]
    have htrim : trim ([] ++ front ++ [13]) = trim front := trim_append (by simp) hcr front
    exact htrim.symm
  · rw [if_neg hlast]

theorem parseSdpLine_eq (state : AirPlaySdp × Bool) (line : Bytes) :
    parseSdpLine state line = ((sdpLine line).map (SdpLine.apply state)).getD state := by
  obtain ⟨result, hasVersion⟩ := state
  unfold parseSdpLine sdpLine
  dsimp only
  rw [trim_dropCarriageReturn]
  by_cases hnil : trim line = []
  · rw [if_pos hnil, hnil]
    rfl
  · rw [if_neg hnil]
    split_ifs <;> rfl

theorem foldl_parseSdpLine (lines : List Bytes) (state : AirPlaySdp × Bool) :
    lines.foldl parseSdpLine state = (lines.filterMap sdpLine).foldl SdpLine.apply state := by
  induction lines generalizing state with
  | nil => rfl
  | cons line lines ih =>
    rw [List.foldl_cons, parseSdpLine_eq, List.filterMap_cons]
    cases sdpLine line with
    | none => exact ih state
    | some l => exact ih (l.apply state)

/-! ## Attributes -/

/-- Where the key of an attribute ends: at the first `:` or `=`. -/
def attributeSplit (text : Bytes) : ℕ :=
  min ((find text [58] 0).getD text.length) ((find text [61] 0).getD text.length)

def attributeKey (text : Bytes) : Bytes := text.take (attributeSplit text)

def attributeData (text : Bytes) : Bytes := text.drop (attributeSplit text + 1)

/-- An attribute as an assignment. -/
def attributeEntry (text : Bytes) : Bytes × Bytes := (attributeKey text, attributeData text)

/-- The key ends at the first `:`, whatever the data has. -/
theorem attributeEntry_colon {key : Bytes} (hcolon : 58 ∉ key) (hequal : 61 ∉ key) (data : Bytes) :
    attributeEntry (key ++ 58 :: data) = (key, data) := by
  have hsplit : attributeSplit (key ++ 58 :: data) = key.length := by
    rw [attributeSplit, find_single_append hcolon, find_single_append hequal, find_single_cons,
      List.length_append]
    apply min_eq_left
    cases find (58 :: data) [61] 0 with
    | none => exact Nat.le_add_right _ _
    | some i => exact Nat.le_add_right _ _
  have hdata : (key ++ 58 :: data).drop (key.length + 1) = data := by
    rw [List.drop_append]
    simp
  rw [attributeEntry, attributeKey, attributeData, hsplit, hdata, List.take_left]

/-- What an attribute does to the section it stands in. -/
def addAttribute (media : SdpMedia) (text : Bytes) : SdpMedia :=
  let media := { media with
    attributes := media.attributes.assign (attributeKey text) (attributeData text) }
  if attributeKey text = ascii "rtpmap" then parseRtpmap (attributeData text) media else media

/-- The fields of a session that an attribute anywhere can write. -/
inductive SdpSlot where
  | rsaaeskey
  | aesiv
  | fmtp
  | fingerprint
  | group
  deriving DecidableEq

namespace SdpSlot

def key : SdpSlot → Bytes
  | .rsaaeskey => ascii "rsaaeskey"
  | .aesiv => ascii "aesiv"
  | .fmtp => ascii "fmtp"
  | .fingerprint => ascii "fingerprint"
  | .group => ascii "group"

def get (sdp : AirPlaySdp) : SdpSlot → Bytes
  | .rsaaeskey => sdp.rsaaeskey
  | .aesiv => sdp.aesiv
  | .fmtp => sdp.fmtp
  | .fingerprint => sdp.fingerprint
  | .group => sdp.group

end SdpSlot

theorem updateCurrent_concat (f : SdpMedia → SdpMedia) (media : List SdpMedia) (m : SdpMedia) :
    updateCurrent f (media ++ [m]) = media ++ [f m] := by
  induction media with
  | nil => rfl
  | cons n media ih =>
    cases media with
    | nil => rfl
    | cons k media =>
      rw [List.cons_append, List.cons_append, updateCurrent, ← List.cons_append, ih]
      rfl

theorem updateCurrent_updateCurrent (f g : SdpMedia → SdpMedia) (media : List SdpMedia) :
    updateCurrent f (updateCurrent g media) = updateCurrent (fun m => f (g m)) media := by
  cases media using List.reverseRecOn with
  | nil => rfl
  | append_singleton media m =>
    rw [updateCurrent_concat, updateCurrent_concat, updateCurrent_concat]

theorem updateCurrent_same (media : List SdpMedia) : updateCurrent (fun m => m) media = media := by
  cases media using List.reverseRecOn with
  | nil => rfl
  | append_singleton media m => rw [updateCurrent_concat]

/-- The field of the session with this key, if there is one, takes the data. -/
def writeField (key data : Bytes) (sdp : AirPlaySdp) : AirPlaySdp :=
  if key = SdpSlot.rsaaeskey.key then { sdp with rsaaeskey := data }
  else if key = SdpSlot.aesiv.key then { sdp with aesiv := data }
  else if key = SdpSlot.fmtp.key then { sdp with fmtp := data }
  else if key = SdpSlot.fingerprint.key then { sdp with fingerprint := data }
  else if key = SdpSlot.group.key then { sdp with group := data }
  else sdp

theorem writeField_media (key data : Bytes) (sdp : AirPlaySdp) (media : List SdpMedia) :
    writeField key data { sdp with media := media } =
      { writeField key data sdp with media := media } := by
  unfold writeField
  split_ifs <;> rfl

theorem writeField_sessionName (key data : Bytes) (sdp : AirPlaySdp) :
    (writeField key data sdp).sessionName = sdp.sessionName := by
  unfold writeField
  split_ifs <;> rfl

theorem get_writeField (slot : SdpSlot) (key data : Bytes) (sdp : AirPlaySdp) :
    slot.get (writeField key data sdp) = if key = slot.key then data else slot.get sdp := by
  by_cases hkey : ∃ j : SdpSlot, key = j.key
  · obtain ⟨j, rfl⟩ := hkey
    cases j <;> cases slot <;> rfl
  · have hne (j : SdpSlot) : key ≠ j.key := fun h => hkey ⟨j, h⟩
    rw [if_neg (hne slot), writeField, if_neg (hne .rsaaeskey), if_neg (hne .aesiv),
      if_neg (hne .fmtp), if_neg (hne .fingerprint), if_neg (hne .group)]

/-- **One attribute.** The session takes it, and the section it stands in. -/
theorem parseAttribute_eq (text : Bytes) (sdp : AirPlaySdp) :
    parseAttribute text sdp =
      { writeField (attributeKey text) (attributeData text) sdp with
        media := updateCurrent (addAttribute · text) sdp.media } := by
  have hentered (m : SdpMedia) : addAttribute m text =
      if attributeKey text = ascii "rtpmap" then
        parseRtpmap (attributeData text)
          { m with attributes := m.attributes.assign (attributeKey text) (attributeData text) }
      else { m with attributes := m.attributes.assign (attributeKey text) (attributeData text) } := rfl
  have hunfold : parseAttribute text sdp =
      let result := writeField (attributeKey text) (attributeData text) { sdp with
        media := updateCurrent (fun m => { m with
          attributes := m.attributes.assign (attributeKey text) (attributeData text) }) sdp.media }
      if attributeKey text = ascii "rtpmap" then
        { result with media := updateCurrent (parseRtpmap (attributeData text)) result.media }
      else result := rfl
  rw [hunfold]
  dsimp only
  rw [writeField_media]
  by_cases hrtpmap : attributeKey text = ascii "rtpmap"
  · simp only [hentered, if_pos hrtpmap]
    rw [updateCurrent_updateCurrent]
  · simp only [hentered, if_neg hrtpmap]

theorem get_parseAttribute (slot : SdpSlot) (text : Bytes) (sdp : AirPlaySdp) :
    slot.get (parseAttribute text sdp) =
      if attributeKey text = slot.key then attributeData text else slot.get sdp := by
  rw [parseAttribute_eq, ← get_writeField]
  cases slot <;> rfl

/-! ## Sections -/

/-- A media line, and the attributes up to the next one. -/
structure SdpSection where
  line : Bytes
  attributes : List Bytes
  deriving DecidableEq

namespace SdpSection

def lines (s : SdpSection) : List SdpLine := .media s.line :: s.attributes.map .attr

/-- What the parser keeps of a section. -/
def media (s : SdpSection) : SdpMedia := s.attributes.foldl addAttribute (parseMedia s.line)

end SdpSection

/-- The attributes in front of the first media line. -/
def frontAttributes : List SdpLine → List Bytes
  | [] => []
  | .media _ :: _ => []
  | .attr text :: lines => text :: frontAttributes lines
  | .version _ :: lines => frontAttributes lines
  | .sessionName _ :: lines => frontAttributes lines

def sdpSections : List SdpLine → List SdpSection
  | [] => []
  | .media text :: lines => { line := text, attributes := frontAttributes lines } :: sdpSections lines
  | .attr _ :: lines => sdpSections lines
  | .version _ :: lines => sdpSections lines
  | .sessionName _ :: lines => sdpSections lines

/-- All the attributes, of the session and of the sections. -/
def allAttributes (lines : List SdpLine) : List Bytes :=
  lines.filterMap fun
    | .attr text => some text
    | _ => none

theorem allAttributes_eq (lines : List SdpLine) :
    allAttributes lines =
      frontAttributes lines ++ (sdpSections lines).flatMap SdpSection.attributes := by
  induction lines with
  | nil => rfl
  | cons l lines ih =>
    cases l with
    | version supported => exact ih
    | sessionName name => exact ih
    | media text => exact ih
    | attr text => exact congrArg (text :: ·) ih

/-- The last value given to a field, anywhere in the text. -/
def lastWritten (slot : SdpSlot) (lines : List SdpLine) : Option Bytes :=
  lastValue slot.key ((allAttributes lines).map attributeEntry)

def lastSessionName (lines : List SdpLine) : Option Bytes :=
  (lines.filterMap fun
    | .sessionName name => some name
    | _ => none).getLast?

def lastVersion (lines : List SdpLine) : Option Bool :=
  (lines.filterMap fun
    | .version supported => some supported
    | _ => none).getLast?

/-- The current section takes the attributes up to the next media line, and every media
    line adds a section. -/
theorem foldl_apply_media (lines : List SdpLine) (state : AirPlaySdp × Bool) :
    (lines.foldl SdpLine.apply state).1.media =
      updateCurrent (fun m => (frontAttributes lines).foldl addAttribute m) state.1.media ++
        (sdpSections lines).map SdpSection.media := by
  induction lines generalizing state with
  | nil =>
    show state.1.media = _
    rw [frontAttributes, sdpSections, List.map_nil, List.append_nil]
    exact (updateCurrent_same _).symm
  | cons l lines ih =>
    rw [List.foldl_cons, ih]
    cases l with
    | version supported => rfl
    | sessionName name => rfl
    | media text =>
      show updateCurrent _ (state.1.media ++ [parseMedia text]) ++ _ = _
      rw [updateCurrent_concat, sdpSections, List.map_cons, List.append_assoc]
      congr 1
      exact (updateCurrent_same _).symm
    | attr text =>
      show updateCurrent _ (parseAttribute text state.1).media ++ _ = _
      rw [parseAttribute_eq]
      dsimp only
      rw [updateCurrent_updateCurrent]
      rfl

theorem foldl_apply_sessionName (lines : List SdpLine) (state : AirPlaySdp × Bool) :
    (lines.foldl SdpLine.apply state).1.sessionName =
      (lastSessionName lines).getD state.1.sessionName := by
  refine foldl_written (fun state => state.1.sessionName) ?_ lines state
  intro state l
  cases l with
  | version supported => rfl
  | sessionName name => rfl
  | media text => rfl
  | attr text =>
    show (parseAttribute text state.1).sessionName = _
    rw [parseAttribute_eq]
    exact writeField_sessionName _ _ _

theorem foldl_apply_version (lines : List SdpLine) (state : AirPlaySdp × Bool) :
    (lines.foldl SdpLine.apply state).2 = (lastVersion lines).getD state.2 := by
  refine foldl_written Prod.snd ?_ lines state
  intro state l
  cases l <;> rfl

/-- What a line writes to a field. -/
def SdpLine.written (slot : SdpSlot) : SdpLine → Option Bytes
  | .attr text => if attributeKey text = slot.key then some (attributeData text) else none
  | _ => none

theorem lastWritten_eq (slot : SdpSlot) (lines : List SdpLine) :
    lastWritten slot lines = (lines.filterMap (SdpLine.written slot)).getLast? := by
  rw [lastWritten, lastValue_eq_getLast?, allAttributes, List.filterMap_map, List.filterMap_filterMap]
  congr 2
  funext l
  cases l <;> rfl

theorem get_foldl_apply (slot : SdpSlot) (lines : List SdpLine) (state : AirPlaySdp × Bool) :
    slot.get (lines.foldl SdpLine.apply state).1 =
      (lastWritten slot lines).getD (slot.get state.1) := by
  rw [lastWritten_eq]
  refine foldl_written (fun state => slot.get state.1) ?_ lines state
  intro state l
  cases l with
  | version supported => rfl
  | sessionName name => cases slot <;> rfl
  | media text => cases slot <;> rfl
  | attr text =>
    show slot.get (parseAttribute text state.1) = _
    rw [get_parseAttribute, SdpLine.written]
    split_ifs <;> rfl

/-- The description that lines make. -/
def describe (lines : List SdpLine) : AirPlaySdp where
  sessionName := (lastSessionName lines).getD []
  rsaaeskey := (lastWritten .rsaaeskey lines).getD []
  aesiv := (lastWritten .aesiv lines).getD []
  fmtp := (lastWritten .fmtp lines).getD []
  fingerprint := (lastWritten .fingerprint lines).getD []
  group := (lastWritten .group lines).getD []
  media := (sdpSections lines).map SdpSection.media

theorem get_describe (slot : SdpSlot) (lines : List SdpLine) :
    slot.get (describe lines) = (lastWritten slot lines).getD [] := by
  cases slot <;> rfl

theorem AirPlaySdp.ext_slots {sdp other : AirPlaySdp} (hname : sdp.sessionName = other.sessionName)
    (hslot : ∀ slot : SdpSlot, slot.get sdp = slot.get other) (hmedia : sdp.media = other.media) :
    sdp = other := by
  have hkey := hslot .rsaaeskey
  have hiv := hslot .aesiv
  have hfmtp := hslot .fmtp
  have hfingerprint := hslot .fingerprint
  have hgroup := hslot .group
  cases sdp
  cases other
  simp_all [SdpSlot.get]

/-- **What parsing gives.** A text with the supported version and a section makes the
    description of its lines. -/
theorem parseSdp_eq (text : Bytes) :
    parseSdp text =
      if (lastVersion (sdpLines text)).getD false && !(sdpSections (sdpLines text)).isEmpty then
        some (describe (sdpLines text))
      else none := by
  have hresult : ((sdpLines text).foldl SdpLine.apply ({}, false)).1 = describe (sdpLines text) := by
    apply AirPlaySdp.ext_slots
    · exact foldl_apply_sessionName _ _
    · intro slot
      rw [get_foldl_apply, get_describe]
      cases slot <;> rfl
    · rw [foldl_apply_media]
      rfl
  have hversion := foldl_apply_version (sdpLines text) ({}, false)
  rw [parseSdp, foldl_parseSdpLine, ← sdpLines]
  dsimp only
  rw [hresult, hversion, describe, List.isEmpty_map]

theorem eq_describe {text : Bytes} {sdp : AirPlaySdp} (h : parseSdp text = some sdp) :
    sdp = describe (sdpLines text) := by
  rw [parseSdp_eq] at h
  split_ifs at h
  exact (Option.some.inj h).symm

/-! ## Lines sorted into sections -/

/-- Lines in front of the sections, and the lines of the sections. -/
def linesOf (session : List SdpLine) (sections : List SdpSection) : List SdpLine :=
  session ++ sections.flatMap SdpSection.lines

/-- Not the start of a section. -/
def SdpLine.isSession : SdpLine → Bool
  | .media _ => false
  | _ => true

theorem frontAttributes_attr (attributes : List Bytes) (lines : List SdpLine) :
    frontAttributes (attributes.map .attr ++ lines) = attributes ++ frontAttributes lines := by
  induction attributes with
  | nil => rfl
  | cons text attributes ih =>
    rw [List.map_cons, List.cons_append, frontAttributes, ih]
    rfl

theorem frontAttributes_flatMap (sections : List SdpSection) :
    frontAttributes (sections.flatMap SdpSection.lines) = [] := by
  cases sections <;> rfl

theorem sdpSections_append {session : List SdpLine} (h : ∀ l ∈ session, l.isSession = true)
    (lines : List SdpLine) : sdpSections (session ++ lines) = sdpSections lines := by
  induction session with
  | nil => rfl
  | cons l session ih =>
    have hl := h l (by simp)
    have ih := ih (fun k hk => h k (by simp [hk]))
    cases l with
    | media text => cases hl
    | version supported => exact ih
    | sessionName name => exact ih
    | attr text => exact ih

theorem sdpSections_flatMap (sections : List SdpSection) :
    sdpSections (sections.flatMap SdpSection.lines) = sections := by
  induction sections with
  | nil => rfl
  | cons s sections ih =>
    have hattr : ∀ l ∈ s.attributes.map SdpLine.attr, l.isSession = true := by
      intro l hl
      obtain ⟨text, -, rfl⟩ := List.mem_map.mp hl
      rfl
    rw [List.flatMap_cons, SdpSection.lines, List.cons_append, sdpSections, frontAttributes_attr,
      frontAttributes_flatMap, List.append_nil, sdpSections_append hattr, ih]

/-- The sections come out as they went in. -/
theorem sdpSections_linesOf {session : List SdpLine} (h : ∀ l ∈ session, l.isSession = true)
    (sections : List SdpSection) : sdpSections (linesOf session sections) = sections := by
  rw [linesOf, sdpSections_append h, sdpSections_flatMap]

theorem allAttributes_append (lines more : List SdpLine) :
    allAttributes (lines ++ more) = allAttributes lines ++ allAttributes more :=
  List.filterMap_append

theorem allAttributes_attr (attributes : List Bytes) :
    allAttributes (attributes.map .attr) = attributes := by
  induction attributes with
  | nil => rfl
  | cons text attributes ih => exact congrArg (text :: ·) ih

theorem allAttributes_linesOf (session : List SdpLine) (sections : List SdpSection) :
    allAttributes (linesOf session sections) =
      allAttributes session ++ sections.flatMap SdpSection.attributes := by
  rw [linesOf, allAttributes_append, allAttributes_eq (sections.flatMap _), frontAttributes_flatMap,
    sdpSections_flatMap, List.nil_append]

theorem filterMap_attr {α : Type} {f : SdpLine → Option α} (hattr : ∀ text, f (.attr text) = none)
    (attributes : List Bytes) : (attributes.map SdpLine.attr).filterMap f = [] := by
  apply List.filterMap_eq_nil_iff.mpr
  intro l hl
  obtain ⟨text, -, rfl⟩ := List.mem_map.mp hl
  exact hattr text

/-- The sections have neither a version nor a name. -/
theorem filterMap_flatMap_lines {α : Type} {f : SdpLine → Option α} (hmedia : ∀ text, f (.media text) = none)
    (hattr : ∀ text, f (.attr text) = none) (sections : List SdpSection) :
    (sections.flatMap SdpSection.lines).filterMap f = [] := by
  induction sections with
  | nil => rfl
  | cons s sections ih =>
    rw [List.flatMap_cons, List.filterMap_append, ih, SdpSection.lines, List.filterMap_cons,
      hmedia s.line, filterMap_attr hattr]
    rfl

theorem lastVersion_linesOf (session : List SdpLine) (sections : List SdpSection) :
    lastVersion (linesOf session sections) = lastVersion session := by
  rw [lastVersion, linesOf, List.filterMap_append,
    filterMap_flatMap_lines (fun _ => rfl) (fun _ => rfl), List.append_nil]
  rfl

theorem lastSessionName_linesOf (session : List SdpLine) (sections : List SdpSection) :
    lastSessionName (linesOf session sections) = lastSessionName session := by
  rw [lastSessionName, linesOf, List.filterMap_append,
    filterMap_flatMap_lines (fun _ => rfl) (fun _ => rfl), List.append_nil]
  rfl

end AirPlay2
