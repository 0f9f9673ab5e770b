import AirPlay2.Lib.BinaryPlist
import AirPlay2.Receiver.Handler

/- The property list of GET /info (`device_info_binary_plist`). It is a template in which two
   placeholders are overwritten, each only by a text of its own size. The `pi` always has that
   size; an identifier has it if it is 17 bytes long, like a MAC address
   (`deviceInfoBinaryPlist_eq`). The second placeholder is found where the template has it,
   whatever was written over the first, and a reader of the list finds both texts under their
   keys (`stringField_deviceInfo`). -/
namespace AirPlay2
open Lib Lib.BinaryPlist

/-! ## The template -/

/-- The template, read from its digits. -/
def deviceInfoBytes : Bytes := [
  0x62, 0x70, 0x6c, 0x69, 0x73, 0x74, 0x30, 0x30, 0xdc, 0x01, 0x02, 0x03, 0x04, 0x05, 0x06, 0x07,
  0x08, 0x09, 0x0a, 0x0b, 0x0c, 0x0d, 0x0e, 0x0f, 0x0f, 0x10, 0x11, 0x12, 0x13, 0x14, 0x15, 0x16,
  0x17, 0x58, 0x64, 0x65, 0x76, 0x69, 0x63, 0x65, 0x49, 0x44, 0x58, 0x66, 0x65, 0x61, 0x74, 0x75,
  0x72, 0x65, 0x73, 0x5f, 0x10, 0x11, 0x6b, 0x65, 0x65, 0x70, 0x41, 0x6c, 0x69, 0x76, 0x65, 0x4c,
  0x6f, 0x77, 0x50, 0x6f, 0x77, 0x65, 0x72, 0x5f, 0x10, 0x18, 0x6b, 0x65, 0x65, 0x70, 0x41, 0x6c,
  0x69, 0x76, 0x65, 0x53, 0x65, 0x6e, 0x64, 0x53, 0x74, 0x61, 0x74, 0x73, 0x41, 0x73, 0x42, 0x6f,
  0x64, 0x79, 0x5c, 0x6d, 0x61, 0x6e, 0x75, 0x66, 0x61, 0x63, 0x74, 0x75, 0x72, 0x65, 0x72, 0x55,
  0x6d, 0x6f, 0x64, 0x65, 0x6c, 0x54, 0x6e, 0x61, 0x6d, 0x65, 0x52, 0x70, 0x69, 0x5f, 0x10, 0x0f,
  0x70, 0x72, 0x6f, 0x74, 0x6f, 0x63, 0x6f, 0x6c, 0x56, 0x65, 0x72, 0x73, 0x69, 0x6f, 0x6e, 0x5d,
  0x73, 0x6f, 0x75, 0x72, 0x63, 0x65, 0x56, 0x65, 0x72, 0x73, 0x69, 0x6f, 0x6e, 0x5b, 0x73, 0x74,
  0x61, 0x74, 0x75, 0x73, 0x46, 0x6c, 0x61, 0x67, 0x73, 0x52, 0x76, 0x76, 0x5f, 0x10, 0x11, 0x30,
  0x30, 0x3a, 0x30, 0x30, 0x3a, 0x30, 0x30, 0x3a, 0x30, 0x30, 0x3a, 0x30, 0x30, 0x3a, 0x30, 0x30,
  0x13, 0x00, 0x00, 0x00, 0x1e, 0x5a, 0x7f, 0xff, 0xf7, 0x09, 0x53, 0x47, 0x57, 0x4c, 0x5a, 0x41,
  0x70, 0x70, 0x6c, 0x65, 0x54, 0x56, 0x33, 0x2c, 0x32, 0x5f, 0x10, 0x10, 0x47, 0x57, 0x4c, 0x20,
  0x41, 0x69, 0x72, 0x50, 0x6c, 0x61, 0x79, 0x20, 0x44, 0x65, 0x6d, 0x6f, 0x5f, 0x10, 0x24, 0x30,
  0x30, 0x30, 0x30, 0x30, 0x30, 0x30, 0x30, 0x2d, 0x30, 0x30, 0x30, 0x30, 0x2d, 0x34, 0x30, 0x30,
  0x30, 0x2d, 0x38, 0x30, 0x30, 0x30, 0x2d, 0x30, 0x30, 0x30, 0x30, 0x30, 0x30, 0x30, 0x30, 0x30,
  0x30, 0x30, 0x30, 0x53, 0x31, 0x2e, 0x31, 0x56, 0x32, 0x32, 0x30, 0x2e, 0x36, 0x38, 0x10, 0x44,
  0x10, 0x02, 0x00, 0x08, 0x00, 0x21, 0x00, 0x2a, 0x00, 0x33, 0x00, 0x47, 0x00, 0x62, 0x00, 0x6f,
  0x00, 0x75, 0x00, 0x7a, 0x00, 0x7d, 0x00, 0x8f, 0x00, 0x9d, 0x00, 0xa9, 0x00, 0xac, 0x00, 0xc0,
  0x00, 0xc9, 0x00, 0xca, 0x00, 0xce, 0x00, 0xd9, 0x00, 0xec, 0x01, 0x13, 0x01, 0x17, 0x01, 0x1e,
  0x01, 0x20, 0x00, 0x00, 0x00, 0x00, 0x00, 0x00, 0x02, 0x01, 0x00, 0x00, 0x00, 0x00, 0x00, 0x00,
  0x00, 0x18, 0x00, 0x00, 0x00, 0x00, 0x00, 0x00, 0x00, 0x00, 0x00, 0x00, 0x00, 0x00, 0x00, 0x00,
  0x01, 0x22]

theorem deviceInfoTemplate_eq : deviceInfoTemplate = deviceInfoBytes := by decide +kernel

/-- Where the placeholders stand in the template. -/
def devicePlace : ℕ := 175

def piPlace : ℕ := 239

/-- The template with these texts at the two places. -/
def deviceInfo (device pi : Bytes) : Bytes :=
  overwrite (overwrite deviceInfoTemplate devicePlace device) piPlace pi

/-- The byte belongs to one of the two texts. -/
def InPlace (i : ℕ) : Prop :=
  (devicePlace ≤ i ∧ i < devicePlace + 17) ∨ (piPlace ≤ i ∧ i < piPlace + 36)

/-- Bytes of the template that are in no identifier: any 36 bytes before the second
    placeholder hold one of them. -/
def landmarks : List ℕ := [20, 50, 80, 110, 140, 174, 192, 215, 238]

theorem template_facts :
    deviceInfoTemplate.length = 370 ∧ find deviceInfoTemplate devicePlaceholder 0 = some devicePlace ∧
      At deviceInfoTemplate devicePlace devicePlaceholder ∧
      At deviceInfoTemplate piPlace piPlaceholder ∧
      landmarks.all (fun j => (deviceInfoTemplate[j]?.any (!piPlaceholder.contains ·))) = true := by
  rw [deviceInfoTemplate_eq]
  unfold At
  refine ⟨?_, ?_, ?_, ?_, ?_⟩ <;> decide +kernel

theorem length_devicePlaceholder : devicePlaceholder.length = 17 := by decide

theorem length_piPlaceholder : piPlaceholder.length = 36 := by decide

theorem length_template : deviceInfoTemplate.length = 370 := template_facts.1

/-! ## Patching it -/

theorem replaceBytes_found {bytes src dst : Bytes} {pos : ℕ} (hlength : src.length = dst.length)
    (hfind : find bytes src 0 = some pos) : replaceBytes bytes src dst = overwrite bytes pos dst := by
  rw [replaceBytes, if_neg (not_not.mpr hlength), hfind]
  rfl

theorem replaceBytes_of_length_ne {bytes src dst : Bytes} (h : src.length ≠ dst.length) :
    replaceBytes bytes src dst = bytes := if_pos h

/-- Identifiers are filled up, never cut short: the `pi` has one size. -/
theorem length_makePi (deviceId : Bytes) : (makePi deviceId).length = 36 := by
  have hdashes : (ascii "-").length = 1 ∧ (ascii "-4").length = 2 ∧ (ascii "-8").length = 2 := by
    decide
  have hhex : ∀ hex : Bytes,
      32 ≤ (if hex.length < 32 then hex ++ List.replicate (32 - hex.length) 48 else hex).length := by
    intro hex
    split
    · rw [List.length_append, List.length_replicate]
      omega
    · omega
  have hlong := hhex (deviceId.filter (· ≠ 58))
  simp only [makePi, substr, List.length_append, List.length_take, List.length_drop, hdashes]
  omega

section
variable {device pi : Bytes} (hdevice : device.length = 17) (hpi : pi.length = 36)

include hdevice in
theorem deviceFits : devicePlace + device.length ≤ deviceInfoTemplate.length := by
  rw [hdevice, length_template]
  decide

include hdevice hpi in
theorem piFits :
    piPlace + pi.length ≤ (overwrite deviceInfoTemplate devicePlace device).length := by
  rw [length_overwrite (deviceFits hdevice), hpi, length_template]
  decide

include hdevice hpi in
/-- Beside the two texts every byte is the template's. -/
theorem getElem?_deviceInfo {i : ℕ} (hi : ¬ InPlace i) :
    (deviceInfo device pi)[i]? = deviceInfoTemplate[i]? := by
  unfold InPlace at hi
  rw [deviceInfo, getElem?_overwrite (piFits hdevice hpi) (by omega),
    getElem?_overwrite (deviceFits hdevice) (by omega)]

include hdevice in
/-- The second placeholder is found where the template has it, whatever the identifier: what
    was written is too short to hold it and stands between bytes that it does not have. -/
theorem find_piPlaceholder :
    find (overwrite deviceInfoTemplate devicePlace device) piPlaceholder 0 = some piPlace := by
  obtain ⟨hlength, -, -, hplace, hmarks⟩ := template_facts
  have hbeside : devicePlace + device.length ≤ piPlace := by
    rw [hdevice]
    decide
  have hstands := hplace.overwrite (deviceFits hdevice) (Or.inr hbeside)
  apply (find_eq_some (Nat.zero_le _)).mpr
  refine ⟨Nat.zero_le _, ?_, List.prefix_iff_eq_take.mpr hstands.2.symm, ?_⟩
  · exact (Nat.le_add_right _ _).trans hstands.1
  · intro j _ hj
    have hmark : ∃ m ∈ landmarks, j ≤ m ∧ m < j + 36 ∧
        (m < devicePlace ∨ devicePlace + 17 ≤ m) := by
      simp only [landmarks, devicePlace, piPlace, List.mem_cons, List.not_mem_nil, or_false,
        exists_eq_or_imp, exists_eq_left] at hj ⊢
      omega
    obtain ⟨m, hm, hjm, hmj, hoff⟩ := hmark
    obtain ⟨b, hb, hforeign⟩ := (Option.any_eq_true _ _).mp (List.all_eq_true.mp hmarks m hm)
    have hb' : (overwrite deviceInfoTemplate devicePlace device)[m]? = some b := by
      rw [getElem?_overwrite (deviceFits hdevice) (by rwa [hdevice]), hb]
    apply not_prefix_of_foreign hjm (by rwa [length_piPlaceholder]) hb'
    simpa using hforeign

end

/-- **What the answer is made of**: an identifier of another size is not written. -/
theorem deviceInfoBinaryPlist_eq (deviceId : Bytes) :
    deviceInfoBinaryPlist deviceId =
      deviceInfo (if deviceId.length = 17 then deviceId else devicePlaceholder)
        (makePi deviceId) := by
  obtain ⟨-, hfind, hplace, -, -⟩ := template_facts
  have hpi : piPlaceholder.length = (makePi deviceId).length := by
    rw [length_makePi, length_piPlaceholder]
  unfold deviceInfoBinaryPlist
  by_cases hlength : deviceId.length = 17
  · rw [if_pos hlength, replaceBytes_found (by rw [hlength, length_devicePlaceholder]) hfind,
      replaceBytes_found hpi (find_piPlaceholder hlength)]
    rfl
  · have hfind' := find_piPlaceholder length_devicePlaceholder
    rw [overwrite_self hplace] at hfind'
    have hother : devicePlaceholder.length ≠ deviceId.length := by
      rw [length_devicePlaceholder]
      omega
    rw [if_neg hlength, replaceBytes_of_length_ne hother,
      replaceBytes_found hpi hfind', deviceInfo, overwrite_self hplace]

/-! ## Reading it -/

/-- The template as a property list: its trailer, where its objects start, and the keys and
    values of its dictionary. -/
def infoTrailer : Trailer :=
  { offsetSize := 2, refSize := 1, numObjects := 24, topObject := 0, tableOffset := 290 }

def infoStarts : List ℕ :=
  [8, 33, 42, 51, 71, 98, 111, 117, 122, 125, 143, 157, 169, 172, 192, 201, 202, 206, 217, 236,
    275, 279, 286, 288]

def infoKeys : List ℕ := [1, 2, 3, 4, 5, 6, 7, 8, 9, 10, 11, 12]

def infoValues : List ℕ := [13, 14, 15, 15, 16, 17, 18, 19, 20, 21, 22, 23]

def infoNames : List Bytes :=
  ["deviceID", "features", "keepAliveLowPower", "keepAliveSendStatsAsBody", "manufacturer",
    "model", "name", "pi", "protocolVersion", "sourceVersion", "statusFlags", "vv"].map ascii

theorem template_layout :
    At deviceInfoTemplate 0 (deviceInfoBytes.take 172) ∧
      At deviceInfoTemplate 8 (encodeObject 1 (.dict infoKeys infoValues)) ∧
      At deviceInfoTemplate 172 [0x5f, 0x10, 17] ∧ At deviceInfoTemplate 236 [0x5f, 0x10, 36] ∧
      At deviceInfoTemplate 290 (infoStarts.flatMap (toBytes 2)) ∧
      At deviceInfoTemplate 338 (encodeTrailer infoTrailer) := by
  rw [deviceInfoTemplate_eq]
  unfold At
  refine ⟨?_, ?_, ?_, ?_, ?_, ?_⟩ <;> decide +kernel

theorem names_front :
    infoKeys.map (fun k => infoStarts[k]?.bind (stringAt (deviceInfoBytes.take 172))) =
      infoNames.map some := by
  decide +kernel

section
variable {device pi : Bytes} (hdevice : device.length = 17) (hpi : pi.length = 36)
include hdevice hpi

/-- What the template has beside the two texts. -/
theorem at_deviceInfo {q : ℕ} {cs : Bytes} (hcs : At deviceInfoTemplate q cs)
    (hoff : q + cs.length ≤ devicePlace ∨ devicePlace + 17 ≤ q)
    (hoff' : q + cs.length ≤ piPlace ∨ piPlace + 36 ≤ q) : At (deviceInfo device pi) q cs := by
  apply (hcs.overwrite (deviceFits hdevice) (by rwa [hdevice])).overwrite (piFits hdevice hpi)
  rwa [hpi]

theorem at_device : At (deviceInfo device pi) devicePlace device := by
  apply (at_overwrite (deviceFits hdevice)).overwrite (piFits hdevice hpi)
  rw [hdevice]
  exact Or.inl (by decide)

theorem at_pi : At (deviceInfo device pi) piPlace pi := at_overwrite (piFits hdevice hpi)

/-- The table and the dictionary are the template's. -/
theorem index_deviceInfo :
    readTrailer (deviceInfo device pi) = some infoTrailer ∧
      readNumbers (deviceInfo device pi) 2 24 290 = some infoStarts ∧
      objectAt (deviceInfo device pi) 1 infoStarts 0 = some (.dict infoKeys infoValues) := by
  obtain ⟨-, hdict, -, -, htable, htrailer⟩ := template_layout
  refine ⟨?_, ?_, ?_⟩
  · have hlength : (deviceInfo device pi).length = 338 + 32 := by
      rw [deviceInfo, length_overwrite (piFits hdevice hpi), length_overwrite (deviceFits hdevice),
        length_template]
    apply readTrailer_at ?_ (at_deviceInfo hdevice hpi htrailer (by decide) (by decide)) hlength
    constructor <;> decide
  · exact (at_deviceInfo hdevice hpi htable (by decide) (by decide)).readNumbers (by decide)
  · have hfits : (PObject.dict infoKeys infoValues).Fits 1 := by
      unfold PObject.Fits
      decide
    have hstart : infoStarts[0]? = some 8 := rfl
    have hread := decodeObject_at hfits (at_deviceInfo hdevice hpi hdict (by decide) (by decide))
    rw [objectAt, hstart, Option.bind_some, hread, Option.map_some]

theorem names_deviceInfo :
    infoKeys.map (fun k => infoStarts[k]?.bind (stringAt (deviceInfo device pi))) =
      infoNames.map some := by
  obtain ⟨hfront, -⟩ := template_layout
  have hat := (at_deviceInfo hdevice hpi hfront (by decide +kernel) (by decide +kernel)).2
  rw [List.drop_zero] at hat
  exact strings_front (List.prefix_iff_eq_take.mpr hat.symm) names_front

/-- The two texts stand behind counts of their sizes. -/
theorem texts_deviceInfo :
    stringAt (deviceInfo device pi) 172 = some device ∧
      stringAt (deviceInfo device pi) 236 = some pi := by
  obtain ⟨-, -, hcount, hcount', -⟩ := template_layout
  refine ⟨?_, ?_⟩
  · apply stringAt_counted (by omega)
    have hboth := at_append.mpr ⟨at_deviceInfo hdevice hpi hcount (by decide) (by decide),
      at_device hdevice hpi⟩
    rwa [show UInt8.ofNat device.length = 17 by rw [hdevice]; rfl]
  · apply stringAt_counted (by omega)
    have hboth := at_append.mpr ⟨at_deviceInfo hdevice hpi hcount' (by decide) (by decide),
      at_pi hdevice hpi⟩
    rwa [show UInt8.ofNat pi.length = 36 by rw [hpi]; rfl]

/-- **A reader finds both texts**, each under its key. -/
theorem stringField_deviceInfo :
    stringField (deviceInfo device pi) (ascii "deviceID") = some device ∧
      stringField (deviceInfo device pi) (ascii "pi") = some pi := by
  obtain ⟨htrailer, hstarts, htop⟩ := index_deviceInfo hdevice hpi
  obtain ⟨hreadDevice, hreadPi⟩ := texts_deviceInfo hdevice hpi
  have hkeys : (infoNames.map some).idxOf? (some (ascii "deviceID")) = some 0 ∧
      (infoNames.map some).idxOf? (some (ascii "pi")) = some 7 := by
    decide +kernel
  rw [← names_deviceInfo hdevice hpi] at hkeys
  exact ⟨stringField_eq htrailer hstarts htop hkeys.1 rfl rfl hreadDevice,
    stringField_eq htrailer hstarts htop hkeys.2 rfl rfl hreadPi⟩

end

end AirPlay2
