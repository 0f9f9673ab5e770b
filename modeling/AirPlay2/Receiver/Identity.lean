import AirPlay2.Lib.Runs
import AirPlay2.Mdns.Answer
import AirPlay2.Receiver.DeviceInfo
import AirPlay2.Receiver.Framing

/- The identity a receiver gives of itself: what it publishes when it starts, and what it
   answers to GET /info. The announcement has the identifier as it is; the answer has it only
   where it fits the template, and else names the device of the template
   (`info_same_device_iff`). -/
namespace AirPlay2
open Lib Lib.BinaryPlist

/-! ## What is published -/

/-- The value that a reader of TXT items finds under a key. -/
def txtValue (items : List Bytes) (key : Bytes) : Option Bytes :=
  (items.find? (key ++ [61]).isPrefixOf).map (·.drop (key.length + 1))

/-- A key ends where the first equals sign is. -/
theorem key_prefix_iff {key k : Bytes} (hkey : 61 ∉ key) (hk : 61 ∉ k) (value : Bytes) :
    key ++ [61] <+: k ++ [61] ++ value ↔ k = key := by
  induction key generalizing k with
  | nil =>
    cases k with
    | nil => exact iff_of_true (List.prefix_append _ _) rfl
    | cons c k =>
      have hc : 61 ≠ c := fun h => hk (h ▸ List.mem_cons_self)
      apply iff_of_false
      · intro h
        exact hc (List.cons_prefix_cons.mp h).1
      · exact List.cons_ne_nil c k
  | cons c key ih =>
    have hrest : 61 ∉ key := fun h => hkey (List.mem_cons_of_mem c h)
    have hc : c ≠ 61 := fun h => hkey (h ▸ List.mem_cons_self)
    cases k with
    | nil =>
      apply iff_of_false
      · intro h
        exact hc (List.cons_prefix_cons.mp h).1
      · exact (List.cons_ne_nil c key).symm
    | cons d k =>
      have hk' : 61 ∉ k := fun h => hk (List.mem_cons_of_mem d h)
      show c :: (key ++ [61]) <+: d :: (k ++ [61] ++ value) ↔ _
      rw [List.cons_prefix_cons, ih hrest hk', List.cons.injEq, eq_comm]

/-- Of the items kept, a reader finds the first that is published under the key. -/
theorem txtValue_keptItems {records : List MdnsTxtRecord} {key : Bytes} (hkey : 61 ∉ key)
    (hrecords : ∀ r ∈ records, 61 ∉ r.key) :
    txtValue (keptItems records) key =
      (records.find? fun r =>
        decide (r.key = key) && decide (key.length + 1 + r.value.length ≤ 255)).map (·.value) := by
  have hequals : ascii "=" = [61] := by decide
  induction records with
  | nil => rfl
  | cons r records ih =>
    have htail := ih fun r' hr' => hrecords r' (List.mem_cons_of_mem r hr')
    have hprefix := key_prefix_iff hkey (hrecords r List.mem_cons_self) r.value
    rw [← List.isPrefixOf_iff_prefix] at hprefix
    unfold txtValue keptItems at htail ⊢
    rw [hequals] at htail ⊢
    rw [List.map_cons, List.filter_cons, List.find?_cons]
    by_cases hfound : r.key = key
    · subst hfound
      have hlength : (r.key ++ [61] ++ r.value).length = r.key.length + 1 + r.value.length := by
        simp only [List.length_append, List.length_singleton]
      rw [hlength, decide_eq_true (rfl : r.key = r.key), Bool.true_and]
      by_cases hfits : r.key.length + 1 + r.value.length ≤ 255
      · rw [decide_eq_true hfits, if_pos rfl, List.find?_cons, hprefix.mpr rfl, Option.map_some,
          Option.map_some, List.drop_left' (by simp)]
      · rw [decide_eq_false hfits, if_neg (by simp)]
        exact htail
    · have hno : (key ++ [61]).isPrefixOf (r.key ++ [61] ++ r.value) = false := by
        rw [Bool.eq_false_iff]
        exact mt hprefix.mp hfound
      rw [decide_eq_false hfound, Bool.false_and]
      split
      · rw [List.find?_cons, hno]
        exact htail
      · exact htail

namespace AirPlayReceiver

/-- What a reader of the announcement finds under a key. -/
def published (r : AirPlayReceiver) (key : Bytes) : Option Bytes :=
  if r.mdns.active then txtValue (keptItems r.mdns.records) key else none

theorem txtRecords_keys (deviceId protocolIdentity : Bytes) :
    ∀ r ∈ txtRecords deviceId protocolIdentity, 61 ∉ r.key := by
  intro r hr
  have hkeys : ((txtRecords [] []).map (·.key)).all (!·.contains 61) = true := by decide
  have hmem : r.key ∈ (txtRecords deviceId protocolIdentity).map (·.key) :=
    List.mem_map_of_mem hr
  simpa using List.all_eq_true.mp hkeys _ hmem

/-- The identifier and the `pi` that the records of a start give to a reader. -/
theorem txtValue_txtRecords (deviceId : Bytes) {protocolIdentity : Bytes}
    (hpi : protocolIdentity.length = 36) :
    txtValue (keptItems (txtRecords deviceId protocolIdentity)) (ascii "deviceid") =
        (if 9 + deviceId.length ≤ 255 then some deviceId else none) ∧
      txtValue (keptItems (txtRecords deviceId protocolIdentity)) (ascii "pi") =
        some protocolIdentity := by
  have hkeys := txtRecords_keys deviceId protocolIdentity
  refine ⟨?_, ?_⟩
  · rw [txtValue_keptItems (by decide) hkeys]
    have hsize : (ascii "deviceid").length + 1 = 9 := by decide
    rw [hsize]
    by_cases hfits : 9 + deviceId.length ≤ 255
    · simp [txtRecords, hfits]
    · simp +decide [txtRecords, hfits]
  · rw [txtValue_keptItems (by decide) hkeys]
    have hsize : (ascii "pi").length + 1 = 3 := by decide
    rw [hsize]
    simp +decide [txtRecords, hpi]

/-! ## Starts and stops -/

inductive ReceiverCall where
  | start (config : ReceiverConfig) (e : StartCalls)
  | stop

def step (r : AirPlayReceiver) : ReceiverCall → AirPlayReceiver
  | .start config e => (r.start config e).2
  | .stop => r.stop

/-- The receiver announces itself exactly while it runs. -/
def Announces (r : AirPlayReceiver) : Prop := r.mdns.active = r.running

theorem start_running {r : AirPlayReceiver} (h : r.running = true) (config : ReceiverConfig)
    (e : StartCalls) : r.start config e = (false, r) := if_pos h

/-- What an accepted start leaves, and what a refused one keeps. -/
theorem start_cases {r : AirPlayReceiver} (h : r.Announces) (config : ReceiverConfig)
    (e : StartCalls) :
    let r' := (r.start config e).2
    ((r.start config e).1 = true ∧ r'.running = true ∧ r'.mdns.active = true ∧
        r'.config.deviceId = (if config.deviceId = [] then e.drawn else config.deviceId) ∧
        r'.mdns.records = txtRecords r'.config.deviceId (makePi r'.config.deviceId)) ∨
      ((r.start config e).1 = false ∧ r'.running = r.running ∧ r'.mdns = r.mdns) := by
  cases hrunning : r.running with
  | true =>
    rw [start_running hrunning]
    exact Or.inr ⟨rfl, hrunning, rfl⟩
  | false =>
    have hidle : r.mdns.active = false := h.trans hrunning
    cases hbinds : e.serverBinds with
    | false => exact Or.inr (by simp [start, hrunning, hbinds])
    | true =>
      cases hsockets : e.mdnsSockets with
      | none =>
        exact Or.inr (by simp [start, MdnsService.publish, hrunning, hidle, hbinds, hsockets])
      | some probe =>
        have hdevice : (if config.deviceId = [] then { config with deviceId := e.drawn }
            else config).deviceId = if config.deviceId = [] then e.drawn else config.deviceId := by
          split <;> rfl
        exact Or.inl
          (by simp [start, MdnsService.publish, hrunning, hidle, hbinds, hsockets, hdevice])

theorem step_announces (r : AirPlayReceiver) (call : ReceiverCall) (h : r.Announces) :
    (r.step call).Announces := by
  cases call with
  | start config e =>
    obtain ⟨-, hrunning, hactive, -⟩ | ⟨-, hrunning, hmdns⟩ := start_cases h config e
    · exact hactive.trans hrunning.symm
    · show (r.start config e).2.mdns.active = (r.start config e).2.running
      rw [hmdns, hrunning]
      exact h
  | stop => rfl

/-- A receiver that runs is as it is until it is stopped. -/
theorem run_running {r : AirPlayReceiver} (h : r.running = true) {calls : List ReceiverCall}
    (hcalls : ReceiverCall.stop ∉ calls) : run step r calls = r := by
  induction calls with
  | nil => rfl
  | cons call calls ih =>
    have hrest : ReceiverCall.stop ∉ calls := fun hmem => hcalls (List.mem_cons_of_mem _ hmem)
    cases call with
    | start config e =>
      have hstep : r.step (.start config e) = r := congrArg Prod.snd (start_running h config e)
      rw [run_cons, hstep, ih hrest]
    | stop => exact absurd List.mem_cons_self hcalls

/-! ## The answer to GET /info -/

/-- The list names the device that is published, by the identifier and the `pi`, and is the
    template beside the two texts. -/
structure SameDevice (r : AirPlayReceiver) (plist : Bytes) : Prop where
  device : ∃ device, r.published (ascii "deviceid") = some device ∧
    stringField plist (ascii "deviceID") = some device
  pi : ∃ pi, r.published (ascii "pi") = some pi ∧ stringField plist (ascii "pi") = some pi
  rest : ∀ i, ¬ InPlace i → plist[i]? = deviceInfoTemplate[i]?

theorem sameDevice_iff {r : AirPlayReceiver} {deviceId : Bytes} (hactive : r.mdns.active = true)
    (hrecords : r.mdns.records = txtRecords deviceId (makePi deviceId)) :
    r.SameDevice (deviceInfoBinaryPlist deviceId) ↔ deviceId.length = 17 := by
  have hpi := length_makePi deviceId
  have hdevice : (if deviceId.length = 17 then deviceId else devicePlaceholder).length = 17 := by
    split
    · assumption
    · exact length_devicePlaceholder
  obtain ⟨hid, hpiValue⟩ := txtValue_txtRecords deviceId hpi
  obtain ⟨hreadDevice, hreadPi⟩ := stringField_deviceInfo hdevice hpi
  have hpublished : ∀ key, r.published key =
      txtValue (keptItems (txtRecords deviceId (makePi deviceId))) key := by
    intro key
    rw [published, hactive, hrecords, if_pos rfl]
  rw [deviceInfoBinaryPlist_eq]
  refine ⟨?_, ?_⟩
  · intro hsame
    obtain ⟨device, hpub, hread⟩ := hsame.device
    rw [hreadDevice, Option.some.injEq] at hread
    rw [hpublished, hid] at hpub
    -- What is published is the identifier, and what is read has 17 bytes.
    split at hpub
    · rw [Option.some.inj hpub, ← hread, hdevice]
    · cases hpub
  · intro hlength
    refine ⟨⟨deviceId, ?_, ?_⟩, ⟨makePi deviceId, ?_, hreadPi⟩, ?_⟩
    · rw [hpublished, hid, if_pos (by omega)]
    · rw [hreadDevice, if_pos hlength]
    · rw [hpublished, hpiValue]
    · intro i hi
      exact getElem?_deviceInfo hdevice hpi hi

/-- The list of a receiver just started. -/
theorem start_sameDevice_iff {r : AirPlayReceiver} (h : r.Announces) {config : ReceiverConfig}
    (hid : config.deviceId ≠ []) {e : StartCalls} (haccept : (r.start config e).1 = true) :
    (r.start config e).2.SameDevice (deviceInfoBinaryPlist (r.start config e).2.config.deviceId) ↔
      config.deviceId.length = 17 := by
  obtain ⟨-, -, hactive, hdevice, hrecords⟩ | ⟨hrefused, -⟩ := start_cases h config e
  · rw [sameDevice_iff hactive hrecords, hdevice, if_neg hid]
  · rw [haccept] at hrefused
    cases hrefused

end AirPlayReceiver

/-- A GET /info with a body. -/
structure IsInfoRequest (request : HttpRequest) : Prop where
  target : request.target = ascii "/info" ∨ request.target = ascii "/info/"
  method : request.method = ascii "GET"
  body : request.body ≠ []

theorem bodyResponse_body (protocol contentType body : Bytes) :
    (bodyResponse protocol contentType body).body = body := rfl

variable {δ κ : Type*} [AlacDecoder δ] [AudioSink κ]

theorem IsInfoRequest.handleRequest {b : SrpBackend} {c : HkpBackend} {config : ReceiverConfig}
    {s : Connection δ κ} {e : ConnectionCalls} {request : HttpRequest} (h : IsInfoRequest request) :
    Connection.handleRequest b c config s e request =
      some (.ok (bodyResponse (protocolOf request) (ascii "application/x-apple-binary-plist")
        (deviceInfoBinaryPlist config.deviceId)), s) := by
  rw [Connection.handleRequest, if_pos h.target, if_neg (not_not.mpr h.method)]
  dsimp only
  rw [if_neg h.body]

open AirPlayReceiver in
/-- **When discovery and /info describe the same device.** Whatever a new receiver was called
    with before, and for every identifier that a start then accepts, as long as the receiver is
    not stopped: a GET /info with a body is answered with a list that names the device
    published, and is the template elsewhere, exactly if the identifier has 17 bytes. -/
theorem info_same_device_iff (b : SrpBackend) (c : HkpBackend) (before : List ReceiverCall)
    {config : ReceiverConfig} (hid : config.deviceId ≠ []) {calls : StartCalls}
    (haccept : ((run step {} before).start config calls).1 = true) {later : List ReceiverCall}
    (hlater : ReceiverCall.stop ∉ later) (s : Connection δ κ) (e : ConnectionCalls)
    {request : HttpRequest} (hrequest : IsInfoRequest request) :
    ∃ response,
      Connection.handleRequest b c (run step {} (before ++ .start config calls :: later)).config s e
          request = some (.ok response, s) ∧
        ((run step {} (before ++ .start config calls :: later)).SameDevice response.body ↔
          config.deviceId.length = 17) := by
  have hannounces : (run step {} before).Announces :=
    run_induction step_announces (show AirPlayReceiver.Announces {} from rfl) before
  have hrunning : ((run step {} before).start config calls).2.running = true := by
    obtain ⟨-, hrunning, -⟩ | ⟨hrefused, -⟩ := start_cases hannounces config calls
    · exact hrunning
    · rw [haccept] at hrefused
      cases hrefused
  have hrun : run step {} (before ++ .start config calls :: later) =
      ((run step {} before).start config calls).2 := by
    rw [run_append, run_cons]
    exact run_running hrunning hlater
  rw [hrun]
  refine ⟨_, hrequest.handleRequest, ?_⟩
  rw [bodyResponse_body]
  exact start_sameDevice_iff hannounces hid haccept

/-! ## Two identifiers -/

/-- A receiver with this identifier, on free ports. -/
def identified (deviceId : Bytes) : ReceiverConfig := { deviceId := deviceId }

def freeCalls : StartCalls := { drawn := [], serverBinds := true, mdnsSockets := some none }

/-- A GET /info that asks for the device info. -/
def deviceInfoRequest : HttpRequest := { infoRequest with body := [0] }

theorem deviceInfoRequest_isInfo : IsInfoRequest deviceInfoRequest :=
  ⟨Or.inl rfl, rfl, List.cons_ne_nil _ _⟩

open AirPlayReceiver in
theorem info_same_device_mac :
    ((run step {} []).start (identified (ascii "AA:BB:CC:DD:EE:FF")) freeCalls).1 = true ∧
      ∃ response,
        Connection.handleRequest AirPlayTransientPairing.zeroTail xorBackend
            (run step {} ([] ++ [.start (identified (ascii "AA:BB:CC:DD:EE:FF")) freeCalls])).config
            freshConnection idleCalls deviceInfoRequest = some (.ok response, freshConnection) ∧
          ((run step {} ([] ++ [.start (identified (ascii "AA:BB:CC:DD:EE:FF")) freeCalls])).SameDevice
              response.body ↔ (identified (ascii "AA:BB:CC:DD:EE:FF")).deviceId.length = 17) := by
  have haccept :
      ((run step {} []).start (identified (ascii "AA:BB:CC:DD:EE:FF")) freeCalls).1 = true := by
    decide
  exact ⟨haccept, info_same_device_iff AirPlayTransientPairing.zeroTail xorBackend [] (by decide)
    haccept (by simp) freshConnection idleCalls deviceInfoRequest_isInfo⟩

open AirPlayReceiver in
/-- Without its colons the same identifier is published, and the answer has the device of the
    template. -/
theorem plainId_other_device :
    ((run step {} []).start (identified (ascii "AABBCCDDEEFF")) freeCalls).1 = true ∧
      ¬ ∀ response s',
        Connection.handleRequest AirPlayTransientPairing.zeroTail xorBackend
            (run step {} [.start (identified (ascii "AABBCCDDEEFF")) freeCalls]).config
            freshConnection idleCalls deviceInfoRequest = some (.ok response, s') →
          (run step {} [.start (identified (ascii "AABBCCDDEEFF")) freeCalls]).SameDevice
            response.body := by
  have haccept :
      (AirPlayReceiver.start {} (identified (ascii "AABBCCDDEEFF")) freeCalls).1 = true := by
    decide
  refine ⟨haccept, ?_⟩
  intro hall
  have hsame := hall _ _ deviceInfoRequest_isInfo.handleRequest
  rw [bodyResponse_body, run_cons, run_nil] at hsame
  have hannounces : AirPlayReceiver.Announces {} := rfl
  have hlength := (start_sameDevice_iff hannounces (by decide) haccept).mp hsame
  revert hlength
  decide

end AirPlay2
