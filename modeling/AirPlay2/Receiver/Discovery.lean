import AirPlay2.Receiver.Lifecycle

/- Discovery from both ends. A browser asks for `_airplay._tcp.local` among any other questions, and
   reads the answer of a receiver as a DNS message: the name, the port and the identity are those of
   the configuration the receiver runs with, and a receiver that does not run is silent
   (`run_discovered`). -/
namespace AirPlay2
open Lib

/-! ## The question -/

/-- A DNS message whose questions, none of them compressed, ask for AirPlay receivers. What follows
    the questions is left open. -/
structure AirPlayQuery where
  header : { h : Bytes // h.length = 12 }
  questions : List Dns.Question
  rest : Bytes
  asks : ∃ q ∈ questions, q.owner = serviceLabels
  fits : (header.1 ++ questions.flatMap Dns.encodeQuestion ++ rest).length ≤ 1500

def AirPlayQuery.bytes (query : AirPlayQuery) : Bytes :=
  query.header.1 ++ query.questions.flatMap Dns.encodeQuestion ++ query.rest

theorem encodeName_serviceLabels :
    Dns.encodeName serviceLabels =
      [8] ++ ascii "_airplay" ++ (4 :: ascii "_tcp" ++ (5 :: ascii "local" ++ [0])) := by
  decide +kernel

/-- The match loop of the responder finds the name. -/
theorem AirPlayQuery.found (query : AirPlayQuery) :
    12 ≤ query.bytes.length ∧ MdnsService.queryForAirplay query.bytes = true := by
  obtain ⟨q, hq, howner⟩ := query.asks
  obtain ⟨before, after, hsplit⟩ := List.append_of_mem hq
  have hbytes : query.bytes =
      (query.header.1 ++ before.flatMap Dns.encodeQuestion ++ [8]) ++ ascii "_airplay" ++
        ((4 :: ascii "_tcp" ++ (5 :: ascii "local" ++ [0])) ++ (toBytes 2 q.type ++ toBytes 2 q.cls) ++
          after.flatMap Dns.encodeQuestion ++ query.rest) := by
    rw [bytes, hsplit, List.flatMap_append, List.flatMap_cons, Dns.encodeQuestion, howner,
      encodeName_serviceLabels]
    simp only [List.append_assoc]
  rw [hbytes]
  refine ⟨?_, MdnsService.queryForAirplay_of_stands _ _ ?_⟩
  · simp only [List.length_append, query.header.2]
    omega
  · simp only [List.length_append, query.header.2]
    omega

theorem answer_query {s : MdnsService} (query : AirPlayQuery) :
    s.answer query.bytes = if s.active then some s.makeResponse else none := by
  obtain ⟨hlength, hfound⟩ := query.found
  have hwhole : query.bytes.take 1500 = query.bytes := List.take_of_length_le query.fits
  rw [MdnsService.answer_eq, hwhole, hfound, decide_eq_true hlength, Bool.and_true, Bool.and_true]

/-! ## The answer -/

theorem length_encodeStrings_keptItems (records : List MdnsTxtRecord) :
    (Dns.encodeStrings (keptItems records)).length ≤ 256 * records.length := by
  rw [← flatMap_txtItem]
  induction records with
  | nil => exact Nat.zero_le _
  | cons r records ih =>
    have hitem : (Mdns.txtItem r).length ≤ 256 := by
      unfold Mdns.txtItem
      dsimp only
      split
      · rw [List.length_cons]
        omega
      · exact Nat.zero_le _
    rw [List.flatMap_cons, List.length_append, List.length_cons]
    omega

/-- The reply reads as the four records of a receiver with this configuration. -/
def DescribesReceiver (reply : Bytes) (config : ReceiverConfig) : Prop :=
  ∃ (items : List Bytes) (address : ℕ),
    Dns.decodeMessage reply =
      some
        { id := 0, flags := 0x8400, questions := [], authority := [], additional := []
          answers :=
            [announced serviceLabels 12 (.ptr (config.deviceName :: serviceLabels)),
              announced (config.deviceName :: serviceLabels) 33
                (.srv 0 0 config.port.toNat targetLabels),
              announced (config.deviceName :: serviceLabels) 16 (.txt items),
              announced targetLabels 1 (.a address)] } ∧
      txtValue items (ascii "deviceid") =
        (if 9 + config.deviceId.length ≤ 255 then some config.deviceId else none) ∧
      txtValue items (ascii "pi") = some (makePi config.deviceId)

namespace ReceiverDevice

variable {σ : Type*} {factory : ReceiverConfig → HttpHandlerFactory σ} {d : ReceiverDevice σ}

theorem Serves.describesReceiver (h : d.Serves factory) (htarget : d.receiver.mdns.target = ascii "gwl-airplay.local")
    (hlabel : Dns.IsLabel d.receiver.config.deviceName) (hdot : 46 ∉ d.receiver.config.deviceName) :
    DescribesReceiver d.receiver.mdns.makeResponse d.receiver.config := by
  have hunder : UnderLabel d.receiver.mdns.instanceName d.receiver.config.deviceName :=
    ⟨hlabel, hdot, Or.inl h.name⟩
  have hfits : (Dns.encodeStrings (keptItems d.receiver.mdns.records)).length ≤ 65535 := by
    rw [h.records]
    exact (length_encodeStrings_keptItems _).trans (show 256 * 9 ≤ 65535 by decide)
  have hmessage := decodeMessage_underLabel htarget hunder hfits
  obtain ⟨hid, hpi⟩ := AirPlayReceiver.txtValue_txtRecords d.receiver.config.deviceId
    (length_makePi d.receiver.config.deviceId)
  refine ⟨keptItems d.receiver.mdns.records, d.receiver.mdns.localAddress.toNat, ?_, ?_, ?_⟩
  · rw [hmessage, MdnsService.announcement, h.port]
  · rw [h.records]
    exact hid
  · rw [h.records]
    exact hpi

/-- **Who runs is found.** After any starts and stops, a query of a browser is answered exactly by a
    receiver that runs. If the name of its configuration can be a label, the reply is read as the
    records of that configuration; and where the sockets do as documented, the port in it is the
    one its server is bound to, if the configuration names a port. -/
theorem run_discovered (calls : List DeviceCall) (query : AirPlayQuery) :
    let d := run (step factory) {} calls
    (d.receiver.mdns.answer query.bytes).isSome = d.receiver.running ∧
      ∀ reply, d.receiver.mdns.answer query.bytes = some reply →
        (Dns.IsLabel d.receiver.config.deviceName → 46 ∉ d.receiver.config.deviceName →
          DescribesReceiver reply d.receiver.config) ∧
        ((∀ call ∈ calls, call.Documented) → d.receiver.config.port ≠ 0 →
          d.server.boundPort = d.receiver.config.port) := by
  intro d
  have hstep : d.InStep factory := inStep_run calls
  rw [answer_query, hstep.mdns]
  cases hrunning : d.receiver.running with
  | false => exact ⟨rfl, nofun⟩
  | true =>
    refine ⟨rfl, ?_⟩
    intro reply hreply
    obtain rfl := Option.some.inj hreply
    refine ⟨(hstep.serves hrunning).describesReceiver hstep.target, ?_⟩
    intro hcalls
    have hbound : d.Bound := bound_run hcalls
    exact (hbound hrunning).2

end ReceiverDevice

/-- A question for any service, and one for AirPlay. -/
def twoQuestions : AirPlayQuery where
  header := ⟨Dns.encodeHeader 0 0 2 0 0 0, rfl⟩
  questions := [⟨[ascii "_services", ascii "_dns-sd", ascii "_udp", ascii "local"], 12, 1⟩,
    ⟨serviceLabels, 12, 1⟩]
  rest := []
  asks := ⟨_, List.mem_cons_of_mem _ List.mem_cons_self, rfl⟩
  fits := by decide

def namedStart : List DeviceCall :=
  [.start { deviceName := ascii "kitchen", deviceId := ascii "AA:BB:CC:DD:EE:FF" }
    ⟨[], .listening (some 7000), some none⟩]

theorem run_discovered_kitchen :
    let d := run (ReceiverDevice.step silent) {} namedStart
    ∃ reply, d.receiver.mdns.answer twoQuestions.bytes = some reply ∧
      DescribesReceiver reply d.receiver.config ∧ d.server.boundPort = d.receiver.config.port := by
  intro d
  have hcalls : ∀ call ∈ namedStart, call.Documented := by
    intro call hcall
    obtain rfl := List.mem_singleton.mp hcall
    exact ⟨by decide, fun _ => rfl⟩
  have hrunning : d.receiver.running = true := by decide +kernel
  obtain ⟨hsome, hreply⟩ : (d.receiver.mdns.answer twoQuestions.bytes).isSome = d.receiver.running ∧ _ :=
    ReceiverDevice.run_discovered namedStart twoQuestions
  obtain ⟨reply, hanswer⟩ := Option.isSome_iff_exists.mp (hsome.trans hrunning)
  obtain ⟨hdescribes, hport⟩ := hreply reply hanswer
  exact ⟨reply, hanswer, hdescribes (by decide +kernel) (by decide +kernel),
    hport hcalls (by decide +kernel)⟩

end AirPlay2
