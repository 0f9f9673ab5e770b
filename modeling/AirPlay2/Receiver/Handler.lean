import AirPlay2.Http.Serve
import AirPlay2.Mdns.Responder
import AirPlay2.Pairing.Hkp
import AirPlay2.Rtsp.Session

/- The receiver (`airplay_receiver.cpp`): what it publishes when it starts, and the handler
   behind one connection, which answers /info, the pairing and FairPlay paths itself and hands
   the RTSP methods to the connection's session. The event channel of a session has a handler
   of its own (`make_event_handler` of `rtsp.cpp`), over the same session. What the socket and
   OpenSSL calls of one request return is an input; log lines are not modelled. -/
namespace AirPlay2
open Lib

/-- `ReceiverConfig`, as far as the receiver reads it. -/
structure ReceiverConfig where
  deviceName : Bytes := ascii "GWL AirPlay"
  deviceId : Bytes := []
  port : UInt16 := 7000
  deriving DecidableEq

/-! ## The helpers -/

/-- The identifier without its colons, filled up to 32 characters and grouped. -/
def makePi (deviceId : Bytes) : Bytes :=
  let hex := deviceId.filter (· ≠ 58)
  let hex := if hex.length < 32 then hex ++ List.replicate (32 - hex.length) 48 else hex
  substr hex 0 8 ++ ascii "-" ++ substr hex 8 4 ++ ascii "-4" ++ substr hex 13 3 ++ ascii "-8" ++
    substr hex 17 3 ++ ascii "-" ++ substr hex 20 12

def isRtspMediaRequest (request : HttpRequest) : Bool :=
  request.method = ascii "OPTIONS" || request.method = ascii "ANNOUNCE" ||
    request.method = ascii "SETUP" || request.method = ascii "RECORD" ||
    request.method = ascii "FLUSH" || request.method = ascii "TEARDOWN" ||
    request.method = ascii "GET_PARAMETER" || request.method = ascii "SET_PARAMETER" ||
    request.method = ascii "PAUSE"

/-- The protocol of the request, RTSP where it has none. -/
def protocolOf (request : HttpRequest) : Bytes :=
  if request.protocol = [] then ascii "RTSP/1.0" else request.protocol

def responseFor (status : ℤ) (reason : Bytes) (request : HttpRequest) : HttpResponse :=
  { status := status, reason := reason, protocol := protocolOf request, contentType := [] }

/-- What `ss >> v` reads of two characters as a hexadecimal number, 0 if nothing. -/
def hexByte (hi lo : UInt8) : UInt8 := UInt8.ofNat (((stoul 16 [hi, lo]).map Prod.fst).getD 0)

def hexBytes : Bytes → Bytes
  | hi :: lo :: rest =>
    if hi = 32 || hi = 10 || hi = 9 || hi = 13 then hexBytes (lo :: rest)
    else hexByte hi lo :: hexBytes rest
  | _ => []

/-! ## FairPlay -/

def fairplayV3Phase1Response : Bytes := hexBytes ([
  "46504c59030102000000008202039001e1727e0f57f9f5880db104a6257a23f5",
  "cfff1abbe1e93045251afb97eb9fc0011ebe0f3a81df5b691d76acb2f7a5c708",
  "e3d328f56bb39dbde5f29c8a17f481487e3ae863c678325422e6f78e166d18aa",
  "7fd636258bce28726f661f738893ce44311e4be6c0535193e5ef72e868623372",
  "9c227d820c999445d89246c8c359"].flatMap ascii)

structure FairplayReply where
  response : Bytes := []
  error : String := ""
  deriving DecidableEq

/-- The reply and the key message kept. -/
def handleFairplaySetup (body keyMessage : Bytes) : FairplayReply × Bytes :=
  if body.length < 16 || body.take 4 ≠ ascii "FPLY" then
    ({ error := "invalid FPLY header" }, keyMessage)
  else if body.getD 4 0 ≠ 3 || body.getD 5 0 ≠ 1 then
    ({ error := "unsupported FairPlay version" }, keyMessage)
  else if body.getD 6 0 = 1 then
    if body.length ≠ 16 then ({ error := "invalid FairPlay phase-1 length" }, keyMessage)
    else ({ response := fairplayV3Phase1Response }, keyMessage)
  else if body.getD 6 0 = 3 then
    if body.length ≠ 164 then ({ error := "invalid FairPlay phase-3 length" }, keyMessage)
    else
      ({ response := [0x46, 0x50, 0x4c, 0x59, 0x03, 0x01, 0x04, 0x00, 0x00, 0x00, 0x00, 0x14] ++
          substr body 144 20 }, body)
  else ({ error := "unsupported FairPlay phase" }, keyMessage)

/-! ## Device info -/

def initialVolumeBinaryPlist : Bytes := [
  0x62, 0x70, 0x6c, 0x69, 0x73, 0x74, 0x30, 0x30, 0xd1, 0x01, 0x02, 0x5d, 0x69, 0x6e, 0x69,
  0x74, 0x69, 0x61, 0x6c, 0x56, 0x6f, 0x6c, 0x75, 0x6d, 0x65, 0x13, 0xff, 0xff, 0xff, 0xff,
  0xff, 0xff, 0xff, 0xff, 0x08, 0x0b, 0x19, 0x00, 0x00, 0x00, 0x00, 0x00, 0x00, 0x01,
  0x01, 0x00, 0x00, 0x00, 0x00, 0x00, 0x00, 0x00, 0x03, 0x00, 0x00, 0x00, 0x00, 0x00,
  0x00, 0x00, 0x00, 0x00, 0x00, 0x00, 0x00, 0x00, 0x00, 0x22]

/-- The property list of `device_info_binary_plist`, with its placeholders. -/
def deviceInfoTemplate : Bytes := hexBytes ([
  "62706c6973743030dc0102030405060708090a0b0c0d0e0f0f10111213141516",
  "175864657669636549445866656174757265735f10116b656570416c6976654c",
  "6f77506f7765725f10186b656570416c69766553656e6453746174734173426f",
  "64795c6d616e756661637475726572556d6f64656c546e616d655270695f100f",
  "70726f746f636f6c56657273696f6e5d736f7572636556657273696f6e5b7374",
  "61747573466c6167735276765f101130303a30303a30303a30303a30303a3030",
  "130000001e5a7ffff7095347574c5a4170706c655456332c325f101047574c20",
  "416972506c61792044656d6f5f102430303030303030302d303030302d343030",
  "302d383030302d30303030303030303030303053312e31563232302e36381044",
  "100200080021002a003300470062006f0075007a007d008f009d00a900ac00c0",
  "00c900ca00ce00d900ec01130117011e01200000000000000201000000000000",
  "001800000000000000000000000000000122"].flatMap ascii)

def devicePlaceholder : Bytes := ascii "00:00:00:00:00:00"

def piPlaceholder : Bytes := ascii "00000000-0000-4000-8000-000000000000"

/-- The lambda `replace`: nothing where the sizes differ or `src` is not found. -/
def replaceBytes (bytes src dst : Bytes) : Bytes :=
  if src.length ≠ dst.length then bytes
  else
    match find bytes src 0 with
    | none => bytes
    | some pos => bytes.take pos ++ dst ++ bytes.drop (pos + dst.length)

def deviceInfoBinaryPlist (deviceId : Bytes) : Bytes :=
  replaceBytes (replaceBytes deviceInfoTemplate devicePlaceholder deviceId) piPlaceholder
    (makePi deviceId)

/-! ## RTSP over HTTP -/

/-- What both handlers make of a request. A CSeq that `std::stoi` throws on is 0. -/
def rtspRequest (request : HttpRequest) : RtspRequest :=
  { method := request.method
    uri := request.target
    cseq := ((request.headers.find? (ascii "CSeq")).bind stoi).getD 0
    headers := request.headers
    body := request.body }

/-- What both handlers make of a session's response. -/
def httpResponse (protocol : Bytes) (x : RtspResponse) : HttpResponse :=
  { status := x.status
    reason := x.reason
    protocol := protocol
    contentType := []
    headers := x.headers
    body := x.body }

namespace RtspSession

variable {δ κ : Type*} [AlacDecoder δ] [AudioSink κ]

/-- The handler of `make_event_handler`. -/
def eventHandler (s : RtspSession δ κ) (e : Sockets) (request : HttpRequest) :
    Except StdException HttpResponse × RtspSession δ κ :=
  let rs := s.handle e (rtspRequest request)
  (rs.1.map (httpResponse (protocolOf request)), rs.2)

end RtspSession

/-! ## The handler of a connection -/

/-- The objects behind one connection. -/
structure Connection (δ κ : Type*) where
  rtsp : RtspSession δ κ := {}
  transient : AirPlayTransientPairing := {}
  hkp : AirPlayHkpPairing := {}
  fairplayKeyMessage : Bytes := []

/-- What the socket and OpenSSL calls made for one request return. -/
structure ConnectionCalls where
  sockets : Sockets
  transient : OpenSsl
  hkp : HkpCalls

/-- A 200 with a body, whose headers the handler sets itself; the content type of the response
    keeps its default. -/
def bodyResponse (protocol contentType body : Bytes) : HttpResponse :=
  { status := 200
    reason := ascii "OK"
    protocol := protocol
    headers := (OrdMap.empty.assign (ascii "Content-Type") contentType).assign
      (ascii "Content-Length") (toDecimal body.length)
    body := body }

/-- The answer of the pairing and FairPlay paths. -/
def octetAnswer (request : HttpRequest) (ok : Bool) (response : Bytes) : HttpResponse :=
  if !ok then responseFor 400 (ascii "Bad Request") request
  else bodyResponse (ascii "RTSP/1.0") (ascii "application/octet-stream") response

namespace Connection

variable {δ κ : Type*} [AlacDecoder δ] [AudioSink κ]
variable (b : SrpBackend) (c : HkpBackend)

/-- `AirPlayReceiver::Impl::handle_request`. Nothing is returned where a pair-verify reads
    through a null key. -/
def handleRequest (config : ReceiverConfig) (s : Connection δ κ) (e : ConnectionCalls)
    (request : HttpRequest) : Option (Except StdException HttpResponse × Connection δ κ) :=
  let notAllowed := responseFor 405 (ascii "Method Not Allowed") request
  if request.target = ascii "/info" ∨ request.target = ascii "/info/" then
    if request.method ≠ ascii "GET" then some (.ok notAllowed, s)
    else
      let body :=
        if request.body = [] then initialVolumeBinaryPlist
        else deviceInfoBinaryPlist config.deviceId
      some (.ok (bodyResponse (protocolOf request) (ascii "application/x-apple-binary-plist") body),
        s)
  else if request.target = ascii "/pair-setup" then
    if request.method ≠ ascii "POST" then some (.ok notAllowed, s)
    else if request.body.length = 32 then
      let reply := s.hkp.handlePairSetup c e.hkp request.body
      some (.ok (octetAnswer request reply.1.ok reply.1.response), { s with hkp := reply.2 })
    else
      let reply := s.transient.handle b e.transient request.body
      some (.ok (octetAnswer request reply.1.ok reply.1.response), { s with transient := reply.2 })
  else if request.target = ascii "/pair-verify" then
    if request.method ≠ ascii "POST" then some (.ok notAllowed, s)
    else
      (s.hkp.handlePairVerify c e.hkp request.body).map fun reply =>
        (.ok (octetAnswer request reply.1.ok reply.1.response), { s with hkp := reply.2 })
  else if request.target = ascii "/fp-setup" then
    if request.method ≠ ascii "POST" then some (.ok notAllowed, s)
    else
      let reply := handleFairplaySetup request.body s.fairplayKeyMessage
      -- an empty response stands for an error
      some (.ok (octetAnswer request (!reply.1.response.isEmpty) reply.1.response),
        { s with fairplayKeyMessage := reply.2 })
  else if isRtspMediaRequest request then
    let rs := s.rtsp.handle e.sockets (rtspRequest request)
    some (rs.1.map (httpResponse (ascii "RTSP/1.0")), { s with rtsp := rs.2 })
  else some (.ok (responseFor 404 (ascii "Not Found") request), s)

/-- The request is handed to the session. -/
def reachesRtsp (request : HttpRequest) : Bool :=
  request.target ≠ ascii "/info" && request.target ≠ ascii "/info/" &&
    request.target ≠ ascii "/pair-setup" && request.target ≠ ascii "/pair-verify" &&
    request.target ≠ ascii "/fp-setup" && isRtspMediaRequest request

theorem handleRequest_rtsp {config : ReceiverConfig} {s : Connection δ κ} {e : ConnectionCalls}
    {request : HttpRequest} (h : reachesRtsp request = true) :
    handleRequest b c config s e request =
      some ((s.rtsp.handle e.sockets (rtspRequest request)).1.map (httpResponse (ascii "RTSP/1.0")),
        { s with rtsp := (s.rtsp.handle e.sockets (rtspRequest request)).2 }) := by
  simp only [reachesRtsp, Bool.and_eq_true, decide_eq_true_eq] at h
  obtain ⟨⟨⟨⟨⟨hinfo, hinfo'⟩, hsetup⟩, hverify⟩, hfp⟩, hmedia⟩ := h
  simp only [handleRequest, hinfo, hinfo', hsetup, hverify, hfp, hmedia, or_self, if_false, if_true]

end Connection

/-! ## The receiver -/

/-- `AirPlayReceiver::Impl`, its HTTP server apart. -/
structure AirPlayReceiver where
  running : Bool := false
  config : ReceiverConfig := {}
  protocolIdentity : Bytes := []
  mdns : MdnsService := {}
  deriving DecidableEq

/-- What a start gets from outside: the identifier it draws, whether the server binds, and
    the socket calls of the announcement. -/
structure StartCalls where
  drawn : Bytes
  serverBinds : Bool
  mdnsSockets : Option (Option UInt32)

namespace AirPlayReceiver

/-- The records a start publishes. -/
def txtRecords (deviceId protocolIdentity : Bytes) : List MdnsTxtRecord := [
  ⟨ascii "deviceid", deviceId⟩, ⟨ascii "model", ascii "AppleTV3,2"⟩,
  ⟨ascii "srcvers", ascii "220.68"⟩, ⟨ascii "protovers", ascii "1.1"⟩,
  ⟨ascii "features", ascii "0x5A7FFFF7,0x1E"⟩, ⟨ascii "flags", ascii "0x44"⟩,
  ⟨ascii "vv", ascii "2"⟩, ⟨ascii "pi", protocolIdentity⟩, ⟨ascii "pw", ascii "false"⟩]

def start (r : AirPlayReceiver) (config : ReceiverConfig) (e : StartCalls) :
    Bool × AirPlayReceiver :=
  if r.running then (false, r)
  else
    let config :=
      if config.deviceId = [] then { config with deviceId := e.drawn } else config
    let r := { r with config := config, protocolIdentity := makePi config.deviceId }
    if !e.serverBinds then (false, r)
    else
      let published := r.mdns.publish config.deviceName config.port
        (txtRecords config.deviceId r.protocolIdentity) e.mdnsSockets
      if !published.1 then (false, { r with mdns := published.2.2 })
      else (true, { r with mdns := published.2.2, running := true })

def stop (r : AirPlayReceiver) : AirPlayReceiver :=
  { r with mdns := r.mdns.unpublish, running := false }

end AirPlayReceiver
end AirPlay2
