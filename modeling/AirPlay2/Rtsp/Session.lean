import AirPlay2.Jitter.Conserve
import AirPlay2.Media.Alac
import AirPlay2.Media.Crypto
import AirPlay2.Rtsp.Plist
import AirPlay2.Rtsp.Receiver

/- The RTSP session (`rtsp.cpp`): the state behind one connection and what each
   method does to it. What the socket calls of one request return is an input
   (`Sockets`); an exception leaves the state as far as it was changed. Memory and
   threads are there when asked for, and log lines are not modelled. -/
namespace AirPlay2
open Lib

structure RtspRequest where
  method : Bytes := []
  uri : Bytes := []
  cseq : ℤ := 0
  headers : OrdMap Bytes Bytes := .empty
  body : Bytes := []
  deriving DecidableEq

structure RtspResponse where
  status : ℤ := 200
  reason : Bytes := ascii "OK"
  headers : OrdMap Bytes Bytes := .empty
  body : Bytes := []
  deriving DecidableEq

structure RtpTransport where
  clientControlPort : UInt16 := 0
  clientTimingPort : UInt16 := 0
  serverControlPort : UInt16 := 0
  serverTimingPort : UInt16 := 0
  serverDataPort : UInt16 := 0
  eventPort : UInt16 := 0
  deriving DecidableEq

/-- What the socket calls made for one request return. -/
structure Sockets where
  media : BindOutcome
  control : BindOutcome
  timing : BindOutcome
  event : EventOutcome

/-- `RtspSession`; `none` is a null pointer, and `mediaPacketHandler` says whether
    one is set. -/
structure RtspSession (δ κ : Type*) where
  configured : Bool := false
  setupInfoComplete : Bool := false
  recording : Bool := false
  transport : RtpTransport := {}
  sdp : AirPlaySdp := {}
  crypto : CryptoSession := {}
  mediaReceiver : Option RtpReceiver := none
  controlReceiver : Option RtpReceiver := none
  timingReceiver : Option RtpReceiver := none
  eventServer : Option EventServer := none
  jitterBuffer : RtpJitterBuffer := .new 128
  mediaPacketHandler : Bool := false
  alacAudioPipeline : Option (AlacAudioPipeline δ κ) := none
  receivedPackets : UInt64 := 0
  receivedBytes : UInt64 := 0

/-- The methods `handle` knows. -/
inductive RtspMethod where
  | options
  | announce
  | setup
  | record
  | pause
  | flush
  | getParameter
  | setParameter
  | teardown
  | unknown
  deriving DecidableEq

/-! ## Reading a request -/

/-- The comparisons of `handle`, in its order. -/
def RtspRequest.verb (request : RtspRequest) : RtspMethod :=
  if request.method = ascii "OPTIONS" then .options
  else if request.method = ascii "ANNOUNCE" then .announce
  else if request.method = ascii "SETUP" then .setup
  else if request.method = ascii "RECORD" then .record
  else if request.method = ascii "PAUSE" then .pause
  else if request.method = ascii "FLUSH" then .flush
  else if request.method = ascii "GET_PARAMETER" then .getParameter
  else if request.method = ascii "SET_PARAMETER" then .setParameter
  else if request.method = ascii "TEARDOWN" then .teardown
  else .unknown

def baseResponse (request : RtspRequest) (status : ℤ) (reason : Bytes) : RtspResponse :=
  let headers : OrdMap Bytes Bytes :=
    if 0 < request.cseq then OrdMap.empty.assign (ascii "CSeq") (toDecimal request.cseq.toNat)
    else .empty
  { status := status
    reason := reason
    headers := headers.assign (ascii "Server") (ascii "GWL-AirPlay2/0.1") }

def RtspResponse.withHeader (x : RtspResponse) (name value : Bytes) : RtspResponse :=
  { x with headers := x.headers.assign name value }

/-- A 200 with the session and an empty body. -/
def sessionResponse (request : RtspRequest) : RtspResponse :=
  ((baseResponse request 200 (ascii "OK")).withHeader (ascii "Session") (ascii "GWL-AIRPLAY-1"))
    |>.withHeader (ascii "Content-Length") (ascii "0")

def serverError (request : RtspRequest) : RtspResponse :=
  baseResponse request 500 (ascii "Internal Server Error")

def methodNotValid (request : RtspRequest) : RtspResponse :=
  baseResponse request 455 (ascii "Method Not Valid in This State")

def parsePort (text key : Bytes) : UInt16 :=
  match find text key 0 with
  | none => 0
  | some pos =>
    let digits := (text.drop (pos + key.length)).takeWhile isdigit
    if digits = [] then 0
    else
      match stoul 10 digits with
      | none => 0
      | some (value, _) => if value ≤ 65535 then UInt16.ofNat value else 0

def isBinaryPlist (body : Bytes) : Bool := (ascii "bplist00").isPrefixOf body

/-- The `ptp` of a SETUP. -/
def usesPtp (body : Bytes) : Bool := (find body (ascii "PTP") 0).isSome

/-- The `audio` of a stream SETUP. -/
def setsUpAudio (body : Bytes) : Bool :=
  (find body (ascii "type") 0).isSome && (find body [0x11, 0x60] 0).isSome

/-- The host a SETUP takes from its URI: what follows the first `rtsp://`, up to a
    slash. -/
def uriHost (uri : Bytes) : Bytes :=
  match find uri (ascii "rtsp://") 0 with
  | none => []
  | some scheme =>
    match find uri [47] (scheme + 7) with
    | none => uri.drop (scheme + 7)
    | some slash => substr uri (scheme + 7) (slash - (scheme + 7))

namespace RtspSession

variable {δ κ : Type*} [AlacDecoder δ] [AudioSink κ]

/-- The response or exception of a request, and the state after it. -/
abbrev Handled (δ κ : Type*) := Except StdException RtspResponse × RtspSession δ κ

/-- `audio_pipeline_configured()`. -/
def audioPipelineConfigured (s : RtspSession δ κ) : Bool :=
  match s.alacAudioPipeline with
  | none => false
  | some pipeline => pipeline.configured

/-! ## The receivers and the event channel -/

/-- The media receiver, a null one being as good as a fresh one. -/
def media (s : RtspSession δ κ) : RtpReceiver := s.mediaReceiver.getD {}

def control (s : RtspSession δ κ) : RtpReceiver := s.controlReceiver.getD {}

def timing (s : RtspSession δ κ) : RtpReceiver := s.timingReceiver.getD {}

def bindMedia (s : RtspSession δ κ) (outcome : BindOutcome) : Bool × RtspSession δ κ :=
  ((s.media.bind outcome).1, { s with mediaReceiver := some (s.media.bind outcome).2 })

def bindControl (s : RtspSession δ κ) (outcome : BindOutcome) : Bool × RtspSession δ κ :=
  ((s.control.bind outcome).1, { s with controlReceiver := some (s.control.bind outcome).2 })

def bindTiming (s : RtspSession δ κ) (outcome : BindOutcome) : Bool × RtspSession δ κ :=
  ((s.timing.bind outcome).1, { s with timingReceiver := some (s.timing.bind outcome).2 })

def setEvent (s : RtspSession δ κ) (server : Option EventServer) (port : UInt16) :
    RtspSession δ κ :=
  { s with eventServer := server, transport := { s.transport with eventPort := port } }

def startEventChannel (s : RtspSession δ κ) (outcome : EventOutcome) : Bool × RtspSession δ κ :=
  match s.eventServer.filter EventServer.running with
  | some server => (server.port != 0, s.setEvent s.eventServer server.port)
  | none =>
    let started := ({} : EventServer).start outcome
    if !started.1 then (false, s.setEvent none 0)
    else if started.2.port = 0 then (false, s.setEvent none 0)
    else (true, s.setEvent (some started.2) started.2.port)

/-- Whether `start_event_channel` would succeed. -/
def startsEvent (s : RtspSession δ κ) (outcome : EventOutcome) : Bool :=
  match s.eventServer.filter EventServer.running with
  | some server => server.port != 0
  | none =>
    match outcome with
    | .failed => false
    | .listening port => port.getD 0 != 0

/-! ## The methods -/

def reset (s : RtspSession δ κ) : RtspSession δ κ :=
  { s with
    recording := false
    configured := false
    setupInfoComplete := false
    mediaPacketHandler := false
    -- handlers cleared, sockets closed, receivers destroyed; the event channel stays
    mediaReceiver := none
    controlReceiver := none
    timingReceiver := none
    jitterBuffer := s.jitterBuffer.reset
    transport := {}
    sdp := {}
    crypto := s.crypto.reset
    receivedPackets := 0
    receivedBytes := 0
    alacAudioPipeline := s.alacAudioPipeline.map AlacAudioPipeline.reset }

def options (s : RtspSession δ κ) (r : RtspRequest) : Handled δ κ :=
  let methods := ascii
    "OPTIONS, ANNOUNCE, SETUP, RECORD, PAUSE, FLUSH, TEARDOWN, GET_PARAMETER, SET_PARAMETER"
  (.ok (((baseResponse r 200 (ascii "OK")).withHeader (ascii "Public") methods)
    |>.withHeader (ascii "Allow") methods), s)

/-- The config an ANNOUNCE gives to the audio pipeline. -/
def alacConfigOf (p : AirPlaySdp) : Option AlacConfig :=
  if p.hasAudio && !p.fmtp.isEmpty then (parseAlacFmtp p.fmtp).filter AlacConfig.valid else none

/-- The pipeline offered the config of a description; `false` if it refuses it. -/
def configurePipeline (s : RtspSession δ κ) (p : AirPlaySdp) : Bool × RtspSession δ κ :=
  match s.alacAudioPipeline, alacConfigOf p with
  | some pipeline, some c =>
    ((pipeline.configure c).1, { s with alacAudioPipeline := some (pipeline.configure c).2 })
  | _, _ => (true, s)

/-- The description's key material taken into the crypto session; `false` if it
    refuses it. -/
def configureCrypto (s : RtspSession δ κ) (p : AirPlaySdp) : Bool × RtspSession δ κ :=
  match extractCryptoParameters p with
  | none => (true, s)
  | some cp => ((s.crypto.configure cp).1, { s with crypto := (s.crypto.configure cp).2 })

def announce (s : RtspSession δ κ) (r : RtspRequest) : Handled δ κ :=
  match parseSdp r.body with
  | none => (.ok (baseResponse r 400 (ascii "Bad Request")), s)
  | some p =>
    if !p.hasAudio && !p.hasVideo then
      (.ok (baseResponse r 415 (ascii "Unsupported Media Type")), s)
    else
      -- taken over before the pipeline is asked
      let s := { s with sdp := p, configured := true }
      let audio := s.configurePipeline p
      if !audio.1 then (.ok (baseResponse r 415 (ascii "Unsupported Media Type")), audio.2)
      else
        let crypto := audio.2.configureCrypto p
        if !crypto.1 then (.ok (baseResponse r 400 (ascii "Bad Request")), crypto.2)
        else
          (.ok ((baseResponse r 200 (ascii "OK")).withHeader (ascii "Content-Length") (ascii "0")),
            crypto.2)

/-- The timing receiver of a first binary SETUP, which PTP does without. -/
def bindTimingUnless (s : RtspSession δ κ) (ptp : Bool) (outcome : BindOutcome) :
    Bool × RtspSession δ κ :=
  if ptp then (true, s) else s.bindTiming outcome

/-- The socket calls of a first binary SETUP, up to one that fails: the media and
    control receivers, the timing receiver without PTP, and the event channel. -/
def bindInfo (s : RtspSession δ κ) (e : Sockets) (ptp : Bool) : Bool × RtspSession δ κ :=
  let media := s.bindMedia e.media
  if !media.1 then media
  else
    let control := media.2.bindControl e.control
    if !control.1 then control
    else
      let timing := control.2.bindTimingUnless ptp e.timing
      if !timing.1 then timing else timing.2.startEventChannel e.event

/-- The first SETUP with a binary property list. -/
def setupInfo (s : RtspSession δ κ) (e : Sockets) (r : RtspRequest) : Handled δ κ :=
  -- the flags are set before anything can fail
  let s := { s with
    setupInfoComplete := true
    configured := true
    mediaReceiver := some s.media
    controlReceiver := some s.control }
  let ptp := usesPtp r.body
  let bound := s.bindInfo e ptp
  if !bound.1 then (.ok (serverError r), bound.2)
  else
    let s := { bound.2 with
      transport := { bound.2.transport with
        serverDataPort := bound.2.media.port
        serverControlPort := bound.2.control.port
        serverTimingPort := if ptp then 0 else bound.2.timing.port } }
    let body :=
      if ptp then setupPtpResponsePlist s.transport.eventPort (uriHost r.uri)
      else .ok (setupEventResponsePlist s.transport.eventPort s.transport.serverTimingPort)
    match body with
    | .error what => (.error what, s)
    | .ok body =>
      (.ok (({ baseResponse r 200 (ascii "OK") with body := body } : RtspResponse)
        |>.withHeader (ascii "Content-Length") (toDecimal body.length)
        |>.withHeader (ascii "Content-Type") (ascii "application/x-apple-binary-plist")), s)

/-- A later SETUP with a binary property list. -/
def setupStream (s : RtspSession δ κ) (r : RtspRequest) : Handled δ κ :=
  let type : ℤ := if setsUpAudio r.body then 96 else 110
  let body := setupStreamResponsePlist s.transport.serverDataPort s.transport.serverControlPort type
  (.ok (({ baseResponse r 200 (ascii "OK") with body := body } : RtspResponse)
    |>.withHeader (ascii "Content-Type") (ascii "application/x-apple-binary-plist")
    |>.withHeader (ascii "Content-Length") (toDecimal body.length)), s)

/-- The control receiver of a Transport SETUP, unless there is a port already. -/
def setupControl (s : RtspSession δ κ) (outcome : BindOutcome) : Bool × RtspSession δ κ :=
  if s.transport.serverControlPort ≠ 0 then (true, s)
  else
    let control := s.bindControl outcome
    if !control.1 then control
    else (true, { control.2 with
      transport := { control.2.transport with serverControlPort := control.2.control.port } })

def setupTiming (s : RtspSession δ κ) (outcome : BindOutcome) : Bool × RtspSession δ κ :=
  if s.transport.serverTimingPort ≠ 0 then (true, s)
  else
    let timing := s.bindTiming outcome
    if !timing.1 then timing
    else (true, { timing.2 with
      transport := { timing.2.transport with serverTimingPort := timing.2.timing.port } })

def transportHeader (t : RtpTransport) : Bytes :=
  ascii "RTP/AVP/UDP;unicast;mode=record;server_port=" ++ toDecimal t.serverDataPort.toNat ++
    ascii ";control_port=" ++ toDecimal t.serverControlPort.toNat ++
    ascii ";timing_port=" ++ toDecimal t.serverTimingPort.toNat

/-- A SETUP with a Transport header. -/
def setupTransport (s : RtspSession δ κ) (e : Sockets) (r : RtspRequest) : Handled δ κ :=
  let t := headerValue r.headers (ascii "Transport")
  let s := { s with transport := { s.transport with
    clientControlPort := parsePort t (ascii "control_port=")
    clientTimingPort := parsePort t (ascii "timing_port=") } }
  let media := s.bindMedia e.media
  if !media.1 then (.ok (serverError r), media.2)
  else
    -- only this form of SETUP installs the packet handler
    let s := { media.2 with
      mediaReceiver := some media.2.media.setPacketHandler
      transport := { media.2.transport with serverDataPort := media.2.media.port } }
    let control := s.setupControl e.control
    if !control.1 then (.ok (serverError r), control.2)
    else
      let timing := control.2.setupTiming e.timing
      if !timing.1 then (.ok (serverError r), timing.2)
      else
        (.ok (((baseResponse r 200 (ascii "OK")).withHeader (ascii "Session")
            (ascii "GWL-AIRPLAY-1"))
          |>.withHeader (ascii "Transport") (transportHeader timing.2.transport)
          |>.withHeader (ascii "Content-Length") (ascii "0")), timing.2)

def setup (s : RtspSession δ κ) (e : Sockets) (r : RtspRequest) : Handled δ κ :=
  if !s.setupInfoComplete && isBinaryPlist r.body then s.setupInfo e r
  else if !s.configured then (.ok (methodNotValid r), s)
  else if isBinaryPlist r.body then s.setupStream r
  else s.setupTransport e r

def record (s : RtspSession δ κ) (r : RtspRequest) : Handled δ κ :=
  if !s.configured || !s.media.running then (.ok (methodNotValid r), s)
  else (.ok (sessionResponse r), { s with recording := true })

def pause (s : RtspSession δ κ) (r : RtspRequest) : Handled δ κ :=
  (.ok (sessionResponse r), { s with
    recording := false
    alacAudioPipeline := s.alacAudioPipeline.map AlacAudioPipeline.reset })

def flush (s : RtspSession δ κ) (r : RtspRequest) : Handled δ κ :=
  (.ok (sessionResponse r), { s with jitterBuffer := s.jitterBuffer.reset })

def getParameter (s : RtspSession δ κ) (r : RtspRequest) : Handled δ κ :=
  (.ok (sessionResponse r), s)

def setParameter (s : RtspSession δ κ) (r : RtspRequest) : Handled δ κ :=
  (.ok (sessionResponse r), s)

def teardown (s : RtspSession δ κ) (r : RtspRequest) : Handled δ κ :=
  (.ok (sessionResponse r), s.reset)

def handle (s : RtspSession δ κ) (e : Sockets) (r : RtspRequest) : Handled δ κ :=
  match r.verb with
  | .options => s.options r
  | .announce => s.announce r
  | .setup => s.setup e r
  | .record => s.record r
  | .pause => s.pause r
  | .flush => s.flush r
  | .getParameter => s.getParameter r
  | .setParameter => s.setParameter r
  | .teardown => s.teardown r
  | .unknown => (.ok (baseResponse r 405 (ascii "Method Not Allowed")), s)

/-! ## Media -/

/-- `handle_media_packet`; the list is what the media packet handler is called with. -/
def handleMediaPacket (s : RtspSession δ κ) (p : RtpPacket) : List RtpPacket × RtspSession δ κ :=
  if !s.recording then ([], s)
  else
    match s.jitterBuffer.handOver p with
    | (false, _, buffer) => ([], { s with jitterBuffer := buffer })
    | (true, ordered, buffer) =>
      (if s.mediaPacketHandler then ordered else [], { s with
        jitterBuffer := buffer
        receivedPackets := s.receivedPackets + 1
        receivedBytes := s.receivedBytes + UInt64.ofNat p.payload.length
        alacAudioPipeline :=
          s.alacAudioPipeline.map (ordered.foldl (fun pipeline q => (pipeline.push q).2)) })

/-- `set_alac_audio_pipeline`. -/
def setAlacAudioPipeline (s : RtspSession δ κ) (pipeline : Option (AlacAudioPipeline δ κ)) :
    RtspSession δ κ :=
  let s := { s with alacAudioPipeline := pipeline }
  if s.configured then (s.configurePipeline s.sdp).2 else s

end RtspSession
end AirPlay2
