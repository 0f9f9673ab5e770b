import Mathlib.Data.List.Lex
import AirPlay2.Lib.OrdMap
import AirPlay2.Lib.Text

/- Session descriptions (`sdp.cpp`): what an ANNOUNCE body says about the streams.
   `current`, which the source keeps as a pointer to the last media entry, is the
   last entry of the list. -/
namespace AirPlay2
open Lib

structure SdpMedia where
  type : Bytes := []
  transport : Bytes := []
  payloadType : ℤ := -1
  codec : Bytes := []
  clockRate : ℤ := 0
  channels : ℤ := 0
  attributes : OrdMap Bytes Bytes := .empty
  deriving DecidableEq

structure AirPlaySdp where
  sessionName : Bytes := []
  rsaaeskey : Bytes := []
  aesiv : Bytes := []
  fmtp : Bytes := []
  fingerprint : Bytes := []
  group : Bytes := []
  media : List SdpMedia := []
  deriving DecidableEq

namespace AirPlaySdp

def hasAudio (sdp : AirPlaySdp) : Bool := sdp.media.any (fun item => item.type = ascii "audio")

def hasVideo (sdp : AirPlaySdp) : Bool := sdp.media.any (fun item => item.type = ascii "video")

end AirPlaySdp

/-- A change to `*current`, where there is one. -/
def updateCurrent (f : SdpMedia → SdpMedia) : List SdpMedia → List SdpMedia
  | [] => []
  | [m] => [f m]
  | m :: n :: ms => m :: updateCurrent f (n :: ms)

/-- The `rtpmap` part of `parse_attribute`: only the text before the first space is
    looked at. -/
def parseRtpmap (data : Bytes) (media : SdpMedia) : SdpMedia :=
  let payload := (getlines 32 data).headD []
  match find payload [47] 0 with
  | none => media
  | some slash1 =>
    let unread := { media with codec := payload, clockRate := 0, channels := 0 }
    match find payload [47] (slash1 + 1) with
    | none =>
      match stoi (payload.drop (slash1 + 1)) with
      | none => unread
      | some rate => { media with codec := payload, clockRate := rate }
    | some slash2 =>
      match stoi (substr payload (slash1 + 1) (slash2 - slash1 - 1)),
          stoi (payload.drop (slash2 + 1)) with
      | some rate, some channels =>
        { media with codec := payload, clockRate := rate, channels := channels }
      | _, _ => unread

def parseAttribute (value : Bytes) (result : AirPlaySdp) : AirPlaySdp :=
  let colon := (find value [58] 0).getD value.length
  let equal := (find value [61] 0).getD value.length
  let key := value.take (min colon equal)
  let data := value.drop (min colon equal + 1)
  let result := { result with
    media := updateCurrent (fun m => { m with attributes := m.attributes.assign key data })
      result.media }
  let result :=
    if key = ascii "rsaaeskey" then { result with rsaaeskey := data }
    else if key = ascii "aesiv" then { result with aesiv := data }
    else if key = ascii "fmtp" then { result with fmtp := data }
    else if key = ascii "fingerprint" then { result with fingerprint := data }
    else if key = ascii "group" then { result with group := data }
    else result
  if key = ascii "rtpmap" then
    { result with media := updateCurrent (parseRtpmap data) result.media }
  else result

/-- An `m=` line without its first two characters. -/
def parseMedia (line : Bytes) : SdpMedia :=
  let (type, line) := nextWord line
  let (_port, line) := nextWord line
  let (transport, line) := nextWord line
  let (payload, _) := nextWord line
  { type := type
    transport := transport
    payloadType := if payload = [] then -1 else (stoi payload).getD (-1) }

/-- One line of the description; the flag is `has_version`. -/
def parseSdpLine (state : AirPlaySdp × Bool) (line : Bytes) : AirPlaySdp × Bool :=
  let (result, hasVersion) := state
  let line := if line.getLast? = some 13 then line.dropLast else line
  let line := trim line
  if line = [] then (result, hasVersion)
  else if (ascii "v=").isPrefixOf line then (result, line == ascii "v=0")
  else if (ascii "s=").isPrefixOf line then
    ({ result with sessionName := line.drop 2 }, hasVersion)
  else if (ascii "m=").isPrefixOf line then
    ({ result with media := result.media ++ [parseMedia (line.drop 2)] }, hasVersion)
  else if (ascii "a=").isPrefixOf line then (parseAttribute (line.drop 2) result, hasVersion)
  else (result, hasVersion)

/-- `parse_sdp`; `none` where it returns `false`. -/
def parseSdp (text : Bytes) : Option AirPlaySdp :=
  let (result, hasVersion) := (getlines 10 text).foldl parseSdpLine ({}, false)
  if hasVersion && !result.media.isEmpty then some result else none

end AirPlay2
