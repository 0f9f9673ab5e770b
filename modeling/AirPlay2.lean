import AirPlay2.Jitter.Conserve
import AirPlay2.Jitter.Stream
import AirPlay2.Pairing.Transient
import AirPlay2.Http.Framing
import AirPlay2.Http.Serve
import AirPlay2.Http.Wedge
import AirPlay2.Media.Crypto
import AirPlay2.Media.Alac
import AirPlay2.Rtsp.Receiver
import AirPlay2.Rtsp.Consumer
import AirPlay2.Rtsp.Throw
import AirPlay2.Rtsp.Atomic
import AirPlay2.Rtsp.Announce
import AirPlay2.Rtsp.Ports
import AirPlay2.Rtsp.Answers
import AirPlay2.Rtsp.Release
import AirPlay2.Rtsp.Flow
import AirPlay2.Rtsp.Renew
import AirPlay2.Rtsp.RtpCodec
import AirPlay2.Pairing.Verified
import AirPlay2.Mdns.Network
import AirPlay2.Pairing.Srp
import AirPlay2.Media.AppleSink
import AirPlay2.Media.SinkContract
import AirPlay2.Rtsp.RtpGrammar
import AirPlay2.Http.Wire
import AirPlay2.Mdns.Answer
import AirPlay2.Rtsp.PlistFormat
import AirPlay2.Pairing.FailedStart
import AirPlay2.Media.Fmtp
import AirPlay2.Media.AlacCookie
import AirPlay2.Media.Base64
import AirPlay2.Media.KeyText
import AirPlay2.Media.SdpText
import AirPlay2.Media.SdpWritten
import AirPlay2.Media.StandardAttributes
import AirPlay2.Rtsp.AudioSection
import AirPlay2.Pairing.TlvGrammar
import AirPlay2.Jitter.Position
import AirPlay2.Jitter.Reordered
import AirPlay2.Rtsp.Headers
import AirPlay2.Receiver.Handler
import AirPlay2.Receiver.CSeq
import AirPlay2.Receiver.Framing
import AirPlay2.Receiver.DeviceInfo
import AirPlay2.Receiver.Identity
import AirPlay2.Rtsp.Resume
import AirPlay2.Rtsp.StreamType
import AirPlay2.Media.AppleOutput
import AirPlay2.Rtsp.Handshake
import AirPlay2.Rtsp.Playout
import AirPlay2.Rtsp.ReceiverCalls
import AirPlay2.Mdns.ResponderThread
import AirPlay2.Mdns.ResponderCalls
import AirPlay2.Receiver.Readable
import AirPlay2.Http.Connection
import AirPlay2.Http.ServerCalls
import AirPlay2.Http.Calls
import AirPlay2.Receiver.Conversation
import AirPlay2.Receiver.Objects
import AirPlay2.Receiver.HkpConversation
import AirPlay2.Receiver.Lifecycle
import AirPlay2.Receiver.Discovery
import AirPlay2.Receiver.Isolation
import AirPlay2.Receiver.StreamConversation
import AirPlay2.Receiver.Authentication
import AirPlay2.Rtsp.CallbackSink
import AirPlay2.Http.Shared
import AirPlay2.Receiver.EventChannel
import AirPlay2.Rtsp.Counters
import AirPlay2.Rtsp.RestoredSinks
