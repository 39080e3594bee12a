import OpenFlow.Text.Hex
import OpenFlow.Wire.Error
import OpenFlow.Wire.Decoder
import OpenFlow.Text.Flags
import OpenFlow.Text.Utf8
import OpenFlow.Net.Address
import OpenFlow.Wire.Header
import OpenFlow.Wire.Port
import OpenFlow.Wire.Match
import OpenFlow.Wire.Features
import OpenFlow.Wire.Packet
import OpenFlow.Wire.FlowMod
import OpenFlow.Wire.ErrorMsg
import OpenFlow.Wire.Message
import OpenFlow.Frame.EtherType
import OpenFlow.Frame.Flow
import OpenFlow.Log
import OpenFlow.Switch.Table
import OpenFlow.Switch.Policy
import OpenFlow.Session.Variant
import OpenFlow.Session.Link
import OpenFlow.Bridge.Tap
import OpenFlow.Bridge.Queue
import OpenFlow.Session.Controller
import OpenFlow.Net.Ip
import OpenFlow.Endpoint
import OpenFlow.Host.Error
import OpenFlow.Host.Syscalls
import OpenFlow.Host.FileSystem
import OpenFlow.Host.Socket
import OpenFlow.Log.Config
import OpenFlow.Bridge.Ipc
import OpenFlow.Endpoint.Open
import OpenFlow.CommandLine
import OpenFlow.Main
import OpenFlow.Proofs.Words
import OpenFlow.Proofs.Utf8
import OpenFlow.Proofs.Encoding
import OpenFlow.Proofs.RoundTrip
import OpenFlow.Proofs.Faults
import OpenFlow.Proofs.Handler
import OpenFlow.Proofs.Dispatch
import OpenFlow.Proofs.MessageLoop
import OpenFlow.Proofs.Grammar
import OpenFlow.Proofs.Effects
import OpenFlow.Proofs.Drops
import OpenFlow.Proofs.Lifecycle
import OpenFlow.Proofs.Writes
import OpenFlow.Proofs.Negotiation
import OpenFlow.Proofs.Answer
import OpenFlow.Proofs.Reencode
import OpenFlow.Proofs.BridgeLaw
import OpenFlow.Proofs.Echo
import OpenFlow.Proofs.FrameLayout
import OpenFlow.Proofs.Rounds
import OpenFlow.Proofs.BridgeSessions
import OpenFlow.Proofs.WildcardFields
import OpenFlow.Proofs.TableLaw
import OpenFlow.Proofs.MatchBytes
import OpenFlow.Proofs.IpText
import OpenFlow.Proofs.EndpointText
import OpenFlow.Proofs.HexDump
