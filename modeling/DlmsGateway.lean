import DlmsGateway.Lib.Bytes
import DlmsGateway.Lib.Record
import DlmsGateway.Lib.Runs
import DlmsGateway.Lib.BigEndian
import DlmsGateway.Lib.ByteFile
import DlmsGateway.Lib.Crc
import DlmsGateway.Lib.Hdlc
import DlmsGateway.Lib.Calendar
import DlmsGateway.Buffer
import DlmsGateway.Gateway.Crc
import DlmsGateway.Gateway.Request
import DlmsGateway.Gateway.Reply
import DlmsGateway.Gateway.Run
import DlmsGateway.Gateway.Conversion
import DlmsGateway.Gateway.Delivery
import DlmsGateway.Gateway.MeterFrames
import DlmsGateway.Gateway.Phases
import DlmsGateway.Gateway.Sent
import DlmsGateway.Gateway.SentFrames
import DlmsGateway.Gateway.Checksum
import DlmsGateway.Gateway.RequestBounds
import DlmsGateway.Gateway.Put
import DlmsGateway.Connection.Threads
import DlmsGateway.Gateway.Progress
import DlmsGateway.Gateway.Integrity
import DlmsGateway.Gateway.Reassembly
import DlmsGateway.Gateway.SingleReply
import DlmsGateway.Gateway.Addresses
import DlmsGateway.Gateway.RejectedFrames
import DlmsGateway.Gateway.StaleBytes
import DlmsGateway.Gateway.Isolation
import DlmsGateway.Gateway.Sequence
import DlmsGateway.Gateway.Link
import DlmsGateway.Gateway.Answered
import DlmsGateway.Gateway.WellFormed
import DlmsGateway.Gateway.ReplyBounds
import DlmsGateway.Connection.Requests
import DlmsGateway.Connection.Routing
import DlmsGateway.Connection.Counts
import DlmsGateway.Connection.Fragments
import DlmsGateway.Connection.Segmentation
import DlmsGateway.Connection.SocketManager
import DlmsGateway.Connection.Elapsed
import DlmsGateway.Server.Settings
import DlmsGateway.Server.Aarq
import DlmsGateway.Server.Action
import DlmsGateway.Server.Access
import DlmsGateway.Server.Session
import DlmsGateway.Server.SessionRecord
import DlmsGateway.Server.ByteBuffer
import DlmsGateway.Server.ImageTransfer
import DlmsGateway.Server.ImageContent
import DlmsGateway.Server.ImageActivation
import DlmsGateway.Server.ProfileGeneric
import DlmsGateway.Server.CaptureRing
import DlmsGateway.Server.ProfileRead
import DlmsGateway.Server.ProfileCounters
import DlmsGateway.Server.SavedSettings
import DlmsGateway.Server.RejectedWrite
import DlmsGateway.Server.Security
import DlmsGateway.Server.DurableKeys
import DlmsGateway.Server.Nonces
import DlmsGateway.Server.AttributeAccess
import DlmsGateway.Server.SetRequest
import DlmsGateway.Server.Wrapper
import DlmsGateway.Server.ClientAuthority
import DlmsGateway.Server.Calendar
import DlmsGateway.Server.ClockWrite
import DlmsGateway.Server.ClockRoundTrip
import DlmsGateway.Server.FailedCapture
import DlmsGateway.Server.ProfileCapacity
import DlmsGateway.Server.RowLayout
import DlmsGateway.Lib.Intervals
import DlmsGateway.Server.RangeSelection
import DlmsGateway.Server.EntrySelection
import DlmsGateway.Server.BoundedRow
import DlmsGateway.Server.BlockRead
import DlmsGateway.Server.SelectionRead
import DlmsGateway.Server.SecurityFile
import DlmsGateway.Server.IsTarget
import DlmsGateway.Server.AccessTotal
import DlmsGateway.Server.MeterReset
import DlmsGateway.Lib.Text
import DlmsGateway.Server.ReadSettings
import DlmsGateway.Server.SettingsFile
import DlmsGateway.Connection.Trace
import DlmsGateway.Server.HdlcTransfer
