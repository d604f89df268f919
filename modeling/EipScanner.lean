import EipScanner.LittleEndian
import EipScanner.Machine
import EipScanner.TimeGrid
import EipScanner.SelfDelimiting
import EipScanner.Buf
import EipScanner.Encaps
import EipScanner.Session
import EipScanner.ConnectionConfig
import EipScanner.CommonPacket
import EipScanner.CommonPacketItems
import EipScanner.ImplicitPacket
import EipScanner.PacketStream
import EipScanner.EPath
import EipScanner.MessageRouterResponse
import EipScanner.MessageRouter
import EipScanner.RouterReply
import EipScanner.FallibleLoop
import EipScanner.FileObject
import EipScanner.FileUpload
import EipScanner.FileFailure
import EipScanner.FileBound
import EipScanner.FileProtocol
import EipScanner.ForwardOpen
import EipScanner.ForwardOpenBody
import EipScanner.IoConnection
import EipScanner.OpenConnection
import EipScanner.Worker
import EipScanner.Schedule
import EipScanner.IoSystem
import EipScanner.Transition
import EipScanner.ServicePass
import EipScanner.Placement
import EipScanner.Account
import EipScanner.Registry
import EipScanner.CloseOnce
import EipScanner.OwnedPlace
import EipScanner.Isolation
import EipScanner.Timeout
import EipScanner.Deadline
import EipScanner.Phase
import EipScanner.NullDirection
import EipScanner.OpenCall
import EipScanner.Identifiers
import EipScanner.Text
import EipScanner.ConnectionPath
import EipScanner.PathReader
import EipScanner.Routes
import EipScanner.EdsParse
import EipScanner.EdsScanner
import EipScanner.EdsPrint
import EipScanner.EdsComments
import EipScanner.EdsPieces
import EipScanner.EdsFields
import EipScanner.Eds
import EipScanner.EdsNumbers
import EipScanner.EdsSettings
import EipScanner.EdsSizes
import EipScanner.EdsPaths
import EipScanner.EdsLookup
import EipScanner.Utf8
import EipScanner.Discovery
import EipScanner.FaultManager
import EipScanner.ShiftedScan
import EipScanner.FaultQueue
import EipScanner.Dialogue
import EipScanner.Exchange
import EipScanner.Parameter
import EipScanner.ParameterReading
import EipScanner.Identity
import EipScanner.FaultObject
import EipScanner.FileOpen
import EipScanner.KeyedPath
import EipScanner.Trace
import EipScanner.Visible
import EipScanner.VisibleOutput
import EipScanner.VisibleInput
import EipScanner.WorkerLoop
import EipScanner.Lateness
import EipScanner.Target
import EipScanner.Network
import EipScanner.DeviceEnd
import EipScanner.RemoteCall
import EipScanner.ObjectServer
import EipScanner.Discover
