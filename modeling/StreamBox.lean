import StreamBox.Lib.PathRouter
import StreamBox.Web.CodecLock
import StreamBox.Web.Routes
import StreamBox.Auth.Middleware
import StreamBox.Hid.Report
import StreamBox.Hid.EventQueue
import StreamBox.Hid.Disconnect
import StreamBox.Hid.BackendLifecycle
import StreamBox.Lib.TSys
import StreamBox.RustDesk.BytesCodec
import StreamBox.RustDesk.StatefulCodec
import StreamBox.RustDesk.HidAdapter
import StreamBox.RustDesk.Service
import StreamBox.RustDesk.ConnectionManager
import StreamBox.RustDesk.VideoStreaming
import StreamBox.Webrtc.UniversalSession
import StreamBox.Video.EncodeLoop
import StreamBox.Video.Format
import StreamBox.Video.Registry
import StreamBox.Video.EncoderState
import StreamBox.Video.CaptureLoop
import StreamBox.Video.ModeSwitch
import StreamBox.Exfat.Geometry
import StreamBox.Exfat.Chains
import StreamBox.Exfat.Operations
import StreamBox.Exfat.Items
import StreamBox.Exfat.BitmapAgreement
import StreamBox.Exfat.TreeOperations
import StreamBox.Exfat.TreeWrites
import StreamBox.Exfat.Formatted
import StreamBox.Webrtc.CaptureDevice
import StreamBox.Webrtc.Quiescence
import StreamBox.Webrtc.H265ParameterSets
import StreamBox.Rtsp.ControlRuns
import StreamBox.Rtsp.Access
import StreamBox.Rtsp.ClientSlot
import StreamBox.Video.StopRespected
import StreamBox.Video.Recovery
import StreamBox.Config.Store
import StreamBox.Config.Patches
import StreamBox.Video.PresentationTime
import StreamBox.Webrtc.VideoTrack
import StreamBox.Stream.MjpegClients
import StreamBox.Stream.MjpegLoop
import StreamBox.Auth.Setup
import StreamBox.Auth.Login
import StreamBox.Lib.Totals
import StreamBox.Events.Topics
import StreamBox.Web.EventTasks
import StreamBox.Atx.Executor
import StreamBox.Atx.Presses
import StreamBox.Otg.Gadget
import StreamBox.Otg.Service
import StreamBox.Msd.Controller
import StreamBox.Msd.Agreement
import StreamBox.Exfat.Ownership
import StreamBox.Exfat.RootRuns
import StreamBox.Exfat.Overflow
import StreamBox.Exfat.Names
import StreamBox.Exfat.Lookups
import StreamBox.Exfat.Creations
import StreamBox.Exfat.NameRoundTrip
import StreamBox.Exfat.UniqueNames
import StreamBox.Exfat.DirectoryStructure
import StreamBox.Exfat.DirectoryStreams
import StreamBox.Exfat.Reader
import StreamBox.Exfat.ChunkedWrites
import StreamBox.RustDesk.AddrMangle
import StreamBox.Hid.WireFormat
import StreamBox.Hid.Ch9329Reading
import StreamBox.RustDesk.Pointer
import StreamBox.RustDesk.HeldKeys
import StreamBox.RustDesk.SealedSequence
import StreamBox.Exfat.ChainWalk
import StreamBox.Exfat.FoldedNames
import StreamBox.RustDesk.Registration
import StreamBox.Rtsp.Timestamps
import StreamBox.Webrtc.AnnexBScanners
import StreamBox.Audio.ChunkInvariance
import StreamBox.Audio.Controller
import StreamBox.Audio.Exclusivity
import StreamBox.Video.HistoryIndependence
import StreamBox.Video.AutoPause
import StreamBox.Web.RefusedRequests
import StreamBox.Msd.UploadAtomicity
import StreamBox.Msd.DownloadCancellation
import StreamBox.Msd.FileNames
import StreamBox.Msd.ImageIds
import StreamBox.Web.TerminalProxy
import StreamBox.Atx.Wol
import StreamBox.Exfat.CacheCoherence
import StreamBox.Exfat.FileMap
import StreamBox.Exfat.VentoyImage
import StreamBox.Exfat.Sessions
import StreamBox.Update.Upgrade
import StreamBox.Extensions.Logs
import StreamBox.Extensions.Manager
