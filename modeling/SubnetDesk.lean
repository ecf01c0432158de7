import SubnetDesk.Construction.FileTransfer.Job
import SubnetDesk.Construction.FileTransfer.Names
import SubnetDesk.Construction.FileTransfer.Read
import SubnetDesk.Construction.FileTransfer.ReadDriver
import SubnetDesk.Construction.FileTransfer.ReadSession
import SubnetDesk.Proof.FileTransfer.ReadOutcomes
import SubnetDesk.Proof.FileTransfer.ReadProgress
import SubnetDesk.Proof.FileTransfer.ReadCompletion
import SubnetDesk.Proof.FileTransfer.DriverAgreement
import SubnetDesk.Proof.FileTransfer.ErrorIndex
import SubnetDesk.Proof.FileTransfer.ConfirmTarget
import SubnetDesk.Proof.FileTransfer.ReadTransfer
import SubnetDesk.Foundation.FilePath
import SubnetDesk.Foundation.FileWalk
import SubnetDesk.Foundation.FileOps
import SubnetDesk.Proof.FileTransfer.EntryPaths
import SubnetDesk.Proof.FileTransfer.Containment
import SubnetDesk.Construction.FileTransfer.Client
import SubnetDesk.Proof.FileTransfer.FailedWrites
import SubnetDesk.Foundation.FileStore
import SubnetDesk.Proof.FileTransfer.Slots
import SubnetDesk.Proof.FileTransfer.FileDelivery
import SubnetDesk.Proof.FileTransfer.WriteTransfer
import SubnetDesk.Proof.FileTransfer.Promotion
import SubnetDesk.Construction.Terminal.Output
import SubnetDesk.Foundation.Lines
import SubnetDesk.Proof.Terminal.ChunkReassembly
import SubnetDesk.Proof.Terminal.OutputHistory
import SubnetDesk.Proof.Terminal.HelperStream
import SubnetDesk.Construction.Server.Service
import SubnetDesk.Proof.Server.SnapshotDelivery
import SubnetDesk.Construction.Server.Server
import SubnetDesk.Proof.Server.Subscriptions
import SubnetDesk.Construction.Terminal.Session
import SubnetDesk.Proof.Terminal.Reconnect
import SubnetDesk.Proof.Terminal.SessionSteps
import SubnetDesk.Proof.Terminal.Redraw
import SubnetDesk.Proof.Terminal.SessionDelivery
import SubnetDesk.Construction.Terminal.Service
import SubnetDesk.Proof.Terminal.Registry
import SubnetDesk.Construction.FileTransfer.ResumeSession
import SubnetDesk.Proof.FileTransfer.ResumedTransfer
import SubnetDesk.Construction.Drm.Geometry
import SubnetDesk.Proof.Drm.PictureSize
import SubnetDesk.Proof.Drm.RefreshWorkers
import SubnetDesk.Construction.Drm.Probe
import SubnetDesk.Construction.Drm.Admission
import SubnetDesk.Proof.Drm.ProbeVerdicts
import SubnetDesk.Proof.Drm.WorkerBound
import SubnetDesk.Construction.Drm.Wire
import SubnetDesk.Proof.Drm.WireStream
import SubnetDesk.Construction.Drm.Forward
import SubnetDesk.Proof.Drm.ForwardSteps
import SubnetDesk.Proof.Drm.FrameCredit
import SubnetDesk.Proof.Drm.SessionSwitch
import SubnetDesk.Proof.Drm.DisplayLists
import SubnetDesk.Construction.Lan.Discovery
import SubnetDesk.Construction.Lan.Connect
import SubnetDesk.Construction.Lan.Handshake
import SubnetDesk.Proof.Lan.ExpectedDevice
import SubnetDesk.Proof.Lan.KeyAgreement
import SubnetDesk.Construction.SoftwareUpdate.Manifest
import SubnetDesk.Construction.SoftwareUpdate.Updater
import SubnetDesk.Proof.SoftwareUpdate.Steps
import SubnetDesk.Proof.SoftwareUpdate.Exclusion
import SubnetDesk.Proof.SoftwareUpdate.Phases
import SubnetDesk.Proof.SoftwareUpdate.Rollback
import SubnetDesk.Construction.Clipboard.FileContents
import SubnetDesk.Proof.Clipboard.RemoteReads
import SubnetDesk.Proof.Lan.ScanEntries
import SubnetDesk.Construction.Server.LoginFailureCheck
import SubnetDesk.Proof.Server.LoginStreaks
import SubnetDesk.Proof.Server.LoginThrottle
import SubnetDesk.Construction.Session.UiMessages
import SubnetDesk.Proof.Session.UiMessageOrder
import SubnetDesk.Construction.Session.ToggleOptions
import SubnetDesk.Proof.Session.OptionAgreement
import SubnetDesk.Construction.Connection.Messages
import SubnetDesk.Construction.Connection.State
import SubnetDesk.Construction.Connection.UpdateOptions
import SubnetDesk.Construction.Connection.OnMessage
import SubnetDesk.Proof.Connection.Permissions
import SubnetDesk.Proof.Connection.Scopes
import SubnetDesk.Construction.Web.ConnectionLimiter
import SubnetDesk.Proof.Web.SessionCounts
import SubnetDesk.Proof.Clipboard.RangeAnswers
import SubnetDesk.Foundation.Bytes
import SubnetDesk.Foundation.Utf16
import SubnetDesk.Construction.Clipboard.FileType
import SubnetDesk.Construction.Clipboard.LocalFile
import SubnetDesk.Proof.Clipboard.DescriptorNames
import SubnetDesk.Proof.Clipboard.DescriptorRoundTrip
import SubnetDesk.Construction.Clipboard.Fuse
import SubnetDesk.Proof.Clipboard.FuseTree
import SubnetDesk.Proof.Clipboard.MountedFiles
import SubnetDesk.Proof.Clipboard.SelectionTree
import SubnetDesk.Construction.Connection.LoginScope
import SubnetDesk.Proof.Connection.LoginRetries
import SubnetDesk.Construction.Connection.AuthedConnID
import SubnetDesk.Proof.Connection.WakeLock
import SubnetDesk.Construction.Connection.KeyEvents
import SubnetDesk.Proof.Connection.PressedModifiers
import SubnetDesk.Construction.Web.Certificates
import SubnetDesk.Proof.Web.CertificateChains
import SubnetDesk.Construction.Web.Crypto
import SubnetDesk.Proof.Web.SequenceNonces
import SubnetDesk.Construction.Web.Video
import SubnetDesk.Proof.Web.DecodedFrames
import SubnetDesk.Construction.Web.VideoAcks
import SubnetDesk.Proof.Web.VideoAckCounts
import SubnetDesk.Construction.Server.PrivacyMode
import SubnetDesk.Proof.Server.PrivacyOwner
import SubnetDesk.Construction.Video.Codec
import SubnetDesk.Proof.Video.NegotiatedCodec
import SubnetDesk.Construction.Ipc.Stream
import SubnetDesk.Foundation.Framing
import SubnetDesk.Proof.Ipc.PassedValues
import SubnetDesk.Construction.Ipc.ClipboardService
import SubnetDesk.Proof.Ipc.ClipboardAnswers
import SubnetDesk.Construction.Portable.Package
import SubnetDesk.Proof.Portable.UnpackedFiles
import SubnetDesk.Construction.Drm.WaylandLayout
import SubnetDesk.Proof.Drm.LayoutChanges
import SubnetDesk.Proof.Drm.OutputMatching
import SubnetDesk.Construction.Video.VideoQos
import SubnetDesk.Proof.Video.FrameBudget
import SubnetDesk.Proof.Video.ChosenQuality
import SubnetDesk.Construction.Server.MouseCursor
import SubnetDesk.Proof.Server.CursorShapes
import SubnetDesk.Proof.Server.CursorDelivery
import SubnetDesk.Construction.Video.VideoService
import SubnetDesk.Proof.Video.WholeStreams
import SubnetDesk.Construction.Video.FrameNotifiers
import SubnetDesk.Proof.Video.FrameTurns
import SubnetDesk.Proof.Video.FetchedFrames
import SubnetDesk.Proof.Video.KeptNotifications
import SubnetDesk.Construction.Video.Screenshots
import SubnetDesk.Proof.Video.AnsweredScreenshots
import SubnetDesk.Construction.Clipboard.WaylandInput
import SubnetDesk.Proof.Clipboard.KeptRecords
import SubnetDesk.Proof.Clipboard.WaylandEcho
import SubnetDesk.Construction.Input.Enigo
import SubnetDesk.Construction.Input.InputService
import SubnetDesk.Proof.Input.TemporaryModifiers
import SubnetDesk.Proof.Input.RestoredModifiers
import SubnetDesk.Construction.Input.KeysDown
import SubnetDesk.Proof.Input.InjectedKeys
import SubnetDesk.Proof.Input.RecordedKeys
import SubnetDesk.Proof.Input.ForcedRelease
import SubnetDesk.Construction.Lan.DeviceName
import SubnetDesk.Proof.Lan.DeviceCandidates
import SubnetDesk.Proof.Lan.AnnouncedNames
import SubnetDesk.Proof.Lan.HostLabels
import SubnetDesk.Construction.Lan.AllowedNetworks
import SubnetDesk.Proof.Lan.AllowedSources
import SubnetDesk.Construction.Lan.LanIdentity
import SubnetDesk.Proof.Server.OsCredentialBackoff
import SubnetDesk.Proof.Lan.IdentityRollback
import SubnetDesk.Proof.SoftwareUpdate.StreamedPackage
import SubnetDesk.Proof.Web.RequestRates
import SubnetDesk.Construction.Web.HttpRedirect
import SubnetDesk.Proof.Web.RedirectTargets
import SubnetDesk.Proof.Clipboard.LinkCycles
import SubnetDesk.Construction.Connection.FileRemoveLog
import SubnetDesk.Proof.Connection.RemovalReports
import SubnetDesk.Proof.SoftwareUpdate.SupportedVersions
import SubnetDesk.Foundation.Rows
import SubnetDesk.Proof.Video.ScreenshotPixels
import SubnetDesk.Proof.Drm.RemappedPoints
import SubnetDesk.Construction.Web.SourceIdentity
import SubnetDesk.Proof.Web.ClientIsolation
import SubnetDesk.Construction.Clipboard.FuseContext
import SubnetDesk.Proof.Clipboard.SharedReads
import SubnetDesk.Foundation.Machine
import SubnetDesk.Construction.Input.KeyboardGrab
import SubnetDesk.Proof.Input.KeyboardFocus
import SubnetDesk.Foundation.Paging
import SubnetDesk.Proof.Clipboard.DirectoryPages
