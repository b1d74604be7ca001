import Xczu47dr.Clocked.Machine
import Xczu47dr.Playback.DdrReader
import Xczu47dr.Playback.FifoMaskAdapter
import Xczu47dr.Playback.FramePath
import Xczu47dr.Clocked.Ring
import Xczu47dr.Playback.FrameAtomicity
import Xczu47dr.Playback.ReaderInvariant
import Xczu47dr.Playback.LaneCounters
import Xczu47dr.Playback.CreditLag
import Xczu47dr.Control.Framer
import Xczu47dr.Control.FramerIsolation
import Xczu47dr.Control.Response
import Xczu47dr.Control.RiscvControl
import Xczu47dr.Control.ResponseStream
import Xczu47dr.Control.ResponseQueue
import Xczu47dr.Control.FramedCommands
import Xczu47dr.Control.WholeCommands
import Xczu47dr.Clocked.Cascade
import Xczu47dr.Control.ControlPath
import Xczu47dr.Control.ResponsePath
import Xczu47dr.Control.ResponsePackets
import Xczu47dr.Clocked.RestoringDivider
import Xczu47dr.Rfdc.AxilTransaction
import Xczu47dr.Rfdc.VopTables
import Xczu47dr.Rfdc.RuntimeConfig
import Xczu47dr.Rfdc.RuntimeInvariant
import Xczu47dr.Clocked.Progress
import Xczu47dr.Rfdc.ApplyProgress
import Xczu47dr.Rfdc.ApplyHandshake
import Xczu47dr.Clocked.Wrapping
import Xczu47dr.Tdc.EventCapture
import Xczu47dr.Tdc.CompensatingTrigger
import Xczu47dr.Tdc.ConstantLatency
import Xczu47dr.Playback.PlaybackController
import Xczu47dr.Tdc.Session
import Xczu47dr.Tdc.EventPlays
import Xczu47dr.Clocked.Linger
import Xczu47dr.Playback.DacStream
import Xczu47dr.Tdc.FilterBusy
import Xczu47dr.Tdc.SessionOutput
import Xczu47dr.Tdc.SessionRelease
import Xczu47dr.Clocked.Crossing
import Xczu47dr.Tdc.RegisterBank
import Xczu47dr.Tdc.RegisterService
import Xczu47dr.Tdc.RegisterPhases
import Xczu47dr.Tdc.RegisterPath
import Xczu47dr.Tdc.ExactlyOnce
import Xczu47dr.Clocked.Channel
import Xczu47dr.Rfdc.AxilCdc
import Xczu47dr.Rfdc.AxilPath
import Xczu47dr.Rfdc.AxilPhases
import Xczu47dr.Rfdc.AxilTransactions
import Xczu47dr.Rfdc.AxilProgress
import Xczu47dr.Rfdc.AxilResults
import Xczu47dr.Control.NetworkConfig
import Xczu47dr.Control.TypedControl
import Xczu47dr.Control.TypedResponses
import Xczu47dr.Host.InterleavedLayout
import Xczu47dr.Playback.MemoryReads
import Xczu47dr.Playback.ReadFrames
import Xczu47dr.Playback.ReadProgress
import Xczu47dr.Playback.SamplePlacement
import Xczu47dr.Control.ResponseAddressing
import Xczu47dr.Upload.AnsweredPackets
import Xczu47dr.Records.Table
import Xczu47dr.Inventory.AddressAllocation
import Xczu47dr.Upload.SessionIdentity
import Xczu47dr.Runs.LoadedWaveform
import Xczu47dr.Playback.FalseUnderflow
import Xczu47dr.Playback.WholeRead
import Xczu47dr.Upload.RequestRoundTrip
import Xczu47dr.Control.ParsedWaveResponses
import Xczu47dr.Control.ParsedTypedResponses
import Xczu47dr.Control.OneShotOutputs
import Xczu47dr.Control.ExactFraming
import Xczu47dr.Playback.GateSafety
import Xczu47dr.Upload.StatusSnapshots
import Xczu47dr.Playback.CommittedDescriptor
import Xczu47dr.Upload.CommandDelivery
import Xczu47dr.Host.StreamedUpload
import Xczu47dr.Host.StaleDatagrams
import Xczu47dr.Host.Simulator
import Xczu47dr.Upload.SimulatedWriter
import Xczu47dr.Playback.DdrPath
import Xczu47dr.Playback.PrefetchPromise
import Xczu47dr.Control.PackedCommands
import Xczu47dr.Control.DrivenRequests
import Xczu47dr.Tdc.TriggerStatistics
import Xczu47dr.Tdc.PhaseRotator
import Xczu47dr.Tdc.CalibrationSafety
import Xczu47dr.Rfdc.CurrentRamp
import Xczu47dr.Rfdc.ApplyFigures
import Xczu47dr.Rfdc.CommittedWords
import Xczu47dr.Rfdc.ChannelReports
import Xczu47dr.Rfdc.AllOrNothing
import Xczu47dr.Clocked.Relay
import Xczu47dr.Rfdc.NcoBridge
import Xczu47dr.Rfdc.NcoHandshake
import Xczu47dr.Rfdc.NcoAnswers
import Xczu47dr.Delay.FractionalDelay
import Xczu47dr.Delay.Convolution
import Xczu47dr.Playback.TriggerAccounts
import Xczu47dr.Control.NetworkCommits
import Xczu47dr.Codes.Thermometer
import Xczu47dr.Tdc.TapEncoder
import Xczu47dr.Tdc.FlatTaps
import Xczu47dr.Tdc.SingleBubbles
import Xczu47dr.Rfdc.SimulatedReadback
import Xczu47dr.Inventory.DiscoveryIdentities
import Xczu47dr.Codes.HexText
import Xczu47dr.Provisioning.NetworkIdentity
import Xczu47dr.Provisioning.UniqueIdentities
import Xczu47dr.Chunking.Walks
import Xczu47dr.Host.MaxLengthRecord
import Xczu47dr.Host.MaxLengthChunks
import Xczu47dr.Host.MaxLengthUploads
import Xczu47dr.Records.Journal
import Xczu47dr.Webapp.RfdcConfigService
import Xczu47dr.Playback.CapturedEpisodes
import Xczu47dr.Bandwidth.InstructionDelivery
import Xczu47dr.Bandwidth.Sink
import Xczu47dr.Bandwidth.SinkAccounts
import Xczu47dr.Effects.Ends
import Xczu47dr.Tdc.HostSession
import Xczu47dr.Tdc.EnabledCompensation
import Xczu47dr.Tdc.MeasuredTable
import Xczu47dr.Tdc.LoadedCalibration
import Xczu47dr.Webapp.ReportedValues
import Xczu47dr.Bandwidth.CommandExecutor
import Xczu47dr.Bandwidth.ReturnedBeats
import Xczu47dr.Upload.StoredPayloads
import Xczu47dr.Wire.Storage
import Xczu47dr.Upload.DdrImage
import Xczu47dr.Upload.ServedPackets
import Xczu47dr.Upload.UploadLink
import Xczu47dr.Playback.UploadedSamples
import Xczu47dr.Bandwidth.ExecutedPasses
import Xczu47dr.Bandwidth.PassProgress
import Xczu47dr.Playback.DdrDomain
import Xczu47dr.Effects.Returns
import Xczu47dr.Upload.SentRequests
import Xczu47dr.Host.WaveFormats
import Xczu47dr.Host.WaveformUploads
import Xczu47dr.Playback.DeviceUploads
import Xczu47dr.Runs.BoardDrivers
import Xczu47dr.Webapp.LeasedRuns
import Xczu47dr.Webapp.ProgramJobs
