import LxiWeb.AsyncTasks
import LxiWeb.BlockStrictness
import LxiWeb.CachedSelect
import LxiWeb.CallRuns
import LxiWeb.ClientMirror
import LxiWeb.DeviceErrorsPill
import LxiWeb.Dg900Generator
import LxiWeb.DiscoveryCandidates
import LxiWeb.DiscoveryScans
import LxiWeb.Dm800Math
import LxiWeb.DriverMirrors
import LxiWeb.DriverPacks
import LxiWeb.DriverRegistry
import LxiWeb.ErrorQueue
import LxiWeb.EventRuns
import LxiWeb.GdsMemory
import LxiWeb.JsDecimals
import LxiWeb.JsNumbers
import LxiWeb.JsText
import LxiWeb.KeyedMerge
import LxiWeb.KeyedWrites
import LxiWeb.LateSubscribers
import LxiWeb.LoggingPanel
import LxiWeb.MathCache
import LxiWeb.MeterLogging
import LxiWeb.MirroredWrites
import LxiWeb.ObservabilityBacklog
import LxiWeb.ObservabilityDelivery
import LxiWeb.ObservabilityFeeds
import LxiWeb.OutputKill
import LxiWeb.PanicRuns
import LxiWeb.Polling
import LxiWeb.PresetCatalog
import LxiWeb.PsuChannelTargeting
import LxiWeb.PsuDrivers
import LxiWeb.RawCommands
import LxiWeb.ReadingDelivery
import LxiWeb.ReadingLoops
import LxiWeb.ReadingModes
import LxiWeb.ReadingTimers
import LxiWeb.Regexes
import LxiWeb.RejectedSettings
import LxiWeb.ReplyTexts
import LxiWeb.RingBuffers
import LxiWeb.RouteReplies
import LxiWeb.SampleDecoders
import LxiWeb.SavedConnections
import LxiWeb.ScopeWaveforms
import LxiWeb.ScpiCalls
import LxiWeb.ScpiChunking
import LxiWeb.ScpiFraming
import LxiWeb.ScpiJobLifecycle
import LxiWeb.ScpiQuiescence
import LxiWeb.ScpiReplyAttribution
import LxiWeb.ScpiSession
import LxiWeb.SdgWaveforms
import LxiWeb.SelectThenAct
import LxiWeb.SessionEvents
import LxiWeb.SessionManager
import LxiWeb.SessionOwnership
import LxiWeb.SessionPollers
import LxiWeb.SessionRecords
import LxiWeb.SessionTimers
import LxiWeb.SimulatedCommands
import LxiWeb.SimulatedGenerator
import LxiWeb.SimulatedLoad
import LxiWeb.SimulatedSession
import LxiWeb.SimulatedSupply
import LxiWeb.SimulatorErrors
import LxiWeb.SimulatorFraming
import LxiWeb.SimulatorReplies
import LxiWeb.StoredSettings
import LxiWeb.SupplyProfiles
import LxiWeb.TaskSimulations
import LxiWeb.TcpTransport
import LxiWeb.TopicFeed
import LxiWeb.TopicSubscriptions
import LxiWeb.TranscriptNumbers
import LxiWeb.TranscriptPaging
import LxiWeb.TranscriptPanel
import LxiWeb.WebsocketRoute
import LxiWeb.WireFormats
import LxiWeb.WiredCalls
import LxiWeb.WiredInstruments
