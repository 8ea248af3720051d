import PalBeacon.Bridge.PanDelta
import PalBeacon.State.SequenceAccounting
import PalBeacon.State.ServerAgentUnavailable
import PalBeacon.Companion.BreedingPlans
import PalBeacon.Wire.CloudProfileIdentity
import PalBeacon.Telemetry.Subscription
import PalBeacon.Telemetry.NetworkConsumer
import PalBeacon.Windows.HotkeyRuns
import PalBeacon.Bridge.ReaderRuns
import PalBeacon.Knowledge.WikiPages
import PalBeacon.Desktop.ProfileEdits
import PalBeacon.Protocol.SettingsWire
import PalBeacon.Core.SettingsActions
import PalBeacon.State.ReplayRuns
import PalBeacon.Desktop.DocumentFiles
import PalBeacon.Agent.Poller
import PalBeacon.Overlay.LocalPositionGaps
import PalBeacon.Cloud.Promotion
import PalBeacon.Cloud.PublicationRuns
import PalBeacon.Cloud.WikiReview
import PalBeacon.Desktop.SharedControl
import PalBeacon.Fullscreen.ModeActions
import PalBeacon.Cloud.SeedRuns
import PalBeacon.Ipc.StreamTraffic
import PalBeacon.Cloud.AccessAuthRuns
import PalBeacon.SftpSync.Listed
import PalBeacon.Probe.LoadRuns
import PalBeacon.MapPack.AffineFit
import PalBeacon.Map.Declutter
import PalBeacon.Tools.BreedingReverse
import PalBeacon.Desktop.ProfileSecrets
import PalBeacon.Cloud.BindingRuns
import PalBeacon.Cloud.ImportRetry
import PalBeacon.Cloud.WikiQuality
import PalBeacon.Overlay.SearchFilters
import PalBeacon.Overlay.PreviewCaching
import PalBeacon.CloudSeed.Compiler
import PalBeacon.Bridge.SearchCatalog
import PalBeacon.Cloud.DiscoveryChallenge
import PalBeacon.Overlay.AppManifest
import PalBeacon.Overlay.DrawPois
import PalBeacon.EvidenceWorker.Response
import PalBeacon.MapPack.TilePyramid
import PalBeacon.SftpSync.Rounds
import PalBeacon.Overlay.HostController
import PalBeacon.MapPack.CanonicalHashes
import PalBeacon.MapPack.TileIndex
