import PveSanFenced.FencerRefinement
import PveSanFenced.FencerErasure
import PveSanFenced.FencerDegraded
import PveSanFenced.FencerLatch
import PveSanFenced.FencerTargets
import PveSanFenced.FencerIssues
import PveSanFenced.StatusWriter
import PveSanFenced.Config
import PveSanFenced.ConfigCheck
import PveSanFenced.ConfigRoundTrip
import PveSanFenced.ConfigWarnings
import PveSanFenced.ConfigMerge
import PveSanFenced.ConfigLayout
import PveSanFenced.ConfigSections
import PveSanFenced.ConfigInsertion
import PveSanFenced.Daemon
import PveSanFenced.DaemonSafety
import PveSanFenced.Backoff
import PveSanFenced.Outage
import PveSanFenced.Connection
import PveSanFenced.Sysrq
import PveSanFenced.LunKeys
import PveSanFenced.DiscoveryComplete
import PveSanFenced.Lsblk
import PveSanFenced.Resolvers
import PveSanFenced.VolumeNames
import PveSanFenced.VmConfigFormats
import PveSanFenced.EndToEnd
import PveSanFenced.VolumeOutage
import PveSanFenced.IssueCauses
import PveSanFenced.StatusFaults
import PveSanFenced.OutputPath
import PveSanFenced.MockServer
import PveSanFenced.MockPvesh
import PveSanFenced.DaemonThreads
import PveSanFenced.ProcessEnd
import PveSanFenced.DaemonPanics
import PveSanFenced.DebugMode
import PveSanFenced.StatusAge
