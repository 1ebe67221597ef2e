import PveSanFenced.EndToEnd
import PveSanFenced.LunKeys

/-!
# The outage of a volume

A machine runs on a volume that has lost a multipath device, while both loops
go on: discovery may find other sets or fail, polls may be skipped, and
questions to multipathd may fail in between. None of it keeps the node from
being fenced once enough polls have been evaluated.
-/

namespace PveSanFenced.VolumeOutage

open PveSanFenced.Daemon
open PveSanFenced.DaemonSafety
open PveSanFenced.DaemonStatus
open PveSanFenced.Discovery
open PveSanFenced.DiscoveryComplete
open PveSanFenced.Disks
open PveSanFenced.EndToEnd
open PveSanFenced.FencerCycle
open PveSanFenced.FencerHistory
open PveSanFenced.FencerModel
open PveSanFenced.Library.Collections
open PveSanFenced.Library.Reach
open PveSanFenced.Library.Runs
open PveSanFenced.Library.Text
open PveSanFenced.Lifecycle
open PveSanFenced.LunKeys
open PveSanFenced.Multipath
open PveSanFenced.Pvesh
open PveSanFenced.Startup
open PveSanFenced.Status
open PveSanFenced.Sysfs
open PveSanFenced.Sysrq

set_option autoImplicit false

section Model

end Model

section Discovered

variable {host : PveHost} {client : PveSanConfig} {mpaths : Finset String}

variable {node pveshCommand : String} {events : List Event}

end Discovered

section Polls

variable {maxFailures : UInt64} {targetWwids mpaths : Finset String}
  {calls : ℕ → FencerHistory.Call} {index : ℕ}

variable {settings : Settings} {events : List Event} {state : State}

end Polls

section Fenced

variable {build : Build} {cli : Cli} {env : Environment} {succeeds : ℕ → Bool}
  {tracker : StatusTracker} {earlier since after : List Event} {start life : Life}
  {mpaths : Finset String}

end Fenced

section Spanned

end Spanned

end PveSanFenced.VolumeOutage
