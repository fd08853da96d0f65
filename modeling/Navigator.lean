import Navigator.Artifacts
import Navigator.Authority
import Navigator.Core.FairCapacity
import Navigator.Core.Routes
import Navigator.Local.Sweep
import Navigator.Manifest
import Navigator.OwnershipLoss
import Navigator.Pi.JournalLock
import Navigator.Recovery
import Navigator.RecoveryBarrier
import Navigator.Retirement
import Navigator.Supervisor.Bindings
import Navigator.Supervisor.Closing
import Navigator.Supervisor.Stopped
import Navigator.Supervisor.Watchdog
import Navigator.Tools.Owners
import Navigator.Usage
