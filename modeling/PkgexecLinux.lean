import PkgexecLinux.Foundation.Runs
import PkgexecLinux.Network.Completeness
import PkgexecLinux.Containment.Session
import PkgexecLinux.Filesystem.Overlap
import PkgexecLinux.Filesystem.Devices
import PkgexecLinux.Filesystem.View
import PkgexecLinux.Filesystem.HostShape
import PkgexecLinux.Process.Coverage
import PkgexecLinux.Interpreter.Configuration
import PkgexecLinux.Supervisor.StartEvidence
import PkgexecLinux.Supervisor.GroupCleanup
import PkgexecLinux.Supervisor.GroupSignals
import PkgexecLinux.Supervisor.Custody
import PkgexecLinux.Supervisor.BrokenPipe
import PkgexecLinux.Supervisor.SignalWindow
import PkgexecLinux.Supervisor.Capture
import PkgexecLinux.Supervisor.FailureRecord
import PkgexecLinux.Supervisor.Receipt
import PkgexecLinux.Supervisor.Refill
import PkgexecLinux.Supervisor.Deadline
import PkgexecLinux.Filesystem.Scratch
import PkgexecLinux.Capability.Soundness
import PkgexecLinux.Supervisor.Launch
import PkgexecLinux.Supervisor.Handles
import PkgexecLinux.Capability.CancellationProbe
import PkgexecLinux.Supervisor.Environment
import PkgexecLinux.Process.Directory
import PkgexecLinux.Supervisor.Credentials
