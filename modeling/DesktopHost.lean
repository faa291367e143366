import DesktopHost.Main
import DesktopHost.Readiness.Http
import DesktopHost.Rehearsal.Handles
import DesktopHost.Rehearsal.Shell
import DesktopHost.Rehearsal.Startup
import DesktopHost.Rehearsal.Trial
import DesktopHost.Rehearsal.Window
import DesktopHost.Serial
import DesktopHost.Shell.Navigation
import DesktopHost.Shell.Setup
import DesktopHost.Proofs.Agreement
import DesktopHost.Proofs.Arguments
import DesktopHost.Proofs.Custody
import DesktopHost.Proofs.Dialogs
import DesktopHost.Proofs.Execution
import DesktopHost.Proofs.Idling
import DesktopHost.Proofs.Interleaving
import DesktopHost.Proofs.Lawful
import DesktopHost.Proofs.Lines
import DesktopHost.Proofs.Firing
import DesktopHost.Proofs.FirstSignal
import DesktopHost.Proofs.HealthProbe
import DesktopHost.Proofs.History
import DesktopHost.Proofs.Neutral
import DesktopHost.Proofs.Output
import DesktopHost.Proofs.OwnPage
import DesktopHost.Proofs.Polling
import DesktopHost.Proofs.Quitting
import DesktopHost.Proofs.Restart
import DesktopHost.Proofs.Serialized
import DesktopHost.Proofs.Startup
import DesktopHost.Proofs.Stopping
import DesktopHost.Proofs.Windows
