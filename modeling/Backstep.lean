import Backstep.Main
import Backstep.Operation
import Backstep.Proofs.History.Stack
import Backstep.Proofs.History.Reachable
import Backstep.Proofs.Stepper.Moment
import Backstep.Proofs.Stepper.Script
import Backstep.Proofs.Variable.Surviving
import Backstep.Proofs.Text.EventLine
import Backstep.Proofs.Text.SnapshotLine
import Backstep.Proofs.Variable.Events
import Backstep.Proofs.Stepper.Message
import Backstep.Proofs.Variable.Replay
import Backstep.Proofs.CommandLine.Grammar
import Backstep.Proofs.Program.Mirror
import Backstep.Proofs.Stepper.Bulk
import Backstep.Proofs.Variable.Journal
import Backstep.Proofs.Program.Log
import Backstep.Proofs.Program.Stepped
import Backstep.Proofs.Stepper.Story
import Backstep.Proofs.Stepper.OutsideTrace
import Backstep.Proofs.Stepper.ViewApart
import Backstep.Proofs.Variable.Restore
import Backstep.Proofs.Stepper.Ending
import Backstep.Proofs.Stepper.PanesApart
import Backstep.Proofs.Pane.HistoryPage
import Backstep.Proofs.Stepper.ScrollKeys
import Backstep.Proofs.Stepper.Playback
import Backstep.Proofs.CommandLine.Spelling
import Backstep.Proofs.Text.Equation
import Backstep.Proofs.Pane.ArrowColumn
import Backstep.Proofs.Stepper.Boundaries
import Backstep.Proofs.Stepper.Resizing
