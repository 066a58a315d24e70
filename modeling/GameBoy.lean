import GameBoy.CommandLine.Program
import GameBoy.Machine.Injection
import GameBoy.Main
import GameBoy.Proofs.Bus.ReadOverWrite
import GameBoy.Proofs.Machine.Closed
import GameBoy.Proofs.Machine.Ticked
import GameBoy.Proofs.Machine.Accounting
import GameBoy.Proofs.Machine.Interrupts
import GameBoy.Proofs.Reference.Interpreter
import GameBoy.Proofs.Reference.Agreement
import GameBoy.Proofs.Machine.Fetch
import GameBoy.Proofs.Machine.Faults
import GameBoy.Proofs.Machine.Respected
import GameBoy.Proofs.Bus.Overlay
import GameBoy.Proofs.Machine.Histories
import GameBoy.Proofs.Machine.BootLifetime
import GameBoy.Proofs.Bus.Patching
import GameBoy.Proofs.Machine.Restoring
import GameBoy.Proofs.Listing.Reading
import GameBoy.Proofs.Listing.Dependence
import GameBoy.Proofs.Listing.Meaning
import GameBoy.Proofs.Listing.Agreement
import GameBoy.Proofs.Bus.Window
import GameBoy.Proofs.Repetition
import GameBoy.Proofs.Session.Driver
import GameBoy.Proofs.CommandLine.ExitCode
import GameBoy.Proofs.Lockstep
import GameBoy.Proofs.Machine.Coupled
import GameBoy.Proofs.Bus.Strictness
import GameBoy.Proofs.Session.Steps
import GameBoy.Proofs.Session.StrictMode
import GameBoy.Proofs.Session.WindowHistory
import GameBoy.Proofs.Bus.Veiled
import GameBoy.Proofs.Session.Inputs
import GameBoy.Proofs.Bus.Chronicle
import GameBoy.Proofs.Bus.LineReadings
import GameBoy.Proofs.Session.VerticalBlank
import GameBoy.Proofs.Session.Frames
import GameBoy.Proofs.Bus.Serial
import GameBoy.Proofs.CommandLine.Output
import GameBoy.Proofs.Digits.Binary
import GameBoy.Proofs.Digits.Decimal
import GameBoy.Proofs.Listing.OneLine
import GameBoy.Proofs.Machine.Recorded
import GameBoy.Proofs.Machine.Tracing
import GameBoy.Proofs.Machine.Stepping
import GameBoy.Proofs.Machine.Swallowing
import GameBoy.Proofs.Digits.Shifts
import GameBoy.Proofs.Digits.Words
import GameBoy.Proofs.Machine.CellOperand
import GameBoy.Proofs.Machine.StackRuns
import GameBoy.Proofs.Machine.Dispatching
import GameBoy.Proofs.Machine.Halting
import GameBoy.Proofs.Machine.ExactSteps
import GameBoy.Proofs.Machine.Injecting
import GameBoy.Proofs.Bus.PatchedReads
import GameBoy.Proofs.Bus.JoypadHistory
import GameBoy.Proofs.Session.Latches
import GameBoy.Proofs.Bus.Headers
import GameBoy.Proofs.Listing.Lossless
import GameBoy.Proofs.Machine.RegisterWrites
