import Chip8.Assembly
import Chip8.CommandLine.Launch
import Chip8.Cycle
import Chip8.Document.Reading
import Chip8.Image
import Chip8.Main
import Chip8.Screen
import Chip8.Session
import Chip8.Settings.Reading
import Chip8.Proofs.Actions
import Chip8.Proofs.BusReads
import Chip8.Proofs.Decoding
import Chip8.Proofs.Execution
import Chip8.Proofs.InstructionTable
import Chip8.Proofs.Cycles
import Chip8.Proofs.Hazards
import Chip8.Proofs.BusWrites
import Chip8.Proofs.Reachability
import Chip8.Proofs.CallStack
import Chip8.Proofs.Memory
import Chip8.Proofs.BusTrace
import Chip8.Proofs.Timers
import Chip8.Proofs.Books
import Chip8.Proofs.Runs
import Chip8.Proofs.TimerLaw
import Chip8.Proofs.Pacing
import Chip8.Proofs.Extent
import Chip8.Proofs.Chronicle
import Chip8.Proofs.FetchFaults
import Chip8.Proofs.ByteMap
import Chip8.Proofs.ImageLoad
import Chip8.Proofs.ActionLaws
import Chip8.Proofs.PlainRegisters
import Chip8.Proofs.PlainInstructions
import Chip8.Proofs.Guards
import Chip8.Proofs.Acceptance
import Chip8.Proofs.Writing
import Chip8.Proofs.Layout
import Chip8.Proofs.Sprites
import Chip8.Proofs.BuiltSystem
import Chip8.Proofs.BuildFailures
import Chip8.Proofs.ExitStatus
import Chip8.Proofs.Dependence
import Chip8.Proofs.RandomBytes
import Chip8.Proofs.Reset
import Chip8.Proofs.DrawPolicies
import Chip8.Proofs.Pictures
import Chip8.Proofs.Hexadecimal
import Chip8.Proofs.Listing
import Chip8.Proofs.Rendering
import Chip8.Proofs.FailedFrames
import Chip8.Proofs.Redraws
import Chip8.Proofs.RegisterWidths
import Chip8.Proofs.ScreenText
import Chip8.Proofs.RegisterListing
