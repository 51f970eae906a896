import GameBoy.Host.Console
import GameBoy.Main
import GameBoy.Proofs.Video.Schedule
import GameBoy.Proofs.Video.Position
import GameBoy.Proofs.Bus.Transfer
import GameBoy.Proofs.Bus
import GameBoy.Proofs.Timer
import GameBoy.Proofs.Video.Requests
import GameBoy.Proofs.Machine.Tick
import GameBoy.Proofs.Machine.LockStep
import GameBoy.Proofs.Video.Rows
import GameBoy.Proofs.Video.FirstFrame
import GameBoy.Proofs.Cpu.Service
import GameBoy.Proofs.Machine.Requests
import GameBoy.Proofs.Video.Lines
import GameBoy.Proofs.Video.Switching
import GameBoy.Proofs.Video.SteadyFrame
import GameBoy.Proofs.Cpu.Control
import GameBoy.Proofs.Cpu.Running
import GameBoy.Proofs.Cpu.EnableDelay
import GameBoy.Proofs.Machine.Reachable
import GameBoy.Proofs.Machine.Control
import GameBoy.Proofs.Machine.TimerRate
import GameBoy.Proofs.Video.Unseen
import GameBoy.Proofs.Machine.FastForward
import GameBoy.Proofs.Bus.LastWrites
import GameBoy.Proofs.Joypad
import GameBoy.Proofs.Bus.Keys
import GameBoy.Proofs.Counter
import GameBoy.Proofs.Timer.Exact
import GameBoy.Proofs.Video.Exact
import GameBoy.Proofs.Video.Settled
import GameBoy.Proofs.Video.Shades
import GameBoy.Proofs.Machine.Settled
import GameBoy.Proofs.Machine.Line
import GameBoy.Proofs.Timer.ClosedForm
import GameBoy.Proofs.Machine.Order
import GameBoy.Proofs.Machine.Serial
import GameBoy.Proofs.Machine.Exact
import GameBoy.Proofs.Machine.Frame
import GameBoy.Proofs.Video.Plane
import GameBoy.Proofs.Cpu.MissedHalt
import GameBoy.Proofs.Video.ExactLayers
import GameBoy.Proofs.Video.ExactObjects
import GameBoy.Proofs.Video.ExactRow
import GameBoy.Proofs.Video.Objects
import GameBoy.Proofs.Cpu.Continuation
import GameBoy.Proofs.Cpu.Footprint
import GameBoy.Proofs.Cpu.Stack
import GameBoy.Proofs.Cpu.Branches
import GameBoy.Proofs.Alu.Ripple
import GameBoy.Proofs.Alu.Binary
import GameBoy.Proofs.Alu.Decimal
import GameBoy.Proofs.Alu.Shifts
import GameBoy.Proofs.Alu.Words
import GameBoy.Proofs.Bus.Falls
import GameBoy.Proofs.Video.Terminal
import GameBoy.Proofs.Session.FrameLimit
import GameBoy.Proofs.Session.DoctorLog
