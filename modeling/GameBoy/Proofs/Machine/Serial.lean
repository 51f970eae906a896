import GameBoy.Proofs.Bus.LastWrites
import GameBoy.Proofs.Cpu.Running
import GameBoy.Proofs.Machine.Requests
import GameBoy.Proofs.Timer.Counts

/-!
# What comes out of the serial link

The bytes that a program sends wait in the machine until the host takes them, and the host may take
them at any time.  Nothing in the machine looks at them: machines that are `Alike` but for the bytes
that wait stay so, `Alike.respond`, and send the same bytes, `Alike.sentBy_eq`.

A `Call` is one that drives the machine or one that takes the bytes.  What comes out of a run of
calls, `output`, is what is taken in its course and what still waits at its end.  Wherever the
bytes are taken, that is what waited at the start, followed by what the program sends,
`output_eq`; so runs that drive the machine alike put out the same bytes and leave machines behind
that are alike, `output_of_events`.
-/

namespace GameBoy

/-! ## The bus -/

namespace Bus

/-- The bytes that some writes send, each given with the bus that it finds. -/
def sentAt (moments : List (Bus × Write)) : List UInt8 :=
  (moments.filter fun (_, w) => w == startSending).map
    fun (found, _) => found.memory.read Address.serialData

theorem sentAt_append (first second : List (Bus × Write)) :
    sentAt (first ++ second) = sentAt first ++ sentAt second := by
  rw [sentAt, List.filter_append, List.map_append]
  rfl

theorem sent_cons (bus : Bus) (first : Write) (rest : List Write) :
    bus.sent (first :: rest) =
      (if first = startSending then [bus.memory.read Address.serialData] else []) ++
        (bus.write first).value.sent rest := by
  unfold sent
  rw [moments]
  by_cases hfirst : first = startSending
  · simp [hfirst]
  · simp [hfirst]

theorem serial_press (bus : Bus) (key : Key) : (bus.press key).value.serial = bus.serial := by
  rw [value_press]
  rfl

/-- Two buses differ at most in the bytes that wait to be taken. -/
structure Alike (bus other : Bus) : Prop where
  memory_eq : bus.memory = other.memory
  joypad_eq : bus.joypad = other.joypad
  dividerReset_eq : bus.dividerReset = other.dividerReset

namespace Alike

variable {bus other third : Bus}

protected theorem refl (bus : Bus) : bus.Alike bus := ⟨rfl, rfl, rfl⟩

protected theorem symm (h : bus.Alike other) : other.Alike bus :=
  ⟨h.memory_eq.symm, h.joypad_eq.symm, h.dividerReset_eq.symm⟩

protected theorem trans (h : bus.Alike other) (h' : other.Alike third) : bus.Alike third :=
  ⟨h.memory_eq.trans h'.memory_eq, h.joypad_eq.trans h'.joypad_eq,
    h.dividerReset_eq.trans h'.dividerReset_eq⟩

variable (h : bus.Alike other)
include h

theorem write (w : Write) : (bus.write w).value.Alike (other.write w).value := by
  obtain ⟨memory, joypad, dividerReset, serial⟩ := bus
  obtain ⟨rfl, rfl, rfl⟩ := h
  rw [value_write, value_write]
  exact ⟨rfl, rfl, rfl⟩

omit h in
theorem writeAll (h : bus.Alike other) (writes : List Write) :
    (bus.writeAll writes).value.Alike (other.writeAll writes).value := by
  induction writes generalizing bus other with
  | nil => exact h
  | cons first rest ih => exact ih (h.write first)

omit h in
/-- Which bytes are sent does not depend on those that wait. -/
theorem sent_eq (h : bus.Alike other) (writes : List Write) :
    bus.sent writes = other.sent writes := by
  induction writes generalizing bus other with
  | nil => rfl
  | cons first rest ih => rw [sent_cons, sent_cons, h.memory_eq, ih (h.write first)]

theorem press (key : Key) : (bus.press key).value.Alike (other.press key).value := by
  obtain ⟨memory, joypad, dividerReset, serial⟩ := bus
  obtain ⟨rfl, rfl, rfl⟩ := h
  rw [value_press, value_press]
  exact ⟨rfl, rfl, rfl⟩

theorem release (key : Key) : (bus.release key).Alike (other.release key) := by
  obtain ⟨memory, joypad, dividerReset, serial⟩ := bus
  obtain ⟨rfl, rfl, rfl⟩ := h
  exact ⟨rfl, rfl, rfl⟩

theorem bus_advance (timer : Timer) (cycles : Nat) :
    (timer.advance bus cycles).value.bus.Alike (timer.advance other cycles).value.bus := by
  obtain ⟨memory, joypad, dividerReset, serial⟩ := bus
  obtain ⟨rfl, rfl, rfl⟩ := h
  rw [Timer.bus_advance, Timer.bus_advance]
  exact ⟨rfl, rfl, rfl⟩

theorem timer_advance (timer : Timer) (cycles : Nat) :
    (timer.advance bus cycles).value.timer = (timer.advance other cycles).value.timer :=
  timer.timer_advance_congr h.dividerReset_eq (congrArg (Memory.read · _) h.memory_eq) cycles

end Alike

end Bus

namespace Machine

/-! ## One call -/

/-- Two machines differ at most in the bytes that wait to be taken. -/
structure Alike (machine other : Machine) : Prop where
  cpu_eq : machine.cpu = other.cpu
  ppu_eq : machine.ppu = other.ppu
  timer_eq : machine.timer = other.timer
  bus : machine.bus.Alike other.bus
  frames_eq : machine.frames = other.frames

/-- The bytes that wait to be taken, oldest first. -/
def waiting (machine : Machine) : List UInt8 := machine.bus.serial.toList

/-- Takes the bytes sent through the serial link. -/
def takeSerial (machine : Machine) : Array UInt8 × Machine :=
  let (bytes, bus) := machine.bus.takeSerial
  (bytes, { machine with bus })

/-- The writes that a call puts on the bus, each with the bus that it finds. -/
def momentsOf (machine : Machine) : Event → List (Bus × Write)
  | .tick => machine.bus.moments machine.nextStep.writes
  | .press _ | .release _ => []

/-- The bytes that a call sends. -/
def sentBy (machine : Machine) (event : Event) : List UInt8 :=
  Bus.sentAt (machine.momentsOf event)

theorem sentBy_tick (machine : Machine) :
    machine.sentBy .tick = machine.bus.sent machine.nextStep.writes :=
  rfl

/-- A call leaves the bytes where they are and puts those that it sends behind them. -/
theorem waiting_respond (machine : Machine) (event : Event) :
    (machine.respond event).waiting = machine.waiting ++ machine.sentBy event := by
  cases event with
  | tick =>
      -- only the writes of a step reach the port; the timer and the video unit leave it alone
      have htimed : machine.timed.bus.serial = machine.writtenBus.serial := by
        rw [timed, Timer.bus_advance]
      calc (machine.respond .tick).waiting
          = machine.timed.bus.serial.toList := by rw [respond, value_tick, waiting]
        _ = machine.writtenBus.serial.toList := by rw [htimed]
        _ = machine.waiting ++ machine.sentBy .tick := Bus.serial_writeAll _ _
  | press key =>
      have hkept : (machine.respond (.press key)).waiting = machine.waiting :=
        congrArg Array.toList (machine.bus.serial_press key)
      exact hkept.trans (List.append_nil _).symm
  | release key => exact (List.append_nil _).symm

namespace Alike

variable {machine other third : Machine}

protected theorem refl (machine : Machine) : machine.Alike machine :=
  ⟨rfl, rfl, rfl, .refl machine.bus, rfl⟩

protected theorem symm (h : machine.Alike other) : other.Alike machine :=
  ⟨h.cpu_eq.symm, h.ppu_eq.symm, h.timer_eq.symm, h.bus.symm, h.frames_eq.symm⟩

protected theorem trans (h : machine.Alike other) (h' : other.Alike third) : machine.Alike third :=
  ⟨h.cpu_eq.trans h'.cpu_eq, h.ppu_eq.trans h'.ppu_eq, h.timer_eq.trans h'.timer_eq,
    h.bus.trans h'.bus, h.frames_eq.trans h'.frames_eq⟩

/-- Taking the bytes changes nothing else. -/
theorem takeSerial (h : machine.Alike other) : machine.takeSerial.2.Alike other := by
  have hbus : machine.takeSerial.2.bus.Alike other.bus := ⟨h.bus.memory_eq, h.bus.joypad_eq,
    h.bus.dividerReset_eq⟩
  exact ⟨h.cpu_eq, h.ppu_eq, h.timer_eq, hbus, h.frames_eq⟩

variable (h : machine.Alike other)
include h

theorem nextStep_eq : machine.nextStep = other.nextStep := by
  rw [nextStep, nextStep, h.cpu_eq, h.bus.memory_eq]

theorem sentBy_eq (event : Event) : machine.sentBy event = other.sentBy event := by
  cases event with
  | tick => rw [sentBy_tick, sentBy_tick, h.nextStep_eq, h.bus.sent_eq]
  | press key => rfl
  | release key => rfl

theorem tick : machine.tick.value.1.Alike other.tick.value.1 := by
  -- the port is never read, so both machines take the same step
  have hstep := h.nextStep_eq
  have hwritten : machine.writtenBus.Alike other.writtenBus := by
    rw [writtenBus, writtenBus, hstep]
    exact h.bus.writeAll _
  have htimer : machine.timed.timer = other.timed.timer := by
    rw [timed, timed, h.timer_eq, hstep]
    exact hwritten.timer_advance _ _
  have hbus : machine.timed.bus.Alike other.timed.bus := by
    rw [timed, timed, h.timer_eq, hstep]
    exact hwritten.bus_advance _ _
  have hshown : machine.shown = other.shown := by
    rw [shown, shown, h.ppu_eq, hbus.memory_eq, hstep]
  rw [value_tick, value_tick, hstep, htimer, hshown, h.frames_eq]
  exact ⟨rfl, rfl, rfl, ⟨rfl, hbus.joypad_eq, hbus.dividerReset_eq⟩, rfl⟩

theorem respond (event : Event) : (machine.respond event).Alike (other.respond event) := by
  cases event with
  | tick => exact h.tick
  | press key => exact ⟨h.cpu_eq, h.ppu_eq, h.timer_eq, h.bus.press key, h.frames_eq⟩
  | release key => exact ⟨h.cpu_eq, h.ppu_eq, h.timer_eq, h.bus.release key, h.frames_eq⟩

end Alike

/-! ## Runs -/

/-- A call of the host, which drives the machine or takes the bytes sent. -/
inductive Call
  | drive (event : Event)
  | takeSerial
  deriving DecidableEq, Repr

/-- The call, if it drives the machine. -/
def Call.event? : Call → Option Event
  | .drive event => some event
  | .takeSerial => none

/-- The calls of a run that drive the machine. -/
def events (calls : List Call) : List Event := calls.filterMap Call.event?

/-- The machine after a call. -/
def call (machine : Machine) : Call → Machine
  | .drive event => machine.respond event
  | .takeSerial => machine.takeSerial.2

/-- What comes out of a run: the bytes taken in its course, and those that wait at its end. -/
def output (machine : Machine) : List Call → List UInt8
  | [] => machine.waiting
  | .drive event :: rest => (machine.respond event).output rest
  | .takeSerial :: rest => machine.takeSerial.1.toList ++ machine.takeSerial.2.output rest

/-- The writes of a run, each with the bus that it finds. -/
def moments (machine : Machine) : List Call → List (Bus × Write)
  | [] => []
  | .drive event :: rest => machine.momentsOf event ++ (machine.respond event).moments rest
  | .takeSerial :: rest => machine.takeSerial.2.moments rest

/-- The bytes that a run sends. -/
def sentIn (machine : Machine) (calls : List Call) : List UInt8 :=
  Bus.sentAt (machine.moments calls)

section

variable (machine : Machine) (event : Event) (rest : List Call)

theorem events_drive : events (.drive event :: rest) = event :: events rest := rfl

theorem events_takeSerial : events (.takeSerial :: rest) = events rest := rfl

theorem sentIn_drive :
    machine.sentIn (.drive event :: rest) =
      machine.sentBy event ++ (machine.respond event).sentIn rest := by
  rw [sentIn, moments, Bus.sentAt_append]
  rfl

theorem sentIn_takeSerial :
    machine.sentIn (.takeSerial :: rest) = machine.takeSerial.2.sentIn rest := rfl

end

/-- No byte that is sent gets lost, wherever the bytes are taken. -/
theorem output_eq (machine : Machine) (calls : List Call) :
    machine.output calls = machine.waiting ++ machine.sentIn calls := by
  induction calls generalizing machine with
  | nil => exact (List.append_nil _).symm
  | cons first rest ih =>
      cases first with
      | drive event => rw [output, ih, sentIn_drive, waiting_respond, List.append_assoc]
      | takeSerial =>
          -- what waited is taken, and nothing waits after it
          rw [output, ih, sentIn_takeSerial]
          rfl

/-- A run sends what it would send if nothing was taken. -/
theorem Alike.sentIn_eq {machine other : Machine} (h : machine.Alike other) (calls : List Call) :
    machine.sentIn calls = other.sentIn ((events calls).map .drive) := by
  -- taking the bytes away leaves the machine alike, so only the events count
  induction calls generalizing machine other with
  | nil => rfl
  | cons first rest ih =>
      cases first with
      | drive event =>
          rw [events_drive, List.map_cons, sentIn_drive, sentIn_drive, h.sentBy_eq,
            ih (h.respond event)]
      | takeSerial => rw [events_takeSerial, sentIn_takeSerial, ih h.takeSerial]

/-- A run leaves the machine behind as if nothing had been taken. -/
theorem Alike.foldl_call {machine other : Machine} (h : machine.Alike other) (calls : List Call) :
    (calls.foldl call machine).Alike ((events calls).foldl Machine.respond other) := by
  induction calls generalizing machine other with
  | nil => exact h
  | cons first rest ih =>
      cases first with
      | drive event => exact ih (h.respond event)
      | takeSerial => exact ih h.takeSerial

/-- **Output of the serial link.**  Two runs that drive the machine alike may take the bytes at
different times: the same bytes come out of them, and they leave machines behind that differ at
most in the bytes that wait.  What comes out are the bytes that waited at the start, and one for
each write that starts the link, found in the data register by that write, in order. -/
theorem output_of_events (machine : Machine) {first second : List Call}
    (h : events first = events second) :
    machine.output first = machine.output second ∧
      (first.foldl call machine).Alike (second.foldl call machine) ∧
      machine.output first =
        machine.waiting ++
          ((machine.moments first).filter fun (_, w) => w == Bus.startSending).map
            fun (found, _) => found.memory.read Address.serialData := by
  have hself : machine.Alike machine := .refl machine
  refine ⟨?_, ?_, machine.output_eq first⟩
  · -- either output is what waited and what the events send
    calc machine.output first
        = machine.waiting ++ machine.sentIn first := machine.output_eq first
      _ = machine.waiting ++ machine.sentIn ((events first).map .drive) := by
          rw [← hself.sentIn_eq first]
      _ = machine.waiting ++ machine.sentIn second := by rw [h, ← hself.sentIn_eq second]
      _ = machine.output second := (machine.output_eq second).symm
  · -- either machine is alike to one that is only driven by the events
    have hfirst := hself.foldl_call first
    rw [h] at hfirst
    exact hfirst.trans (hself.foldl_call second).symm

/-! ### A program that sends a byte -/

/-- An image whose first instruction, at the entry point, is LD (FF01),SP. -/
def serialProgram : ByteArray := ⟨Array.replicate 256 0 ++ #[0x08, 0x01, 0xFF]⟩

/-- A machine that is about to write the data register of the link and then its control register,
while an earlier byte still waits. -/
def sendingMachine : Machine :=
  let started := (start serialProgram).value
  { started with
    cpu := { Cpu.powerOn with sp := 0x8141 }
    bus := { started.bus with serial := #[0x40] } }

theorem writes_sendingMachine :
    sendingMachine.nextStep.writes = [⟨Address.serialData, 0x41⟩, Bus.startSending] := by
  have hopcode : sendingMachine.bus.memory.read 0x100 = 0x08 :=
    Memory.read_load_code (i := 0) _ (by decide) rfl
  have hlow : sendingMachine.bus.memory.read 0x101 = 0x01 :=
    Memory.read_load_code (i := 1) _ (by decide) rfl
  have hhigh : sendingMachine.bus.memory.read 0x102 = 0xFF :=
    Memory.read_load_code (i := 2) _ (by decide) rfl
  have hword : sendingMachine.bus.memory.readWord 0x101 = Address.serialData := by
    rw [Memory.readWord, hlow]
    show Word.ofBytes 0x01 (sendingMachine.bus.memory.read 0x102) = Address.serialData
    rw [hhigh]
    decide
  have hdecode : Instruction.decode (sendingMachine.bus.memory.read sendingMachine.cpu.pc) =
      .storeSp := by
    show Instruction.decode (sendingMachine.bus.memory.read 0x100) = .storeSp
    rw [hopcode]
    rfl
  have hexecutes := Cpu.executes_of_off rfl rfl rfl hdecode Instruction.noConfusion
  rw [nextStep, hexecutes.step_eq]
  show Write.word (sendingMachine.bus.memory.readWord 0x101) 0x8141 = _
  rw [hword]
  decide

/-- The byte comes out behind the earlier one, whether that is taken before or not. -/
theorem output_of_events_sendingMachine :
    events [.takeSerial, .drive .tick, .takeSerial] = events [.drive .tick] ∧
      sendingMachine.output [.takeSerial, .drive .tick, .takeSerial] = [0x40, 0x41] ∧
      sendingMachine.output [.drive .tick] = [0x40, 0x41] := by
  have hevents : events [.takeSerial, .drive .tick, .takeSerial] = events [.drive .tick] := rfl
  obtain ⟨hsame, -, -⟩ := output_of_events sendingMachine hevents
  obtain ⟨-, -, hout⟩ := output_of_events sendingMachine hevents.symm
  have hdata : (sendingMachine.bus.write ⟨Address.serialData, 0x41⟩).value.memory.read
      Address.serialData = 0x41 := by
    rw [Bus.read_write _ _ (.of_lt (by decide))]
    rfl
  have hmoments : sendingMachine.moments [.drive .tick] =
      [(sendingMachine.bus, ⟨Address.serialData, 0x41⟩),
        ((sendingMachine.bus.write ⟨Address.serialData, 0x41⟩).value, Bus.startSending)] := by
    rw [moments, momentsOf, writes_sendingMachine]
    rfl
  rw [hmoments] at hout
  have hboth : sendingMachine.output [.drive .tick] = [0x40, 0x41] := by
    rw [hout]
    show [0x40] ++ [(sendingMachine.bus.write _).value.memory.read _] = _
    rw [hdata]
    rfl
  exact ⟨hevents, hsame.trans hboth, hboth⟩

end Machine

end GameBoy
