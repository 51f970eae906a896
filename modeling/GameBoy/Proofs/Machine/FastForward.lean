import GameBoy.Proofs.Machine.Control
import GameBoy.Proofs.Video.Unseen

/-!
# Halted machines may be fast-forwarded

While the processor is halted and nothing is pending, a tick lets four cycles go by and does nothing
else.  `passTime` lets any number of cycles go by at once: the timer takes all of them, and then the
video unit does.  Ticks feed the two in turn, but that makes no difference, since each may be cut
anywhere and the video unit does not notice what the timer does: `passTime_add`, and so by
induction `ticks_of_quiet`.

The one premise is that the video unit is ready, which the tick that executed the halt has seen to,
`Reachable.ready`.  `fastForward` puts this together with the wake-up: the first tick that starts
with an interrupt pending serves it, or executes the next instruction if interrupts are off.
-/

namespace GameBoy

open Memory (SameOutside)

namespace Machine

variable {machine : Machine}

/-! ## Time goes by -/

/-- A machine in which time has gone by for all but the program: the cycles are counted, and fed to
the timer and to the video unit at once. -/
def passTime (machine : Machine) (cycles : Nat) : Machine :=
  let counted :=
    { machine with cpu := { machine.cpu with cycles := machine.cpu.cycles + cycles } }
  ((counted.advanceTimer cycles).value.advanceVideo cycles).value.1

/-- The timer may be fed after the video unit as well. -/
theorem passTime_eq (machine : Machine) (cycles : Nat) :
    machine.passTime cycles =
      let run := (machine.ppu.run machine.bus.memory cycles).value
      { cpu := { machine.cpu with cycles := machine.cpu.cycles + cycles }
        ppu := run.ppu
        timer := (machine.timer.advance machine.bus cycles).value.timer
        bus := { machine.bus with
          memory := machine.timer.effect machine.bus cycles run.memory
          dividerReset := false }
        frames := machine.frames + run.frameDone.toNat } := by
  -- the timer runs first, and touches nothing that the video unit reads
  have hrun := (Timer.unseen_effect machine.timer machine.bus cycles).run machine.ppu
    machine.bus.memory cycles
  unfold passTime
  dsimp only
  rw [value_advanceVideo, value_advanceTimer]
  dsimp only
  rw [Timer.bus_advance]
  dsimp only
  rw [hrun, Logged.value_map]
  rfl

theorem cpu_passTime (machine : Machine) (cycles : Nat) :
    (machine.passTime cycles).cpu =
      { machine.cpu with cycles := machine.cpu.cycles + cycles } := by
  rw [passTime_eq]

theorem sameOutside_passTime (machine : Machine) (cycles : Nat) :
    SameOutside clockCells machine.bus.memory (machine.passTime cycles).bus.memory := by
  have hshown : SameOutside clockCells machine.bus.memory
      (machine.ppu.run machine.bus.memory cycles).value.memory :=
    (Ppu.sameOutside_run _ _ _).mono (by decide)
  rw [passTime_eq]
  exact hshown.trans (((Timer.unseen_effect _ _ _).sameOutside _).mono (by decide))

/-- The frames counted before have no influence on what happens. -/
theorem passTime_of_frames {other : Machine}
    (h : { other with frames := 0 } = { machine with frames := 0 }) (cycles : Nat) :
    { other.passTime cycles with frames := 0 } = { machine.passTime cycles with frames := 0 } := by
  obtain ⟨cpu, ppu, timer, bus, frames⟩ := machine
  obtain ⟨cpu', ppu', timer', bus', frames'⟩ := other
  obtain ⟨rfl, rfl, rfl, rfl, -⟩ := Machine.mk.inj h
  rw [passTime_eq, passTime_eq]

/-- Time may go by in two parts. -/
theorem passTime_add (h : Ppu.Ready machine.ppu machine.bus.memory) (first second : Nat) :
    { machine.passTime (first + second) with frames := 0 } =
      { (machine.passTime first).passTime second with frames := 0 } := by
  obtain ⟨cpu, ppu, timer, bus, frames⟩ := machine
  dsimp only at h
  rw [passTime_eq, passTime_eq, passTime_eq]
  dsimp only
  -- the unit runs the two parts in a row; what is left to compare is the timer
  rw [Ppu.run_add h, Logged.value_bind, Logged.value_map]
  generalize hrun : (ppu.run bus.memory first).value = run
  generalize hbus : ({ bus with
    memory := timer.effect bus first run.memory, dividerReset := false } : Bus) = seen
  -- for the timer that is the bus which it would have left without the video unit
  have hlatch : seen.dividerReset = (timer.advance bus first).value.bus.dividerReset := by
    rw [Timer.dividerReset_advance, ← hbus]
  have hcontrol : seen.memory.read Address.timerControl =
      (timer.advance bus first).value.bus.memory.read Address.timerControl := by
    rw [Timer.control_advance, ← Ppu.sameOutside_run ppu bus.memory first _ (by decide), hrun,
      ← hbus]
    exact (Timer.unseen_effect timer bus first).read _ (by decide)
  rw [(Timer.unseen_effect timer bus first).run run.ppu run.memory second, Logged.value_map,
    timer.timer_advance_add bus first second, timer.effect_add bus first second,
    ← Timer.timer_advance_congr _ hlatch hcontrol, ← Timer.effect_congr _ hlatch hcontrol,
    Nat.add_assoc, ← hbus]
  rfl

/-! ## Ticks of a halted processor -/

/-- The machine after a number of ticks. -/
def ticks (machine : Machine) (n : Nat) : Machine :=
  (fun machine => machine.tick.value.1)^[n] machine

theorem ticks_succ (machine : Machine) (n : Nat) :
    machine.ticks (n + 1) = (machine.ticks n).tick.value.1 :=
  Function.iterate_succ_apply' _ _ _

theorem tick_of_idle (hhalted : machine.cpu.halted = true)
    (hpending : machine.bus.memory.pending = 0) : machine.tick.value.1 = machine.passTime 4 := by
  have hstep : machine.nextStep = _ := Cpu.step_of_idle hhalted hpending
  have hbus : machine.writtenBus = machine.bus := by
    rw [writtenBus, hstep]
    rfl
  unfold passTime
  dsimp only
  rw [value_tick, shown, timed, hbus, hstep, value_advanceVideo, value_advanceTimer]

/-- Quiet ticks come to the same as the time that they take. -/
theorem ticks_of_quiet (h : Ppu.Ready machine.ppu machine.bus.memory)
    (hhalted : machine.cpu.halted = true) (n : Nat)
    (hquiet : ∀ i < n + 1, (machine.ticks i).bus.memory.pending = 0) :
    { machine.ticks (n + 1) with frames := 0 } =
      { machine.passTime (4 * (n + 1)) with frames := 0 } := by
  -- by induction on the ticks: each adds four cycles to a stretch that is merged already
  induction n with
  | zero =>
      have hfirst : machine.ticks 0 = machine := rfl
      rw [ticks_succ, hfirst, tick_of_idle hhalted (hquiet 0 Nat.one_pos)]
  | succ n ih =>
      have hbefore := ih fun i hi => hquiet i (Nat.lt_succ_of_lt hi)
      have hcpu : (machine.ticks (n + 1)).cpu = (machine.passTime (4 * (n + 1))).cpu :=
        congrArg (·.cpu) hbefore
      have hstill : (machine.ticks (n + 1)).cpu.halted = true := by
        rw [hcpu, cpu_passTime]
        exact hhalted
      rw [ticks_succ, tick_of_idle hstill (hquiet (n + 1) (Nat.lt_succ_self _)),
        passTime_of_frames hbefore]
      exact (passTime_add h (4 * (n + 1)) 4).symm

/-! ### Reachable machines are ready -/

theorem ready_tick (hdot : machine.ppu.dot < Ppu.dotsPerLine) :
    Ppu.Ready machine.tick.value.1.ppu machine.tick.value.1.bus.memory := by
  rw [value_tick]
  exact Ppu.ready_run_of_pos hdot (Cpu.duration_pos _ _)

/-- Keys do not touch what the video unit looks at. -/
theorem ready_of_keys {ppu : Ppu} {first second : Memory} (h : Ppu.Ready ppu first)
    (hsame : SameOutside [Address.joypad, Address.interruptRequest] first second) :
    Ppu.Ready ppu second :=
  h.congr (hsame Address.line (by decide)) (hsame Address.lcdControl (by decide))

/-- The mode of a halted machine is that of its position: some tick has come before. -/
theorem Reachable.ready {history : List (UInt16 × Instruction)} (h : Reachable machine history) :
    machine.ppu.dot < Ppu.dotsPerLine ∧
      (machine.cpu.halted = true → Ppu.Ready machine.ppu machine.bus.memory) := by
  induction h with
  | initial hinitial =>
      -- at the start the processor is awake, so only the dot is asked for
      cases hinitial <;>
        exact ⟨(by decide : 0 < Ppu.dotsPerLine), fun hhalted => absurd hhalted Bool.false_ne_true⟩
  | @respond machine history event _ ih =>
      -- a tick leaves the unit ready in any case; a key changes no cell that this depends on
      cases event with
      | tick =>
          have hready := ready_tick ih.1
          exact ⟨hready.dot_lt, fun _ => hready⟩
      | press key =>
          have hsame := machine.bus.sameOutside_press key
          exact ⟨ih.1, fun hhalted => ready_of_keys (ih.2 hhalted) hsame⟩
      | release key =>
          have hsame := machine.bus.sameOutside_release key
          exact ⟨ih.1, fun hhalted => ready_of_keys (ih.2 hhalted) (hsame.mono (by decide))⟩

/-! ## The wake-up -/

/-- A halted processor that wakes up with interrupts on serves one, which returns to the instruction
after the halt. -/
theorem wake_of_on (hbug : machine.cpu.haltBug = false) (hon : machine.cpu.ime = true)
    (hpending : machine.bus.memory.pending ≠ 0) :
    ∃ source, machine.acknowledged = [source] ∧ machine.executedBy .tick = [] ∧
      Cpu.programWrites machine.nextStep =
        [⟨machine.cpu.sp - 1, Word.high machine.cpu.pc⟩,
          ⟨machine.cpu.sp - 2, Word.low machine.cpu.pc⟩] ∧
      (machine.respond .tick).cpu.halted = false ∧
      (machine.respond .tick).cpu.pc = source.vector := by
  obtain ⟨source, hserved⟩ := Cpu.exists_served hon hpending
  obtain ⟨hacknowledged, hexecuted, hwrites, hafter⟩ := tick_of_served hserved
  -- no repeat is due, so the return address is the counter itself
  have hreturn : machine.cpu.returnAddress = machine.cpu.pc := by
    rw [Cpu.returnAddress, hbug]
    rfl
  rw [hreturn] at hwrites
  exact ⟨source, hacknowledged, hexecuted, hwrites, by rw [hafter], by rw [hafter]⟩

/-- A halted processor that wakes up with interrupts off executes the next instruction, and only
STOP halts it again. -/
theorem wake_of_off (hbug : machine.cpu.haltBug = false) (hoff : machine.cpu.ime = false)
    (hpending : machine.bus.memory.pending ≠ 0) :
    let next := machine.bus.memory.instructionAt machine.cpu.pc
    machine.acknowledged = [] ∧ machine.executedBy .tick = [(machine.cpu.pc, next)] ∧
      (machine.respond .tick).cpu =
        (machine.cpu.wake.step machine.bus.memory).cpu ∧
      ((machine.respond .tick).cpu.halted = true ↔ next = .stop) := by
  intro next
  have hserved := Cpu.served?_of_off hoff machine.bus.memory
  have hbusy : ¬ (machine.cpu.halted = true ∧ machine.bus.memory.pending = 0) := fun hidle =>
    hpending hidle.2
  have hwoken : machine.cpu.wake.served? machine.bus.memory = none := hserved
  have hawake : machine.cpu.wake.halted = false := rfl
  have hfetched : (machine.cpu.wake.fetchInstruction machine.bus.memory).1 = next :=
    Cpu.fst_fetchInstruction hbug
  have hcpu : (machine.respond .tick).cpu = (machine.cpu.wake.step machine.bus.memory).cpu := by
    rw [respond, cpu_tick, nextStep, Cpu.step_of_woken hserved hbusy]
  -- the control state after the tick is decided by the instruction behind the halt
  have hcontrol : (machine.respond .tick).cpu.control =
      machine.cpu.wake.control.run true next := by
    rw [hcpu, Cpu.control_step_of_awake hawake hwoken, bne_iff_ne.mpr hpending, hfetched]
  refine ⟨?_, ?_, hcpu, ?_⟩
  · rw [acknowledged_eq, hserved]
    rfl
  · rw [executedBy_tick_of_running hserved hbusy, hfetched]
  · have hhalted := congrArg Control.halted hcontrol
    rw [show (machine.respond .tick).cpu.halted = _ from hhalted]
    exact Control.halted_run_iff rfl hoff

/-! ## Fast-forwarding -/

/-- **Halted machines may be fast-forwarded.**  As long as a halted processor finds no interrupt
pending, its ticks come to the same as letting all their cycles go by at once, the count of frames
aside: only the cycle counter of the processor changes, and of memory only the registers that keep
the time.  The first tick that finds one wakes the processor up, and it serves the interrupt in that
tick, or executes the next instruction if interrupts are off. -/
theorem fastForward {history : List (UInt16 × Instruction)} (h : Reachable machine history)
    (hhalted : machine.cpu.halted = true) {n : Nat}
    (hquiet : ∀ i < n, (machine.ticks i).bus.memory.pending = 0) :
    let after := machine.ticks n
    (1 ≤ n →
      { after with frames := 0 } = { machine.passTime (4 * n) with frames := 0 }) ∧
    after.cpu = { machine.cpu with cycles := machine.cpu.cycles + 4 * n } ∧
    SameOutside clockCells machine.bus.memory after.bus.memory ∧
    (after.bus.memory.pending ≠ 0 →
      (machine.cpu.ime = true →
        ∃ source, after.acknowledged = [source] ∧ after.executedBy .tick = [] ∧
          Cpu.programWrites after.nextStep =
            [⟨machine.cpu.sp - 1, Word.high machine.cpu.pc⟩,
              ⟨machine.cpu.sp - 2, Word.low machine.cpu.pc⟩] ∧
          (after.respond .tick).cpu.halted = false ∧
          (after.respond .tick).cpu.pc = source.vector) ∧
      (machine.cpu.ime = false →
        let next := after.bus.memory.instructionAt machine.cpu.pc
        after.acknowledged = [] ∧ after.executedBy .tick = [(machine.cpu.pc, next)] ∧
          (after.respond .tick).cpu =
            (after.cpu.wake.step after.bus.memory).cpu ∧
          ((after.respond .tick).cpu.halted = true ↔ next = .stop))) := by
  intro after
  have hready := h.ready.2 hhalted
  -- being reachable is what rules out a repeat that is still due
  obtain ⟨-, hbug⟩ := h.controlled.of_halted hhalted
  have hmerged (hn : 1 ≤ n) :
      { after with frames := 0 } = { machine.passTime (4 * n) with frames := 0 } := by
    obtain ⟨n, rfl⟩ := Nat.exists_eq_add_of_le' hn
    exact ticks_of_quiet hready hhalted n hquiet
  have hstill : after.cpu = { machine.cpu with cycles := machine.cpu.cycles + 4 * n } ∧
      SameOutside clockCells machine.bus.memory after.bus.memory := by
    rcases Nat.eq_zero_or_pos n with rfl | hn
    · exact ⟨rfl, .refl _⟩
    · have hcpu : after.cpu = (machine.passTime (4 * n)).cpu := congrArg (·.cpu) (hmerged hn)
      have hmemory : after.bus.memory = (machine.passTime (4 * n)).bus.memory :=
        congrArg (·.bus.memory) (hmerged hn)
      rw [hcpu, hmemory]
      exact ⟨cpu_passTime machine _, sameOutside_passTime machine _⟩
  obtain ⟨hcpu, hsame⟩ := hstill
  have hbug' : after.cpu.haltBug = false := by
    rw [hcpu]
    exact hbug
  refine ⟨hmerged, hcpu, hsame, fun hpending => ⟨fun hon => ?_, fun hoff => ?_⟩⟩
  · have hon' : after.cpu.ime = true := by
      rw [hcpu]
      exact hon
    have hwake := wake_of_on hbug' hon' hpending
    rwa [hcpu] at hwake
  · have hoff' : after.cpu.ime = false := by
      rw [hcpu]
      exact hoff
    have hwake := wake_of_off hbug' hoff' hpending
    rwa [show after.cpu.pc = machine.cpu.pc from congrArg (·.pc) hcpu] at hwake

/-- A processor for which no source is enabled sleeps on. -/
theorem ticks_of_masked (hhalted : machine.cpu.halted = true)
    (hmasked : machine.bus.memory.read Address.interruptEnable = 0) (n : Nat) :
    (machine.ticks n).cpu.halted = true ∧ (machine.ticks n).bus.memory.pending = 0 ∧
      SameOutside clockCells machine.bus.memory (machine.ticks n).bus.memory := by
  -- the enabled sources are not among the clock cells, so the mask stays
  have hquiet {memory : Memory} (hsame : SameOutside clockCells machine.bus.memory memory) :
      memory.pending = 0 := by
    rw [Memory.pending, (hsame Address.interruptEnable (by decide)).trans hmasked, UInt8.and_zero,
      UInt8.zero_and]
  induction n with
  | zero => exact ⟨hhalted, hquiet (.refl _), .refl _⟩
  | succ n ih =>
      obtain ⟨hstill, hpending, hsame⟩ := ih
      rw [ticks_succ, tick_of_idle hstill hpending]
      have hafter := hsame.trans (sameOutside_passTime (machine.ticks n) 4)
      refine ⟨?_, hquiet hafter, hafter⟩
      rw [cpu_passTime]
      exact hstill

/-- A tick that executes HALT with nothing pending. -/
theorem tick_of_halt (hoff : machine.cpu.InterruptsOff)
    (hopcode : machine.bus.memory.read machine.cpu.pc = 0x76)
    (hpending : machine.bus.memory.pending = 0) :
    (machine.respond .tick).cpu.control = ⟨true, false, 0, false⟩ ∧
      (machine.respond .tick).cpu.pc = machine.cpu.pc + 1 ∧
      (machine.respond .tick).bus.joypad = machine.bus.joypad ∧
      SameOutside clockCells machine.bus.memory (machine.respond .tick).bus.memory := by
  have hserved := Cpu.served?_of_off hoff.off machine.bus.memory
  have hstep : machine.nextStep = _ := Cpu.step_of_awake hoff.awake hserved
  have hhalt : (machine.cpu.fetchInstruction machine.bus.memory).1 = .halt := by
    rw [Cpu.fst_fetchInstruction hoff.advances, Memory.instructionAt, hopcode]
    rfl
  have hcontrol : machine.cpu.control = ⟨false, false, 0, false⟩ := by
    rw [Cpu.control, hoff.awake, hoff.off, hoff.unscheduled, hoff.advances]
  -- a halt writes nothing
  have hbus : machine.writtenBus = machine.bus := by
    rw [writtenBus, hstep, Cpu.writes_runInstruction_of_halt hhalt]
    rfl
  refine ⟨?_, ?_, ?_, ?_⟩
  · rw [respond, cpu_tick, nextStep, Cpu.control_step_of_awake hoff.awake hserved, hhalt, hcontrol,
      hpending]
    rfl
  · rw [respond, cpu_tick, hstep]
    exact Cpu.pc_runInstruction_of_halt hoff.advances hhalt
  · rw [respond, value_tick, timed, Timer.bus_advance, hbus]
  · rw [← hbus]
    exact machine.sameOutside_tick

/-- HALT at the entry point, and the given sources enabled. -/
def sleepCells (enabled : UInt8) : Nat → UInt8
  | 0x0100 => 0x76
  | 0xFFFF => enabled
  | _ => 0x00

theorem reachable_sleep (enabled : UInt8) :
    ∃ machine, Reachable machine [(0x0100, .halt)] ∧
      machine.cpu.control = ⟨true, false, 0, false⟩ ∧ machine.cpu.pc = 0x0101 ∧
      machine.bus.joypad.pressAlerts .a = true ∧
      machine.bus.memory.read Address.interruptEnable = enabled ∧
      machine.bus.memory.read 0x0101 = 0 := by
  have hinitial := Reachable.initial (Initial.start (wholeImage (sleepCells enabled)))
  have hread := read_start_wholeImage (sleepCells enabled)
  have hcpu : (Machine.start (wholeImage (sleepCells enabled))).value.cpu = Cpu.powerOn := rfl
  have hselected : (Machine.start (wholeImage (sleepCells enabled))).value.bus.joypad =
      Joypad.idle.writeSelect 0 := rfl
  -- the machine is a large closed term; only the facts above are needed of it
  generalize (Machine.start (wholeImage (sleepCells enabled))).value = first
    at hinitial hread hcpu hselected
  have hoff : first.cpu.InterruptsOff := by
    rw [hcpu]
    exact ⟨rfl, rfl, rfl, rfl⟩
  have hopcode : first.bus.memory.read first.cpu.pc = 0x76 := by
    rw [hread, hcpu]
    rfl
  have hpending : first.bus.memory.pending = 0 := by
    rw [Memory.pending, hread, show sleepCells enabled Address.interruptRequest.toNat = 0 from rfl,
      UInt8.zero_and, UInt8.zero_and]
  obtain ⟨hcontrol, hpc, hjoypad, hsame⟩ := tick_of_halt hoff hopcode hpending
  have hexecuted : first.executedBy .tick = [(0x0100, .halt)] := by
    rw [executedBy, nextStep, Cpu.executed_step_of_awake hoff.awake hoff.advances
      (Cpu.served?_of_off hoff.off _), Memory.instructionAt, hopcode, hcpu]
    rfl
  have hreaches := hinitial.respond .tick
  rw [hexecuted] at hreaches
  refine ⟨_, hreaches, hcontrol, ?_, ?_, ?_, ?_⟩
  · rw [hpc, hcpu]
    rfl
  · rw [hjoypad, hselected]
    decide
  · exact (hsame _ (by decide)).trans (hread _)
  · exact (hsame 0x0101 (by decide)).trans (hread 0x0101)

/-- A sleeping processor with all sources masked sleeps through a whole frame; and one that is
waiting for a key wakes up in the first tick after it is pressed. -/
theorem fastForward_sleep :
    (∃ machine history, Reachable machine history ∧ machine.cpu.halted = true ∧
      (∀ i < 17556, (machine.ticks i).bus.memory.pending = 0) ∧
      { machine.ticks 17556 with frames := 0 } = { machine.passTime 70224 with frames := 0 }) ∧
    ∃ machine history, Reachable machine history ∧ machine.cpu.halted = true ∧
      machine.bus.memory.pending ≠ 0 ∧ machine.executedBy .tick = [(0x0101, .nop)] ∧
      (machine.respond .tick).cpu.halted = false := by
  refine ⟨?_, ?_⟩
  · -- everything masked: nothing is pending for a whole frame
    obtain ⟨machine, hreaches, hcontrol, -, -, hmasked, -⟩ := reachable_sleep 0
    have hhalted : machine.cpu.halted = true := congrArg Control.halted hcontrol
    have hquiet (i : Nat) (_ : i < 17556) : (machine.ticks i).bus.memory.pending = 0 :=
      (ticks_of_masked hhalted hmasked i).2.1
    obtain ⟨hmerged, -⟩ := fastForward hreaches hhalted hquiet
    exact ⟨machine, _, hreaches, hhalted, hquiet, hmerged (by decide)⟩
  · -- the joypad enabled: a key wakes the machine in front of a NOP
    obtain ⟨machine, hreaches, hcontrol, hpc, hkeys, henabled, hnext⟩ := reachable_sleep 0x10
    have hhalted : machine.cpu.halted = true := congrArg Control.halted hcontrol
    have hoff : machine.cpu.ime = false := congrArg Control.ime hcontrol
    have hpressed := hreaches.respond (.press .a)
    have hsame : SameOutside [Address.joypad, Address.interruptRequest] machine.bus.memory
        (machine.respond (.press .a)).bus.memory := machine.bus.sameOutside_press .a
    have hpending : (machine.respond (.press .a)).bus.memory.pending ≠ 0 :=
      pending_press_of_alerts hkeys (by rw [henabled]; decide)
    have hquiet (i : Nat) (hi : i < 0) :
        ((machine.respond (.press .a)).ticks i).bus.memory.pending = 0 :=
      absurd hi (Nat.not_lt_zero i)
    obtain ⟨-, -, -, hwakes⟩ := fastForward hpressed hhalted hquiet
    obtain ⟨-, hexecuted, -, hstops⟩ := (hwakes hpending).2 hoff
    have hstart : (machine.respond (.press .a)).ticks 0 = machine.respond (.press .a) := rfl
    have hplace : (machine.respond (.press .a)).cpu.pc = 0x0101 := hpc
    have hnop : (machine.respond (.press .a)).bus.memory.instructionAt 0x0101 = .nop := by
      rw [Memory.instructionAt, hsame 0x0101 (by decide), hnext]
      rfl
    rw [hstart, hplace, hnop] at hexecuted hstops
    refine ⟨_, _, hpressed, hhalted, hpending, hexecuted, ?_⟩
    rw [Bool.eq_false_iff]
    exact fun hhalts => absurd (hstops.mp hhalts) (by decide)

end Machine

end GameBoy
