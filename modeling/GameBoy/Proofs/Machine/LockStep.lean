import GameBoy.Proofs.Cpu.Running
import GameBoy.Proofs.Machine.Tick

/-!
# Processor, video unit and divider in lock step

`Reaches` describes the machines that come about by ticks and keys in any order, together with the
steps that the processor took.  The program is arbitrary, except that it keeps off the line
register and leaves the display on, `KeepsVideo`.

Such a machine is `InStep` with its own cycle counter: the position of the video unit and the
number of frames are the two parts of one number of dots, the divider and the cycles of the timer
the two parts of one number of cycles since the divider was last written.  The start is in step,
`inStep_start`, a tick keeps it, `InStep.tick`, keys have no influence, and `lockStep` sums up.
-/

namespace GameBoy

namespace Machine

open Memory (SameOutside)

/-! ## Runs -/

/-- The cycles of a list of steps. -/
def duration (steps : List Step) : Nat := (steps.map (·.duration)).sum

theorem duration_concat (steps : List Step) (step : Step) :
    duration (steps ++ [step]) = duration steps + step.duration := by
  simp [duration]

/-- The next step of the processor does not write the line register, and the display is on
after it. -/
structure KeepsVideo (machine : Machine) : Prop where
  line_not_written : machine.nextStep.writesTo Address.line = false
  display_on : LcdControl.lcdEnabled machine.stepCpu.value.1.bus.memory.lcdControl = true

/-- A machine started with the image gets there by ticks in which the processor takes the given
steps, with keys pressed and released in between. -/
inductive Reaches (image : ByteArray) : Machine → List Step → Prop
  | start : Reaches image (Machine.start image).value []
  | tick {machine : Machine} {steps : List Step} :
      Reaches image machine steps → machine.KeepsVideo →
        Reaches image machine.tick.value.1 (steps ++ [machine.nextStep])
  | press {machine : Machine} {steps : List Step} (key : Key) :
      Reaches image machine steps → Reaches image (machine.press key).value steps
  | release {machine : Machine} {steps : List Step} (key : Key) :
      Reaches image machine steps → Reaches image (machine.release key) steps

/-! ## Keeping in step -/

/-- The display is on, and its position and frames are those of the cycle counter. -/
structure InStep (machine : Machine) : Prop where
  lcdOn : machine.ppu.lcdOn = true
  enabled : LcdControl.lcdEnabled machine.bus.memory.lcdControl = true
  dot_lt : machine.ppu.dot < 456
  line_le : machine.bus.memory.line ≤ 153
  latch : machine.bus.dividerReset = false
  position_eq : machine.ppu.position machine.bus.memory = machine.cpu.cycles % 70224
  frames_eq : machine.frames = machine.cpu.cycles / 70224

theorem line_timed {machine : Machine} (h : machine.KeepsVideo) :
    machine.timed.bus.memory.line = machine.bus.memory.line := by
  have hplain : Bus.Plain Address.line := .of_lt (by decide)
  have hkept := read_writtenBus hplain h.line_not_written
  exact (Timer.sameOutside_advance _ _ _ Address.line (by decide)).trans hkept

theorem enabled_timed {machine : Machine} (h : machine.KeepsVideo) :
    LcdControl.lcdEnabled machine.timed.bus.memory.lcdControl = true := by
  have hkept : machine.timed.bus.memory.lcdControl = machine.writtenBus.memory.lcdControl :=
    Timer.sameOutside_advance _ _ _ Address.lcdControl (by decide)
  rw [hkept]
  exact h.display_on

theorem InStep.tick {machine : Machine} (h : machine.InStep) (hkeeps : machine.KeepsVideo) :
    machine.tick.value.1.InStep := by
  have henabled := enabled_timed hkeeps
  have hline : machine.timed.bus.memory.line ≤ 153 := by
    rw [line_timed hkeeps]
    exact h.line_le
  have hposition : machine.ppu.position machine.timed.bus.memory =
      machine.cpu.cycles % 70224 := by
    rw [Ppu.position, line_timed hkeeps]
    exact h.position_eq
  have hduration := machine.isDuration_nextStep.le
  have hframe := Ppu.inFrame_run henabled h.lcdOn h.dot_lt hline machine.nextStep.duration
  rw [value_tick]
  -- the unit runs from where the processor and the timer have left it alone
  constructor
  · exact Ppu.lcdOn_run henabled _
  · have hcontrol : machine.shown.memory.lcdControl = machine.timed.bus.memory.lcdControl :=
      Ppu.lcdControl_eq (Ppu.sameOutside_run _ _ _)
    rw [hcontrol]
    exact henabled
  · exact hframe.dot_lt
  · exact hframe.line_le
  · exact Timer.dividerReset_advance _ _ _
  · have hmoved : machine.shown.ppu.position machine.shown.memory =
        (machine.ppu.position machine.timed.bus.memory + machine.nextStep.duration) % 70224 :=
      Ppu.position_run henabled h.lcdOn h.dot_lt hline _
    rw [hmoved, hposition, Nat.mod_add_mod, cycles_nextStep]
  · have hdone : machine.shown.frameDone =
        decide (70224 ≤ machine.ppu.position machine.timed.bus.memory +
          machine.nextStep.duration) :=
      Ppu.frameDone_run henabled h.lcdOn h.dot_lt hline _
    show machine.frames + machine.shown.frameDone.toNat = _
    rw [hdone, hposition, h.frames_eq, cycles_nextStep]
    -- a step is shorter than a frame, so it ends one at most
    by_cases haround : 70224 ≤ machine.cpu.cycles % 70224 + machine.nextStep.duration
    · rw [decide_eq_true haround, Bool.toNat_true]
      omega
    · rw [decide_eq_false haround, Bool.toNat_false]
      omega

/-! ### Keys -/

/-- Nothing but the joypad and the requests is touched by the host, so the time stays as it is. -/
theorem InStep.withBus {machine : Machine} (h : machine.InStep) {bus : Bus}
    (hsame : SameOutside [Address.joypad, Address.interruptRequest] machine.bus.memory bus.memory)
    (hlatch : bus.dividerReset = machine.bus.dividerReset) : InStep { machine with bus } := by
  -- a key touches neither the line nor the control of the display
  have hline : bus.memory.line = machine.bus.memory.line := hsame Address.line (by decide)
  have hcontrol : bus.memory.lcdControl = machine.bus.memory.lcdControl :=
    hsame Address.lcdControl (by decide)
  refine ⟨h.lcdOn, ?_, h.dot_lt, ?_, hlatch.trans h.latch, ?_, h.frames_eq⟩
  · rw [hcontrol]
    exact h.enabled
  · rw [hline]
    exact h.line_le
  · rw [Ppu.position, hline]
    exact h.position_eq

theorem DividerAt.withBus {machine : Machine} {base elapsed : Nat}
    (h : machine.DividerAt base elapsed) {bus : Bus}
    (hsame : SameOutside [Address.joypad, Address.interruptRequest] machine.bus.memory
      bus.memory) : DividerAt { machine with bus } base elapsed := by
  have hread : bus.memory.read Address.divider = machine.bus.memory.read Address.divider :=
    hsame Address.divider (by decide)
  refine ⟨?_, h.cycles⟩
  rw [hread]
  exact h.divider

section

variable {machine : Machine} {base elapsed : Nat} (key : Key)

theorem InStep.press (h : machine.InStep) : (machine.press key).value.InStep :=
  h.withBus (machine.bus.sameOutside_press key) (machine.bus.dividerReset_press key)

theorem InStep.release (h : machine.InStep) : (machine.release key).InStep :=
  h.withBus ((machine.bus.sameOutside_release key).mono (by decide)) rfl

theorem DividerAt.press (h : machine.DividerAt base elapsed) :
    (machine.press key).value.DividerAt base elapsed :=
  h.withBus (machine.bus.sameOutside_press key)

theorem DividerAt.release (h : machine.DividerAt base elapsed) :
    (machine.release key).DividerAt base elapsed :=
  h.withBus ((machine.bus.sameOutside_release key).mono (by decide))

end

/-! ### The start -/

theorem memory_start (image : ByteArray) :
    (Machine.start image).value.bus.memory = Bus.powerOn.value.memory.load image :=
  rfl

theorem nextStep_start (image : ByteArray) :
    (Machine.start image).value.nextStep =
      Cpu.powerOn.step (Bus.powerOn.value.memory.load image) :=
  rfl

/-- At the start the registers are those of the boot program, whatever the image. -/
theorem read_start {image : ByteArray} (himage : image.size ≤ 0xFF00) {address : UInt16}
    (haddress : 0xFF00 < address.toNat) :
    (Machine.start image).value.bus.memory.read address =
      Bus.latest address 0 Bus.bootRegisters := by
  have hplain : Bus.Plain address := .of_lt haddress
  -- selecting the key groups changes no register but its own
  have hpowerOn : Bus.powerOn.value.memory.read address =
      (Bus.bootRegisters.foldl (fun memory w => memory.store w.address w.value)
        Memory.blank).read address :=
    (Bus.read_write _ ⟨Address.joypad, 0x00⟩ hplain).trans (if_neg hplain.ne_joypad)
  rw [memory_start, Memory.read_load_of_le _ (Nat.le_trans himage (Nat.le_of_lt haddress)),
    hpowerOn, Bus.read_foldl_store, Memory.read_blank]

theorem line_start {image : ByteArray} (himage : image.size ≤ 0xFF00) :
    (Machine.start image).value.bus.memory.line = 0 :=
  read_start himage (by decide)

theorem lcdControl_start {image : ByteArray} (himage : image.size ≤ 0xFF00) :
    (Machine.start image).value.bus.memory.lcdControl = 0x91 :=
  read_start himage (by decide)

theorem divider_start {image : ByteArray} (himage : image.size ≤ 0xFF00) :
    (Machine.start image).value.bus.memory.read Address.divider = 0xAB :=
  read_start himage (by decide)

theorem inStep_start {image : ByteArray} (himage : image.size ≤ 0xFF00) :
    (Machine.start image).value.InStep := by
  have hline := line_start himage
  constructor
  · rfl
  · rw [lcdControl_start himage]
    rfl
  · exact (by decide : 0 < 456)
  · rw [hline]
    decide
  · rfl
  · rw [Ppu.position, hline]
    rfl
  · exact (Nat.zero_div 70224).symm

theorem dividerAt_start {image : ByteArray} (himage : image.size ≤ 0xFF00) :
    (Machine.start image).value.DividerAt 0xAB 0 := by
  constructor
  · rw [divider_start himage]
    rfl
  · rfl

/-! ## All runs -/

theorem Reaches.inStep {image : ByteArray} (himage : image.size ≤ 0xFF00) {machine : Machine}
    {steps : List Step} (h : Reaches image machine steps) : machine.InStep := by
  induction h with
  | start => exact inStep_start himage
  | tick _ hkeeps ih => exact ih.tick hkeeps
  | press key _ ih => exact ih.press key
  | release key _ ih => exact ih.release key

theorem Reaches.cycles_eq {image : ByteArray} {machine : Machine} {steps : List Step}
    (h : Reaches image machine steps) : machine.cpu.cycles = duration steps := by
  induction h with
  | start => rfl
  | tick _ _ ih => rw [duration_concat, value_tick, cycles_nextStep, ih]
  | press key _ ih => exact ih
  | release key _ ih => exact ih

/-- A divider that no step has written counts from its value at the start. -/
theorem Reaches.dividerAt_of_untouched {image : ByteArray} (himage : image.size ≤ 0xFF00)
    {machine : Machine} {steps : List Step} (h : Reaches image machine steps)
    (huntouched : ∀ step ∈ steps, step.writesTo Address.divider = false) :
    machine.DividerAt 0xAB (duration steps) := by
  -- by induction on the run: a step adds its cycles, a key none
  induction h with
  | start => exact dividerAt_start himage
  | tick hreaches _ ih =>
      rw [duration_concat]
      refine DividerAt.tick (ih fun step hstep => ?_) (hreaches.inStep himage).latch ?_
      · exact huntouched step (List.mem_append_left _ hstep)
      · exact huntouched _ (List.mem_append_right _ List.mem_cons_self)
  | press key _ ih => exact (ih huntouched).press key
  | release key _ ih => exact (ih huntouched).release key

/-- A divider that was written counts from zero, since the last step that wrote it. -/
theorem Reaches.dividerAt_of_written {image : ByteArray} (himage : image.size ≤ 0xFF00)
    {machine : Machine} {steps : List Step} (h : Reaches image machine steps)
    {before since : List Step} {writer : Step} (hsteps : steps = before ++ writer :: since)
    (hwriter : writer.writesTo Address.divider = true)
    (hsince : ∀ step ∈ since, step.writesTo Address.divider = false) :
    machine.DividerAt 0 (duration (writer :: since)) := by
  induction h generalizing since with
  | start => exact absurd hsteps (by simp)
  | @tick machine steps hreaches _ ih =>
      -- the step just taken is the writer itself, or one of those since
      rcases List.eq_nil_or_concat since with rfl | ⟨earlier, last, rfl⟩
      · have hlast : machine.nextStep = writer := by
          have hend := (List.append_inj' hsteps rfl).2
          exact List.head_eq_of_cons_eq hend
        subst hlast
        exact dividerAt_tick_of_write hwriter
      · -- the write lies further back, and the step only adds its cycles
        rw [List.concat_eq_append] at hsteps hsince ⊢
        rw [← List.cons_append, ← List.append_assoc] at hsteps
        obtain ⟨hearlier, hlast⟩ := List.append_inj' hsteps rfl
        have hlast : machine.nextStep = last := List.head_eq_of_cons_eq hlast
        subst hlast
        rw [← List.cons_append, duration_concat]
        refine DividerAt.tick (ih hearlier fun step hstep => ?_) (hreaches.inStep himage).latch ?_
        · exact hsince step (List.mem_append_left _ hstep)
        · exact hsince _ (List.mem_append_right _ List.mem_cons_self)
  | press key _ ih => exact (ih hsteps hsince).press key
  | release key _ ih => exact (ih hsteps hsince).release key

/-- **Lock step.**  As long as the program keeps off the line register and leaves the display on,
the cycle counter alone tells the position of the video unit and the number of frames; and the
divider shows the cycles since the last step that wrote it, that step's own included, or, if there
was none, all cycles on top of its value at the start. -/
theorem lockStep {image : ByteArray} (himage : image.size ≤ 0xFF00) {machine : Machine}
    {steps : List Step} (h : Reaches image machine steps) :
    machine.cpu.cycles = duration steps ∧
      456 * machine.bus.memory.line.toNat + machine.ppu.dot = machine.cpu.cycles % 70224 ∧
      machine.frames = machine.cpu.cycles / 70224 ∧
      (∀ before writer since, steps = before ++ writer :: since →
        writer.writesTo Address.divider = true →
        (∀ step ∈ since, step.writesTo Address.divider = false) →
          machine.DividerAt 0 (duration (writer :: since))) ∧
      ((∀ step ∈ steps, step.writesTo Address.divider = false) →
        machine.DividerAt 0xAB (duration steps)) := by
  have hstep := h.inStep himage
  refine ⟨h.cycles_eq, hstep.position_eq, hstep.frames_eq, ?_, ?_⟩
  · intro before writer since hsteps hwriter hsince
    exact h.dividerAt_of_written himage hsteps hwriter hsince
  · exact h.dividerAt_of_untouched himage

/-- An image whose first instruction, at the entry point, stores A in the divider. -/
def dividerProgram : ByteArray := ⟨Array.replicate 256 0 ++ #[0xE0, 0x04]⟩

theorem size_dividerProgram : dividerProgram.size = 258 := by
  simp [dividerProgram, ByteArray.size]

theorem size_dividerProgram_le : dividerProgram.size ≤ 0xFF00 := by
  rw [size_dividerProgram]
  decide

/-- The first step from power-on, where it finds that store. -/
theorem step_dividerProgram {memory : Memory} (hopcode : memory.read 0x100 = 0xE0)
    (hoperand : memory.read 0x101 = 0x04) :
    (Cpu.powerOn.step memory).writes = [⟨Address.divider, 0x01⟩] ∧
      (Cpu.powerOn.step memory).duration = 12 := by
  have hdecode : Instruction.decode (memory.read 0x0100) = .load .high (.register .a) := by
    rw [hopcode]
    rfl
  obtain ⟨hwrites, hduration⟩ := Cpu.step_powerOn hdecode (by decide)
  refine ⟨hwrites.trans ?_, hduration⟩
  show [(⟨Cpu.highCell (memory.read 0x101), 0x01⟩ : Write)] = _
  rw [hoperand]
  rfl

theorem nextStep_dividerProgram :
    (Machine.start dividerProgram).value.nextStep.writes = [⟨Address.divider, 0x01⟩] ∧
      (Machine.start dividerProgram).value.nextStep.duration = 12 := by
  rw [nextStep_start]
  exact step_dividerProgram (Memory.read_load_code (i := 0) _ (by decide) rfl)
    (Memory.read_load_code (i := 1) _ (by decide) rfl)

theorem keepsVideo_dividerProgram : (Machine.start dividerProgram).value.KeepsVideo := by
  have hplain : Bus.Plain Address.lcdControl := .of_lt (by decide)
  obtain ⟨hwrites, -⟩ := nextStep_dividerProgram
  have hkept := (read_writtenBus hplain (by rw [Step.writesTo, hwrites]; decide)).trans
    (lcdControl_start size_dividerProgram_le)
  constructor
  · rw [Step.writesTo, hwrites]
    decide
  · rw [value_stepCpu]
    dsimp only
    rw [Memory.lcdControl, hkept]
    rfl

/-- The divider counts the cycles of the very store that cleared it. -/
theorem lockStep_dividerProgram :
    dividerProgram.size ≤ 0xFF00 ∧
      ∃ machine steps, Reaches dividerProgram machine steps ∧ machine.cpu.cycles = 12 ∧
        456 * machine.bus.memory.line.toNat + machine.ppu.dot = 12 ∧ machine.frames = 0 ∧
        machine.DividerAt 0 12 := by
  obtain ⟨hwrites, hduration⟩ := nextStep_dividerProgram
  have hreaches := Reaches.tick Reaches.start keepsVideo_dividerProgram
  obtain ⟨hcycles, hposition, hframes, hwritten, -⟩ := lockStep size_dividerProgram_le hreaches
  have hsum : duration [(Machine.start dividerProgram).value.nextStep] = 12 := by
    simp [duration, hduration]
  have hwriter : (Machine.start dividerProgram).value.nextStep.writesTo Address.divider = true := by
    rw [Step.writesTo, hwrites]
    decide
  have hdivider := hwritten [] _ [] rfl hwriter (by simp)
  rw [List.nil_append, hsum] at hcycles
  rw [hcycles] at hposition hframes
  rw [hsum] at hdivider
  exact ⟨size_dividerProgram_le, _, _, hreaches, hcycles, hposition, hframes, hdivider⟩

end Machine

end GameBoy
