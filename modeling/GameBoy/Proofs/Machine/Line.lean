import Mathlib.Logic.Function.Iterate
import GameBoy.Proofs.Machine.Settled

/-!
# The line register while the display is on

The line register is a plain cell: the video unit counts in it, and a program that writes to it
moves the unit.  While the display is on, a tick makes at most one step of the count, from the byte
that the program has left there, `line_tick`; so the register stays among the lines of a frame as
long as no program writes a byte beyond them, `line_foldl_respond`, and `line_of_lit` puts the two
together.

A program that does write such a byte is `strayProgram`.
-/

namespace GameBoy

/-! ## The lines that a run enters -/

namespace Ppu

theorem lineAfter_le (line : UInt8) : lineAfter line ≤ 153 := by
  unfold lineAfter
  split
  · decide
  · rename_i hline
    have hlt : line.toNat < 153 := Nat.lt_of_not_le fun hle => hline (UInt8.le_iff_toNat_le.mpr hle)
    rw [UInt8.le_iff_toNat_le, UInt8.toNat_add]
    show (line.toNat + 1) % 256 ≤ 153
    omega

namespace Run

/-- Within a line, an advance enters the next line if it gets there. -/
theorem line_advance {run : Run} {dots : Nat} (h : run.ppu.dot + dots ≤ 456) :
    (run.advance dots).value.memory.line =
        lineAfter^[(run.ppu.dot + dots) / 456] run.memory.line ∧
      (run.advance dots).value.ppu.dot = (run.ppu.dot + dots) % 456 := by
  -- the chunk stays within the line or ends with it
  rcases Nat.lt_or_eq_of_le h with hlt | hend
  · rw [line_advance_of_lt run hlt, dot_advance_of_lt run hlt, Nat.div_eq_of_lt hlt,
      Nat.mod_eq_of_lt hlt]
    exact ⟨rfl, rfl⟩
  · have hge : dotsPerLine ≤ run.ppu.dot + dots := Nat.le_of_eq hend.symm
    rw [line_advance_of_le run hge, dot_advance_of_le run hge, hend]
    exact ⟨rfl, rfl⟩

/-- A walk enters a line each time its dots fill one, wherever software has put the register. -/
theorem line_walk {run : Run} (h : run.ppu.dot < 456) (dots : Nat) :
    (walk dots run).value.memory.line =
      lineAfter^[(run.ppu.dot + dots) / 456] run.memory.line := by
  -- by the recursion of the walk, with a chunk that does not go past the end of the line
  induction dots, run using walk.induct with
  | case1 dots run hwalk chunk ih =>
      have hboundary : boundary run.ppu.dot ≤ 456 := boundary_le run.ppu.dot
      have hroom : run.ppu.dot < boundary run.ppu.dot := lt_boundary h
      have hchunk : run.ppu.dot + chunk ≤ 456 := by omega
      have hle : chunk ≤ dots := Nat.min_le_left _ _
      obtain ⟨hline, hdot⟩ := line_advance hchunk
      have hnext : (run.advance chunk).value.ppu.dot < 456 := (aligned_advance hchunk).dot_lt
      -- the lines entered by the first chunk and by the rest are those of the whole walk
      have hlines : (run.ppu.dot + dots) / 456 =
          ((run.ppu.dot + chunk) % 456 + (dots - chunk)) / 456 + (run.ppu.dot + chunk) / 456 := by
        omega
      rw [walk_of_pos run h hwalk.1, Logged.value_bind, ih _ hnext, hdot, hline, hlines,
        Function.iterate_add_apply]
  | case2 dots run hwalk =>
      have hzero : dots = 0 := Nat.eq_zero_of_not_pos fun hpos => hwalk ⟨hpos, h⟩
      subst hzero
      rw [walk_zero, Nat.add_zero, Nat.div_eq_of_lt h]
      rfl

end Run

/-- A run that takes no longer than a line enters one line at most. -/
theorem line_run_of_short {ppu : Ppu} {memory : Memory}
    (henabled : LcdControl.lcdEnabled memory.lcdControl = true) (hon : ppu.lcdOn = true)
    (hdot : ppu.dot < 456) {cycles : Nat} (hcycles : cycles ≤ 456) :
    (ppu.run memory cycles).value.memory.line =
      if ppu.dot + cycles < 456 then memory.line else lineAfter memory.line := by
  rw [run_of_enabled henabled, switchOn_of_lcdOn hon, pure_bind, Run.line_walk hdot]
  dsimp only
  split
  · rename_i hlt
    rw [Nat.div_eq_of_lt hlt]
    rfl
  · -- at most 456 dots from within a line end it at most once
    have hone : (ppu.dot + cycles) / 456 = 1 := by omega
    rw [hone]
    rfl

end Ppu

namespace Machine

/-! ## Ticks -/

/-- The byte in the line register after the next step of the processor. -/
def lineLeft (machine : Machine) : UInt8 :=
  Bus.latest Address.line machine.bus.memory.line machine.nextStep.writes

variable {machine : Machine}

theorem lineLeft_eq (h : machine.nextStep.writesTo Address.line = false) :
    machine.lineLeft = machine.bus.memory.line := by
  have hplain : Bus.Plain Address.line := .of_lt (by decide)
  have hread := Bus.read_writeAll machine.bus machine.nextStep.writes hplain (by decide)
  exact hread.symm.trans (read_writtenBus hplain h)

theorem line_timed_eq (machine : Machine) :
    machine.timed.bus.memory.line = machine.lineLeft := by
  have hplain : Bus.Plain Address.line := .of_lt (by decide)
  have htimed : machine.timed.bus.memory.line = machine.writtenBus.memory.line :=
    Timer.sameOutside_advance _ _ _ Address.line (by decide)
  exact htimed.trans (Bus.read_writeAll _ _ hplain (by decide))

theorem lcdControl_timed (machine : Machine) :
    machine.timed.bus.memory.lcdControl = machine.tick.value.1.bus.memory.lcdControl := by
  rw [value_tick]
  exact (Ppu.lcdControl_eq (Ppu.sameOutside_run _ _ _)).symm

section

variable (hlit : LcdControl.lcdEnabled machine.tick.value.1.bus.memory.lcdControl = true)
include hlit

theorem lcdOn_tick : machine.tick.value.1.ppu.lcdOn = true := by
  rw [← lcdControl_timed] at hlit
  rw [value_tick]
  exact Ppu.lcdOn_run hlit _

/-- While the display is on, a tick enters one line at most, from the byte that the program has left
in the register. -/
theorem line_tick (hon : machine.ppu.lcdOn = true) (hdot : machine.ppu.dot < 456) :
    machine.tick.value.1.bus.memory.line =
      if machine.ppu.dot + machine.nextStep.duration < 456 then machine.lineLeft
      else Ppu.lineAfter machine.lineLeft := by
  have hduration := machine.isDuration_nextStep.le
  rw [← lcdControl_timed] at hlit
  rw [value_tick, ← line_timed_eq]
  exact Ppu.line_run_of_short hlit hon hdot (by omega)

end

/-! ## Runs -/

/-- The display is on at the start and after each of the calls. -/
def StaysLit (machine : Machine) (events : List Event) : Prop :=
  ∀ earlier later, events = earlier ++ later →
    LcdControl.lcdEnabled (earlier.foldl respond machine).bus.memory.lcdControl = true

/-- No step of the processor during the calls writes a byte beyond the last line to the line
register. -/
def KeepsLine (machine : Machine) (events : List Event) : Prop :=
  ∀ earlier later, events = earlier ++ .tick :: later →
    ∀ w ∈ (earlier.foldl respond machine).nextStep.writes, w.address = Address.line → w.value ≤ 153

variable {event : Event} {events rest : List Event}

theorem StaysLit.tail (h : machine.StaysLit (event :: rest)) :
    (machine.respond event).StaysLit rest :=
  fun earlier later hrest => h (event :: earlier) later (congrArg (event :: ·) hrest)

theorem StaysLit.of_append (h : machine.StaysLit (events ++ rest)) : machine.StaysLit events :=
  fun earlier later hevents => h earlier (later ++ rest) (by rw [hevents, List.append_assoc])

theorem KeepsLine.tail (h : machine.KeepsLine (event :: rest)) :
    (machine.respond event).KeepsLine rest :=
  fun earlier later hrest => h (event :: earlier) later (congrArg (event :: ·) hrest)

theorem lcdOn_respond (hon : machine.ppu.lcdOn = true)
    (hlit : LcdControl.lcdEnabled (machine.respond event).bus.memory.lcdControl = true) :
    (machine.respond event).ppu.lcdOn = true := by
  cases event with
  | tick => exact lcdOn_tick hlit
  | press key => exact hon
  | release key => exact hon

theorem lcdOn_foldl_respond (hon : machine.ppu.lcdOn = true) (hlit : machine.StaysLit events) :
    (events.foldl respond machine).ppu.lcdOn = true := by
  induction events generalizing machine with
  | nil => exact hon
  | cons event rest ih => exact ih (lcdOn_respond hon (hlit [event] rest rfl)) hlit.tail

/-- A cell that takes no byte above a bound does not get above it. -/
theorem latest_le {address : UInt16} {old bound : UInt8} {writes : List Write} (hold : old ≤ bound)
    (hwrites : ∀ w ∈ writes, w.address = address → w.value ≤ bound) :
    Bus.latest address old writes ≤ bound := by
  induction writes generalizing old with
  | nil => exact hold
  | cons first rest ih =>
      have hfirst : (if first.address = address then first.value else old) ≤ bound := by
        split
        · exact hwrites first List.mem_cons_self ‹_›
        · exact hold
      exact ih hfirst fun w hw => hwrites w (List.mem_cons_of_mem first hw)

theorem line_respond_le (hrange : machine.InRange) (hon : machine.ppu.lcdOn = true)
    (hlit : LcdControl.lcdEnabled (machine.respond event).bus.memory.lcdControl = true)
    (hline : machine.bus.memory.line ≤ 153)
    (hwrites : event = .tick →
      ∀ w ∈ machine.nextStep.writes, w.address = Address.line → w.value ≤ 153) :
    (machine.respond event).bus.memory.line ≤ 153 := by
  cases event with
  | tick =>
      rw [respond, line_tick hlit hon hrange.dot_lt]
      -- what the program wrote stays, or the next line is entered, which is in range in any case
      split
      · exact latest_le hline (hwrites rfl)
      · exact Ppu.lineAfter_le _
  | press key =>
      have hkept : (machine.press key).value.bus.memory.line = machine.bus.memory.line :=
        machine.bus.sameOutside_press key Address.line (by decide)
      rw [respond, hkept]
      exact hline
  | release key =>
      have hkept : (machine.release key).bus.memory.line = machine.bus.memory.line :=
        machine.bus.sameOutside_release key Address.line (by decide)
      rw [respond, hkept]
      exact hline

/-- The register stays among the lines of a frame unless a program writes another byte to it. -/
theorem line_foldl_respond (hrange : machine.InRange) (hon : machine.ppu.lcdOn = true)
    (hline : machine.bus.memory.line ≤ 153) (hlit : machine.StaysLit events)
    (hkeeps : machine.KeepsLine events) :
    (events.foldl respond machine).bus.memory.line ≤ 153 := by
  -- by induction on the events; the display is lit after each of them
  induction events generalizing machine with
  | nil => exact hline
  | cons event rest ih =>
      have hafter := hlit [event] rest rfl
      refine ih (hrange.respond event) (lcdOn_respond hon hafter) ?_ hlit.tail hkeeps.tail
      apply line_respond_le hrange hon hafter hline
      rintro rfl
      exact hkeeps [] rest rfl

/-- **The line register while the display is on.**  In a run during which the display stays on,
each tick leaves in the line register the byte that it found there, or the one that its step of
the processor wrote last, or the line after it if the dots of the tick fill the line.  As long as
no step writes a byte beyond the last line, the register is among the lines of a frame. -/
theorem line_of_lit {image : ByteArray} (himage : image.size ≤ 0xFF00) {events : List Event}
    (hlit : (Machine.start image).value.StaysLit (events ++ [.tick])) :
    let start := (Machine.start image).value
    let before := events.foldl respond start
    let after := before.respond .tick
    (after.bus.memory.line =
      if before.ppu.dot + before.nextStep.duration < 456 then before.lineLeft
      else Ppu.lineAfter before.lineLeft) ∧
    (before.nextStep.writesTo Address.line = false → before.lineLeft = before.bus.memory.line) ∧
    (start.KeepsLine (events ++ [.tick]) → after.bus.memory.line ≤ 153) := by
  intro start before after
  have hrange : start.InRange := inRange_start himage
  have hon : before.ppu.lcdOn = true := lcdOn_foldl_respond rfl hlit.of_append
  have hall : (events ++ [Event.tick]).foldl respond start = after := List.foldl_append
  have hafter : LcdControl.lcdEnabled after.bus.memory.lcdControl = true := by
    rw [← hall]
    exact hlit (events ++ [Event.tick]) [] (List.append_nil _).symm
  refine ⟨line_tick hafter hon (hrange.foldl_respond events).dot_lt, lineLeft_eq, fun hkeeps => ?_⟩
  have hline : start.bus.memory.line ≤ 153 := by
    rw [line_start himage]
    decide
  rw [← hall]
  exact line_foldl_respond hrange rfl hline hlit hkeeps

/-! ### Two programs -/

theorem lcdControl_tick (h : machine.nextStep.writesTo Address.lcdControl = false) :
    machine.tick.value.1.bus.memory.lcdControl = machine.bus.memory.lcdControl :=
  (machine.sameOutside_tick Address.lcdControl (by decide)).trans
    (read_writtenBus (.of_lt (by decide)) h)

/-- From power-on, a first step that does not write the control register leaves the display on. -/
theorem staysLit_start {image : ByteArray} (himage : image.size ≤ 0xFF00)
    (h : (Machine.start image).value.nextStep.writesTo Address.lcdControl = false) :
    (Machine.start image).value.StaysLit [.tick] := by
  have hcontrol := lcdControl_start himage
  have hstart : LcdControl.lcdEnabled (Machine.start image).value.bus.memory.lcdControl = true := by
    rw [hcontrol]
    rfl
  -- a run of one tick has two moments, before it and after it
  intro earlier later hevents
  rcases List.append_eq_singleton_iff.mp hevents.symm with ⟨rfl, -⟩ | ⟨rfl, -⟩
  · exact hstart
  · rw [List.foldl_cons, List.foldl_nil, respond, lcdControl_tick h]
    exact hstart

theorem keepsLine_tick (h : machine.nextStep.writesTo Address.line = false) :
    machine.KeepsLine [.tick] := by
  intro earlier later hevents w hw haddress
  cases earlier with
  | nil => exact absurd (decide_eq_true haddress) (List.any_eq_false.mp h w hw)
  | cons first rest => simp at hevents

/-- After the first tick of a program that keeps off the register, the unit is still in line 0. -/
theorem line_of_lit_dividerProgram :
    let start := (Machine.start dividerProgram).value
    dividerProgram.size ≤ 0xFF00 ∧ start.StaysLit [.tick] ∧ start.KeepsLine [.tick] ∧
      (start.respond .tick).bus.memory.line = 0 ∧ (start.respond .tick).bus.memory.line ≤ 153 := by
  dsimp only
  obtain ⟨hwrites, hduration⟩ := nextStep_dividerProgram
  have hcontrol : (Machine.start dividerProgram).value.nextStep.writesTo Address.lcdControl =
      false := by
    rw [Step.writesTo, hwrites]
    decide
  have huntouched : (Machine.start dividerProgram).value.nextStep.writesTo Address.line =
      false := by
    rw [Step.writesTo, hwrites]
    decide
  have hlit := staysLit_start size_dividerProgram_le hcontrol
  have hkeeps := keepsLine_tick huntouched
  have hfirst : (Machine.start dividerProgram).value.StaysLit ([] ++ [.tick]) := hlit
  obtain ⟨hline, hleft, hbound⟩ := line_of_lit size_dividerProgram_le hfirst
  rw [List.foldl_nil] at hline hleft hbound
  rw [hduration, hleft huntouched, line_start size_dividerProgram_le] at hline
  exact ⟨size_dividerProgram_le, hlit, hkeeps, hline, hbound hkeeps⟩

/-- An image whose first instruction, at the entry point, is LD (FF44),SP. -/
def strayProgram : ByteArray := ⟨Array.replicate 256 0 ++ #[0x08, 0x44, 0xFF]⟩

theorem size_strayProgram : strayProgram.size = 259 := by
  simp [strayProgram, ByteArray.size]

/-- The first step from power-on, where it finds that store. -/
theorem step_strayProgram {memory : Memory} (hopcode : memory.read 0x100 = 0x08)
    (hlow : memory.read 0x101 = 0x44) (hhigh : memory.read 0x102 = 0xFF) :
    (Cpu.powerOn.step memory).writes = [⟨Address.line, 0xFE⟩, ⟨Address.lineCompare, 0xFF⟩] ∧
      (Cpu.powerOn.step memory).duration = 20 := by
  have hdecode : Instruction.decode (memory.read 0x0100) = .storeSp := by
    rw [hopcode]
    rfl
  have hword : memory.readWord 0x101 = 0xFF44 := by
    rw [Memory.readWord, hlow]
    show Word.ofBytes 0x44 (memory.read 0x102) = 0xFF44
    rw [hhigh]
    decide
  obtain ⟨hwrites, hduration⟩ := Cpu.step_powerOn hdecode (by decide)
  refine ⟨hwrites.trans ?_, hduration⟩
  show Write.word (memory.readWord 0x101) 0xFFFE = _
  rw [hword]
  decide

theorem nextStep_strayProgram :
    (Machine.start strayProgram).value.nextStep.writes =
        [⟨Address.line, 0xFE⟩, ⟨Address.lineCompare, 0xFF⟩] ∧
      (Machine.start strayProgram).value.nextStep.duration = 20 := by
  rw [nextStep_start]
  exact step_strayProgram (Memory.read_load_code (i := 0) _ (by decide) rfl)
    (Memory.read_load_code (i := 1) _ (by decide) rfl)
    (Memory.read_load_code (i := 2) _ (by decide) rfl)

/-- Its first tick leaves the register beyond the last line, where no count from line 0 has put
it. -/
theorem line_strayProgram :
    let start := (Machine.start strayProgram).value
    let line := (start.respond .tick).bus.memory.line
    strayProgram.size ≤ 0xFF00 ∧ start.StaysLit [.tick] ∧ start.bus.memory.line = 0 ∧
      line = 0xFE ∧ ¬ line ≤ 153 ∧ line ≠ start.bus.memory.line ∧
      line ≠ Ppu.lineAfter start.bus.memory.line := by
  dsimp only
  have hsize : strayProgram.size ≤ 0xFF00 := by
    rw [size_strayProgram]
    decide
  obtain ⟨hwrites, hduration⟩ := nextStep_strayProgram
  have hlit := staysLit_start hsize (by rw [Step.writesTo, hwrites]; decide)
  have hstart := line_start hsize
  -- a step of 20 cycles stays on the line, so the stray byte is what it shows
  have hline : ((Machine.start strayProgram).value.respond .tick).bus.memory.line = 0xFE := by
    have hafter := hlit [.tick] [] rfl
    rw [List.foldl_cons, List.foldl_nil, respond] at hafter
    rw [respond, line_tick hafter rfl (by decide : 0 < 456), hduration, lineLeft, hwrites]
    rfl
  rw [hline, hstart]
  exact ⟨hsize, hlit, rfl, rfl, by decide, by decide, by decide⟩

end Machine

end GameBoy
