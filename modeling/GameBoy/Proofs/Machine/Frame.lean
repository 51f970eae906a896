import GameBoy.Proofs.Machine.Exact
import GameBoy.Proofs.Machine.FastForward

/-!
# The run of a frame

`Machine.runFrame` ticks until a frame is completed, or until more cycles than those of a frame have
gone by.  `Stops` says at which tick that is, and what every tick before it has not done;
`stops_runUntil` finds it, by induction along the loop.  Since a tick takes four to 24 cycles, the
loop cannot go on for long, nor get far beyond its budget.

While the program leaves the display on and keeps off the line register, each tick moves the place
of the video unit by its cycles, `placed_ticks`, and the budget is enough for the frame that has
begun.  `runFrame_budget` puts all this together, for counters of limited width as well, which none
of it exceeds.
-/

namespace GameBoy.Machine

open Ppu (Run)

variable {machine : Machine}

/-! ## Ticks in a row -/

/-- Whether the next tick completes a frame. -/
def completes (machine : Machine) : Bool := machine.tick.value.2

theorem ticks_tick (machine : Machine) (n : Nat) :
    machine.tick.value.1.ticks n = machine.ticks (n + 1) :=
  (Function.iterate_succ_apply _ _ _).symm

theorem cycles_ticks_succ (machine : Machine) (n : Nat) :
    (machine.ticks (n + 1)).cpu.cycles =
      (machine.ticks n).cpu.cycles + (machine.ticks n).nextStep.duration := by
  rw [ticks_succ, value_tick, cycles_nextStep]

theorem cycles_ticks_ge (machine : Machine) (n : Nat) :
    machine.cpu.cycles + 4 * n ≤ (machine.ticks n).cpu.cycles := by
  induction n with
  | zero => exact Nat.le_refl _
  | succ n ih =>
      have hduration := (machine.ticks n).isDuration_nextStep.four_le
      rw [cycles_ticks_succ]
      omega

/-- Ticks that complete no frame count none. -/
theorem frames_ticks {n : Nat} (h : ∀ i < n, (machine.ticks i).completes = false) :
    (machine.ticks n).frames = machine.frames := by
  induction n with
  | zero => rfl
  | succ n ih =>
      have hlast : (machine.ticks n).tick.value.2 = false := h n (Nat.lt_succ_self n)
      rw [ticks_succ, frames_tick, hlast, ih fun i hi => h i (Nat.lt_succ_of_lt hi)]
      rfl

/-! ## The loop -/

/-- The loop that ticks up to a limit stops with the tick after `n` others. -/
structure Stops (limit : Nat) (machine : Machine) (n : Nat) (result : Machine × Bool) : Prop where
  within : ∀ i ≤ n, (machine.ticks i).cpu.cycles ≤ limit
  unfinished : ∀ i < n, (machine.ticks i).completes = false
  result_eq : result = (machine.ticks n).tick.value
  beyond : result.2 = false → limit < result.1.cpu.cycles

namespace Stops

variable {limit n : Nat} {result : Machine × Bool}

/-- The first tick may be the last. -/
theorem zero (hbudget : machine.cpu.cycles ≤ limit)
    (hbeyond : machine.completes = false → limit < machine.tick.value.1.cpu.cycles) :
    Stops limit machine 0 machine.tick.value where
  within := by
    intro i hi
    rw [Nat.le_zero.mp hi]
    exact hbudget
  unfinished := fun i hi => absurd hi (Nat.not_lt_zero i)
  result_eq := rfl
  beyond := hbeyond

/-- A tick that does not end the loop may be put in front. -/
theorem of_tick (h : Stops limit machine.tick.value.1 n result)
    (hbudget : machine.cpu.cycles ≤ limit) (hunfinished : machine.completes = false) :
    Stops limit machine (n + 1) result where
  within := by
    intro i hi
    cases i with
    | zero => exact hbudget
    | succ i =>
        rw [← ticks_tick]
        exact h.within i (Nat.le_of_succ_le_succ hi)
  unfinished := by
    intro i hi
    cases i with
    | zero => exact hunfinished
    | succ i =>
        rw [← ticks_tick]
        exact h.unfinished i (Nat.lt_of_succ_lt_succ hi)
  result_eq := by
    rw [← ticks_tick]
    exact h.result_eq
  beyond := h.beyond

/-- After the first tick, the loop has one tick less to go. -/
theorem tail (h : Stops limit machine (n + 1) result) :
    Stops limit machine.tick.value.1 n result where
  within := by
    intro i hi
    rw [ticks_tick]
    exact h.within (i + 1) (Nat.succ_le_succ hi)
  unfinished := by
    intro i hi
    rw [ticks_tick]
    exact h.unfinished (i + 1) (Nat.succ_lt_succ hi)
  result_eq := by
    rw [ticks_tick]
    exact h.result_eq
  beyond := h.beyond

end Stops

/-- One turn of the loop, while the budget lasts. -/
theorem value_runUntil_of_le {limit : Nat} {machine : Logged Machine}
    (h : machine.value.cpu.cycles ≤ limit) :
    (runUntil limit machine).value =
      if machine.value.completes then machine.value.tick.value
      else (runUntil limit (Prod.fst <$> (machine >>= tick))).value := by
  rw [runUntil, if_pos h]
  dsimp only
  rw [apply_ite Logged.value, Logged.value_bind, completes]

theorem value_runUntil_of_lt {limit : Nat} {machine : Logged Machine}
    (h : limit < machine.value.cpu.cycles) :
    (runUntil limit machine).value = (machine.value, false) := by
  rw [runUntil, if_neg (Nat.not_le_of_lt h), Logged.value_map]

theorem stops_runUntil {limit : Nat} (machine : Logged Machine)
    (h : machine.value.cpu.cycles ≤ limit) :
    ∃ n, Stops limit machine.value n (runUntil limit machine).value := by
  -- the loop recurses after a tick that is within the budget and reports no frame
  induction machine using runUntil.induct limit with
  | case1 machine hbudget ticked hdone =>
      have hcompletes : machine.value.completes = true := hdone
      rw [value_runUntil_of_le hbudget, if_pos hcompletes]
      exact ⟨0, .zero hbudget fun hundone => absurd (hcompletes.symm.trans hundone) (by decide)⟩
  | case2 machine hbudget ticked hdone ih =>
      have hcompletes : ¬ machine.value.completes = true := hdone
      have hunfinished : machine.value.completes = false := Bool.eq_false_iff.mpr hcompletes
      rw [value_runUntil_of_le hbudget, if_neg hcompletes]
      rcases Nat.lt_or_ge limit machine.value.tick.value.1.cpu.cycles with hbeyond | hwithin
      · -- the loop is left before the next tick, with what this one has made
        have hresult : (machine.value.tick.value.1, false) = machine.value.tick.value :=
          Prod.ext rfl hunfinished.symm
        rw [value_runUntil_of_lt hbeyond, Logged.value_map, Logged.value_bind, hresult]
        exact ⟨0, .zero hbudget fun _ => hbeyond⟩
      · -- the frame goes on, and the ticks of the rest come after this one
        obtain ⟨n, hstops⟩ := ih hwithin
        exact ⟨n + 1, hstops.of_tick hbudget hunfinished⟩
  | case3 machine hbudget => exact absurd h hbudget

/-! ## The budget -/

namespace Stops

variable {n : Nat} {result : Machine × Bool}

theorem after_eq {limit : Nat} (h : Stops limit machine n result) :
    result.1 = machine.ticks (n + 1) := by
  rw [h.result_eq, ticks_succ]

/-- The last tick is the only one that may count a frame. -/
theorem frames_eq {limit : Nat} (h : Stops limit machine n result) :
    result.1.frames = machine.frames + result.2.toNat := by
  rw [h.result_eq, frames_tick, frames_ticks h.unfinished]

variable (h : Stops (machine.cpu.cycles + cyclesPerFrame) machine n result)
include h

theorem lt : n < 17557 := by
  have hframe : cyclesPerFrame = 70224 := rfl
  have hbefore := h.within n (Nat.le_refl n)
  have hticks := machine.cycles_ticks_ge n
  omega

/-- The last tick begins within the budget. -/
theorem exists_consumed : ∃ consumed, result.1.cpu.cycles = machine.cpu.cycles + consumed ∧
    consumed ≤ 70224 + 24 ∧ (result.2 = false → 70224 < consumed) := by
  have hframe : cyclesPerFrame = 70224 := rfl
  have hbefore := h.within n (Nat.le_refl n)
  have hticks := machine.cycles_ticks_ge (n + 1)
  have hlast := machine.cycles_ticks_succ n
  have hduration := (machine.ticks n).isDuration_nextStep.le
  rw [← h.after_eq] at hticks hlast
  -- the last tick starts within the budget, and no step takes more than 24 cycles
  refine ⟨result.1.cpu.cycles - machine.cpu.cycles, by omega, by omega, fun hundone => ?_⟩
  have hbeyond := h.beyond hundone
  omega

end Stops

/-! ## The frame that has begun -/

/-- The video unit together with its memory. -/
def video (machine : Machine) : Run := ⟨machine.ppu, machine.bus.memory, false⟩

/-- A tick that keeps off the registers of the video unit moves it by its cycles. -/
theorem lit_tick (h : machine.video.InFrame) (hkeeps : machine.KeepsVideo) :
    Run.Lit machine.nextStep.duration machine.video machine.shown :=
  Run.lit_run h (enabled_timed hkeeps) (line_timed hkeeps) _

theorem inFrame_tick (h : machine.video.InFrame) (hkeeps : machine.KeepsVideo) :
    machine.tick.value.1.video.InFrame := by
  have hshown := (lit_tick h hkeeps).inFrame
  rw [value_tick]
  exact ⟨hshown.dot_lt, hshown.line_le⟩

/-- Unless it completes a frame, the place moves on by its cycles. -/
theorem place_tick (h : machine.video.InFrame) (hkeeps : machine.KeepsVideo)
    (hunfinished : machine.completes = false) :
    machine.tick.value.1.video.place = machine.video.place + machine.nextStep.duration := by
  have hlit := lit_tick h hkeeps
  -- a frame that is not reported has not reached its end, so the place does not wrap
  have hroom : machine.video.place + machine.nextStep.duration < 70224 := by
    rw [completes, frameDone_tick, hlit.frameDone_eq, decide_eq_false_iff_not] at hunfinished
    exact Nat.lt_of_not_le hunfinished
  have hshown : machine.tick.value.1.video.place = machine.shown.place := by
    rw [value_tick]
    rfl
  rw [hshown, Run.place_of_lcdOn hlit.lcdOn_eq, hlit.position_eq, Nat.mod_eq_of_lt hroom]

/-- Until a frame is completed, the place moves on by all the cycles. -/
theorem placed_ticks (h : machine.video.InFrame) {n : Nat}
    (hkeeps : ∀ i < n, (machine.ticks i).KeepsVideo)
    (hunfinished : ∀ i < n, (machine.ticks i).completes = false) :
    (machine.ticks n).video.InFrame ∧
      (machine.ticks n).video.place + machine.cpu.cycles =
        machine.video.place + (machine.ticks n).cpu.cycles := by
  induction n with
  | zero => exact ⟨h, rfl⟩
  | succ n ih =>
      -- until then the place and the clock go up together
      obtain ⟨hframe, hplace⟩ := ih (fun i hi => hkeeps i (Nat.lt_succ_of_lt hi))
        (fun i hi => hunfinished i (Nat.lt_succ_of_lt hi))
      have hlast := hkeeps n (Nat.lt_succ_self n)
      rw [cycles_ticks_succ, ticks_succ,
        place_tick hframe hlast (hunfinished n (Nat.lt_succ_self n))]
      refine ⟨inFrame_tick hframe hlast, ?_⟩
      omega

/-- The cycles left in the frame that is shown, or about to be shown. -/
def cyclesLeft (machine : Machine) : Nat :=
  if machine.ppu.lcdOn then
    cyclesPerFrame - (456 * machine.bus.memory.line.toNat + machine.ppu.dot)
  else cyclesPerFrame

theorem cyclesLeft_eq (machine : Machine) :
    machine.cyclesLeft = 70224 - machine.video.place := by
  have hon : machine.video.ppu.lcdOn = machine.ppu.lcdOn := rfl
  rw [cyclesLeft, Run.place, hon]
  split <;> rfl

/-- The budget is enough for the frame that has begun, and the loop ends with it. -/
theorem Stops.completed {n : Nat} {result : Machine × Bool}
    (h : Stops (machine.cpu.cycles + cyclesPerFrame) machine n result)
    (hframe : machine.video.InFrame) (hkeeps : ∀ i ≤ n, (machine.ticks i).KeepsVideo) :
    result.2 = true ∧ machine.cpu.cycles + machine.cyclesLeft ≤ result.1.cpu.cycles ∧
      result.1.cpu.cycles < machine.cpu.cycles + machine.cyclesLeft + 24 := by
  obtain ⟨hplaced, hplace⟩ :=
    placed_ticks hframe (fun i hi => hkeeps i (Nat.le_of_lt hi)) h.unfinished
  have hstart := hframe.place_lt
  have hbefore := hplaced.place_lt
  have hduration := (machine.ticks n).isDuration_nextStep.le
  have hlit := lit_tick hplaced (hkeeps n (Nat.le_refl n))
  have hlast := machine.cycles_ticks_succ n
  rw [← h.after_eq] at hlast
  -- the last tick decides, from the place that the ticks before it have come to
  have hdone : result.2 =
      decide (70224 ≤ (machine.ticks n).video.place + (machine.ticks n).nextStep.duration) := by
    rw [h.result_eq, frameDone_tick, hlit.frameDone_eq]
  rw [cyclesLeft_eq]
  rcases Nat.lt_or_ge ((machine.ticks n).video.place + (machine.ticks n).nextStep.duration) 70224
    with hshort | hfull
  · -- the whole budget would have gone by within the frame
    rw [decide_eq_false (Nat.not_le_of_lt hshort)] at hdone
    have hbeyond := h.beyond hdone
    have hbudget : cyclesPerFrame = 70224 := rfl
    omega
  · -- the last tick crosses the end of the frame, from less than a step before it
    rw [decide_eq_true hfull] at hdone
    refine ⟨hdone, ?_, ?_⟩ <;> omega

/-! ## In counters of limited width -/

open Width

/-- The loop that runs a frame, begun when the cycle counter was at `start`, in counters of limited
width.  A loop that gets nowhere has no result. -/
def runSince? (start : Nat) (machine : Machine) : Option (Machine × Bool) := do
  let consumed ← difference? machine.cpu.cycles start
  if consumed ≤ cyclesPerFrame then
    let (after, frameDone) ← machine.tick?
    if frameDone then
      some (after, true)
    else if _ : start + cyclesPerFrame + 1 - after.cpu.cycles <
        start + cyclesPerFrame + 1 - machine.cpu.cycles then
      runSince? start after
    else
      none
  else
    some (machine, false)
termination_by start + cyclesPerFrame + 1 - machine.cpu.cycles

/-- Running a frame in counters of limited width. -/
def runFrame? (machine : Machine) : Option (Machine × Bool) :=
  machine.runSince? machine.cpu.cycles

/-- One turn of that loop, while the budget lasts. -/
theorem runSince?_of_le {start : Nat} (hstart : start ≤ machine.cpu.cycles)
    (hbudget : machine.cpu.cycles ≤ start + cyclesPerFrame)
    (htick : machine.tick? = some machine.tick.value) :
    machine.runSince? start =
      if machine.completes then some machine.tick.value
      else machine.tick.value.1.runSince? start := by
  have hconsumed : machine.cpu.cycles - start ≤ cyclesPerFrame := by omega
  have hlater := machine.cycles_tick
  -- the clock goes up, which is what the recursion ends by
  have hcloser : start + cyclesPerFrame + 1 - machine.tick.value.1.cpu.cycles <
      start + cyclesPerFrame + 1 - machine.cpu.cycles := by omega
  rw [runSince?, difference?_eq_some hstart, completes]
  simp only [Option.bind_eq_bind, Option.bind_some, if_pos hconsumed, htick, dif_pos hcloser]
  split
  · rename_i hdone
    rw [← hdone]
  · rfl

theorem runSince?_of_lt {start : Nat} (h : start + cyclesPerFrame < machine.cpu.cycles) :
    machine.runSince? start = some (machine, false) := by
  have hstart : start ≤ machine.cpu.cycles := by omega
  have hconsumed : ¬ machine.cpu.cycles - start ≤ cyclesPerFrame := by omega
  rw [runSince?, difference?_eq_some hstart]
  exact if_neg hconsumed

/-- The loop in limited counters stops where the other one does. -/
theorem Stops.runSince?_eq {start n : Nat} {result : Machine × Bool}
    (h : Stops (start + cyclesPerFrame) machine n result) (hroom : machine.HasRoom)
    (hstart : start ≤ machine.cpu.cycles) (hcycles : start < 0x8000000000000000)
    (hframes : machine.frames < 0x8000000000000000) :
    machine.runSince? start = some result := by
  have hbudget : cyclesPerFrame = 70224 := rfl
  -- by induction on the ticks that are left: each is exact as long as the counters have room
  induction n generalizing machine with
  | zero =>
      have hwithin : machine.cpu.cycles ≤ start + cyclesPerFrame := h.within 0 (Nat.le_refl 0)
      have hresult : result = machine.tick.value := h.result_eq
      rw [runSince?_of_le hstart hwithin (hroom.tick?_eq (by omega) (by omega)), completes,
        ← hresult]
      split
      · rfl
      · rename_i hundone
        have hundone := Bool.eq_false_iff.mpr hundone
        rw [runSince?_of_lt (h.beyond hundone), ← hundone]
  | succ n ih =>
      have hwithin : machine.cpu.cycles ≤ start + cyclesPerFrame := h.within 0 (Nat.zero_le _)
      have hunfinished : machine.completes = false := h.unfinished 0 (Nat.succ_pos n)
      have hlater := machine.cycles_tick
      have hcounted := machine.frames_tick
      rw [← completes, hunfinished, Bool.toNat_false, Nat.add_zero] at hcounted
      rw [runSince?_of_le hstart hwithin (hroom.tick?_eq (by omega) (by omega)), hunfinished,
        if_neg Bool.false_ne_true]
      exact ih h.tail hroom.tick (by omega) (by omega)

/-- **The run of a frame.**  Whatever the program does, the run ends after at most 17557 ticks,
having gone less than a step beyond its budget.  It says that a frame was completed if its last
tick did so, which is then the only one counted, and gives up only after a whole frame's cycles.  As
long as the program keeps off the line register and leaves the display on, it completes the frame
that has begun, with less than a step to spare.  On the way no counter leaves its range. -/
theorem runFrame_budget (h : machine.HasRoom) (hcycles : machine.cpu.cycles < 0x8000000000000000)
    (hframes : machine.frames < 0x8000000000000000) :
    let result := machine.runFrame.value
    machine.runFrame? = some result ∧
      ∃ n consumed, n < 17557 ∧ result = (machine.ticks n).tick.value ∧
        (∀ i < n, (machine.ticks i).completes = false) ∧
        result.1.cpu.cycles = machine.cpu.cycles + consumed ∧ consumed ≤ 70224 + 24 ∧
        result.1.frames = machine.frames + result.2.toNat ∧
        (result.2 = false → 70224 < consumed) ∧
        (machine.bus.memory.line ≤ 153 → (∀ i ≤ n, (machine.ticks i).KeepsVideo) →
          result.2 = true ∧ machine.cyclesLeft ≤ consumed ∧
            consumed < machine.cyclesLeft + 24) := by
  intro result
  have hbudget : machine.cpu.cycles ≤ machine.cpu.cycles + cyclesPerFrame := Nat.le_add_right _ _
  obtain ⟨n, hstops⟩ := stops_runUntil (pure machine) hbudget
  rw [Logged.value_pure, ← runFrame] at hstops
  obtain ⟨consumed, hconsumed, hle, hbeyond⟩ := hstops.exists_consumed
  refine ⟨hstops.runSince?_eq h (Nat.le_refl _) hcycles hframes, n, consumed, hstops.lt,
    hstops.result_eq, hstops.unfinished, hconsumed, hle, hstops.frames_eq, hbeyond,
    fun hline hkeeps => ?_⟩
  obtain ⟨hdone, hfull, hspare⟩ := hstops.completed ⟨h.dot_lt, hline⟩ hkeeps
  rw [hconsumed] at hfull hspare
  exact ⟨hdone, by omega, by omega⟩

/-! ### A machine that sleeps -/

/-- Idle ticks write nothing, so they leave the display as it is. -/
theorem keepsVideo_ticks_of_masked (hhalted : machine.cpu.halted = true)
    (hmasked : machine.bus.memory.read Address.interruptEnable = 0)
    (hon : LcdControl.lcdEnabled machine.bus.memory.lcdControl = true) (n : Nat) :
    (machine.ticks n).KeepsVideo := by
  obtain ⟨hstill, hpending, hsame⟩ := ticks_of_masked hhalted hmasked n
  -- asleep with everything masked no step writes, so the display is not switched
  have hstep : (machine.ticks n).nextStep = _ := Cpu.step_of_idle hstill hpending
  have hcontrol : (machine.ticks n).bus.memory.lcdControl = machine.bus.memory.lcdControl :=
    hsame Address.lcdControl (by decide)
  constructor
  · rw [hstep]
    rfl
  · rw [value_stepCpu, writtenBus, hstep]
    show LcdControl.lcdEnabled (machine.ticks n).bus.memory.lcdControl = true
    rw [hcontrol]
    exact hon

/-- A machine without an image that has been put to sleep. -/
def sleepingMachine : Machine :=
  { (start ByteArray.empty).value with cpu := { Cpu.powerOn with halted := true } }

/-- The frame takes as many cycles as it has, and is the first one. -/
theorem runFrame_budget_sleepingMachine :
    (sleepingMachine.HasRoom ∧ sleepingMachine.cpu.cycles = 0 ∧ sleepingMachine.frames = 0 ∧
      sleepingMachine.bus.memory.line ≤ 153 ∧ ∀ i, (sleepingMachine.ticks i).KeepsVideo) ∧
    let result := sleepingMachine.runFrame.value
    sleepingMachine.runFrame? = some result ∧ result.2 = true ∧ result.1.frames = 1 ∧
      70224 ≤ result.1.cpu.cycles ∧ result.1.cpu.cycles < 70224 + 24 := by
  have hroom : sleepingMachine.HasRoom :=
    ⟨(by decide : 0 < 456), (by decide : 0 < 0x80000000), (by decide : 0 < 0x80000000)⟩
  have hempty : ByteArray.empty.size ≤ 0xFF00 := Nat.zero_le _
  have hline : sleepingMachine.bus.memory.line = 0 := line_start hempty
  have hmasked : sleepingMachine.bus.memory.read Address.interruptEnable = 0 :=
    read_start hempty (by decide)
  have hon : LcdControl.lcdEnabled sleepingMachine.bus.memory.lcdControl = true := by
    have hcontrol : sleepingMachine.bus.memory.lcdControl = 0x91 := lcdControl_start hempty
    rw [hcontrol]
    rfl
  have hkeeps := keepsVideo_ticks_of_masked rfl hmasked hon
  have hle : sleepingMachine.bus.memory.line ≤ 153 := by
    rw [hline]
    decide
  have hcycles : sleepingMachine.cpu.cycles = 0 := rfl
  have hframes : sleepingMachine.frames = 0 := rfl
  have hleft : sleepingMachine.cyclesLeft = 70224 := by
    have hlcdOn : sleepingMachine.ppu.lcdOn = true := rfl
    rw [cyclesLeft, if_pos hlcdOn, hline]
    rfl
  obtain ⟨hexact, n, consumed, -, -, -, hconsumed, -, hcounted, -, hcompleted⟩ :=
    runFrame_budget hroom (by rw [hcycles]; decide) (by rw [hframes]; decide)
  obtain ⟨hdone, hfull, hspare⟩ := hcompleted hle fun i _ => hkeeps i
  rw [hcycles, Nat.zero_add] at hconsumed
  rw [hdone, hframes] at hcounted
  rw [hleft, ← hconsumed] at hfull hspare
  exact ⟨⟨hroom, hcycles, hframes, hle, hkeeps⟩, hexact, hdone, hcounted, hfull, hspare⟩

end GameBoy.Machine
