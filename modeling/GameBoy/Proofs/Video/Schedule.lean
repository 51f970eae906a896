import Mathlib.Algebra.GroupWithZero.Nat
import GameBoy.Proofs.Video.Walk

/-!
# The schedule of the video unit does not matter

The machine runs the video unit after every step of the processor, so the cycles of a frame arrive
in pieces of any size.  `run_add` says that a run may be cut anywhere, on both sides of a line, a
frame or the switching of the display, and `runs_eq_run_sum` that any list of runs comes to the
same as the one run of their sum: the same unit, the same memory, the same journal, and a frame
is reported by the one exactly if it is reported by some of the many.

The only promise is `Ready`: while the display stays on, the mode is that of the position.  Every
run keeps it, `ready_run`, so it holds whenever nobody else has moved the position.
-/

namespace GameBoy.Ppu

open Memory (SameOutside)

variable {ppu : Ppu} {memory : Memory}

/-- The state in which a unit may be run: the dot is in the line, and while the display stays on
the mode is that of the position. -/
structure Ready (ppu : Ppu) (memory : Memory) : Prop where
  dot_lt : ppu.dot < dotsPerLine
  mode_eq : ppu.lcdOn = true → LcdControl.lcdEnabled memory.lcdControl = true →
    ppu.mode = Mode.ofPosition memory.line ppu.dot

/-! ## Switching the display -/

theorem lcdControl_eq {first second : Memory} (h : SameOutside videoCells first second) :
    second.lcdControl = first.lcdControl :=
  h Address.lcdControl (by decide)

theorem run_of_enabled (h : LcdControl.lcdEnabled memory.lcdControl = true) (cycles : Nat) :
    ppu.run memory cycles = ppu.switchOn memory >>= Run.walk cycles :=
  if_pos h

theorem run_of_disabled (h : LcdControl.lcdEnabled memory.lcdControl = false) (cycles : Nat) :
    ppu.run memory cycles = ppu.switchOff memory := by
  rw [run, h]
  rfl

theorem switchOn_of_lcdOn (h : ppu.lcdOn = true) (memory : Memory) :
    ppu.switchOn memory = pure { ppu, memory, frameDone := false } := by
  rw [switchOn, if_pos h]

theorem value_switchOn_of_dark (h : ppu.lcdOn = false) (memory : Memory) :
    (ppu.switchOn memory).value =
      { ppu := { ppu with dot := 0, mode := .objectScan, lcdOn := true, windowLine := 0 }
        memory := (compareLine (memory.store Address.line 0) 0).value
        frameDone := false } := by
  rw [switchOn, h]
  rfl

theorem line_switchOn_of_dark (h : ppu.lcdOn = false) (memory : Memory) :
    (ppu.switchOn memory).value.memory.line = 0 := by
  rw [value_switchOn_of_dark h]
  exact (sameOutside_compareLine _ _ Address.line (by decide)).trans (Memory.read_store_self ..)

theorem lcdOn_switchOn (ppu : Ppu) (memory : Memory) :
    (ppu.switchOn memory).value.ppu.lcdOn = true := by
  cases hlcd : ppu.lcdOn with
  | false => rw [value_switchOn_of_dark hlcd]
  | true =>
      rw [switchOn_of_lcdOn hlcd]
      exact hlcd

theorem dot_switchOn_lt {ppu : Ppu} (h : ppu.dot < dotsPerLine) (memory : Memory) :
    (ppu.switchOn memory).value.ppu.dot < dotsPerLine := by
  cases hon : ppu.lcdOn with
  | true =>
      rw [switchOn_of_lcdOn hon]
      exact h
  | false =>
      rw [value_switchOn_of_dark hon]
      exact (by decide : 0 < dotsPerLine)

theorem sameOutside_switchOn (ppu : Ppu) (memory : Memory) :
    SameOutside videoCells memory (ppu.switchOn memory).value.memory := by
  cases hlcd : ppu.lcdOn with
  | false =>
      rw [value_switchOn_of_dark hlcd]
      exact (SameOutside.store memory (by decide) _).trans
        ((sameOutside_compareLine _ _).mono (by decide))
  | true =>
      rw [switchOn_of_lcdOn hlcd]
      exact .refl memory

theorem aligned_switchOn (h : Ready ppu memory)
    (hlcd : LcdControl.lcdEnabled memory.lcdControl = true) :
    (ppu.switchOn memory).value.Aligned := by
  cases hon : ppu.lcdOn with
  | false =>
      -- a dark display is lit at the start of a frame, where the mode fits
      have hline := line_switchOn_of_dark hon memory
      rw [value_switchOn_of_dark hon] at hline ⊢
      refine ⟨(by decide : 0 < dotsPerLine), ?_⟩
      rw [hline]
      rfl
  | true =>
      rw [switchOn_of_lcdOn hon]
      exact ⟨h.dot_lt, h.mode_eq hon hlcd⟩

theorem sameOutside_switchOff (ppu : Ppu) (memory : Memory) :
    SameOutside videoCells memory (ppu.switchOff memory).value.memory :=
  (SameOutside.store memory (by decide) _).trans ((sameOutside_storeMode _ _).mono (by decide))

theorem line_switchOff (ppu : Ppu) (memory : Memory) :
    (ppu.switchOff memory).value.memory.line = 0 :=
  (read_storeMode _ _ (by decide)).trans (Memory.read_store_self _ _ _)

/-! ## What a run keeps -/

theorem sameOutside_run (ppu : Ppu) (memory : Memory) (cycles : Nat) :
    SameOutside videoCells memory (ppu.run memory cycles).value.memory := by
  cases hlcd : LcdControl.lcdEnabled memory.lcdControl with
  | false =>
      rw [run_of_disabled hlcd]
      exact sameOutside_switchOff ppu memory
  | true =>
      rw [run_of_enabled hlcd]
      exact (sameOutside_switchOn ppu memory).trans (Run.sameOutside_walk _ cycles)

theorem lcdOn_run (h : LcdControl.lcdEnabled memory.lcdControl = true) (cycles : Nat) :
    (ppu.run memory cycles).value.ppu.lcdOn = true := by
  rw [run_of_enabled h, Logged.value_bind, Run.lcdOn_walk, lcdOn_switchOn]

theorem enabled_run (h : LcdControl.lcdEnabled memory.lcdControl = true) (cycles : Nat) :
    LcdControl.lcdEnabled (ppu.run memory cycles).value.memory.lcdControl = true := by
  rw [lcdControl_eq (sameOutside_run ppu memory cycles)]
  exact h

theorem ready_run (h : Ready ppu memory) (cycles : Nat) :
    Ready (ppu.run memory cycles).value.ppu (ppu.run memory cycles).value.memory := by
  cases hlcd : LcdControl.lcdEnabled memory.lcdControl with
  | false =>
      refine ⟨?_, fun hon _ => ?_⟩
      · rw [run_of_disabled hlcd]
        exact (by decide : 0 < dotsPerLine)
      · rw [run_of_disabled hlcd] at hon
        exact absurd hon Bool.false_ne_true
  | true =>
      have haligned := Run.aligned_walk (aligned_switchOn h hlcd) cycles
      rw [run_of_enabled hlcd]
      exact ⟨haligned.dot_lt, fun _ _ => haligned.mode_eq⟩

/-- A run of at least one cycle leaves the unit ready, whatever the mode was before. -/
theorem ready_run_of_pos (hdot : ppu.dot < dotsPerLine) {cycles : Nat} (hcycles : 0 < cycles) :
    Ready (ppu.run memory cycles).value.ppu (ppu.run memory cycles).value.memory := by
  cases hlcd : LcdControl.lcdEnabled memory.lcdControl with
  | false =>
      -- a dark display need not show the mode of its position
      refine ⟨?_, fun hon _ => ?_⟩
      · rw [run_of_disabled hlcd]
        exact (by decide : 0 < dotsPerLine)
      · rw [run_of_disabled hlcd] at hon
        exact absurd hon Bool.false_ne_true
  | true =>
      have hstart : (ppu.switchOn memory).value.ppu.dot < dotsPerLine := by
        cases hon : ppu.lcdOn with
        | false =>
            rw [value_switchOn_of_dark hon]
            exact (by decide : 0 < dotsPerLine)
        | true =>
            rw [switchOn_of_lcdOn hon]
            exact hdot
      have haligned := Run.aligned_walk_of_pos hstart hcycles
      rw [run_of_enabled hlcd]
      exact ⟨haligned.dot_lt, fun _ _ => haligned.mode_eq⟩

/-- Of memory only the line and the switch of the display matter. -/
theorem Ready.congr {other : Memory} (h : Ready ppu memory) (hline : other.line = memory.line)
    (hcontrol : other.lcdControl = memory.lcdControl) : Ready ppu other := by
  refine ⟨h.dot_lt, fun hon henabled => ?_⟩
  rw [hcontrol] at henabled
  rw [hline]
  exact h.mode_eq hon henabled

/-! ## Cutting a run -/

/-- Once dark, the display stays as it is. -/
theorem switchOff_switchOff (ppu : Ppu) (memory : Memory) :
    (ppu.switchOff memory).value.ppu.switchOff (ppu.switchOff memory).value.memory =
      pure (ppu.switchOff memory).value := by
  have hmemory : storeMode ((storeMode (memory.store Address.line 0) .hblank).store
      Address.line 0) .hblank = storeMode (memory.store Address.line 0) .hblank := by
    rw [← storeMode_store _ _ (by decide), storeMode_storeMode, Memory.store_store]
  apply Logged.ext
  · simp only [switchOff, hmemory]
    rfl
  · rfl

/-- A run may be cut anywhere. -/
theorem run_add (h : Ready ppu memory) (first second : Nat) :
    ppu.run memory (first + second) =
      ppu.run memory first >>= fun run =>
        (·.orDone run.frameDone) <$> run.ppu.run run.memory second := by
  cases hlcd : LcdControl.lcdEnabled memory.lcdControl with
  | false =>
      -- once it is dark the unit stays as it is, so the second run adds nothing
      have hdark : LcdControl.lcdEnabled
          (ppu.switchOff memory).value.memory.lcdControl = false := by
        rw [lcdControl_eq (sameOutside_switchOff ppu memory), hlcd]
      have hrest : (ppu.switchOff memory).value.ppu.run (ppu.switchOff memory).value.memory second =
          pure (ppu.switchOff memory).value :=
        (run_of_disabled hdark second).trans (switchOff_switchOff ppu memory)
      rw [run_of_disabled hlcd, run_of_disabled hlcd]
      apply Logged.ext
      · rw [Logged.value_bind, hrest]
        rfl
      · rw [Logged.journal_bind, hrest]
        simp
  | true =>
      have haligned := aligned_switchOn h hlcd
      rw [run_of_enabled hlcd, run_of_enabled hlcd, bind_assoc]
      apply Logged.bind_congr_value
      rw [haligned.walk_add first second]
      apply Logged.bind_congr_value
      -- the second run finds the display on, and starts with no frame reported
      generalize hstart : (ppu.switchOn memory).value = start
      have hon : (Run.walk first start).value.ppu.lcdOn = true := by
        rw [Run.lcdOn_walk, ← hstart, lcdOn_switchOn]
      have henabled : LcdControl.lcdEnabled
          (Run.walk first start).value.memory.lcdControl = true := by
        rw [lcdControl_eq (Run.sameOutside_walk start first), ← hstart,
          lcdControl_eq (sameOutside_switchOn ppu memory), hlcd]
      generalize (Run.walk first start).value = middle at hon henabled
      obtain ⟨ppu, memory, frameDone⟩ := middle
      have hflag : (⟨ppu, memory, frameDone⟩ : Run) =
          (⟨ppu, memory, false⟩ : Run).orDone frameDone := by
        simp [Run.orDone]
      rw [run_of_enabled henabled, switchOn_of_lcdOn hon, pure_bind, hflag, Run.walk_orDone]
      simp [Run.orDone]

/-! ## Runs one after the other -/

/-- The results of runs made one after the other, each from where the one before it stopped. -/
def runs (ppu : Ppu) (memory : Memory) : List Nat → Logged (List Run)
  | [] => pure []
  | cycles :: rest =>
      ppu.run memory cycles >>= fun run => (run :: ·) <$> runs run.ppu run.memory rest

/-- **Any schedule comes to the same.**  After runs of the given counts of cycles the unit and
memory are those after the single run of their sum, the same entries have been written, and a
frame is reported by the single run exactly if it is reported by one of the runs. -/
theorem runs_eq_run_sum (h : Ready ppu memory) {counts : List Nat} (hcounts : counts ≠ []) :
    ∃ last, (runs ppu memory counts).value.getLast? = some last ∧
      last.ppu = (ppu.run memory counts.sum).value.ppu ∧
      last.memory = (ppu.run memory counts.sum).value.memory ∧
      ((ppu.run memory counts.sum).value.frameDone = true ↔
        ∃ run ∈ (runs ppu memory counts).value, run.frameDone = true) ∧
      (runs ppu memory counts).journal = (ppu.run memory counts.sum).journal := by
  -- by induction on the runs: the first one is split off the run of the sum
  induction counts generalizing ppu memory with
  | nil => exact absurd rfl hcounts
  | cons cycles rest ih =>
      cases rest with
      | nil =>
          refine ⟨(ppu.run memory cycles).value, ?_⟩
          simp [runs]
      | cons next rest =>
          obtain ⟨last, hlast, hppu, hmemory, hdone, hjournal⟩ :=
            ih (ready_run h cycles) (List.cons_ne_nil next rest)
          rw [List.sum_cons, run_add h, runs, Logged.value_bind, Logged.value_map,
            Logged.value_bind, Logged.value_map]
          refine ⟨last, ?_, hppu, hmemory, ?_, ?_⟩
          · rw [List.getLast?_cons, hlast]
            rfl
          · simp only [Run.orDone, Bool.or_eq_true, hdone, List.mem_cons, exists_eq_or_imp]
          · rw [Logged.journal_bind, Logged.journal_map, Logged.journal_bind, Logged.journal_map,
              hjournal]

/-- A memory in which nothing is set but the switch of the display. -/
def litMemory : Memory := Memory.blank.store Address.lcdControl 0x80

theorem line_litMemory : litMemory.line = 0 := by
  rw [Memory.line, litMemory, Memory.read_store_of_ne _ (by decide), Memory.read_blank]

theorem lcdControl_litMemory : litMemory.lcdControl = 0x80 :=
  Memory.read_store_self ..

theorem ready_powerOn : Ready powerOn litMemory := by
  refine ⟨by decide, fun _ _ => ?_⟩
  rw [line_litMemory]
  rfl

/-- A frame in two halves, with an empty run between them. -/
theorem runs_eq_run_sum_halves :
    Ready powerOn litMemory ∧ [35112, 0, 35112] ≠ [] ∧
      ∃ last, (runs powerOn litMemory [35112, 0, 35112]).value.getLast? = some last ∧
        last.ppu = (powerOn.run litMemory 70224).value.ppu ∧
        last.memory = (powerOn.run litMemory 70224).value.memory ∧
        ((powerOn.run litMemory 70224).value.frameDone = true ↔
          ∃ run ∈ (runs powerOn litMemory [35112, 0, 35112]).value, run.frameDone = true) ∧
        (runs powerOn litMemory [35112, 0, 35112]).journal =
          (powerOn.run litMemory 70224).journal := by
  have hsum : [35112, 0, 35112].sum = 70224 := by simp
  have hruns := runs_eq_run_sum ready_powerOn (List.cons_ne_nil 35112 [0, 35112])
  rw [hsum] at hruns
  exact ⟨ready_powerOn, List.cons_ne_nil _ _, hruns⟩

end GameBoy.Ppu
