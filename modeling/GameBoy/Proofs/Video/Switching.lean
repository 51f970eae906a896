import GameBoy.Proofs.Video.Position

/-!
# The position under a display that is switched on and off

Software may switch the display between two runs.  A `Call` is a run under a given setting of the
switch.  A dark run puts the unit back to the start of the first line and leaves requests and
picture alone, `dark_call`; a lit one moves on from there, or from where the unit was if the
display had been on, which `place` describes, by its cycles around the frame, `lit_call`.

By induction the position after any lit block of calls, the mode shown there and the number of
frames reported on the way are those of the cycles of the block: `position_law`.
-/

namespace GameBoy

/-! ## The switch -/

namespace Memory

/-- Sets the switch of the display, and no other bit of the control register. -/
def setDisplay (memory : Memory) (on : Bool) : Memory :=
  memory.store Address.lcdControl
    (if on then memory.lcdControl ||| 0x80 else memory.lcdControl &&& 0x7F)

theorem bit_setDisplay (memory : Memory) (on : Bool) (i : Nat) :
    bit (memory.setDisplay on).lcdControl i =
      if i = 7 then on else bit memory.lcdControl i := by
  have hon : bit 0x80 i = decide (i = 7) := by
    have hpow : bit 0x80 i = decide (7 = i) := Nat.testBit_two_pow (n := 7)
    rw [hpow]
    simp only [eq_comm]
  have hread : (memory.setDisplay on).lcdControl =
      if on then memory.lcdControl ||| 0x80 else memory.lcdControl &&& 0x7F :=
    memory.read_store_self _ _
  rw [hread]
  cases on with
  | true =>
      rw [if_pos rfl, bit_or, hon]
      by_cases hi : i = 7 <;> simp [hi]
  | false =>
      rw [if_neg Bool.false_ne_true, bit_and]
      rcases Nat.lt_or_ge i 8 with hi | hi
      · rw [(by decide : ∀ i < 8, bit 0x7F i = decide (i ≠ 7)) i hi]
        by_cases hi : i = 7 <;> simp [hi]
      · have hne : i ≠ 7 := Nat.ne_of_gt hi
        rw [bit_of_le _ hi, if_neg hne, bit_of_le _ hi]
        rfl

theorem lcdEnabled_setDisplay (memory : Memory) (on : Bool) :
    LcdControl.lcdEnabled (memory.setDisplay on).lcdControl = on :=
  memory.bit_setDisplay on 7

theorem sameOutside_setDisplay (memory : Memory) (on : Bool) :
    SameOutside [Address.lcdControl] memory (memory.setDisplay on) :=
  .store memory (by decide) _

theorem line_setDisplay (memory : Memory) (on : Bool) :
    (memory.setDisplay on).line = memory.line :=
  memory.sameOutside_setDisplay on Address.line (by decide)

end Memory

namespace Ppu

open Memory (SameOutside)

/-- The two lowest bits of the status register show the mode stored last. -/
theorem status_storeMode (memory : Memory) (mode : Mode) :
    (storeMode memory mode).lcdStatus &&& 0x03 = mode.number := by
  apply bit_ext
  intro i hi
  rw [lcdStatus_storeMode, bit_and, bit_or, bit_and_mode,
    (by decide : ∀ i < 8, bit 0x03 i = decide (i < 2)) i hi]
  rcases Nat.lt_or_ge i 2 with hlow | hhigh
  · simp [hlow, Nat.not_le_of_lt hlow]
  · simp [Nat.not_lt_of_le hhigh, bit_number mode hhigh]

namespace Run

/-! ## The mode is shown -/

/-- The mode is that of the position, and the status register shows it. -/
structure Shown (run : Run) : Prop where
  mode_eq : run.ppu.mode = Mode.ofPosition run.memory.line run.ppu.dot
  status_eq : run.memory.lcdStatus &&& 0x03 = run.ppu.mode.number

theorem shown_updateMode (run : Run) : run.updateMode.value.Shown := by
  constructor
  · rw [line_updateMode, dot_updateMode, value_updateMode]
  · rw [value_updateMode]
    exact status_storeMode _ _

theorem shown_advance (run : Run) (dots : Nat) : (run.advance dots).value.Shown := by
  rcases Nat.lt_or_ge (run.ppu.dot + dots) dotsPerLine with hlt | hge
  · rw [advance_of_lt run hlt]
    exact shown_updateMode _
  · rw [advance_of_le run hge, Logged.value_bind]
    exact shown_updateMode _

/-- A walk of at least one dot ends with an advance, whatever was shown before. -/
theorem shown_walk {run : Run} (hdot : run.ppu.dot < dotsPerLine) {dots : Nat} (hdots : 0 < dots) :
    (walk dots run).value.Shown := by
  rw [walk_of_pos run hdot hdots, Logged.value_bind]
  exact walk_induction (fun other chunk _ _ => shown_advance other chunk) _ _ (shown_advance _ _)

end Run

/-! ## One call -/

/-- A run under a setting of the switch of the display. -/
structure Call where
  on : Bool
  cycles : Nat
  deriving DecidableEq, Repr

namespace Run

/-- The run of a call, from where the one before it stopped. -/
def call (run : Run) (call : Call) : Run :=
  (run.ppu.run (run.memory.setDisplay call.on) call.cycles).value

/-- The dots since the start of the frame that is shown, or about to be shown. -/
def place (run : Run) : Nat := if run.ppu.lcdOn then position run.ppu run.memory else 0

theorem place_of_lcdOn {run : Run} (h : run.ppu.lcdOn = true) :
    run.place = position run.ppu run.memory := by
  rw [place, if_pos h]

theorem place_of_dark {run : Run} (h : run.ppu.lcdOn = false) : run.place = 0 := by
  rw [place, h, if_neg Bool.false_ne_true]

theorem InFrame.place_lt {run : Run} (h : run.InFrame) : run.place < 70224 := by
  unfold place
  split
  · exact h.position_lt
  · decide

/-- A dark call puts the unit back to the start of the first line. -/
structure Dark (before after : Run) : Prop where
  lcdOn_eq : after.ppu.lcdOn = false
  frameDone_eq : after.frameDone = false
  dot_eq : after.ppu.dot = 0
  mode_eq : after.ppu.mode = .hblank
  line_eq : after.memory.line = 0
  status_eq : after.memory.lcdStatus &&& 0x03 = 0
  requests_eq :
    after.memory.read Address.interruptRequest = before.memory.read Address.interruptRequest
  frame_eq : after.ppu.frame = before.ppu.frame

theorem dark_call (run : Run) {call : Call} (hoff : call.on = false) :
    Dark run (run.call call) := by
  have hcall : run.call call = (run.ppu.switchOff (run.memory.setDisplay false)).value := by
    rw [Run.call, hoff, run_of_disabled (run.memory.lcdEnabled_setDisplay false)]
  -- switching off changes the control, the line and the mode, not the requests
  have hrequests : SameOutside [Address.lcdControl, Address.line, Address.lcdStatus] run.memory
      (storeMode ((run.memory.setDisplay false).store Address.line 0) .hblank) :=
    ((run.memory.sameOutside_setDisplay false).mono (by decide)).trans
      ((SameOutside.store _ (by decide) 0).trans ((sameOutside_storeMode _ _).mono (by decide)))
  rw [hcall]
  exact ⟨rfl, rfl, rfl, rfl, run.ppu.line_switchOff _, status_storeMode _ _,
    hrequests _ (by decide), rfl⟩

/-- Before it walks, a lit call is where the display was, or at the start if it was dark. -/
theorem inFrame_switchOn {run : Run} (h : run.InFrame) (memory : Memory)
    (hline : memory.line = run.memory.line) :
    (run.ppu.switchOn memory).value.InFrame ∧
      position (run.ppu.switchOn memory).value.ppu (run.ppu.switchOn memory).value.memory =
        run.place ∧
      (run.ppu.switchOn memory).value.frameDone = false := by
  unfold place
  -- a display that is on goes on from its place, a dark one from the start of a frame
  cases hon : run.ppu.lcdOn with
  | true =>
      rw [switchOn_of_lcdOn hon, Logged.value_pure, position, hline]
      refine ⟨⟨h.dot_lt, ?_⟩, rfl, rfl⟩
      rw [hline]
      exact h.line_le
  | false =>
      have hstart := line_switchOn_of_dark hon memory
      rw [value_switchOn_of_dark hon] at hstart ⊢
      refine ⟨⟨(by decide : 0 < 456), ?_⟩, ?_, rfl⟩
      · rw [hstart]
        decide
      · rw [position, hstart]
        rfl

/-- A lit call moves on by its cycles, around the frame. -/
structure Lit (cycles : Nat) (before after : Run) : Prop where
  inFrame : after.InFrame
  lcdOn_eq : after.ppu.lcdOn = true
  position_eq : position after.ppu after.memory = (before.place + cycles) % 70224
  frameDone_eq : after.frameDone = decide (70224 ≤ before.place + cycles)
  shown : 0 < cycles → after.Shown

/-- Memory may have changed since, as long as the line register has not. -/
theorem lit_run {run : Run} (h : run.InFrame) {memory : Memory}
    (henabled : LcdControl.lcdEnabled memory.lcdControl = true)
    (hline : memory.line = run.memory.line) (cycles : Nat) :
    Lit cycles run (run.ppu.run memory cycles).value := by
  obtain ⟨hstart, hplace, hdone⟩ := inFrame_switchOn h memory hline
  obtain ⟨hframe, hposition, hframeDone⟩ := hstart.walk cycles
  rw [run_of_enabled henabled, Logged.value_bind]
  refine ⟨hframe, ?_, ?_, ?_, fun hpos => shown_walk hstart.dot_lt hpos⟩
  · rw [lcdOn_walk, lcdOn_switchOn]
  · rw [hposition, hplace]
  · rw [hframeDone, hplace, hdone, Bool.false_or]

theorem lit_call {run : Run} (h : run.InFrame) {call : Call} (hon : call.on = true) :
    Lit call.cycles run (run.call call) := by
  rw [Run.call, hon]
  exact lit_run h (run.memory.lcdEnabled_setDisplay true) (run.memory.line_setDisplay true) _

theorem InFrame.call {run : Run} (h : run.InFrame) (call : Call) : (run.call call).InFrame := by
  cases hon : call.on with
  | true => exact (lit_call h hon).inFrame
  | false =>
      have hdark := dark_call run hon
      refine ⟨?_, ?_⟩
      · rw [hdark.dot_eq]
        decide
      · rw [hdark.line_eq]
        decide

/-! ## Many calls -/

/-- The runs of calls made one after the other. -/
def calls (run : Run) : List Call → List Run
  | [] => []
  | first :: rest => run.call first :: (run.call first).calls rest

theorem InFrame.foldl_call {run : Run} (h : run.InFrame) (calls : List Call) :
    (calls.foldl Run.call run).InFrame := by
  induction calls generalizing run with
  | nil => exact h
  | cons first rest ih => exact ih (h.call first)

theorem foldl_call_concat (run : Run) (front : List Call) (last : Call) :
    (front ++ [last]).foldl Run.call run = (front.foldl Run.call run).call last := by
  rw [List.foldl_append, List.foldl_cons, List.foldl_nil]

/-- A block of lit calls moves on by the sum of its cycles, and reports a frame each time it gets
around. -/
theorem place_foldl_call {run : Run} (h : run.InFrame) {block : List Call}
    (hon : ∀ call ∈ block, call.on = true) (hcycles : ∀ call ∈ block, call.cycles ≤ 70224) :
    (block.foldl Run.call run).place =
        (run.place + (block.map (·.cycles)).sum) % 70224 ∧
      (run.calls block).countP (·.frameDone) =
        (run.place + (block.map (·.cycles)).sum) / 70224 := by
  have hplace := h.place_lt
  -- by induction on the calls, each of which completes one frame at most
  induction block generalizing run with
  | nil =>
      rw [List.map_nil, List.sum_nil, Nat.add_zero, Nat.mod_eq_of_lt hplace,
        Nat.div_eq_of_lt hplace]
      exact ⟨rfl, rfl⟩
  | cons first rest ih =>
      have hlit := lit_call h (hon first List.mem_cons_self)
      have hfirst := hcycles first List.mem_cons_self
      obtain ⟨hrest, hcount⟩ := ih hlit.inFrame
        (fun call hcall => hon call (List.mem_cons_of_mem first hcall))
        (fun call hcall => hcycles call (List.mem_cons_of_mem first hcall)) hlit.inFrame.place_lt
      rw [place_of_lcdOn hlit.lcdOn_eq, hlit.position_eq] at hrest hcount
      rw [List.foldl_cons, hrest, calls, List.countP_cons, hcount, hlit.frameDone_eq, List.map_cons,
        List.sum_cons]
      refine ⟨?_, ?_⟩
      · omega
      · simp only [decide_eq_true_eq]
        split <;> omega

end Run

/-! ## The law -/

/-- **The position under a display that is switched on and off.**  Every dark call puts the unit
back to the start of the first line.  Over any block of lit calls, the position moves on by their
cycles around the frame, from the start if the display was dark before the block; the mode is that
of the position, the status register shows it, and a frame is reported each time the position gets
around. -/
theorem position_law {ppu : Ppu} {memory : Memory} (hdot : ppu.dot < 456)
    (hline : memory.line ≤ 153) {calls : List Call}
    (hcalls : ∀ call ∈ calls, 1 ≤ call.cycles ∧ call.cycles ≤ 70224) :
    (∀ earlier call later, calls = earlier ++ call :: later → call.on = false →
      let entry := earlier.foldl Run.call ⟨ppu, memory, false⟩
      Run.Dark entry (entry.call call)) ∧
    (∀ earlier block later, calls = earlier ++ block ++ later → block ≠ [] →
      (∀ call ∈ block, call.on = true) →
      let entry := earlier.foldl Run.call ⟨ppu, memory, false⟩
      let exit := block.foldl Run.call entry
      let total := entry.place + (block.map (·.cycles)).sum
      exit.InFrame ∧ position exit.ppu exit.memory = total % 70224 ∧
        exit.ppu.mode = Mode.ofPosition exit.memory.line exit.ppu.dot ∧
        exit.memory.lcdStatus &&& 0x03 = exit.ppu.mode.number ∧
        (entry.calls block).countP (·.frameDone) = total / 70224) := by
  have hstart : Run.InFrame ⟨ppu, memory, false⟩ := ⟨hdot, hline⟩
  refine ⟨fun earlier call later _ hoff => Run.dark_call _ hoff, ?_⟩
  rintro earlier block later rfl hblock hon entry exit total
  have hentry : entry.InFrame := hstart.foldl_call earlier
  have hcycles : ∀ call ∈ block, 1 ≤ call.cycles ∧ call.cycles ≤ 70224 := fun call hcall =>
    hcalls call (List.mem_append_left later (List.mem_append_right earlier hcall))
  obtain ⟨hplace, hcount⟩ :=
    Run.place_foldl_call hentry hon fun call hcall => (hcycles call hcall).2
  -- the mode is shown, and the display found on, after the last call of the block
  obtain ⟨front, last, rfl⟩ := (List.eq_nil_or_concat block).resolve_left hblock
  have hlit := Run.lit_call (hentry.foldl_call front) (hon last (by simp))
  have hexit : exit = (front.foldl Run.call entry).call last := by
    rw [← Run.foldl_call_concat, ← List.concat_eq_append]
  rw [← hexit] at hlit
  have hshown := hlit.shown (hcycles last (by simp)).1
  rw [Run.place_of_lcdOn hlit.lcdOn_eq] at hplace
  exact ⟨hlit.inFrame, hplace, hshown.mode_eq, hshown.status_eq, hcount⟩

theorem position_powerOn : position powerOn litMemory = 0 := by
  rw [position, line_litMemory]
  rfl

/-- A whole frame, a dark call, and the beginning of the frame after it. -/
theorem position_law_restart :
    let calls : List Call := [⟨true, 70224⟩, ⟨false, 5⟩, ⟨true, 300⟩]
    (powerOn.dot < 456 ∧ litMemory.line ≤ 153 ∧
      ∀ call ∈ calls, 1 ≤ call.cycles ∧ call.cycles ≤ 70224) ∧
    let lit := [⟨true, 70224⟩].foldl Run.call ⟨powerOn, litMemory, false⟩
    let dark := lit.call ⟨false, 5⟩
    let exit := [⟨true, 300⟩].foldl Run.call dark
    position lit.ppu lit.memory = 0 ∧ Run.Dark lit dark ∧
      exit.InFrame ∧ position exit.ppu exit.memory = 300 := by
  intro calls
  have hdot : powerOn.dot < 456 := by decide
  have hline : litMemory.line ≤ 153 := by
    rw [line_litMemory]
    decide
  have hcalls : ∀ call ∈ calls, 1 ≤ call.cycles ∧ call.cycles ≤ 70224 := by decide
  obtain ⟨hdark, hlit⟩ := position_law hdot hline hcalls
  refine ⟨⟨hdot, hline, hcalls⟩, ?_⟩
  have hoff := hdark [⟨true, 70224⟩] ⟨false, 5⟩ [⟨true, 300⟩] rfl rfl
  obtain ⟨-, hfirst, -⟩ := hlit [] [⟨true, 70224⟩] [⟨false, 5⟩, ⟨true, 300⟩] rfl
    (List.cons_ne_nil _ _) (by decide)
  obtain ⟨hframe, hlast, -⟩ := hlit ([⟨true, 70224⟩] ++ [⟨false, 5⟩]) [⟨true, 300⟩] [] rfl
    (List.cons_ne_nil _ _) (by decide)
  rw [Run.foldl_call_concat] at hframe hlast
  -- the dark call puts the place back to the start of a frame
  rw [Run.place_of_dark hoff.lcdOn_eq] at hlast
  have hplace : Run.place ⟨powerOn, litMemory, false⟩ = 0 :=
    (Run.place_of_lcdOn rfl).trans position_powerOn
  rw [List.foldl_nil, hplace] at hfirst
  exact ⟨hfirst, hoff, hframe, hlast⟩

end Ppu

end GameBoy
