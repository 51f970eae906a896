import GameBoy.Proofs.Timer.Counts
import GameBoy.Proofs.Video.Schedule

/-!
# Changes that the video unit does not notice

The timer and the video unit share the request register, and each only adds requests to it; the
other cells of the one are not read by the other.  So it makes no difference which of them runs
first.  A change of memory is `Unseen` if the unit neither reads what it changes nor has its own
writes undone by it: the counts of the timer are, `unseen_effect`.

Each part of a run of the video unit may be exchanged with such a change, from the requests up to
the whole run, `Unseen.run`: the unit, its journal and the frames it reports are the same, and the
change may just as well be made afterwards.
-/

namespace GameBoy

open Memory (SameOutside)

namespace Memory

theorem request_store (memory : Memory) {address : UInt16} (h : Address.interruptRequest ≠ address)
    (value : UInt8) (source : Interrupt) :
    ((memory.store address value).request source).value =
      (memory.request source).value.store address value := by
  unfold request
  dsimp only
  rw [read_store_of_ne _ h.symm, store_comm _ h.symm]

theorem request_comm (memory : Memory) (first second : Interrupt) :
    ((memory.request first).value.request second).value =
      ((memory.request second).value.request first).value := by
  unfold request
  dsimp only
  rw [read_store_self, read_store_self, store_store, store_store, UInt8.or_assoc, UInt8.or_assoc,
    UInt8.or_comm first.mask]

theorem SamePicture.of_sameOutside {cells : List UInt16} {first second : Memory}
    (h : SameOutside cells first second) (hcells : ∀ address ∈ cells, ¬ IsPictureCell address) :
    second.SamePicture first :=
  fun address haddress => h address fun hmem => hcells address hmem haddress

end Memory

/-! ## Unseen changes -/

/-- The cells that the timer changes. -/
def timerCells : List UInt16 :=
  [Address.divider, Address.timerCounter, Address.interruptRequest]

/-- A change of the cells of the timer that may be exchanged with the writes of the video unit. -/
structure Unseen (edit : Memory → Memory) : Prop where
  sameOutside (memory : Memory) : SameOutside timerCells memory (edit memory)
  store (memory : Memory) : ∀ address ∈ [Address.line, Address.lcdStatus], ∀ value,
    edit (memory.store address value) = (edit memory).store address value
  request (memory : Memory) (source : Interrupt) :
    edit (memory.request source).value = ((edit memory).request source).value

theorem unseen_id : Unseen id :=
  ⟨fun _ => .refl _, fun _ _ _ _ => rfl, fun _ _ => rfl⟩

theorem Unseen.comp {first second : Memory → Memory} (h : Unseen first) (h' : Unseen second) :
    Unseen (second ∘ first) where
  sameOutside memory := (h.sameOutside memory).trans (h'.sameOutside _)
  store memory address haddress value :=
    (congrArg second (h.store memory address haddress value)).trans
      (h'.store _ address haddress value)
  request memory source := (congrArg second (h.request memory source)).trans (h'.request _ source)

theorem Unseen.iterate {edit : Memory → Memory} (h : Unseen edit) (n : Nat) : Unseen edit^[n] := by
  induction n with
  | zero => exact unseen_id
  | succ n ih => exact h.comp ih

/-! ### The timer -/

namespace Timer

theorem unseen_countDivider (n : Nat) : Unseen (countDivider n) where
  sameOutside memory := .store memory (by decide) _
  store memory address haddress value := by
    have hne : Address.divider ≠ address := by
      rintro rfl
      exact absurd haddress (by decide)
    exact (store_countDivider n memory hne value).symm
  request memory source := (request_countDivider n memory source).symm

theorem unseen_counted : Unseen counted where
  sameOutside memory := by
    rw [← memory_next ⟨memory, false⟩]
    exact (sameOutside_next ⟨memory, false⟩).mono (by decide)
  store memory address haddress value := by
    -- the cells that the unit stores to are none of those that counting reads or writes
    have hne : ∀ register ∈ [Address.timerCounter, Address.timerModulo, Address.interruptRequest],
        address ≠ register := by
      rintro register hregister rfl
      simp only [List.mem_cons, List.not_mem_nil, or_false] at haddress
      rcases haddress with rfl | rfl <;> exact absurd hregister (by decide)
    unfold counted
    rw [Memory.read_store_of_ne _ (hne _ (by decide)),
      Memory.read_store_of_ne _ (hne _ (by decide))]
    dsimp only
    split
    · rw [Memory.store_comm _ (hne _ (by decide)), Memory.request_store _ (hne _ (by decide)).symm]
    · exact Memory.store_comm _ (hne _ (by decide)) _ _
  request memory source := by
    have hread {address : UInt16} (hne : Address.interruptRequest ≠ address) :
        (memory.request source).value.read address = memory.read address :=
      memory.read_store_of_ne hne _
    unfold counted
    rw [hread (by decide), hread (by decide)]
    dsimp only
    split
    · rw [← Memory.request_store _ (by decide), Memory.request_comm]
    · exact (Memory.request_store _ (by decide) _ _).symm

theorem unseen_effect (timer : Timer) (bus : Bus) (cycles : Nat) :
    Unseen (timer.effect bus cycles) :=
  (unseen_countDivider _).comp (unseen_counted.iterate _)

end Timer

/-! ## The parts of a run -/

/-- A change of memory in the middle of a run. -/
def Ppu.Run.edit (run : Run) (edit : Memory → Memory) : Run :=
  { run with memory := edit run.memory }

namespace Unseen

open Ppu

variable {edit : Memory → Memory}

theorem read (h : Unseen edit) (memory : Memory) {address : UInt16}
    (haddress : address ∉ timerCells) : (edit memory).read address = memory.read address :=
  h.sameOutside memory address haddress

theorem samePicture (h : Unseen edit) (memory : Memory) : (edit memory).SamePicture memory := by
  refine .of_sameOutside (h.sameOutside memory) fun address hmem => ?_
  simp only [timerCells, List.mem_cons, List.not_mem_nil, or_false] at hmem
  rcases hmem with rfl | rfl | rfl <;> decide

theorem alert (h : Unseen edit) (memory : Memory) (statusBit : Nat) :
    Ppu.alert (edit memory) statusBit = edit <$> Ppu.alert memory statusBit := by
  have hstatus : (edit memory).lcdStatus = memory.lcdStatus := h.read memory (by decide)
  unfold Ppu.alert
  rw [hstatus]
  split
  · apply Logged.ext
    · exact (h.request memory .lcdStat).symm
    · rfl
  · rfl

theorem storeMode (h : Unseen edit) (memory : Memory) (mode : Mode) :
    Ppu.storeMode (edit memory) mode = edit (Ppu.storeMode memory mode) := by
  have hstatus : (edit memory).lcdStatus = memory.lcdStatus := h.read memory (by decide)
  unfold Ppu.storeMode
  rw [hstatus, h.store memory Address.lcdStatus (by decide)]

theorem compareLine (h : Unseen edit) (memory : Memory) (line : UInt8) :
    Ppu.compareLine (edit memory) line = edit <$> Ppu.compareLine memory line := by
  have hstatus : (edit memory).lcdStatus = memory.lcdStatus := h.read memory (by decide)
  unfold Ppu.compareLine
  dsimp only
  rw [hstatus, h.read memory (by decide), ← h.store memory Address.lcdStatus (by decide),
    ← h.store memory Address.lcdStatus (by decide)]
  split
  · exact h.alert _ 6
  · rfl

theorem announceVblank (h : Unseen edit) (memory : Memory) (line : UInt8) :
    Ppu.announceVblank (edit memory) line = edit <$> Ppu.announceVblank memory line := by
  have hrequest : (edit memory).request .vblank = edit <$> memory.request .vblank := by
    apply Logged.ext
    · exact (h.request memory .vblank).symm
    · rfl
  unfold Ppu.announceVblank
  split
  · rw [hrequest, bind_map_left, map_bind]
    simp only [h.alert]
  · rfl

theorem nextLine (h : Unseen edit) (run : Run) :
    (run.edit edit).nextLine = (·.edit edit) <$> run.nextLine := by
  obtain ⟨ppu, memory, frameDone⟩ := run
  have hline : (edit memory).line = memory.line := h.read memory (by decide)
  -- a row is drawn from cells that the edit leaves alone
  have hdraw (ppu : Ppu) (memory : Memory) (line : Nat) :
      ppu.drawRow (edit memory) line = ppu.drawRow memory line :=
    drawRow_congr ppu (h.samePicture memory) line
  unfold Run.nextLine
  dsimp only [Run.edit]
  rw [hline, ← h.store memory Address.line (by decide), h.compareLine]
  simp only [map_bind, bind_map_left, h.announceVblank, hdraw, map_pure]

theorem updateMode (h : Unseen edit) (run : Run) :
    (run.edit edit).updateMode = (·.edit edit) <$> run.updateMode := by
  obtain ⟨ppu, memory, frameDone⟩ := run
  have hline : (edit memory).line = memory.line := h.read memory (by decide)
  unfold Run.updateMode
  dsimp only [Run.edit]
  rw [hline]
  split
  · simp only [pure_bind, map_pure, h.storeMode]
  · cases (Mode.ofPosition memory.line ppu.dot).alertBit with
    | none => simp only [pure_bind, map_pure, h.storeMode]
    | some statusBit => simp only [h.alert, bind_map_left, map_bind, map_pure, h.storeMode]

theorem advance (h : Unseen edit) (run : Run) (dots : Nat) :
    (run.edit edit).advance dots = (·.edit edit) <$> run.advance dots := by
  have hdot (dot : Nat) : (run.edit edit).setDot dot = (run.setDot dot).edit edit := rfl
  rcases Nat.lt_or_ge (run.ppu.dot + dots) dotsPerLine with hlt | hge
  · rw [Run.advance_of_lt run hlt, Run.advance_of_lt (run.edit edit) hlt, hdot, h.updateMode]
    rfl
  · rw [Run.advance_of_le run hge, Run.advance_of_le (run.edit edit) hge, hdot, h.nextLine,
      bind_map_left, map_bind]
    simp only [h.updateMode]
    rfl

theorem walk (h : Unseen edit) (run : Run) (dots : Nat) :
    Run.walk dots (run.edit edit) = (·.edit edit) <$> Run.walk dots run := by
  have hppu (run : Run) : (run.edit edit).ppu = run.ppu := rfl
  -- by the recursion of the walk, which the unit decides and not the memory
  induction dots, run using Run.walk.induct with
  | case1 dots run hwalk chunk ih =>
      have hwith := Run.walk_of_pos (run.edit edit) hwalk.2 hwalk.1
      rw [hppu, h.advance, bind_map_left] at hwith
      rw [hwith, Run.walk_of_pos run hwalk.2 hwalk.1, map_bind]
      exact Logged.bind_congr_value (ih _)
  | case2 dots run hwalk =>
      have hwith : Run.walk dots (run.edit edit) = pure (run.edit edit) := by
        rw [Run.walk, hppu, dif_neg hwalk]
      rw [hwith, Run.walk, dif_neg hwalk, map_pure]

/-! ## Whole runs -/

theorem switchOn (h : Unseen edit) (ppu : Ppu) (memory : Memory) :
    ppu.switchOn (edit memory) = (·.edit edit) <$> ppu.switchOn memory := by
  unfold Ppu.switchOn
  split
  · rfl
  · rw [← h.store memory Address.line (by decide), h.compareLine]
    simp only [map_bind, bind_map_left, map_pure]
    rfl

theorem switchOff (h : Unseen edit) (ppu : Ppu) (memory : Memory) :
    ppu.switchOff (edit memory) = (·.edit edit) <$> ppu.switchOff memory := by
  unfold Ppu.switchOff
  rw [← h.store memory Address.line (by decide), h.storeMode]
  apply Logged.ext
  · rfl
  · rw [Logged.journal_map]

/-- A run of the video unit may be exchanged with a change that it does not notice. -/
theorem run (h : Unseen edit) (ppu : Ppu) (memory : Memory) (cycles : Nat) :
    ppu.run (edit memory) cycles = (·.edit edit) <$> ppu.run memory cycles := by
  have hcontrol : (edit memory).lcdControl = memory.lcdControl := h.read memory (by decide)
  unfold Ppu.run
  rw [hcontrol]
  split
  · rw [h.switchOn, bind_map_left, map_bind]
    simp only [h.walk]
  · exact h.switchOff ppu memory

end Unseen

end GameBoy
