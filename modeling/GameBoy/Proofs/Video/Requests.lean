import GameBoy.Proofs.Video.Position

/-!
# The interrupts that the video unit requests

The interrupt request register is only ever written to set bits in it, so what matters is when.
The vertical blank is requested where line 144 starts; the status interrupt is requested where
some bit of the status register asks for it, which `AlertsAt` describes by places of the frame.

One dot requests exactly what is due at the place it leads to, `Aligned.requests_advance`, whether
it enters a line, a mode or both.  From this `requests_run` follows by induction on the dots: a
run requests what is due at some place on its way, and changes nothing else but the line register,
the mode and the coincidence bit.
-/

namespace GameBoy

namespace Ppu

open Memory (SameOutside)

/-- Whether the status register asks for an interrupt at a place of the frame: where the line of
the compare register starts, where the vertical blank starts, where a visible line starts, or
where the horizontal blank of a visible line starts. -/
def AlertsAt (memory : Memory) (place : Nat) : Prop :=
  (bit memory.lcdStatus 6 = true ∧ place = 456 * (memory.read Address.lineCompare).toNat) ∨
    (bit memory.lcdStatus 4 = true ∧ place = 456 * 144) ∨
    (bit memory.lcdStatus 5 = true ∧ ∃ line < 144, place = 456 * line) ∨
    (bit memory.lcdStatus 3 = true ∧ ∃ line < 144, place = 456 * line + 252)

/-! ## Requests, operation by operation -/

section

variable (memory : Memory) (i : Nat)

theorem bit_request (source : Interrupt) :
    bit ((memory.request source).value.read Address.interruptRequest) i = true ↔
      bit (memory.read Address.interruptRequest) i = true ∨ i = source.index := by
  have hread : (memory.request source).value.read Address.interruptRequest =
      memory.read Address.interruptRequest ||| source.mask := memory.read_store_self _ _
  rw [hread, bit_or, source.bit_mask, Bool.or_eq_true, decide_eq_true_iff]

theorem requests_alert (statusBit : Nat) :
    bit ((alert memory statusBit).value.read Address.interruptRequest) i = true ↔
      bit (memory.read Address.interruptRequest) i = true ∨
        (i = 1 ∧ bit memory.lcdStatus statusBit = true) := by
  unfold alert
  by_cases hasks : bit memory.lcdStatus statusBit = true
  · rw [if_pos hasks, bit_request]
    simp only [hasks, and_true, Interrupt.index]
  · rw [if_neg hasks]
    simp only [hasks, Bool.false_eq_true, and_false, or_false]
    rfl

theorem requests_compareLine (line : UInt8) :
    bit ((compareLine memory line).value.read Address.interruptRequest) i = true ↔
      bit (memory.read Address.interruptRequest) i = true ∨
        (i = 1 ∧ line = memory.read Address.lineCompare ∧ bit memory.lcdStatus 6 = true) := by
  have hrequests (status : UInt8) :
      (memory.store Address.lcdStatus status).read Address.interruptRequest =
        memory.read Address.interruptRequest := memory.read_store_of_ne (by decide) _
  -- the coincidence bit is set before the alert looks at bit 6
  have hstatus : bit (memory.store Address.lcdStatus (memory.lcdStatus ||| 0x04)).lcdStatus 6 =
      bit memory.lcdStatus 6 := by
    rw [Memory.lcdStatus, Memory.read_store_self, bit_or, bit_coincidence]
    exact Bool.or_false _
  unfold compareLine
  dsimp only
  by_cases hline : line = memory.read Address.lineCompare
  · rw [if_pos hline, requests_alert, hrequests, hstatus]
    simp only [hline, true_and]
  · rw [if_neg hline]
    simp only [hline, false_and, and_false, or_false]
    rw [Logged.value_pure, hrequests]

theorem requests_announceVblank (line : UInt8) :
    bit ((announceVblank memory line).value.read Address.interruptRequest) i = true ↔
      bit (memory.read Address.interruptRequest) i = true ∨
        (line = 144 ∧ (i = 0 ∨ (i = 1 ∧ bit memory.lcdStatus 4 = true))) := by
  have hstatus : (memory.request .vblank).value.lcdStatus = memory.lcdStatus :=
    sameOutside_request memory .vblank Address.lcdStatus (by decide)
  unfold announceVblank
  by_cases hline : line = 144
  · rw [if_pos hline, Logged.value_bind, requests_alert, bit_request, hstatus]
    simp only [hline, true_and, Interrupt.index, or_assoc]
  · rw [if_neg hline]
    simp only [hline, false_and, or_false]
    rfl

theorem status_compareLine (line : UInt8) :
    bit (compareLine memory line).value.lcdStatus i =
      if i = 2 then decide (line = memory.read Address.lineCompare)
      else bit memory.lcdStatus i := by
  unfold compareLine
  dsimp only
  by_cases hline : line = memory.read Address.lineCompare
  · have hkept :
        (alert (memory.store Address.lcdStatus (memory.lcdStatus ||| 0x04)) 6).value.lcdStatus =
          memory.lcdStatus ||| 0x04 :=
      (sameOutside_alert _ 6 Address.lcdStatus (by decide)).trans (memory.read_store_self _ _)
    rw [if_pos hline, hkept, bit_or, bit_coincidence]
    by_cases hi : i = 2 <;> simp [hi, hline]
  · have hkept : (memory.store Address.lcdStatus (memory.lcdStatus &&& 0xFB)).lcdStatus =
        memory.lcdStatus &&& 0xFB := memory.read_store_self _ _
    rw [if_neg hline, Logged.value_pure, hkept, bit_and_coincidence]
    by_cases hi : i = 2 <;> simp [hi, hline]

end

/-! ## Entering a line or a mode -/

namespace Run

theorem lineCompare_store (memory : Memory) (line : UInt8) :
    (memory.store Address.line line).read Address.lineCompare =
      memory.read Address.lineCompare :=
  memory.read_store_of_ne (by decide) _

theorem lcdStatus_store (memory : Memory) (line : UInt8) :
    (memory.store Address.line line).lcdStatus = memory.lcdStatus :=
  memory.read_store_of_ne (by decide) _

/-- Entering a line compares it, so only the coincidence bit of the status register changes. -/
theorem status_enterLine (memory : Memory) (line : UInt8) (i : Nat) :
    bit (enterLine memory line).lcdStatus i =
      if i = 2 then decide (line = memory.read Address.lineCompare)
      else bit memory.lcdStatus i := by
  have hannounce : (enterLine memory line).lcdStatus =
      (compareLine (memory.store Address.line line) line).value.lcdStatus :=
    sameOutside_announceVblank _ line Address.lcdStatus (by decide)
  rw [hannounce, status_compareLine, lineCompare_store, lcdStatus_store]

theorem requests_enterLine (memory : Memory) (line : UInt8) (i : Nat) :
    bit ((enterLine memory line).read Address.interruptRequest) i = true ↔
      bit (memory.read Address.interruptRequest) i = true ∨
        (i = 1 ∧ line = memory.read Address.lineCompare ∧ bit memory.lcdStatus 6 = true) ∨
        (line = 144 ∧ (i = 0 ∨ (i = 1 ∧ bit memory.lcdStatus 4 = true))) := by
  have hrequests : (memory.store Address.line line).read Address.interruptRequest =
      memory.read Address.interruptRequest := memory.read_store_of_ne (by decide) _
  have hstatus : bit (compareLine (memory.store Address.line line) line).value.lcdStatus 4 =
      bit memory.lcdStatus 4 := by
    rw [status_compareLine, lcdStatus_store]
    rfl
  unfold enterLine
  rw [requests_announceVblank, requests_compareLine, hstatus, hrequests, lineCompare_store,
    lcdStatus_store, or_assoc]

theorem requests_enterMode (memory : Memory) (i : Nat) (old new : Mode) :
    bit ((enterMode memory old new).value.read Address.interruptRequest) i = true ↔
      bit (memory.read Address.interruptRequest) i = true ∨
        (i = 1 ∧ new ≠ old ∧
          ∃ statusBit, new.alertBit = some statusBit ∧ bit memory.lcdStatus statusBit = true) := by
  unfold enterMode
  by_cases hsame : new = old
  · rw [if_pos hsame]
    simp [hsame]
  · rw [if_neg hsame]
    cases new.alertBit with
    | none => simp
    | some statusBit =>
        rw [requests_alert]
        simp [hsame]

theorem status_updateMode (run : Run) {i : Nat} (h : 2 ≤ i) :
    bit run.updateMode.value.memory.lcdStatus i = bit run.memory.lcdStatus i := by
  have hentered (old new : Mode) :
      (enterMode run.memory old new).value.lcdStatus = run.memory.lcdStatus :=
    sameOutside_enterMode run.memory old new Address.lcdStatus (by decide)
  rw [value_updateMode]
  dsimp only
  rw [bit_storeMode _ _ h, hentered]

theorem requests_updateMode (run : Run) (i : Nat) :
    bit (run.updateMode.value.memory.read Address.interruptRequest) i = true ↔
      bit (run.memory.read Address.interruptRequest) i = true ∨
        (i = 1 ∧ Mode.ofPosition run.memory.line run.ppu.dot ≠ run.ppu.mode ∧
          ∃ statusBit, (Mode.ofPosition run.memory.line run.ppu.dot).alertBit = some statusBit ∧
            bit run.memory.lcdStatus statusBit = true) := by
  rw [value_updateMode]
  dsimp only
  rw [read_storeMode _ _ (by decide), requests_enterMode]

theorem mode_nextLine (run : Run) :
    run.nextLine.value.ppu.mode =
      if lineAfter run.memory.line = 144 then .vblank else run.ppu.mode := by
  have hstart (ppu : Ppu) (line : UInt8) :
      (startLine ppu line).mode = if line = 144 then .vblank else ppu.mode := by
    unfold startLine
    dsimp only
    split <;> split <;> rfl
  rw [value_nextLine]
  exact (mode_drawRow _ _ _).trans (hstart _ _)

theorem memory_nextLine (run : Run) :
    run.nextLine.value.memory = enterLine run.memory (lineAfter run.memory.line) := by
  rw [value_nextLine]

/-! ## One dot -/

/-- Within a line the only mode that asks for an interrupt is the horizontal blank. -/
theorem alertBit_within {line : UInt8} {dot statusBit : Nat} :
    (Mode.ofPosition line (dot + 1) ≠ Mode.ofPosition line dot ∧
        (Mode.ofPosition line (dot + 1)).alertBit = some statusBit) ↔
      line < 144 ∧ dot + 1 = 252 ∧ statusBit = 3 := by
  unfold Mode.ofPosition
  -- the scan ends at dot 80 and the drawing at dot 252; only the second change asks
  by_cases hline : line ≥ 144
  · have hnot : ¬ line < 144 := UInt8.not_lt.mpr hline
    simp [hline, hnot]
  · have hlt : line < 144 := UInt8.not_le.mp hline
    rw [if_neg hline, if_neg hline]
    by_cases hscan : dot + 1 < 80
    · rw [if_pos hscan, if_pos (by omega)]
      simp only [ne_eq, not_true_eq_false, false_and, false_iff]
      omega
    · rw [if_neg hscan]
      by_cases hdrawing : dot + 1 < 252
      · rw [if_pos hdrawing]
        simp only [Mode.alertBit, reduceCtorEq, and_false, false_iff]
        omega
      · rw [if_neg hdrawing]
        by_cases hblank : dot < 252
        · rw [if_neg (by omega), if_pos hblank]
          simp only [Mode.alertBit, ne_eq, reduceCtorEq, not_false_eq_true, true_and,
            Option.some.injEq, hlt]
          omega
        · rw [if_neg (by omega), if_neg hblank]
          simp only [ne_eq, not_true_eq_false, false_and, false_iff]
          omega

/-- Where a line starts the only mode that asks for an interrupt is the object scan. -/
theorem alertBit_start {old new : UInt8} {statusBit : Nat} :
    (Mode.ofPosition new 0 ≠ (if new = 144 then .vblank else Mode.ofPosition old 455) ∧
        (Mode.ofPosition new 0).alertBit = some statusBit) ↔
      new < 144 ∧ statusBit = 5 := by
  by_cases hnew : new ≥ 144
  · have hnot : ¬ new < 144 := UInt8.not_lt.mpr hnew
    have hvblank : Mode.ofPosition new 0 = .vblank := if_pos hnew
    rw [hvblank]
    simp [Mode.alertBit, hnot]
  · have hlt : new < 144 := UInt8.not_le.mp hnew
    have hscan : Mode.ofPosition new 0 = .objectScan := if_neg hnew
    have hne : new ≠ 144 := UInt8.ne_of_lt hlt
    have hleft : Mode.objectScan ≠ Mode.ofPosition old 455 := by
      unfold Mode.ofPosition
      split <;> simp
    rw [hscan, if_neg hne]
    simp only [hleft, ne_eq, not_false_eq_true, Mode.alertBit, Option.some.injEq, true_and, hlt]
    exact eq_comm

theorem asks_within {line status : UInt8} {dot : Nat} :
    (Mode.ofPosition line (dot + 1) ≠ Mode.ofPosition line dot ∧
        ∃ statusBit, (Mode.ofPosition line (dot + 1)).alertBit = some statusBit ∧
          bit status statusBit = true) ↔
      bit status 3 = true ∧ line.toNat < 144 ∧ dot + 1 = 252 := by
  constructor
  · rintro ⟨hne, statusBit, halert, hbit⟩
    obtain ⟨hlow, hblank, rfl⟩ := alertBit_within.mp ⟨hne, halert⟩
    exact ⟨hbit, UInt8.lt_iff_toNat_lt.mp hlow, hblank⟩
  · rintro ⟨hbit, hlow, hblank⟩
    obtain ⟨hne, halert⟩ := alertBit_within.mpr ⟨UInt8.lt_iff_toNat_lt.mpr hlow, hblank, rfl⟩
    exact ⟨hne, 3, halert, hbit⟩

theorem asks_start {old new status : UInt8} :
    (Mode.ofPosition new 0 ≠ (if new = 144 then .vblank else Mode.ofPosition old 455) ∧
        ∃ statusBit, (Mode.ofPosition new 0).alertBit = some statusBit ∧
          bit status statusBit = true) ↔
      bit status 5 = true ∧ new.toNat < 144 := by
  constructor
  · rintro ⟨hne, statusBit, halert, hbit⟩
    obtain ⟨hlow, rfl⟩ := alertBit_start.mp ⟨hne, halert⟩
    exact ⟨hbit, UInt8.lt_iff_toNat_lt.mp hlow⟩
  · rintro ⟨hbit, hlow⟩
    obtain ⟨hne, halert⟩ := alertBit_start.mpr ⟨UInt8.lt_iff_toNat_lt.mpr hlow, rfl⟩
    exact ⟨hne, 5, halert, hbit⟩

/-- Inside a line only the start of the horizontal blank asks for a status interrupt. -/
theorem alertsAt_within {memory : Memory} {line dot : Nat} (hdot : dot + 1 < 456) :
    AlertsAt memory (456 * line + (dot + 1)) ↔
      bit memory.lcdStatus 3 = true ∧ line < 144 ∧ dot + 1 = 252 := by
  constructor
  · -- the first three reasons are given at the start of a line only
    rintro (⟨-, h⟩ | ⟨-, h⟩ | ⟨-, other, hother, h⟩ | ⟨hbit, other, hother, h⟩)
    · omega
    · omega
    · omega
    · exact ⟨hbit, by omega, by omega⟩
  · rintro ⟨hbit, hline, hdot⟩
    exact Or.inr (Or.inr (Or.inr ⟨hbit, line, hline, by rw [hdot]⟩))

theorem alertsAt_start {memory : Memory} {line : Nat} :
    AlertsAt memory (456 * line) ↔
      (bit memory.lcdStatus 6 = true ∧ line = (memory.read Address.lineCompare).toNat) ∨
        (bit memory.lcdStatus 4 = true ∧ line = 144) ∨
        (bit memory.lcdStatus 5 = true ∧ line < 144) := by
  constructor
  · -- the horizontal blank begins at dot 252, never at the start of a line
    rintro (⟨hbit, h⟩ | ⟨hbit, h⟩ | ⟨hbit, other, hother, h⟩ | ⟨hbit, other, hother, h⟩)
    · exact Or.inl ⟨hbit, by omega⟩
    · exact Or.inr (Or.inl ⟨hbit, by omega⟩)
    · exact Or.inr (Or.inr ⟨hbit, by omega⟩)
    · omega
  · rintro (⟨hbit, h⟩ | ⟨hbit, h⟩ | ⟨hbit, h⟩)
    · exact Or.inl ⟨hbit, by rw [h]⟩
    · exact Or.inr (Or.inl ⟨hbit, by rw [h]⟩)
    · exact Or.inr (Or.inr (Or.inl ⟨hbit, line, h, rfl⟩))

/-- Entering a line requests what is due at its start. -/
theorem requests_startOfLine {run : Run} {old : UInt8} (hmode : run.ppu.mode = .ofPosition old 455)
    (hdot : run.ppu.dot = 0) (i : Nat) :
    bit ((run.nextLine >>= updateMode).value.memory.read Address.interruptRequest) i = true ↔
      bit (run.memory.read Address.interruptRequest) i = true ∨
        (i = 0 ∧ 456 * (lineAfter run.memory.line).toNat = 456 * 144) ∨
        (i = 1 ∧ AlertsAt run.memory (456 * (lineAfter run.memory.line).toNat)) := by
  rw [Logged.value_bind, requests_updateMode, alertsAt_start, dot_nextLine, mode_nextLine,
    memory_nextLine, line_enterLine, requests_enterLine, hdot, hmode]
  generalize lineAfter run.memory.line = new
  -- the object scan is asked for after the line has been compared, which leaves bit 5 alone
  have hkept : bit (enterLine run.memory new).lcdStatus 5 = bit run.memory.lcdStatus 5 :=
    status_enterLine run.memory new 5
  have hcompare : new = run.memory.read Address.lineCompare ↔
      new.toNat = (run.memory.read Address.lineCompare).toNat := UInt8.toNat_inj.symm
  have hvblank : new = 144 ↔ new.toNat = 144 := UInt8.toNat_inj.symm
  have hplace : 456 * new.toNat = 456 * 144 ↔ new.toNat = 144 := Nat.mul_right_inj (by decide)
  rw [asks_start, hkept, hcompare, hvblank, hplace]
  -- both sides give the same reasons, in the order of the requests and in that of the definition
  constructor
  · rintro (((hold | ⟨hi, hline, hbit⟩ | ⟨hline, hi | ⟨hi, hbit⟩⟩)) | ⟨hi, hbit⟩)
    · exact Or.inl hold
    · exact Or.inr (Or.inr ⟨hi, Or.inl ⟨hbit, hline⟩⟩)
    · exact Or.inr (Or.inl ⟨hi, hline⟩)
    · exact Or.inr (Or.inr ⟨hi, Or.inr (Or.inl ⟨hbit, hline⟩)⟩)
    · exact Or.inr (Or.inr ⟨hi, Or.inr (Or.inr hbit)⟩)
  · rintro (hold | ⟨hi, hline⟩ | ⟨hi, ⟨hbit, hline⟩ | ⟨hbit, hline⟩ | hbit⟩)
    · exact Or.inl (Or.inl hold)
    · exact Or.inl (Or.inr (Or.inr ⟨hline, Or.inl hi⟩))
    · exact Or.inl (Or.inr (Or.inl ⟨hi, hline, hbit⟩))
    · exact Or.inl (Or.inr (Or.inr ⟨hline, Or.inr ⟨hi, hbit⟩⟩))
    · exact Or.inr ⟨hi, hbit⟩

/-- The place after one dot more, in a line or at the start of the next. -/
theorem InFrame.place_of_lt {run : Run} (h : run.InFrame) (hlt : run.ppu.dot + 1 < dotsPerLine) :
    (position run.ppu run.memory + 1) % 70224 =
      456 * run.memory.line.toNat + (run.ppu.dot + 1) := by
  have hline : run.memory.line.toNat ≤ 153 := UInt8.le_iff_toNat_le.mp h.line_le
  have hlt : run.ppu.dot + 1 < 456 := hlt
  unfold position
  omega

theorem InFrame.place_of_le {run : Run} (h : run.InFrame) (hend : run.ppu.dot + 1 = 456) :
    (position run.ppu run.memory + 1) % 70224 = 456 * (lineAfter run.memory.line).toNat := by
  rw [toNat_lineAfter h.line_le]
  unfold position
  omega

/-- One dot requests exactly what is due at the place it leads to. -/
theorem Aligned.requests_advance {run : Run} (h : run.Aligned) (hframe : run.InFrame) (i : Nat) :
    bit ((run.advance 1).value.memory.read Address.interruptRequest) i = true ↔
      bit (run.memory.read Address.interruptRequest) i = true ∨
        (i = 0 ∧ (position run.ppu run.memory + 1) % 70224 = 456 * 144) ∨
        (i = 1 ∧ AlertsAt run.memory ((position run.ppu run.memory + 1) % 70224)) := by
  rcases Nat.lt_or_ge (run.ppu.dot + 1) dotsPerLine with hlt | hge
  · -- within a line only the mode can ask, and not for the vertical blank
    have hlt' : run.ppu.dot + 1 < 456 := hlt
    have hvblank : ¬ 456 * run.memory.line.toNat + (run.ppu.dot + 1) = 456 * 144 := by omega
    rw [advance_of_lt run hlt, requests_updateMode, hframe.place_of_lt hlt, alertsAt_within hlt',
      memory_setDot, dot_setDot, mode_setDot, h.mode_eq, asks_within]
    simp only [hvblank, and_false, false_or]
  · -- a line is entered, with the mode that the last dot of the line before had
    have hend : run.ppu.dot + 1 = 456 := Nat.le_antisymm hframe.dot_lt hge
    have hdot : run.ppu.dot + 1 - dotsPerLine = 0 := by rw [hend]; rfl
    have hmode : run.ppu.mode = Mode.ofPosition run.memory.line 455 := by
      rw [h.mode_eq, Nat.succ_inj.mp hend]
    rw [advance_of_le run hge, hframe.place_of_le hend, hdot]
    have hstart : (run.setDot 0).ppu.mode = Mode.ofPosition run.memory.line 455 := hmode
    exact requests_startOfLine hstart rfl i

/-- Above the mode an advance changes the coincidence bit only, and only where a line starts. -/
theorem status_advance (run : Run) {dots i : Nat} (h : 2 ≤ i) :
    bit (run.advance dots).value.memory.lcdStatus i =
      if i = 2 ∧ dotsPerLine ≤ run.ppu.dot + dots then
        decide (lineAfter run.memory.line = run.memory.read Address.lineCompare)
      else bit run.memory.lcdStatus i := by
  rcases Nat.lt_or_ge (run.ppu.dot + dots) dotsPerLine with hlt | hge
  · rw [advance_of_lt run hlt, status_updateMode _ h, memory_setDot,
      if_neg fun hstart => Nat.not_le_of_lt hlt hstart.2]
  · rw [advance_of_le run hge, Logged.value_bind, status_updateMode _ h, memory_nextLine,
      memory_setDot, status_enterLine]
    simp only [hge, and_true]

/-! ## Walks -/

/-- What is asked for depends on the enabling bits and the compare register only. -/
theorem alertsAt_congr {first second : Memory}
    (hstatus : ∀ i, 3 ≤ i → bit second.lcdStatus i = bit first.lcdStatus i)
    (hcompare : second.read Address.lineCompare = first.read Address.lineCompare) (place : Nat) :
    AlertsAt second place ↔ AlertsAt first place := by
  unfold AlertsAt
  rw [hstatus 6 (by decide), hstatus 5 (by decide), hstatus 4 (by decide), hstatus 3 (by decide),
    hcompare]

/-- The places passed by a walk are those passed before its last dot, and the last one. -/
theorem exists_place_succ {start dots : Nat} {P : Nat → Prop} :
    (∃ q, start < q ∧ q ≤ start + (dots + 1) ∧ P q) ↔
      (∃ q, start < q ∧ q ≤ start + dots ∧ P q) ∨ P (start + dots + 1) := by
  constructor
  · rintro ⟨q, hlow, hhigh, hq⟩
    rcases Nat.lt_or_ge (start + dots) q with hlast | hbefore
    · have heq : q = start + dots + 1 := by omega
      exact Or.inr (heq ▸ hq)
    · exact Or.inl ⟨q, hlow, hbefore, hq⟩
  · rintro (⟨q, hlow, hhigh, hq⟩ | hlast)
    · exact ⟨q, hlow, by omega, hq⟩
    · exact ⟨start + dots + 1, by omega, by omega, hlast⟩

theorem status_walk (run : Run) (dots : Nat) {i : Nat} (h : 3 ≤ i) :
    bit (walk dots run).value.memory.lcdStatus i = bit run.memory.lcdStatus i := by
  refine walk_induction (P := fun other => bit other.memory.lcdStatus i =
    bit run.memory.lcdStatus i) ?_ dots run rfl
  intro other chunk _ hother
  have hnot : ¬ (i = 2 ∧ dotsPerLine ≤ other.ppu.dot + chunk) := by omega
  rw [status_advance other (Nat.le_of_succ_le h), if_neg hnot, hother]

theorem lineCompare_walk (run : Run) (dots : Nat) :
    (walk dots run).value.memory.read Address.lineCompare =
      run.memory.read Address.lineCompare :=
  sameOutside_walk run dots Address.lineCompare (by decide)

/-- A walk requests what is due at some place on its way. -/
theorem Aligned.requests_walk {run : Run} (h : run.Aligned) (hframe : run.InFrame)
    (dots i : Nat) :
    bit ((walk dots run).value.memory.read Address.interruptRequest) i = true ↔
      bit (run.memory.read Address.interruptRequest) i = true ∨
        (i = 0 ∧ ∃ q, position run.ppu run.memory < q ∧ q ≤ position run.ppu run.memory + dots ∧
          q % 70224 = 456 * 144) ∨
        (i = 1 ∧ ∃ q, position run.ppu run.memory < q ∧ q ≤ position run.ppu run.memory + dots ∧
          AlertsAt run.memory (q % 70224)) := by
  generalize hstart : position run.ppu run.memory = start
  -- by induction on the dots: the last one adds the reasons of its own place
  induction dots with
  | zero =>
      have hnone (P : Nat → Prop) : ¬ ∃ q, start < q ∧ q ≤ start + 0 ∧ P q :=
        fun ⟨q, hlow, hhigh, _⟩ => absurd hlow (Nat.not_lt_of_le hhigh)
      rw [walk_zero]
      simp only [hnone, and_false, or_false]
      rfl
  | succ dots ih =>
      obtain ⟨hwalk, hposition, -⟩ := hframe.walk dots
      have hplace : (position (walk dots run).value.ppu (walk dots run).value.memory + 1) % 70224 =
          (start + dots + 1) % 70224 := by
        rw [hposition, hstart, Nat.mod_add_mod]
      -- what is asked for does not change on the way
      have halerts := alertsAt_congr (fun i hi => status_walk run dots hi)
        (lineCompare_walk run dots) ((start + dots + 1) % 70224)
      rw [h.value_walk_succ, (aligned_walk h dots).requests_advance hwalk, ih, hplace, halerts,
        exists_place_succ, exists_place_succ]
      constructor
      · rintro ((hold | ⟨hi, hbefore⟩ | ⟨hi, hbefore⟩) | ⟨hi, hlast⟩ | ⟨hi, hlast⟩)
        · exact Or.inl hold
        · exact Or.inr (Or.inl ⟨hi, Or.inl hbefore⟩)
        · exact Or.inr (Or.inr ⟨hi, Or.inl hbefore⟩)
        · exact Or.inr (Or.inl ⟨hi, Or.inr hlast⟩)
        · exact Or.inr (Or.inr ⟨hi, Or.inr hlast⟩)
      · rintro (hold | ⟨hi, hbefore | hlast⟩ | ⟨hi, hbefore | hlast⟩)
        · exact Or.inl (Or.inl hold)
        · exact Or.inl (Or.inr (Or.inl ⟨hi, hbefore⟩))
        · exact Or.inr (Or.inl ⟨hi, hlast⟩)
        · exact Or.inl (Or.inr (Or.inr ⟨hi, hbefore⟩))
        · exact Or.inr (Or.inr ⟨hi, hlast⟩)

/-- The coincidence bit tells about the last line that was entered, if any was. -/
theorem Aligned.coincidence_walk {run : Run} (h : run.Aligned) (hframe : run.InFrame)
    (dots : Nat) :
    bit (walk dots run).value.memory.lcdStatus 2 =
      if position run.ppu run.memory / 456 < (position run.ppu run.memory + dots) / 456 then
        decide ((position run.ppu run.memory + dots) / 456 % 154 =
          (run.memory.read Address.lineCompare).toNat)
      else bit run.memory.lcdStatus 2 := by
  generalize hstart : position run.ppu run.memory = start
  -- by induction on the dots: the last one matters only if a line starts there
  induction dots with
  | zero =>
      rw [walk_zero, Nat.add_zero, if_neg (Nat.lt_irrefl _)]
      rfl
  | succ dots ih =>
      obtain ⟨hwalk, hposition, -⟩ := hframe.walk dots
      have hcompare := lineCompare_walk run dots
      rw [h.value_walk_succ, status_advance _ (Nat.le_refl 2), ih, hcompare]
      generalize (walk dots run).value = middle at hwalk hposition
      rw [hstart] at hposition
      have hdot : middle.ppu.dot < 456 := hwalk.dot_lt
      have hline : middle.memory.line.toNat ≤ 153 := UInt8.le_iff_toNat_le.mp hwalk.line_le
      unfold position at hposition
      by_cases hend : dotsPerLine ≤ middle.ppu.dot + 1
      · -- a line starts here, and it is the last one so far
        have hdot : middle.ppu.dot + 1 = 456 := Nat.le_antisymm hdot hend
        have hafter : (lineAfter middle.memory.line).toNat = (start + (dots + 1)) / 456 % 154 := by
          rw [toNat_lineAfter hwalk.line_le]
          omega
        rw [if_pos ⟨rfl, hend⟩, if_pos (by omega), ← hafter]
        exact decide_eq_decide.mpr UInt8.toNat_inj.symm
      · -- within a line the coincidence stays
        have hdot : middle.ppu.dot + 1 < 456 := Nat.lt_of_not_le hend
        have hsame : (start + (dots + 1)) / 456 = (start + dots) / 456 := by omega
        rw [if_neg (fun hstart => hend hstart.2), hsame]

end Run

/-! ## Runs -/

/-- **Exact interrupt requests.**  A run requests the vertical blank and the status interrupt
exactly if they are due at some place on its way.  In the status register it leaves the enabling
bits alone, and the coincidence bit tells about the last line start on the way. -/
theorem requests_run {ppu : Ppu} {memory : Memory}
    (henabled : LcdControl.lcdEnabled memory.lcdControl = true) (hline : memory.line ≤ 153)
    (hon : ppu.lcdOn = true) (hdot : ppu.dot < 456)
    (hmode : ppu.mode = Mode.ofPosition memory.line ppu.dot) (cycles : Nat) :
    let after := (ppu.run memory cycles).value.memory
    let start := 456 * memory.line.toNat + ppu.dot
    let stop := start + cycles
    (∀ i, bit (after.read Address.interruptRequest) i = true ↔
      bit (memory.read Address.interruptRequest) i = true ∨
        (i = Interrupt.vblank.index ∧ ∃ q, start < q ∧ q ≤ stop ∧ q % 70224 = 456 * 144) ∨
        (i = Interrupt.lcdStat.index ∧
          ∃ q, start < q ∧ q ≤ stop ∧ AlertsAt memory (q % 70224))) ∧
      (∀ i, 3 ≤ i → bit after.lcdStatus i = bit memory.lcdStatus i) ∧
      ((∀ q, start < q → q ≤ stop → q % 456 ≠ 0) →
        bit after.lcdStatus 2 = bit memory.lcdStatus 2) ∧
      (∀ q, start < q → q ≤ stop → q % 456 = 0 → stop < q + 456 →
        (bit after.lcdStatus 2 = true ↔
          q % 70224 / 456 = (memory.read Address.lineCompare).toNat)) ∧
      ∀ address, address ≠ Address.line → address ≠ Address.lcdStatus →
        address ≠ Address.interruptRequest → after.read address = memory.read address := by
  have haligned : Run.Aligned ⟨ppu, memory, false⟩ := ⟨hdot, hmode⟩
  have hframe : Run.InFrame ⟨ppu, memory, false⟩ := ⟨hdot, hline⟩
  have hcoincidence := haligned.coincidence_walk hframe cycles
  dsimp only
  rw [run_of_enabled henabled, switchOn_of_lcdOn hon, pure_bind]
  refine ⟨haligned.requests_walk hframe cycles, fun i hi => Run.status_walk _ cycles hi, ?_, ?_, ?_⟩
  · intro hnone
    rw [hcoincidence, if_neg]
    intro hcrossed
    -- the last line start before the end would be on the way
    dsimp only [position] at hcrossed
    exact hnone (456 * ((456 * memory.line.toNat + ppu.dot + cycles) / 456)) (by omega) (by omega)
      (by omega)
  · intro q hlow hhigh hstart hlast
    have hcrossed : position ppu memory / 456 < (position ppu memory + cycles) / 456 := by
      unfold position
      omega
    -- no line starts after `q`, so it is the line of `q` that is compared last
    have hline : (position ppu memory + cycles) / 456 % 154 = q % 70224 / 456 := by
      unfold position
      omega
    rw [hcoincidence, if_pos hcrossed, hline, decide_eq_true_iff]
  · intro address hne hne' hne''
    refine Run.sameOutside_walk _ cycles address ?_
    simp [videoCells, hne, hne', hne'']

/-- From power-on the vertical blank is requested after 144 lines, and no status interrupt. -/
theorem requests_run_vblank :
    (LcdControl.lcdEnabled litMemory.lcdControl = true ∧ litMemory.line ≤ 153 ∧
      powerOn.lcdOn = true ∧ powerOn.dot < 456 ∧
      powerOn.mode = Mode.ofPosition litMemory.line powerOn.dot) ∧
    bit ((powerOn.run litMemory 65664).value.memory.read Address.interruptRequest) 0 = true ∧
      bit ((powerOn.run litMemory 65664).value.memory.read Address.interruptRequest) 1 = false := by
  have henabled : LcdControl.lcdEnabled litMemory.lcdControl = true := by
    rw [lcdControl_litMemory]
    rfl
  have hline : litMemory.line ≤ 153 := by
    rw [line_litMemory]
    decide
  have hmode : powerOn.mode = Mode.ofPosition litMemory.line powerOn.dot := by
    rw [line_litMemory]
    rfl
  have hclear (address : UInt16) (h : Address.lcdControl ≠ address) :
      litMemory.read address = 0 :=
    (Memory.read_store_of_ne _ h _).trans (Memory.read_blank address)
  have hstatus (i : Nat) : bit litMemory.lcdStatus i = false := by
    rw [Memory.lcdStatus, hclear _ (by decide)]
    exact Nat.zero_testBit i
  have hrequests := (requests_run henabled hline rfl (by decide) hmode 65664).1
  rw [line_litMemory, hclear _ (by decide)] at hrequests
  refine ⟨⟨henabled, hline, rfl, by decide, hmode⟩, ?_, ?_⟩
  · -- 65664 dots into the frame line 144 starts
    exact (hrequests 0).mpr (Or.inr (Or.inl ⟨rfl, 65664, by decide, by decide, by decide⟩))
  · apply Bool.eq_false_iff.mpr
    intro hset
    rcases (hrequests 1).mp hset with hold | ⟨hindex, -⟩ | ⟨-, q, -, -, halerts⟩
    · exact absurd hold (by decide)
    · exact absurd hindex (by decide)
    · simp [AlertsAt, hstatus] at halerts

end Ppu

end GameBoy
