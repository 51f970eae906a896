import Mathlib.Data.List.Iterate
import GameBoy.Host.Console
import GameBoy.Proofs.Machine.Frame
import GameBoy.Session

/-!
# How many frames are run

A session with a limit runs frames and stops after some of them.  A frame that the machine gives up,
as it does while the display is off, counts like any other, so the machine it leaves is an iterate
of `Machine.afterFrame`, whatever the program does.

The count goes up in a word of 64 bits after each frame, and the limit is looked at only then.
`playFrom_of_limit` follows the loop from any count, by induction on what is missing to the limit.
The number of turns is the limit, except that the limit zero has one turn as well, `play_of_limit`.
-/

namespace GameBoy

/-! ## Frames in a row -/

namespace Machine

/-- The machine that the run of a frame leaves. -/
def leftBy (ran : Logged (Machine × Bool)) : Machine := ran.value.1

/-- What the run of a frame leaves in the journal, with a note if it was given up. -/
def entriesOf (ran : Logged (Machine × Bool)) : Array Entry :=
  if ran.value.2 then ran.journal else ran.journal.push .frameMissing

variable (machine : Machine)

/-- The machine after it has run a frame, or given it up. -/
def afterFrame : Machine := leftBy machine.runFrame

def frameEntries : Array Entry := entriesOf machine.runFrame

theorem cycles_afterFrame : machine.cpu.cycles < machine.afterFrame.cpu.cycles := by
  have hbudget : machine.cpu.cycles ≤ machine.cpu.cycles + cyclesPerFrame := Nat.le_add_right _ _
  obtain ⟨n, hstops⟩ := stops_runUntil (pure machine) hbudget
  -- a frame is one tick at least, and every tick takes time
  have hcycles := machine.cycles_ticks_ge (n + 1)
  rw [Logged.value_pure, ← runFrame] at hstops
  rw [← hstops.after_eq, ← leftBy, ← afterFrame] at hcycles
  omega

theorem cycles_iterate_afterFrame (turns : Nat) :
    machine.cpu.cycles < (afterFrame^[turns + 1] machine).cpu.cycles := by
  induction turns with
  | zero =>
      rw [Nat.zero_add, Function.iterate_one]
      exact machine.cycles_afterFrame
  | succ turns ih =>
      rw [Function.iterate_succ_apply']
      exact Nat.lt_trans ih (cycles_afterFrame _)

end Machine

/-! ## The session -/

namespace Session

open Machine (afterFrame)

variable {m : Type → Type} [Monad m] (host : Host m) (machine : Machine)

/-- A frame that is not drawn only leaves its entries. -/
theorem runFrame_false :
    runFrame host false machine = (do
      report host machine.frameEntries
      pure machine.afterFrame) := by
  rw [runFrame, Machine.frameEntries, afterFrame]
  rcases machine.runFrame with ⟨⟨after, completed⟩, journal⟩
  dsimp only [Machine.entriesOf, Machine.leftBy]
  rw [if_neg Bool.false_ne_true]

variable (options : Options) {limit counted : Nat}

/-- One turn of the loop, while the count has room. -/
theorem playFrom_eq (hroom : counted + 1 < 2 ^ 64) :
    playFrom host options counted machine = (do
      let machine ← runFrame host options.display machine
      if options.frames.any (· ≤ counted + 1) then
        report host #[.stopped (counted + 1)]
        pure (some machine)
      else
        playFrom host options (counted + 1) machine) := by
  rw [playFrom]
  congr
  funext machine
  split
  · -- the next count has room, so the loop does not end for want of it
    rename_i hfull
    rw [Width.sum?_eq_some hroom] at hfull
    exact absurd hfull (Option.some_ne_none _)
  · rename_i frames hframes
    obtain rfl := (Width.sum?_eq_some_iff.mp hframes).2
    rfl

variable [LawfulMonad m]

/-- From any count on, the loop runs the frames that are missing to the limit, but at least one. -/
theorem playFrom_of_limit (hframes : options.frames = some limit)
    (hdisplay : options.display = false) (hlimit : limit < 2 ^ 64) (hroom : counted + 1 < 2 ^ 64) :
    playFrom host options counted machine = (do
      (List.iterate afterFrame machine (max 1 (limit - counted))).forM fun machine =>
        report host machine.frameEntries
      report host #[.stopped (counted + max 1 (limit - counted))]
      pure (some (afterFrame^[max 1 (limit - counted)] machine))) := by
  rw [playFrom_eq host machine options hroom, hframes, hdisplay, runFrame_false, bind_assoc]
  -- by induction on what is missing after this turn; nothing may be missing from the start
  induction hmissing : limit - (counted + 1) generalizing counted machine with
  | zero =>
      have hreached : limit ≤ counted + 1 := by omega
      have hturns : max 1 (limit - counted) = 1 := by omega
      simp only [pure_bind, Option.any_some, decide_eq_true hreached, if_pos, hturns]
      rw [Function.iterate_one, List.iterate, List.iterate, List.forM_eq_forM, List.forM_cons,
        List.forM_nil, bind_assoc, pure_bind]
  | succ missing ih =>
      have hshort : ¬limit ≤ counted + 1 := by omega
      have hturns : max 1 (limit - counted) = max 1 (limit - (counted + 1)) + 1 := by omega
      have hcount : counted + (max 1 (limit - (counted + 1)) + 1) =
          counted + 1 + max 1 (limit - (counted + 1)) := by omega
      have hnext : counted + 1 + 1 < 2 ^ 64 := by omega
      simp only [pure_bind, Option.any_some, decide_eq_false hshort, Bool.false_eq_true, if_false]
      rw [playFrom_eq host _ options hnext, hframes, hdisplay, runFrame_false, bind_assoc,
        ih machine.afterFrame hnext (by omega), hturns, hcount, List.iterate,
        Function.iterate_succ_apply, List.forM_eq_forM, List.forM_cons, bind_assoc]

/-- **The frame limit.**  Whatever the program does and whatever the limit, a session that draws
nothing runs as many frames as the limit says, but at least one, whether or not they are completed,
and reports that number; its count in 64 bits does not leave its range.  So the number is the limit,
except that a limit of zero runs one frame all the same. -/
theorem play_of_limit (hframes : options.frames = some limit)
    (hdisplay : options.display = false) (hlimit : limit < UInt64.size) :
    (play host options machine = do
      (List.iterate afterFrame machine (max 1 limit)).forM fun machine =>
        report host machine.frameEntries
      report host #[.stopped (max 1 limit)]
      pure (some (afterFrame^[max 1 limit] machine))) ∧
    (0 < limit → max 1 limit = limit) ∧
    (limit = 0 → max 1 limit = 1 ∧
      machine.cpu.cycles < (afterFrame^[max 1 limit] machine).cpu.cycles) := by
  refine ⟨?_, fun hpos => Nat.max_eq_right hpos, ?_⟩
  · have hplay := playFrom_of_limit host machine options hframes hdisplay hlimit
      (by decide : 0 + 1 < 2 ^ 64)
    rw [Nat.sub_zero, Nat.zero_add] at hplay
    exact hplay
  · rintro rfl
    exact ⟨rfl, machine.cycles_iterate_afterFrame 0⟩

/-- Options that ask for no frame at all. -/
def noFrames : Options where
  imagePath := "game.gb"
  logPath := none
  frames := some 0
  display := false
  doctorLines := none

/-- One frame is run all the same. -/
theorem play_of_limit_noFrames :
    (noFrames.frames = some 0 ∧ noFrames.display = false ∧ 0 < UInt64.size) ∧
    let machine := (Machine.start ByteArray.empty).value
    (play Console.host noFrames machine = do
      (List.iterate afterFrame machine 1).forM fun machine =>
        report Console.host machine.frameEntries
      report Console.host #[.stopped 1]
      pure (some (afterFrame^[1] machine))) ∧
    machine.cpu.cycles < (afterFrame^[1] machine).cpu.cycles := by
  have hsize : 0 < UInt64.size := by decide
  have hone : max 1 0 = 1 := rfl
  obtain ⟨hplay, -, hzero⟩ :=
    play_of_limit Console.host (Machine.start ByteArray.empty).value noFrames rfl rfl hsize
  rw [hone] at hplay hzero
  exact ⟨⟨rfl, rfl, hsize⟩, hplay, (hzero rfl).2⟩

end Session

end GameBoy
