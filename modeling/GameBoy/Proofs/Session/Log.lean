import GameBoy.Host.Logger
import GameBoy.Proofs.Cpu.Continuation
import GameBoy.Proofs.Text.Plain
import GameBoy.Session

/-!
# What goes to the log

Of all that a journal holds, the log gets the entries of severity `info` and above.  That much, and
that plain messages come through, is what a session relies on in a logger, `Logger.Faithful`.  The
bus and the timer report nothing as severe as that, and the processor only the illegal opcodes that
it executes, `Cpu.filter_isLogged_step`.  So a step of the machine logs one entry or none,
`logged_step`.
-/

namespace GameBoy

/-! ## Loggers -/

/-- The line of an entry whose message comes through as it is. -/
def Entry.line (entry : Entry) : String := entry.message ++ "\n"

/-- A logger that leaves out what is less severe than `info`, and writes each plain message of the
other entries as a line. -/
structure Logger.Faithful (logger : Logger) : Prop where
  quiet {entry : Entry} : entry.isLogged = false → logger entry = none
  plain {entry : Entry} : entry.isLogged = true → ControlSequence.Plain entry.message →
    logger entry = some entry.line

/-- An entry that comes through any faithful logger as it is. -/
structure Entry.ComesThrough (entry : Entry) : Prop where
  logged : entry.isLogged = true
  plain : ControlSequence.Plain entry.message

namespace Logger

theorem Faithful.filterMap_eq {logger : Logger} (h : logger.Faithful) {entries : List Entry}
    (hcome : ∀ entry ∈ entries, entry.ComesThrough) :
    entries.filterMap logger = entries.map Entry.line := by
  induction entries with
  | nil => rfl
  | cons entry rest ih =>
      obtain ⟨hentry, hrest⟩ := List.forall_mem_cons.mp hcome
      rw [List.filterMap_cons_some (h.plain hentry.logged hentry.plain), ih hrest, List.map_cons]

theorem faithful_standard : standard.Faithful where
  quiet {entry} hquiet := by rw [standard, hquiet, if_neg Bool.false_ne_true]
  plain {entry} hlogged hplain := by
    have hline : ControlSequence.Plain (entry.message ++ "\n") :=
      ControlSequence.plain_append.mpr ⟨hplain, by decide⟩
    rw [standard, hlogged, if_pos rfl, ControlSequence.strip_of_plain hline, Entry.line]

end Logger

/-! ## The entries of a journal -/

/-- The entries of a journal that go to the log. -/
def logged (journal : Array Entry) : List Entry := journal.toList.filter Entry.isLogged

theorem logged_append (first second : Array Entry) :
    logged (first ++ second) = logged first ++ logged second := by
  rw [logged, Array.toList_append, List.filter_append]
  rfl

/-- A host that does nothing about the entries that do not go to the log. -/
def Host.DropsQuiet {m : Type → Type} [Monad m] (host : Host m) : Prop :=
  ∀ entry : Entry, entry.isLogged = false → host.log entry = pure ()

theorem Host.DropsQuiet.report_eq {m : Type → Type} [Monad m] [LawfulMonad m] {host : Host m}
    (hquiet : host.DropsQuiet) (journal : Array Entry) :
    Session.report host journal = (logged journal).forM host.log := by
  rw [Session.report, logged, List.forM_eq_forM]
  -- by induction on the entries; the host drops those that are not logged
  induction journal.toList with
  | nil => rfl
  | cons entry rest ih =>
      cases hlogged : entry.isLogged with
      | true => rw [List.filter_cons_of_pos hlogged, List.forM_cons, List.forM_cons, ih]
      | false =>
          have hdropped : ¬ entry.isLogged = true := by rw [hlogged]; exact Bool.false_ne_true
          rw [List.filter_cons_of_neg hdropped, List.forM_cons, hquiet entry hlogged, pure_bind, ih]

/-! ## The bus and the timer -/

namespace Bus

theorem logged_write (bus : Bus) (write : Write) : logged (bus.write write).journal = [] := by
  unfold Bus.write
  repeat' split
  all_goals rfl

theorem logged_writeAll (bus : Bus) (writes : List Write) :
    logged (bus.writeAll writes).journal = [] := by
  induction writes generalizing bus with
  | nil => rfl
  | cons first rest ih =>
      rw [writeAll, Logged.journal_bind, logged_append, logged_write, ih]
      rfl

end Bus

namespace Timer

theorem logged_next (counting : Counting) : logged counting.next.journal = [] := by
  unfold Counting.next
  dsimp only
  split <;> rfl

theorem logged_count (n : Nat) (memory : Memory) : logged (count n memory).journal = [] := by
  induction n with
  | zero => rfl
  | succ n ih =>
      have hcount : count (n + 1) memory = count n memory >>= Counting.next := rfl
      rw [hcount, Logged.journal_bind, logged_append, ih, logged_next]
      rfl

theorem logged_acknowledgeReset (timer : Timer) (bus : Bus) :
    logged (timer.acknowledgeReset bus).journal = [] := by
  unfold acknowledgeReset
  split <;> rfl

theorem logged_advance (timer : Timer) (bus : Bus) (cycles : Nat) :
    logged (timer.advance bus cycles).journal = [] := by
  unfold advance
  rw [Logged.journal_bind, logged_append, logged_acknowledgeReset]
  dsimp only
  split
  · rw [Logged.journal_bind, logged_append, logged_count]
    rfl
  · rfl

end Timer

/-! ## The processor -/

namespace Cpu

variable (cpu : Cpu) (memory : Memory)

/-- The report on an instruction, if it is an illegal opcode. -/
def remark? (fetched : Cpu) : Instruction → Option Entry
  | .illegal opcode => some (.illegalOpcode opcode (fetched.pc - 1))
  | _ => none

/-- The report on the illegal opcode that the next step executes, if it does. -/
def illegal? : Option Entry :=
  if (cpu.served? memory).isSome || (cpu.halted && memory.pending == 0) then none
  else
    let (instruction, fetched) := cpu.wake.fetchInstruction memory
    remark? fetched instruction

theorem comesThrough_of_mem_illegal? {entry : Entry} (h : entry ∈ cpu.illegal? memory) :
    entry.ComesThrough := by
  -- of the remarks only that on an illegal opcode is logged, and its text is plain
  have hremark {fetched : Cpu} {instruction : Instruction}
      (h : entry ∈ remark? fetched instruction) : entry.ComesThrough := by
    cases instruction with
    | illegal opcode =>
        obtain rfl := Option.mem_some.mp h
        exact ⟨rfl, ControlSequence.plain_illegalOpcode _ _⟩
    | _ => exact absurd h (Option.not_mem_none _)
  rw [illegal?] at h
  split at h
  · exact absurd h (Option.not_mem_none _)
  · exact hremark h

theorem filter_isLogged_execute {instruction : Instruction} (hregular : instruction.Regular)
    (hplain : instruction ≠ .escape) :
    (cpu.execute memory instruction).entries.filter Entry.isLogged =
      (remark? cpu instruction).toList := by
  -- an immediate destination would be logged too, but no encoding has one
  cases instruction with
  | escape => exact absurd rfl hplain
  | illegal opcode => rfl
  | halt =>
      rw [execute, halt]
      split <;> rfl
  | ei | call condition =>
      simp only [execute]
      split <;> rfl
  | load dest src =>
      have hnone := entries_writeOperand (cpu.readOperand memory src).2 memory hregular
      simp only [execute, hnone]
      rfl
  | inc place | dec place | shift op place | resetBit index place | setBit index place =>
      have hplace : place ≠ .immediate := Operand.ne_immediate_of_length hregular
      have hnone := entries_writeOperand (cpu.readOperand memory place).2 memory hplace
      simp only [execute, modify, modifyQuietly, hnone]
      rfl
  | _ => rfl

theorem filter_isLogged_step :
    (cpu.step memory).entries.filter Entry.isLogged = (cpu.illegal? memory).toList := by
  have hwakeUp (entries : List Entry) :
      ((if cpu.halted then [Entry.wokeUp] else []) ++ entries).filter Entry.isLogged =
        entries.filter Entry.isLogged := by
    cases cpu.halted <;> rfl
  -- of the three kinds of steps only an execution leaves something to log
  cases hserved : cpu.served? memory with
  | some source =>
      rw [step_of_served hserved, illegal?, hserved, hwakeUp]
      rfl
  | none =>
      by_cases hidle : cpu.halted = true ∧ memory.pending = 0
      · have hwaits : (cpu.halted && memory.pending == 0) = true := by
          rw [Bool.and_eq_true, beq_iff_eq]
          exact hidle
        rw [step_of_idle hidle.1 hidle.2, illegal?, hwaits, Bool.or_true]
        rfl
      · have hgoes : ¬ ((none : Option Interrupt).isSome || (cpu.halted && memory.pending == 0)) =
            true := by
          rw [Option.isSome_none, Bool.false_or, Bool.and_eq_true, beq_iff_eq]
          exact hidle
        have hexecutes : cpu.Executes memory _ _ := ⟨hserved, hidle, rfl⟩
        obtain ⟨hencoded, hplain⟩ := cpu.wake.encoded_fetchInstruction memory
        rw [hexecutes.step_eq, illegal?, hserved, if_neg hgoes, hwakeUp]
        exact filter_isLogged_execute _ memory hencoded.regular hplain

end Cpu

/-! ## The machine -/

namespace Machine

variable (machine : Machine)

theorem logged_stepCpu :
    logged machine.stepCpu.journal =
      (machine.cpu.illegal? machine.bus.memory).toList := by
  show logged ((machine.cpu.step machine.bus.memory).entries.toArray ++
    (machine.bus.writeAll (machine.cpu.step machine.bus.memory).writes).journal) = _
  rw [logged_append, Bus.logged_writeAll, List.append_nil, logged, Cpu.filter_isLogged_step]

theorem logged_advanceTimer (cycles : Nat) :
    logged (machine.advanceTimer cycles).journal = [] := by
  unfold advanceTimer
  rw [Logged.journal_bind, logged_append, Timer.logged_advance]
  dsimp only
  split <;> rfl

/-- A step logs one entry if it executes an illegal opcode, and none otherwise. -/
theorem logged_step :
    logged machine.step.journal =
      (machine.cpu.illegal? machine.bus.memory).toList := by
  rw [step, Logged.journal_bind, logged_append, logged_stepCpu, Logged.journal_bind, logged_append,
    logged_advanceTimer, Logged.journal_pure]
  exact List.append_nil _

theorem logged_start (image : ByteArray) : logged (start image).journal = [] := by
  rw [start, Logged.journal_bind, logged_append, powerOn, Logged.journal_bind, logged_append,
    Bus.powerOn, Bus.logged_write, load]
  rfl

end Machine

end GameBoy
