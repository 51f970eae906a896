import Mathlib.Data.List.Iterate
import Mathlib.Data.String.Basic
import GameBoy.Host.Console
import GameBoy.Proofs.Machine.TimerRate
import GameBoy.Proofs.Session.Log

/-!
# The log of a diagnosis

A diagnosis runs the processor and the timer for a number of steps and logs the registers before
each.  The line of registers is not all that goes to the log: the image is announced there, an
illegal opcode is reported by the step that executes it, and at the end the serial output.
`runImage_of_doctor` lists the texts for any host, by induction on the steps, and `run_of_doctor`
says what a log file holds after a whole session.
-/

namespace GameBoy

/-! ## The machine under diagnosis -/

namespace Machine

/-- The machine after a step of the processor and the timer. -/
def afterStep (machine : Machine) : Machine := machine.step.value.1

/-- The line of registers before the next step. -/
def registersLine (machine : Machine) : String :=
  machine.cpu.doctorLine machine.bus.memory ++ "\n"

/-- A machine with an image in place and the line register at 0x90. -/
def pinned (image : ByteArray) : Machine :=
  { (start image).value with
    bus := ((start image).value.bus.write ⟨Address.line, 0x90⟩).value }

theorem ppu_afterStep (machine : Machine) : machine.afterStep.ppu = machine.ppu := by
  rw [afterStep, value_step]

/-- No step runs the video unit. -/
theorem ppu_diagnosed (image : ByteArray) (k : Nat) :
    (afterStep^[k] (pinned image)).ppu = .powerOn := by
  induction k with
  | zero => rfl
  | succ k ih => rw [Function.iterate_succ_apply', ppu_afterStep, ih]

end Machine

/-! ## Paths of one name -/

theorem Path.names_of_name {name : String} (hslash : name.toList.contains '/' = false) :
    Path.names name = [name] := by
  -- without a slash inside, splitting leaves the name in one piece
  have hinside : ∀ c ∈ name.toList, (c == '/') = false := by
    intro c hc
    rw [beq_eq_false_iff_ne]
    rintro rfl
    exact Bool.false_ne_true (hslash.symm.trans (List.contains_iff_mem.mpr hc))
  rw [names, String.splitToList_of_valid, List.splitOnP_eq_singleton hinside, List.map_singleton,
    String.ofList_toList]

/-- Such a path starts in the working directory. -/
theorem Disk.start_of_name {name : String} (hslash : name.toList.contains '/' = false)
    (hnul : name.toList.contains '\x00' = false) (hname : name ≠ "")
    (hsize : name.utf8ByteSize < Disk.maxPath) : Disk.start name = .ok ([], [name]) := by
  have hplain : name.contains '\x00' = false := by
    rw [String.contains_char_eq, decide_eq_false_iff_not, ← List.contains_iff_mem, hnul]
    exact Bool.false_ne_true
  -- a slash in front would be one of the characters
  have hrelative : name.startsWith "/" = false := by
    rw [String.startsWith_string_eq_false_iff]
    intro hstarts
    have hmem : '/' ∈ name.toList := hstarts.subset (List.mem_singleton.mpr rfl)
    exact Bool.false_ne_true (hslash.symm.trans (List.contains_iff_mem.mpr hmem))
  have hfits : ¬ name.utf8ByteSize ≥ maxPath := Nat.not_le_of_lt hsize
  simp [start, hplain, hname, hfits, hrelative, Path.names_of_name hslash]

/-! ## The log file -/

namespace Console

/-- A console with more texts in its log file. -/
def withTexts (console : Console) (texts : List String) : Console :=
  { console with logTexts := console.logTexts ++ texts.toArray }

variable {logger : Logger}

theorem record_of_open {console : Console} {place : Place} (hopen : console.logFile = some place)
    (entry : Entry) :
    console.record logger entry = console.withTexts (logger entry).toList := by
  unfold record writeLog
  split
  · rename_i hdropped
    rw [hdropped, withTexts]
    exact congrArg (fun logTexts => { console with logTexts }) Array.append_empty.symm
  · rename_i text htext
    split
    · rename_i hclosed
      exact absurd (hopen.symm.trans hclosed) nofun
    · rw [htext, withTexts, Option.toList_some, ← Array.append_singleton]

theorem run_forM_log {console : Console} {place : Place} (hopen : console.logFile = some place)
    (entries : List Entry) :
    (entries.forM (hostWith logger).log).run console =
      ((), console.withTexts (entries.filterMap logger)) := by
  -- by induction on the entries, each of which leaves the file open
  induction entries generalizing console with
  | nil =>
      rw [List.filterMap_nil, withTexts, Array.append_empty]
      rfl
  | cons entry entries ih =>
      have hfirst : ((hostWith logger).log entry).run console =
          ((), console.withTexts (logger entry).toList) :=
        congrArg (fun console => ((), console)) (record_of_open hopen entry)
      have hrest : (console.withTexts (logger entry).toList).withTexts
            (entries.filterMap logger) =
          console.withTexts ((entry :: entries).filterMap logger) := by
        have hfilter : (entry :: entries).filterMap logger =
            (logger entry).toList ++ entries.filterMap logger := by
          rw [List.filterMap_cons]
          cases logger entry <;> rfl
        simp only [withTexts, hfilter, Array.append_assoc, List.append_toArray]
      rw [List.forM_eq_forM, List.forM_cons, StateT.run_bind, hfirst, ← hrest]
      exact ih hopen

/-- A console whose log file has just been made. -/
def opened (console : Console) (disk : Disk) (place : Place) : Console :=
  { console with disk, logFile := some place, logTexts := #[] }

theorem log_withTexts_opened (console : Console) (disk : Disk) (place : Place)
    (texts : List String) :
    ((console.opened disk place).withTexts texts).log = String.join texts := by
  rw [log, withTexts, opened, Array.empty_append]

theorem dropsQuiet_hostWith (h : logger.Faithful) : (hostWith logger).DropsQuiet := by
  intro entry hentry
  funext console
  have hrecord : console.record logger entry = console := by rw [record, h.quiet hentry]
  exact congrArg (fun console => ((), console)) hrecord

end Console

/-! ## The entries of a diagnosis -/

namespace Session

open Machine (afterStep pinned)

/-- What is logged right before a step and during it. -/
def stepEntries (machine : Machine) : List Entry :=
  .registers (machine.cpu.doctorLine machine.bus.memory) ::
    (machine.cpu.illegal? machine.bus.memory).toList

/-- What is logged when an image has been read. -/
def openingEntries (path : String) (image : ByteArray) : List Entry :=
  (if image.size > 65536 then [.oversizedImage image.size] else []) ++
    [.imageRead path image.size]

/-- What is logged at the end. -/
def closingEntries (machine : Machine) : List Entry :=
  if machine.bus.serial.isEmpty then []
  else [.serialOutput (Utf8.decode machine.bus.serial.toList)]

/-- What is logged while an image runs. -/
def imageEntries (image : ByteArray) (steps : Nat) : List Entry :=
  (List.iterate afterStep (pinned image) steps).flatMap stepEntries ++
    closingEntries (afterStep^[steps] (pinned image))

section

variable {m : Type → Type} [Monad m] [LawfulMonad m] {host : Host m} (hquiet : host.DropsQuiet)
include hquiet

theorem runSteps_succ (steps : Nat) (machine : Machine) :
    runSteps host (steps + 1) machine = (do
      (stepEntries machine).forM host.log
      runSteps host steps machine.afterStep) := by
  have hunfold : runSteps host (steps + 1) machine = (do
      report host #[.registers (machine.cpu.doctorLine machine.bus.memory)]
      report host machine.step.journal
      runSteps host steps machine.afterStep) := rfl
  rw [hunfold, hquiet.report_eq, hquiet.report_eq, machine.logged_step, ← bind_assoc,
    List.forM_eq_forM, ← List.forM_append]
  rfl

theorem runSteps_eq (steps : Nat) (machine : Machine) :
    runSteps host steps machine = (do
      ((List.iterate afterStep machine steps).flatMap stepEntries).forM host.log
      pure (afterStep^[steps] machine)) := by
  -- by induction on the steps, from the machine that the first one leaves
  induction steps generalizing machine with
  | zero =>
      rw [runSteps, List.iterate, List.flatMap_nil, List.forM_eq_forM, List.forM_nil, pure_bind,
        Function.iterate_zero_apply]
  | succ steps ih =>
      rw [runSteps_succ hquiet, ih, List.iterate, List.flatMap_cons, Function.iterate_succ_apply,
        List.forM_eq_forM, List.forM_append, bind_assoc]

theorem reportSerial_eq (machine : Machine) :
    reportSerial host machine = (closingEntries machine).forM host.log := by
  rw [reportSerial, closingEntries]
  split
  · rfl
  · rw [hquiet.report_eq]
    rfl

/-- The log of a diagnosis, for any host. -/
theorem runImage_of_doctor {options : Options} {steps : Nat}
    (hdoctor : options.doctorLines = some steps) (image : ByteArray) :
    runImage host options image = (imageEntries image steps).forM host.log := by
  -- the line register is held before the first step
  have hunfold : runImage host options image = (do
      report host (Machine.start image).journal
      report host ((Machine.start image).value.bus.write ⟨Address.line, 0x90⟩).journal
      let machine ← runSteps host steps (pinned image)
      reportSerial host machine) := by
    rw [runImage, hdoctor]
    simp only [diagnose, bind_assoc]
    rfl
  rw [hunfold, hquiet.report_eq, hquiet.report_eq, Machine.logged_start, Bus.logged_write,
    runSteps_eq hquiet]
  simp only [List.forM_eq_forM, List.forM_nil, pure_bind, bind_assoc, reportSerial_eq hquiet,
    imageEntries, List.forM_append]

end

theorem logged_accept (path : String) {image : ByteArray} (himage : image.isEmpty = false) :
    ∃ journal, Cartridge.accept path image = .ok ⟨image, journal⟩ ∧
      logged journal = openingEntries path image := by
  refine ⟨_, by rw [Cartridge.accept, himage, if_neg Bool.false_ne_true], ?_⟩
  rw [logged_append, openingEntries]
  split <;> rfl

/-! ## Sessions -/

section

variable {logger : Logger} (console : Console) {options : Options} {disk : Disk}

theorem run_openLog {path : String} {place : Place} (hlog : options.logPath = some path)
    (hcreate : console.disk.create path = .ok (disk, place)) :
    (openLog (Console.hostWith logger) options).run console =
      (.ok (), console.opened disk place) := by
  rw [openLog, hlog]
  dsimp only [Console.hostWith]
  rw [StateT.run_bind, StateT.run_get, pure_bind, hcreate]
  rfl

theorem run_read {path : String} {image : ByteArray}
    (hextension : Cartridge.checkExtension path = .ok ())
    (hread : console.disk.read path = .ok image) :
    (Cartridge.read (Console.hostWith logger) path).run console =
      (Cartridge.accept path image, console) := by
  have hfile : ((Console.hostWith logger).readFile path).run console = (.ok image, console) :=
    congrArg (fun content => (content, console)) hread
  rw [Cartridge.read, hextension]
  show ((Console.hostWith logger).readFile path >>= _).run console = _
  rw [StateT.run_bind, hfile]
  rfl

/-- A session that can open its log and read its image ends well, and logs these entries. -/
theorem run_eq (hlogger : logger.Faithful) {steps : Nat} {path : String} {place : Place}
    {image : ByteArray} (hdoctor : options.doctorLines = some steps)
    (hlog : options.logPath = some path) (hcreate : console.disk.create path = .ok (disk, place))
    (hextension : Cartridge.checkExtension options.imagePath = .ok ())
    (hread : disk.read options.imagePath = .ok image) (himage : image.isEmpty = false) :
    (run (Console.hostWith logger) options).run console = (.ok (),
        (console.opened disk place).withTexts
          ((openingEntries options.imagePath image ++ imageEntries image steps).filterMap
            logger)) := by
  have hquiet : (Console.hostWith logger).DropsQuiet := Console.dropsQuiet_hostWith hlogger
  obtain ⟨journal, haccept, hopening⟩ := logged_accept options.imagePath himage
  have hcartridge : (Cartridge.read (Console.hostWith logger) options.imagePath).run
      (console.opened disk place) =
        (Cartridge.accept options.imagePath image, console.opened disk place) :=
    run_read (console.opened disk place) hextension hread
  -- the session opens its log, reads the image and runs it, in this order
  rw [run, StateT.run_bind, run_openLog console hlog hcreate]
  show (Cartridge.read (Console.hostWith logger) options.imagePath >>= _).run
    (console.opened disk place) = _
  rw [StateT.run_bind, hcartridge, haccept]
  show ((do
    report (Console.hostWith logger) journal
    runImage (Console.hostWith logger) options image
    pure (.ok ())) : StateM Console (Except Failure Unit)).run (console.opened disk place) = _
  have hopened : (console.opened disk place).logFile = some place := rfl
  -- the announcement and the run are logged in a row
  rw [hquiet.report_eq, hopening, runImage_of_doctor hquiet hdoctor, ← bind_assoc,
    List.forM_eq_forM, ← List.forM_append, StateT.run_bind, ← List.forM_eq_forM,
    Console.run_forM_log hopened]
  rfl

end

/-! ## The texts of a diagnosis -/

theorem comesThrough_of_mem_stepEntries {machine : Machine} {entry : Entry}
    (h : entry ∈ stepEntries machine) : entry.ComesThrough := by
  rcases List.mem_cons.mp h with rfl | hillegal
  · exact ⟨rfl, ControlSequence.plain_doctorLine _ _⟩
  · exact Cpu.comesThrough_of_mem_illegal? _ _ (Option.mem_toList.mp hillegal)

theorem comesThrough_of_mem_openingEntries {path : String} {image : ByteArray} {entry : Entry}
    (h : entry ∈ openingEntries path image) : entry.ComesThrough := by
  have hread : (Entry.imageRead path image.size).ComesThrough :=
    ⟨rfl, ControlSequence.plain_imageRead _ _⟩
  rw [openingEntries] at h
  split at h
  · rcases List.mem_cons.mp h with rfl | hrest
    · exact ⟨rfl, ControlSequence.plain_oversizedImage _⟩
    · obtain rfl := List.mem_singleton.mp hrest
      exact hread
  · obtain rfl := List.mem_singleton.mp h
    exact hread

/-! ## More than lines of registers -/

theorem head?_registersLine (machine : Machine) :
    machine.registersLine.toList.head? = some 'A' := by
  unfold Machine.registersLine Cpu.doctorLine
  simp only [toString, String.toList_append, List.append_assoc]
  rfl

theorem head?_oversizedImage (size : Nat) :
    (Entry.oversizedImage size).message.toList.head? = some 'R' := by
  show (s!"ROM is {size} bytes, only the first 65536 are addressable without a bank controller" :
    String).toList.head? = _
  simp only [toString, String.toList_append, List.append_assoc]
  rfl

theorem head?_imageRead (path : String) (size : Nat) :
    (Entry.imageRead path size).message.toList.head? = some 'L' := by
  show (s!"Loaded ROM {Quoted.text path} ({size} bytes)" : String).toList.head? = _
  simp only [toString, String.toList_append, List.append_assoc]
  rfl

theorem head?_openingEntries (path : String) (image : ByteArray) (rest : List String) :
    ∃ c, c ≠ 'A' ∧ (String.join ((openingEntries path image).map Entry.line ++
      rest)).toList.head? = some c := by
  rw [openingEntries]
  split
  · exact ⟨'R', by decide, by simp [String.toList_join, Entry.line, head?_oversizedImage]⟩
  · exact ⟨'L', by decide, by simp [String.toList_join, Entry.line, head?_imageRead]⟩

theorem eq_of_head?_registersLines {machines : List Machine} {c : Char}
    (h : (String.join (machines.map Machine.registersLine)).toList.head? = some c) : c = 'A' := by
  cases machines with
  | nil => exact absurd h nofun
  | cons first rest =>
      rw [List.map_cons, String.join_cons, String.toList_append, List.head?_append,
        head?_registersLine] at h
      exact (Option.some.inj h).symm

/-- **The log of a diagnosis.**  Whatever the image holds, however many steps are asked for and
whichever faithful logger writes it, a session that can open its log and read its image ends well.
The log announces the image; then there is the line of registers of each machine before a step, in
order, and after it the report of that step if it executes an illegal opcode; the serial output
comes last, as the logger puts it.  The machines are those of a run from power-on with the line
register held, and the video unit stays as it was.  So the log is never that of the registers
alone. -/
theorem run_of_doctor {logger : Logger} (hlogger : logger.Faithful) (console : Console)
    {options : Options} {steps : Nat} {path : String} {disk : Disk} {place : Place}
    {image : ByteArray} (hdoctor : options.doctorLines = some steps)
    (hlog : options.logPath = some path) (hcreate : console.disk.create path = .ok (disk, place))
    (hextension : Cartridge.checkExtension options.imagePath = .ok ())
    (hread : disk.read options.imagePath = .ok image) (himage : image.isEmpty = false) :
    let ran := (run (Console.hostWith logger) options).run console
    let machine (k : Nat) := afterStep^[k] (pinned image)
    ran.1 = .ok () ∧
    ran.2.log = String.join ((openingEntries options.imagePath image).map Entry.line ++
      (List.range steps).flatMap (fun k => (machine k).registersLine ::
        ((machine k).cpu.illegal? (machine k).bus.memory).toList.map Entry.line) ++
      (closingEntries (machine steps)).filterMap logger) ∧
    (∀ k, (machine k).ppu = .powerOn) ∧
    ran.2.log ≠ String.join ((List.range steps).map fun k => (machine k).registersLine) := by
  intro ran machine
  have hran : ran = (.ok (), (console.opened disk place).withTexts
      ((openingEntries options.imagePath image ++ imageEntries image steps).filterMap logger)) :=
    run_eq console hlogger hdoctor hlog hcreate hextension hread himage
  have hmachines : List.iterate afterStep (pinned image) steps = (List.range steps).map machine :=
    (List.range_map_iterate steps afterStep (pinned image)).symm
  -- all but the serial output comes through any faithful logger
  have hopening : (openingEntries options.imagePath image).filterMap logger =
      (openingEntries options.imagePath image).map Entry.line :=
    hlogger.filterMap_eq fun _ => comesThrough_of_mem_openingEntries
  have hsteps : ((List.iterate afterStep (pinned image) steps).flatMap stepEntries).filterMap
        logger =
      ((List.iterate afterStep (pinned image) steps).flatMap stepEntries).map Entry.line := by
    apply hlogger.filterMap_eq
    intro entry hentry
    obtain ⟨machine, -, hmem⟩ := List.mem_flatMap.mp hentry
    exact comesThrough_of_mem_stepEntries hmem
  have htexts : ran.2.log = String.join ((openingEntries options.imagePath image).map Entry.line ++
      ((imageEntries image steps).filterMap logger)) := by
    rw [hran, ← hopening, ← List.filterMap_append]
    exact Console.log_withTexts_opened _ _ _ _
  refine ⟨by rw [hran], ?_, Machine.ppu_diagnosed image, ?_⟩
  · rw [htexts, imageEntries, List.filterMap_append, hsteps, hmachines, List.flatMap_map,
      List.map_flatMap, List.append_assoc]
    rfl
  · -- the first character tells the announcement of the image from a line of registers
    intro heq
    obtain ⟨c, hne, hhead⟩ := head?_openingEntries options.imagePath image
      ((imageEntries image steps).filterMap logger)
    rw [← htexts, heq, ← Function.comp_def Machine.registersLine machine, ← List.map_map] at hhead
    exact hne (eq_of_head?_registersLines hhead)

/-! ### A short diagnosis -/

/-- A program that counts in A without end. -/
def countingImage : ByteArray := ⟨Array.replicate 256 0 ++ #[0x3C, 0x3C, 0x18, 0xFD]⟩

def doctorConsole : Console where
  disk := ⟨[(["game.gb"], .file countingImage)]⟩

def doctorOptions : Options where
  imagePath := "game.gb"
  logPath := some "doctor.log"
  frames := none
  display := false
  doctorLines := some 3

theorem create_doctorConsole :
    doctorConsole.disk.create "doctor.log" =
      .ok (doctorConsole.disk.put ["doctor.log"] .empty, ["doctor.log"]) := by
  have hstart : Disk.start "doctor.log" = .ok ([], ["doctor.log"]) :=
    Disk.start_of_name rfl rfl (by decide) (by decide +kernel)
  rw [Disk.create, hstart]
  rfl

theorem checkExtension_image : Cartridge.checkExtension "game.gb" = .ok () := by
  have hname : Path.fileName? "game.gb" = some "game.gb" := by
    rw [Path.fileName?, Path.names_of_name rfl]
    rfl
  have hextension : Path.extension? "game.gb" = some "gb" := by
    rw [Path.extension?, hname]
    rfl
  have hlower : String.map Char.toLower "gb" = "gb" := by
    rw [← String.toList_inj]
    simp
  simp [Cartridge.checkExtension, hextension, hlower, Cartridge.extension]

theorem read_countingImage :
    (doctorConsole.disk.put ["doctor.log"] .empty).read "game.gb" = .ok countingImage := by
  have hstart : Disk.start "game.gb" = .ok ([], ["game.gb"]) :=
    Disk.start_of_name rfl rfl (by decide) (by decide +kernel)
  rw [Disk.read, hstart]
  rfl

theorem isEmpty_countingImage : countingImage.isEmpty = false := by
  simp [ByteArray.isEmpty, ByteArray.size, countingImage]

/-- The standard log of three steps is more than three lines of registers. -/
theorem run_of_doctor_counting :
    Logger.standard.Faithful ∧
    doctorOptions.doctorLines = some 3 ∧ doctorOptions.logPath = some "doctor.log" ∧
    doctorConsole.disk.create "doctor.log" =
      .ok (doctorConsole.disk.put ["doctor.log"] .empty, ["doctor.log"]) ∧
    Cartridge.checkExtension doctorOptions.imagePath = .ok () ∧
    (doctorConsole.disk.put ["doctor.log"] .empty).read doctorOptions.imagePath =
      .ok countingImage ∧
    countingImage.isEmpty = false ∧
    ((run Console.host doctorOptions).run doctorConsole).1 = .ok () ∧
    ((run Console.host doctorOptions).run doctorConsole).2.log ≠
      String.join ((List.range 3).map fun k =>
        (afterStep^[k] (pinned countingImage)).registersLine) := by
  obtain ⟨hresult, _, _, hlog⟩ :=
    @run_of_doctor _ Logger.faithful_standard doctorConsole doctorOptions _ _ _ _ _ rfl rfl
      create_doctorConsole checkExtension_image read_countingImage isEmpty_countingImage
  exact ⟨Logger.faithful_standard, rfl, rfl, create_doctorConsole, checkExtension_image,
    read_countingImage, isEmpty_countingImage, hresult, hlog⟩

end Session

end GameBoy
