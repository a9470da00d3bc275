import ChipEight.Program
import ChipEight.Proofs.Endings

/-!
# How the program ends

A command line that is no good, or a file that cannot be loaded, ends the program before it opens a window.
Otherwise it ends as its run does: normally when the user closes it, or with a dump of the machine at a
fault under `Policy.abort` (`Program.run_ends`). The two ways out that nothing was prepared for are
an option whose value was left empty: a number cannot be compared then, and a path cannot be opened.
-/

namespace ChipEight

/-! ## Settings -/

/-- What gives a result gives one at every step. -/
theorem Except.of_bind_ok {ε α β : Type} {x : Except ε α} {next : α → Except ε β} {b : β}
    (ok : x >>= next = .ok b) : ∃ a, x = .ok a ∧ next a = .ok b := by
  cases x with
  | error e => cases ok
  | ok a => exact ⟨a, rfl, ok⟩

/-- The numbers of a command line are positive. -/
theorem CommandLine.positive_of_parse {argv : List String} {settings : Settings}
    (parses : parse argv = .ok settings) : 0 < settings.hz ∧ 0 < settings.scale := by
  have positive_ok {mistake : UsageError} {value : Option Int} {n : Int}
      (taken : positive mistake value = .ok n) : 0 < n := by
    unfold positive at taken
    split at taken
    · cases taken
    · split at taken
      · cases taken
      · cases taken
        omega
  obtain ⟨words, -, parses⟩ := Except.of_bind_ok parses
  obtain ⟨d, -, finishes⟩ := Except.of_bind_ok parses
  unfold Draft.finish at finishes
  split at finishes
  · cases finishes
  split at finishes
  · cases finishes
  obtain ⟨hz, rate, finishes⟩ := Except.of_bind_ok finishes
  obtain ⟨scale, side, finishes⟩ := Except.of_bind_ok finishes
  cases finishes
  exact ⟨positive_ok rate, positive_ok side⟩

namespace Program

variable {d : Display}

/-- What a run of the program depends on besides the command line. -/
def setupOf (settings : Settings) (read : Reader) (file : String) : Setup :=
  ⟨settings.onError.getD .abort, read, file, settings.hz⟩

/-- The platform that the settings are for. -/
def platformOf (settings : Settings) : Platform := if settings.eti660 then .eti660 else .standard

/-- The console of the program when its run begins. -/
def opened (settings : Settings) (file : String) (program : Array UInt8) (debug : Bool)
    (random : List UInt8) (machine : Machine) (window : Window d 64 32 settings.scale) :
    Console d settings.scale :=
  Console.start machine window
    ((Log.empty (if debug then .debug else .warning)).record [.loaded file program.size]) random

/-! ## Loading -/

/-- A file that cannot be read. -/
theorem runSettings_of_unread {settings : Settings} {read : Reader} {file : String} {e : ReadError}
    (named : settings.file = some file) (unread : read file = .error e) (batches : List (List Event))
    (threshold : Severity) (random : List UInt8) :
    runSettings d settings read batches threshold random = early "" "" (loadExit file (.read e)) := by
  have fails : (Machine.fresh (platformOf settings)).loadFile read file = .error (.read e) := by
    rw [Machine.loadFile, Memory.loadFile, Memory.loadFrom, Source.program, unread]
    rfl
  unfold platformOf at fails
  unfold runSettings
  rw [named]
  dsimp only
  rw [fails]

/-- A program that is longer than the workspace is not loaded. -/
theorem load_of_lt {platform : Platform} {program : Array UInt8}
    (long : 4096 - platform.workspaceStart < program.size) :
    (Machine.fresh platform).load program =
      .error (.programTooLong program.size (4096 - platform.workspaceStart) platform.workspaceStart) := by
  have refused : (Machine.fresh platform).memory.load program = .error _ := if_neg (Nat.not_le.2 long)
  rw [Machine.load, refused]
  rfl

/-- One that is not is loaded, and can be loaded again. -/
theorem exists_restartable {settings : Settings} {read : Reader} {file : String} {program : Array UInt8}
    (found : read file = .ok program) (fits : program.size ≤ 4096 - (platformOf settings).workspaceStart) :
    ∃ machine, (Machine.fresh (platformOf settings)).load program = .ok machine ∧
      machine.Restartable (setupOf settings read file) := by
  have fresh : (Machine.fresh (platformOf settings)).Restartable (setupOf settings read file) :=
    ⟨.fresh _, fun _ => ⟨program, found, fits⟩⟩
  have loadable : ∃ machine, (Machine.fresh (platformOf settings)).load program = .ok machine :=
    Machine.exists_load_fresh (m := Machine.fresh (platformOf settings)) fits
  obtain ⟨machine, loads⟩ := loadable
  have reached : (Machine.fresh (platformOf settings)).act (.load program) = machine := by
    rw [Machine.act, loads]
  exact ⟨machine, loads, reached ▸ fresh.act (.load program)⟩

/-- A file that can be read is loaded if it fits, and the program goes on with the machine then. -/
theorem runSettings_of_read {settings : Settings} {read : Reader} {file : String} {program : Array UInt8}
    (named : settings.file = some file) (found : read file = .ok program) (batches : List (List Event))
    (threshold : Severity) (random : List UInt8) :
    runSettings d settings read batches threshold random =
      match (Machine.fresh (platformOf settings)).load program with
      | .error f => early "" "" (.text s!"Cannot load {file}: {f.message}")
      | .ok machine =>
        runLoaded d file settings read batches machine
          ((Log.empty threshold).record [.loaded file program.size]) random := by
  have loads := Machine.loadFile_of_read (m := Machine.fresh (platformOf settings)) found
  unfold platformOf at loads ⊢
  unfold runSettings
  rw [named]
  dsimp only
  rw [loads, Machine.load]
  cases (Machine.fresh (if settings.eti660 = true then .eti660 else .standard)).memory.load program <;> rfl

/-! ## Runs -/

/-- The program ends as its run does, once its window is open. -/
theorem runLoaded_ends (file : String) {settings : Settings} (read : Reader)
    {window : Window d 64 32 settings.scale}
    (opens : Window.create d 64 32 settings.scale = .ok window) (batches : List (List Event))
    (machine : Machine) (log : Log) (random : List UInt8) :
    let ran := (Console.start machine window log random).runToQuit (setupOf settings read file) batches
    (runLoaded d file settings read batches machine log random).ending = exitOf ran.2 ∧
      (runLoaded d file settings read batches machine log random).polls = ran.1.polls := by
  unfold runLoaded
  rw [opens]
  exact ⟨rfl, rfl⟩

/-- How the program ends, for every command line, every file and all events, after which the user closes it.

A command line that asks for help, or that is no good, ends it with a number before it opens a file or a
window; and a file that cannot be read, or is too long, with a word to the user before it opens a
window. Then, as long as the display opens the window and keeps its promises, and the clock does not
fail, it ends normally at the first batch of events with the wish to stop; but under `Policy.abort` it ends
with a dump of the machine at the first fault before that. In no case does a failure of the machine itself
go beyond the program. Only an option that is left empty does: a number or a path. -/
theorem run_ends (d : Display) (argv : List String) (read : Reader) (batches : List (List Event))
    (debug : Bool) (random : List UInt8) :
    let t := run d argv read batches debug random
    (∀ stop, CommandLine.parse argv = .error stop →
      t = match stop with
        | .help => early CommandLine.help "" (.code 0)
        | .refused e => early "" (CommandLine.complaint e) (.code 2)
        | .emptyNumber => early "" "" (.failed (.setup .emptyNumber))) ∧
    ∀ settings, CommandLine.parse argv = .ok settings →
      (settings.file = none → t = early "" "" (.failed (.setup .emptyPath))) ∧
      ∀ file, settings.file = some file →
        let start := (platformOf settings).workspaceStart
        (∀ e, read file = .error e → e ≠ .nullInPath →
          t = early "" "" (.text s!"Cannot load {file}: {e.message}")) ∧
        ∀ program, read file = .ok program →
          (4096 - start < program.size →
            t = early "" "" (.text (s!"Cannot load {file}: " ++
              (Fault.programTooLong program.size (4096 - start) start).message))) ∧
          (program.size ≤ 4096 - start → d.Lawful →
            ∀ window, Window.create d 64 32 settings.scale = .ok window → Clock.tick settings.hz = .ok () →
              ∃ machine, (Machine.fresh (platformOf settings)).load program = .ok machine ∧
                let c := opened settings file program debug random machine window
                let setup := setupOf settings read file
                let all := batches ++ [[.quit]]
                ((setup.policy = .reset ∨ ∀ k before f, ¬Console.FaultsAfter setup all c k before f) →
                  t.ending = .normal ∧ t.polls = all.findIdx (·.any Keyboard.quits) + 1) ∧
                (setup.policy = .abort → ∀ k before f, Console.FaultsAfter setup all c k before f →
                  t.ending = .text (Console.crashText
                    ((before.poll ((all.drop k).headD [])).1.machine.cycle before.random).machine) ∧
                  t.polls = k + 1)) := by
  intro t
  refine ⟨fun stop stopped => ?_, fun settings parses => ⟨fun unnamed => ?_, fun file named => ?_⟩⟩
  · show run d argv read batches debug random = _
    rw [run, stopped]
    cases stop <;> rfl
  · show run d argv read batches debug random = _
    rw [run, parses]
    dsimp only
    rw [runSettings, unnamed]
  · have same : t = runSettings d settings read batches (if debug then .debug else .warning) random := by
      show run d argv read batches debug random = _
      rw [run, parses]
    refine ⟨fun e unread refused => ?_, fun program found => ?_⟩
    · rw [same, runSettings_of_unread named unread]
      cases e with
      | nullInPath => exact absurd rfl refused
      | refused r path => rfl
    · rw [same, runSettings_of_read named found]
      refine ⟨fun long => ?_, fun fits lawful window opens ticks => ?_⟩
      · rw [load_of_lt long]
        rfl
      · obtain ⟨machine, loads, restartable⟩ := exists_restartable found fits
        have stops : ∃ b ∈ batches ++ [[Event.quit]], b.any Keyboard.quits = true :=
          ⟨[.quit], List.mem_append_right _ List.mem_cons_self, rfl⟩
        have long : (batches ++ [[Event.quit]]).length ≤ batches.length + 1 := by simp
        have scale := (CommandLine.positive_of_parse parses).2
        obtain ⟨returns, crashes⟩ := Console.run_to_stop lawful scale ticks stops long
          (c := opened settings file program debug random machine window) restartable
        obtain ⟨ending, polls⟩ := runLoaded_ends file read opens batches machine
          ((Log.empty (if debug then .debug else .warning)).record [.loaded file program.size]) random
        rw [loads]
        refine ⟨machine, rfl, fun unfaulted => ?_, fun policy k before f faults => ?_⟩
        · obtain ⟨quit, counted⟩ := returns unfaulted
          exact ⟨ending.trans (congrArg exitOf quit), polls.trans (counted.trans (Nat.zero_add _))⟩
        · obtain ⟨crash, counted⟩ := crashes policy k before f faults
          exact ⟨ending.trans (congrArg exitOf crash), polls.trans (counted.trans (Nat.zero_add _))⟩

/-- The shortest command line. -/
theorem parse_file : CommandLine.parse ["-f", "r"] = .ok ⟨some "r", false, 300, 15, some .abort⟩ := rfl

/-- A program that faults at once ends with a dump at its first poll. -/
theorem run_ends_returning :
    let t := run .plain ["-f", "r"] (fun _ => .ok #[0x00, 0xEE]) [[]] false []
    t.ending = .text (Console.crashText (Machine.returning.cycle []).machine) ∧ t.polls = 1 := by
  have ticks : Clock.tick 300 = .ok () := by decide +kernel
  have settled := (run_ends .plain ["-f", "r"] (fun _ => .ok #[0x00, 0xEE]) [[]] false []).2 _ parse_file
  have loaded := ((settled.2 "r" rfl).2 #[0x00, 0xEE] rfl).2
  obtain ⟨machine, loads, ends⟩ := loaded (by decide) Display.plain_lawful (.plain 64 32 15) rfl ticks
  have same : Machine.returning = machine := by
    have loads : (Machine.fresh .standard).load #[0x00, 0xEE] = .ok machine := loads
    rw [Machine.returning, Machine.act, loads]
  obtain ⟨f, failed⟩ := Machine.failure_returning
  rw [same] at failed ⊢
  -- The first batch is empty, so that the machine cycles as it is.
  have first : ((([[]] ++ [[Event.quit]] : List (List Event)).drop 0).headD []) = [] := rfl
  have idle (c : Console .plain 15) : (c.poll []).1.machine = c.machine := rfl
  have ran := ends.2 rfl 0 _ f ⟨rfl, ticks, rfl, by rw [first, idle]; exact failed⟩
  rw [first, idle] at ran
  exact ran

/-- Two dashes behind an equals sign are no value, and a number without a value cannot be compared. -/
theorem run_emptyNumber :
    (run .plain ["-f", "r", "--hz=--"] (fun _ => .ok #[0xA0, 0x50, 0xD0, 0x05, 0x12, 0x04]) [[]] false
      []).ending = .failed (.setup .emptyNumber) := by
  have stopped : CommandLine.parse ["-f", "r", "--hz=--"] = .error .emptyNumber := rfl
  rw [run, stopped]
  rfl

end Program
end ChipEight
