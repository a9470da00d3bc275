import ChipEight.CommandLine.Parse

/-!
# The program

The whole program as a function: `Program.run` takes a display, the words of the command line, a reader of
files and the events of the user, and says what is printed, how the program ends, and what the window
shows in the end.
-/

namespace ChipEight

/-- How the program ends. -/
inductive Exit
  /-- The user has closed it. -/
  | normal
  /-- With a last word to the user. -/
  | text (message : String)
  /-- With a number. -/
  | code (n : Nat)
  /-- With a failure that nothing was prepared for. -/
  | failed (e : Failure)
  deriving DecidableEq, Repr

/-- A window as the program leaves it. -/
structure Shown (d : Display) where
  caption : String
  scale : Int
  window : Window d 64 32 scale

/-- What a run of the program amounts to. -/
structure Transcript (d : Display) where
  output : String
  errors : String
  ending : Exit
  polls : Nat
  /-- What the window shows at the last poll, if there was one. -/
  shown : Option (Shown d)

namespace Program

variable {d : Display}

/-- A notice as a line of the output. -/
def logLine (n : Notice) : String := s!"[{n.severity.name}]:  {n.text}\n"

/-- The output that a log amounts to. -/
def logText (l : Log) : String := String.join (l.notices.toList.map logLine)

/-- The last component of a path. -/
def fileName (path : String) : String :=
  String.ofList ((path.toList.reverse.takeWhile (· != '/')).reverse)

/-- A program that ends before it opens a window. -/
def early (output errors : String) (ending : Exit) : Transcript d :=
  ⟨output, errors, ending, 0, none⟩

/-- The end of the program at a failure to load its file. -/
def loadExit (file : String) : Failure → Exit
  | .read .nullInPath => .failed (.read .nullInPath)
  | e => .text s!"Cannot load {file}: {e.message}"

/-- The end of the program at the end of its run. -/
def exitOf : Ending → Exit
  | .bounded _ | .quit _ => .normal
  | .crashed text => .text text
  | .failed e => .failed e

/-- Runs the program from the moment when its file is loaded. -/
def runLoaded (d : Display) (file : String) (settings : Settings) (read : Reader)
    (batches : List (List Event)) (machine : Machine) (log : Log) (random : List UInt8) : Transcript d :=
  match Window.create d 64 32 settings.scale with
  | .error e => early (logText log) "" (.failed (.setup e))
  | .ok window =>
    let setup : Setup := ⟨settings.onError.getD .abort, read, file, settings.hz⟩
    let (after, ending) := (Console.start machine window log random).runToQuit setup batches
    { output := logText after.log
      errors := ""
      ending := exitOf ending
      polls := after.polls
      shown := if after.polls = 0 then none else some ⟨fileName file, settings.scale, after.window⟩ }

/-- Runs the program with the settings of its command line. The file is loaded before the window is
made. -/
def runSettings (d : Display) (settings : Settings) (read : Reader) (batches : List (List Event))
    (threshold : Severity) (random : List UInt8) : Transcript d :=
  match settings.file with
  | none => early "" "" (.failed (.setup .emptyPath))
  | some file =>
    let platform := if settings.eti660 then .eti660 else .standard
    match (Machine.fresh platform).loadFile read file with
    | .error e => early "" "" (loadExit file e)
    | .ok (machine, loaded) =>
      let log := (Log.empty threshold).record [loaded]
      runLoaded d file settings read batches machine log random

/-- The program. After the last batch of events the user closes it. -/
def run (d : Display) (argv : List String) (read : Reader) (batches : List (List Event)) (debug : Bool)
    (random : List UInt8) : Transcript d :=
  match CommandLine.parse argv with
  | .error .help => early CommandLine.help "" (.code 0)
  | .error (.refused e) => early "" (CommandLine.complaint e) (.code 2)
  | .error .emptyNumber => early "" "" (.failed (.setup .emptyNumber))
  | .ok settings =>
    runSettings d settings read batches (if debug then .debug else .warning) random

end Program

end ChipEight
