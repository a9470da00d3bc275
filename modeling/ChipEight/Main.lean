import ChipEight.Program

/-!
# The command line program

Runs `Program.run` on the words of the command line. Each line of standard input is what one poll of
the event queue finds, as names of events with blanks between them: `quit`, or `down:` or `up:` and the
name of a key. The end of the input closes the program. The run depends on the events alone and is not
paced; its display is kept in memory (`Display.plain`), and the window is printed as it is left.
-/

namespace ChipEight

/-- The event that a word of the input stands for. -/
def Event.ofText (text : String) : Event :=
  if text = "quit" then .quit
  else
    match (text.toList.splitOn ':').map String.ofList with
    | ["down", name] => .keyDown name
    | ["up", name] => .keyUp name
    | _ => .other

/-- The events that a line of the input stands for. -/
def Event.ofLine (line : String) : List Event :=
  let words := (line.toList.splitOnP isBlank).filter (!·.isEmpty)
  words.map fun word => Event.ofText (String.ofList word)

/-- The reason that an operating system has given for not opening a file. -/
def Refusal.ofError : IO.Error → Refusal
  | .permissionDenied _ number reason
  | .inappropriateType _ number reason => ⟨number.toNat, reason⟩
  | .illegalOperation number reason
  | .otherError number reason => ⟨number.toNat, reason⟩
  | _ => .notFound

/-- The rows of a window, a `#` for every pixel that is set. -/
def Shown.text {d : Display} (shown : Shown d) : String :=
  String.join <| (List.range 32).map fun y : Nat =>
    String.ofList ((List.range 64).map fun x : Nat =>
      match shown.window.readPixel x y with
      | .ok 0 | .error _ => ' '
      | .ok _ => '#') ++ "\n"

/-- Reads lines up to the end of the input, the last one first. -/
partial def readLines (input : IO.FS.Stream) (lines : List String) : IO (List String) := do
  let line ← input.getLine
  if line.isEmpty then return lines else readLines input (line :: lines)

/-- The answer of the file system for one path, kept for the whole run. -/
def readFile (path : String) : IO Reader := do
  try
    let content ← IO.FS.readBinFile path
    return fun _ => .ok content.data
  catch e =>
    return fun path => .error (.refused (.ofError e) path)

/-- Whether the environment asks for every notice. -/
def wantsDebug : IO Bool := do
  let value ← IO.getEnv "DEBUG"
  return 1 ≤ ((value.bind fun text => readInteger text.toList).getD 0)

/-- The events of the input and the file of the command line, if the command line asks for a run. -/
def gather (argv : List String) : IO (List (List Event) × Reader) := do
  match CommandLine.parse argv with
  | .error _ => return ([], fun path => .error (.refused .notFound path))
  | .ok settings =>
    let read ← match settings.file with
      | some file => readFile file
      | none => pure fun path => .error (.refused .notFound path)
    let lines ← readLines (← IO.getStdin) []
    return (lines.reverse.map Event.ofLine, read)

/-- Runs the program and answers its exit code. A cycle takes one random byte at most, so one for each
batch of events is enough. -/
def runMain (argv : List String) : IO UInt32 := do
  let (batches, read) ← gather argv
  let random ← batches.mapM fun _ => IO.rand 0 255
  let t := Program.run .plain argv read batches (← wantsDebug) (random.map UInt8.ofNat)
  IO.print t.output
  IO.eprint t.errors
  match t.shown with
  | some shown => IO.print shown.text
  | none => pure ()
  match t.ending with
  | .normal => return 0
  | .code n => return n.toUInt32
  | .text message => IO.eprintln message; return 1
  | .failed e => IO.eprintln e.message; return 1

end ChipEight

/-- The program. -/
def main (argv : List String) : IO UInt32 := ChipEight.runMain argv
