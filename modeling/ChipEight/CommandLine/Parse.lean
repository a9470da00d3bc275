import ChipEight.CommandLine.Word

/-!
# Reading the command line

`CommandLine.parse` turns the words of a command line into `Settings`. The words are taken from left to
right, and the last value of an option counts; the first mistake ends the reading, and so does the wish
for help. Only at the end is it asked whether a file was given, whether words were left over, and
whether the numbers are positive, in this order.
-/

namespace ChipEight

/-- Why a command line does not lead to settings. -/
inductive Stop
  | help
  | refused (e : UsageError)
  /-- A number was left empty. -/
  | emptyNumber
  deriving DecidableEq, Repr

namespace CommandLine

/-- What the words so far have asked for. Each value may be left empty. -/
structure Draft where
  /-- Nothing as long as the option was not given. -/
  file : Option (Option String)
  eti660 : Bool
  hz : Option Int
  scale : Option Int
  onError : Option Policy
  /-- The words that belong to no option, the last one first. -/
  leftOver : List String
  deriving DecidableEq, Repr

/-- What is asked for unless a word says otherwise. -/
def Draft.initial : Draft := ⟨none, false, some 300, some 15, some .abort, []⟩

/-- The number that is the value of an option. -/
def integer (o : CommandOption) (value : String) : Except Stop Int :=
  match readInteger value.toList with
  | some n => .ok n
  | none => .error (.refused (.notInteger o value))

/-- The policy that is the value of an option. -/
def policy (value : String) : Except Stop Policy :=
  if value = "abort" then .ok .abort
  else if value = "reset" then .ok .reset
  else .error (.refused (.notPolicy value))

/-- Takes an option with its value. -/
def Draft.take (d : Draft) (o : CommandOption) (value : String) : Except Stop Draft :=
  match o with
  | .help => .error .help
  | .eti660 => .ok { d with eti660 := true }
  | .file => .ok { d with file := some (some value) }
  | .hz => (integer o value).map fun hz => { d with hz := some hz }
  | .scale => (integer o value).map fun scale => { d with scale := some scale }
  | .onError => (policy value).map fun p => { d with onError := some p }

/-- Takes an option that is left empty. -/
def Draft.takeEmpty (d : Draft) : CommandOption → Draft
  | .help | .eti660 => d
  | .file => { d with file := some none }
  | .hz => { d with hz := none }
  | .scale => { d with scale := none }
  | .onError => { d with onError := none }

/-- Takes an option with the text that is attached to it. Two dashes are no value, so that they leave
the option empty. -/
def Draft.takeAttached (d : Draft) (o : CommandOption) (text : List Char) : Except Stop Draft :=
  if text = ['-', '-'] then .ok (d.takeEmpty o) else d.take o (String.ofList text)

/-- Puts a word aside that belongs to no option. -/
def Draft.leave (d : Draft) (arg : String) : Draft := { d with leftOver := arg :: d.leftOver }

/-- What is wrong with the letters that are attached to `-h`, if something is. They are options of one
letter themselves: `h` once more, or `f`, whose value is the rest of the word or else the next word, if
`valueFollows`. -/
def clusterMistake (valueFollows : Bool) : List Char → Option UsageError
  | [] => none
  | 'h' :: rest => clusterMistake valueFollows rest
  | ['f'] => if valueFollows then none else some (.valueExpected .file)
  | 'f' :: _ => none
  | text => some (.valueIgnored .help (String.ofList text))

/-- What becomes of a text that is attached to an option without a value. -/
def refuseAttached (o : CommandOption) (short valueFollows : Bool) (text : List Char) : Stop :=
  if short ∧ text ≠ [] then
    match clusterMistake valueFollows text with
    | some e => .refused e
    | none => .help
  else .refused (.valueIgnored o (String.ofList text))

/-- Takes the words of a command line from left to right. -/
def readWords : List (String × Word) → Draft → Except Stop Draft
  | [], d => .ok d
  | (_, .option o short (some text)) :: rest, d =>
    if o.takesValue then
      (d.takeAttached o text).bind (readWords rest)
    else
      let valueFollows := match rest with
        | (_, .plain) :: _ => true
        | _ => false
      .error (refuseAttached o short valueFollows text)
  | (arg, .option o _ none) :: (value, .plain) :: rest, d =>
    if o.takesValue then (d.take o value).bind (readWords rest)
    else (d.take o arg).bind (readWords ((value, .plain) :: rest))
  | (arg, .option o _ none) :: rest, d =>
    if o.takesValue then .error (.refused (.valueExpected o))
    else (d.take o arg).bind (readWords rest)
  | (arg, .plain) :: rest, d
  | (arg, .separator) :: rest, d
  | (arg, .unknown) :: rest, d => readWords rest (d.leave arg)

/-- A number that has to be positive. -/
def positive (mistake : UsageError) : Option Int → Except Stop Int
  | none => .error .emptyNumber
  | some n => if n ≤ 0 then .error (.refused mistake) else .ok n

/-- The settings that a draft amounts to once every word is taken. -/
def Draft.finish (d : Draft) : Except Stop Settings :=
  match d.file with
  | none => .error (.refused .fileRequired)
  | some file =>
    if d.leftOver ≠ [] then .error (.refused (.unrecognized d.leftOver.reverse))
    else do
      let hz ← positive .hzNotPositive d.hz
      let scale ← positive .scaleNotPositive d.scale
      return ⟨file, d.eti660, hz, scale, d.onError⟩

/-- The settings that a command line asks for. -/
def parse (argv : List String) : Except Stop Settings := do
  let words ← (Word.readAll argv).mapError Stop.refused
  let d ← readWords words Draft.initial
  d.finish

end CommandLine

end ChipEight
