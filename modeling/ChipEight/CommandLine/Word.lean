import ChipEight.CommandLine.Basic

/-!
# Words of the command line

How a word of the command line reads by itself: as an option, perhaps with a value attached, as an
option that is unknown, or as a plain word. An option may be cut short as long as no other option
starts like that; a value is attached behind an equals sign, or directly behind a short option. What
looks like a negative number is a plain word, and so is what holds a blank. `Word.readAll` reads a
whole line, where two dashes make every later word a plain one.
-/

namespace ChipEight

/-- How a word reads. -/
inductive Word
  | plain
  /-- Two dashes. -/
  | separator
  | unknown
  /-- An option, perhaps with a text attached; `short` tells whether it is spelled with a single
  dash. -/
  | option (o : CommandOption) (short : Bool) (attached : Option (List Char))
  deriving DecidableEq, Repr

namespace Word

/-- The option with exactly this spelling. -/
def spelled? (text : List Char) : Option CommandOption :=
  (CommandOption.spellings.find? (·.1.toList == text)).map (·.2)

/-- Whether the second character of a word is not a dash. -/
def isShort (text : List Char) : Bool := text[1]? != some '-'

/-- A word before and behind its first equals sign, if it has one. -/
def splitEquals (text : List Char) : List Char × Option (List Char) :=
  match text.dropWhile (· != '=') with
  | [] => (text, none)
  | _ :: value => (text.takeWhile (· != '='), some value)

/-- The options that a word with two dashes may be short for, with their spellings. -/
def longMatches (text : List Char) : List (String × Word) :=
  let (name, value) := splitEquals text
  (CommandOption.spellings.filter fun (spelling, _) => name.isPrefixOf spelling.toList).map
    fun (spelling, o) => (spelling, .option o false value)

/-- The option at the start of a word with one dash, the rest of the word as its value. -/
def shortMatches (text : List Char) : List (String × Word) :=
  (CommandOption.spellings.filter fun (spelling, _) => spelling.toList == text.take 2).map
    fun (spelling, o) => (spelling, .option o true (some (text.drop 2)))

/-- Whether a word looks like a negative number: a dash and digits, with at most one point that has
digits behind it. A line feed at the end does not count. -/
def isNegativeNumber (text : List Char) : Bool :=
  match text with
  | '-' :: rest =>
    let body := if rest.getLast? = some '\n' then rest.dropLast else rest
    let isDigit (c : Char) : Bool := (decimalDigit? c).isSome
    match body.dropWhile isDigit with
    | [] => !body.isEmpty
    | c :: fraction => c == '.' && !fraction.isEmpty && fraction.all isDigit
  | _ => false

/-- How a word with a dash in front reads if it starts no option. -/
def readRest (text : List Char) : Word :=
  if isNegativeNumber text ∨ ' ' ∈ text then .plain else .unknown

/-- How a word reads that is not the exact spelling of an option. -/
def readMatches (text : List Char) : Except UsageError Word :=
  match if isShort text then shortMatches text else longMatches text with
  | [] => .ok (readRest text)
  | [(_, word)] => .ok word
  | several => .error (.ambiguous (String.ofList text) (several.map (·.1)))

/-- How a word reads by itself. -/
def read (text : List Char) : Except UsageError Word :=
  if text.head? ≠ some '-' then .ok .plain
  else if text = ['-', '-'] then .ok .separator
  else
    match spelled? text with
    | some o => .ok (.option o (isShort text) none)
    | none =>
      if text.length = 1 then .ok .plain
      else
        match splitEquals text with
        | (name, some value) =>
          match spelled? name with
          | some o => .ok (.option o (isShort name) (some value))
          | none => readMatches text
        | (_, none) => readMatches text

/-- Reads the words of a command line, each beside its text. -/
def readAll : List String → Except UsageError (List (String × Word))
  | [] => .ok []
  | arg :: rest => do
    let word ← read arg.toList
    if word = .separator then return (arg, word) :: rest.map (·, .plain)
    else return (arg, word) :: (← readAll rest)

end Word

end ChipEight
