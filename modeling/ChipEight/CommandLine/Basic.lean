import ChipEight.Console
import ChipEight.Text.Integer
import ChipEight.Text.Quoted

/-!
# The options of the command line

The options, their spellings, and what can be wrong with a command line (`UsageError`). The usage and
the help are fixed texts for a terminal of eighty columns.
-/

namespace ChipEight

/-- The options. -/
inductive CommandOption
  | help
  | file
  | eti660
  | hz
  | scale
  | onError
  deriving DecidableEq, Repr

namespace CommandOption

/-- Every spelling of every option. -/
def spellings : List (String × CommandOption) :=
  [("-h", help), ("--help", help), ("-f", file), ("--file", file), ("--eti-660", eti660),
    ("--hz", hz), ("--scale", scale), ("--on-error", onError)]

/-- An option with all its spellings. -/
def title : CommandOption → String
  | help => "-h/--help"
  | file => "-f/--file"
  | eti660 => "--eti-660"
  | hz => "--hz"
  | scale => "--scale"
  | onError => "--on-error"

/-- Whether an option has a value. -/
def takesValue : CommandOption → Bool
  | help | eti660 => false
  | file | hz | scale | onError => true

end CommandOption

/-- What a command line asks for. An option that is given without its value is left empty; the two
numbers cannot be, because they are compared with zero. -/
structure Settings where
  file : Option String
  eti660 : Bool
  /-- Cycles a second. -/
  hz : Int
  /-- The side of a pixel in the window. -/
  scale : Int
  onError : Option Policy
  deriving DecidableEq, Repr

/-- What is wrong with a command line. -/
inductive UsageError
  /-- The start of more than one option. -/
  | ambiguous (arg : String) (candidates : List String)
  | valueExpected (o : CommandOption)
  /-- A value for an option that has none. -/
  | valueIgnored (o : CommandOption) (value : String)
  | notInteger (o : CommandOption) (value : String)
  | notPolicy (value : String)
  | fileRequired
  | unrecognized (args : List String)
  | hzNotPositive
  | scaleNotPositive
  deriving DecidableEq, Repr

namespace UsageError

/-- The text of a usage error. -/
def message : UsageError → String
  | ambiguous arg candidates =>
    s!"ambiguous option: {arg} could match " ++ ", ".intercalate candidates
  | valueExpected o => s!"argument {o.title}: expected one argument"
  | valueIgnored o value => s!"argument {o.title}: ignored explicit argument {quote value}"
  | notInteger o value => s!"argument {o.title}: invalid int value: {quote value}"
  | notPolicy value =>
    s!"argument {CommandOption.onError.title}: invalid choice: {quote value} " ++
      "(choose from 'abort', 'reset')"
  | fileRequired => s!"the following arguments are required: {CommandOption.file.title}"
  | unrecognized args => "unrecognized arguments: " ++ " ".intercalate args
  | hzNotPositive => "--hz must be a positive number of cycles per second"
  | scaleNotPositive => "--scale must be a positive number"

end UsageError

namespace CommandLine

/-- The usage of the program. -/
def usage : String :=
  "usage: chip8 [-h] -f FILE [--eti-660] [--hz HZ] [--scale SCALE]\n" ++
  "             [--on-error \x7babort,reset\x7d]\n"

/-- The help of the program. -/
def help : String :=
  usage ++
  "\n" ++
  "CHIP-8 interpreter\n" ++
  "\n" ++
  "options:\n" ++
  "  -h, --help            show this help message and exit\n" ++
  "  -f FILE, --file FILE  input rom file\n" ++
  "  --eti-660             load the rom and start execution at 0x600 (ETI 660\n" ++
  "                        programs)\n" ++
  "  --hz HZ               cycles executed per second\n" ++
  "  --scale SCALE         size in window pixels of a single CHIP-8 pixel\n" ++
  "  --on-error \x7babort,reset\x7d\n" ++
  "                        abort: quit printing the machine state, reset:\n" ++
  "                        reinitialize the machine and reload the rom\n"

/-- What the program prints about a usage error. -/
def complaint (e : UsageError) : String := usage ++ s!"chip8: error: {e.message}\n"

end CommandLine

end ChipEight
