import ChipEight.Index.Signed
import ChipEight.Text.Numeral
import ChipEight.Text.Quoted

/-!
# Failures

What can go wrong, as causes: a `Fault` is raised by a program that the machine runs or loads, an
`AccessError` by an index or a value that a device does not take, a `ReadError` by a file that cannot
be read, a `SetupError` by settings that the host cannot work with. What the window system reports
comes as a `DisplayError`. Each cause has one text (such as `Fault.message`), and each fault has one of
five kinds, whose names the reports show.
-/

namespace ChipEight

/-! ## Faults -/

/-- The kinds of faults. -/
inductive FaultKind
  | segmentation
  | stackOverflow
  | stackEmpty
  | indexOutOfBounds
  | unexpected
  deriving DecidableEq, Repr

/-- The name of a kind of fault in reports. -/
def FaultKind.name : FaultKind → String
  | .segmentation => "SegmentationFault"
  | .stackOverflow => "SubroutineStackOverflow"
  | .stackEmpty => "SubroutineStackEmpty"
  | .indexOutOfBounds => "IndexOutOfBounds"
  | .unexpected => "UnexpectedError"

/-- What a program did that the machine cannot do. -/
inductive Fault
  /-- The program counter has left the memory. -/
  | fetch (pc : Int)
  /-- A subroutine returns to an address outside the workspace. -/
  | returnTarget (address : Int)
  /-- A subroutine outside the workspace is called. -/
  | callTarget (address : Int)
  /-- A subroutine is called with every slot of the stack in use. -/
  | stackOverflow (capacity : Nat)
  /-- A return without a call. -/
  | stackEmpty
  /-- A key that the keypad does not have. -/
  | noSuchKey (key : Int)
  /-- The decimal digits of a register do not fit into memory at the index. -/
  | digitsSpan (x : Fin 16) (index : Int)
  /-- The registers up to `x` do not fit into memory at the index. -/
  | registersSpan (x : Fin 16) (index : Int)
  /-- The bytes of a sprite reach beyond the memory. -/
  | spriteSpan (start stop : Int)
  /-- A program is longer than the workspace. -/
  | programTooLong (size capacity start : Nat)
  /-- A block transfer was asked for by an opcode that is none. -/
  | notTransfer (op : UInt16)
  deriving DecidableEq, Repr

/-- The kind of a fault. -/
def Fault.kind : Fault → FaultKind
  | .fetch _ | .returnTarget _ | .callTarget _ | .digitsSpan .. | .registersSpan .. | .spriteSpan ..
  | .programTooLong .. => .segmentation
  | .stackOverflow _ => .stackOverflow
  | .stackEmpty => .stackEmpty
  | .noSuchKey _ => .indexOutOfBounds
  | .notTransfer _ => .unexpected

/-- The name of a register. -/
def registerName (x : Fin 16) : String := "V" ++ String.singleton (Numeral.digit x)

/-- The text of a fault. -/
def Fault.message : Fault → String
  | .fetch pc => s!"Cannot fetch an instruction at 0x{Numeral.hex 4 pc}"
  | .returnTarget a => s!"Return address 0x{Numeral.hex 4 a} lies outside the workspace"
  | .callTarget a => s!"Subroutine address 0x{Numeral.hex 4 a} lies outside the workspace"
  | .stackOverflow n =>
    s!"The CHIP-8 stack can contain at most {Numeral.decimal n} addresses. Limit exceeded"
  | .stackEmpty => "Tried to return from a subroutine with an empty stack"
  | .noSuchKey k => s!"Key 0x{Numeral.hex 2 k} does not exist on a 16 keys keypad"
  | .digitsSpan x i =>
    s!"BCD of {registerName x} at I=0x{Numeral.hex 4 i} would write past the end of memory"
  | .registersSpan x i =>
    s!"Registers V0..{registerName x} do not fit in memory starting at I=0x{Numeral.hex 4 i}"
  | .spriteSpan start stop =>
    s!"Sprite data [0x{Numeral.hex 4 start}, 0x{Numeral.hex 4 stop}) lies outside memory"
  | .programTooLong size capacity start =>
    s!"A program of {Numeral.decimal size} bytes does not fit the {Numeral.decimal capacity} " ++
      s!"bytes workspace starting at 0x{Numeral.hex 3 start}"
  | .notTransfer op => s!"0x{Numeral.hex 4 op.toNat} is not a register block transfer"

/-! ## Errors of the display -/

/-- An error that the window system reports, in its own words. -/
structure DisplayError where
  kind : String
  message : String
  deriving DecidableEq, Repr

/-! ## Access errors -/

/-- An index or a value that a device does not take. -/
inductive AccessError
  /-- An index outside the memory. -/
  | byteIndex (i : Int)
  /-- A value that is no byte. -/
  | byteValue
  /-- A row outside a screen; `y` is counted from the top. -/
  | row (y height : Int)
  /-- A column outside a row; `x` is counted from the left. -/
  | column (x width : Int)
  /-- How many rows or columns a canvas of negative size has. -/
  | negativeCount
  /-- A part of a row of negative width. -/
  | negativeRow
  /-- Entries are asked for a number of times that is no word. -/
  | sizeNoWord
  /-- More entries are asked for than there is room for. -/
  | noRoom
  /-- A pixel outside the buffer is read. -/
  | pixelRead (i : Int)
  /-- A pixel outside the buffer is written. -/
  | pixelWrite (i : Int)
  /-- A register that the machine does not have is read. -/
  | registerRead (i : Int)
  /-- A register that the machine does not have is set. -/
  | registerWrite (i : Int)
  /-- A place of the window or a rectangle in it that the window system does not take. -/
  | display (e : DisplayError)
  /-- A slice without a direction. -/
  | zeroStep
  /-- The lowest key is asked for while no key is pressed. -/
  | noKeyPressed
  deriving DecidableEq, Repr

/-- The text for a number that no word holds, where a size or an index is needed. -/
def AccessError.noWord : String := "cannot fit 'int' into an index-sized integer"

/-- The text for an index that a sequence does not have. -/
def AccessError.indexMessage (i : Int) (text : String) : String :=
  if Index.IsWord i then text else noWord

/-- The text for a number with too many digits to be written. -/
def tooManyDigits : String :=
  s!"Exceeds the limit ({Numeral.decimal Numeral.maxDigits} digits) for integer string conversion; " ++
    "use sys.set_int_max_str_digits() to increase the limit"

/-- Whether the text of an access error would have to hold a number with too many digits. -/
def AccessError.isUnwritable : AccessError → Bool
  | .row i n | .column i n => !(Numeral.isWritable i && Numeral.isWritable n)
  | _ => false

/-- The text of an access error, unless a number in it has too many digits. -/
def AccessError.text : AccessError → String
  | .byteIndex i => indexMessage i "bytearray index out of range"
  | .byteValue => "byte must be in range(0, 256)"
  | .row y h => s!"row {Numeral.decimal y} is outside a screen of height {Numeral.decimal h}"
  | .column x w => s!"column {Numeral.decimal x} is outside a row of width {Numeral.decimal w}"
  | .negativeCount => "__len__() should return >= 0"
  | .negativeRow => "length should not be negative"
  | .sizeNoWord => noWord
  | .noRoom => ""
  | .pixelRead i | .registerRead i => indexMessage i "list index out of range"
  | .pixelWrite i | .registerWrite i => indexMessage i "list assignment index out of range"
  | .display e => e.message
  | .zeroStep => "slice step cannot be zero"
  | .noKeyPressed => "True is not in list"

/-- The text of an access error. -/
def AccessError.message (e : AccessError) : String :=
  if e.isUnwritable then tooManyDigits else e.text

/-! ## Read errors -/

/-- Why the operating system does not open a file: a number, and the reason in words. -/
structure Refusal where
  number : Nat
  reason : String
  deriving DecidableEq, Repr

namespace Refusal

/-- Nothing is at the path. -/
def notFound : Refusal := ⟨2, "No such file or directory"⟩

/-- The path leads through something that is no directory. -/
def notDirectory : Refusal := ⟨20, "Not a directory"⟩

/-- A directory is at the path. -/
def isDirectory : Refusal := ⟨21, "Is a directory"⟩

/-- The path or a component of it is too long. -/
def nameTooLong : Refusal := ⟨36, "File name too long"⟩

end Refusal

/-- Why a file could not be read. -/
inductive ReadError
  /-- The operating system does not open the path. -/
  | refused (refusal : Refusal) (path : String)
  /-- The path holds a NUL, so it names no file at all. -/
  | nullInPath
  deriving DecidableEq, Repr

/-- The text of a read error. -/
def ReadError.message : ReadError → String
  | .refused r path => s!"[Errno {Numeral.decimal r.number}] {r.reason}: {quote path}"
  | .nullInPath => "embedded null byte"

/-! ## Setup errors -/

/-- Settings that the host cannot work with. -/
inductive SetupError
  /-- A number that was left empty. -/
  | emptyNumber
  /-- A path that was left empty. -/
  | emptyPath
  /-- A rate beyond the floating point numbers of 64 bits. -/
  | rateTooLarge
  /-- A window that the window system does not open. -/
  | display (e : DisplayError)
  deriving DecidableEq, Repr

/-- The text of a setup error. -/
def SetupError.message : SetupError → String
  | .emptyNumber => "'<=' not supported between instances of 'list' and 'int'"
  | .emptyPath => "expected str, bytes or os.PathLike object, not list"
  | .rateTooLarge => "int too large to convert to float"
  | .display e => e.message

/-! ## All failures -/

/-- Whatever can go wrong. -/
inductive Failure
  | fault (f : Fault)
  | access (e : AccessError)
  | read (e : ReadError)
  | setup (e : SetupError)
  deriving DecidableEq, Repr

/-- The text of a failure. -/
def Failure.message : Failure → String
  | .fault f => f.message
  | .access e => e.message
  | .read e => e.message
  | .setup e => e.message

end ChipEight
