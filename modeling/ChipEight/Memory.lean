import ChipEight.Failure
import ChipEight.Index.Signed
import ChipEight.Index.Slice
import ChipEight.Storage

/-!
# Memory

The 4096 bytes of the machine. Programs are loaded into the workspace, which starts at an address
that depends on the `Platform` and reaches to the end; the glyphs of the hexadecimal digits lie below
it. Single bytes are read and written by signed indices (`Memory.get`, `Memory.set`), spans of them
by `Memory.overlay` and `Memory.load`, none of which changes the size.
-/

namespace ChipEight

/-- The machines that programs are written for. They differ in where programs start. -/
inductive Platform
  | standard
  | eti660
  deriving DecidableEq, Repr

/-- The address at which programs are loaded and started. -/
def Platform.workspaceStart : Platform → Nat
  | .standard => 0x200
  | .eti660 => 0x600

theorem Platform.workspaceStart_le (p : Platform) : p.workspaceStart ≤ 0x600 := by
  cases p <;> decide

/-- The memory of a machine. -/
structure Memory where
  platform : Platform
  bytes : Vector UInt8 4096
  deriving DecidableEq

namespace Memory

/-! ## Glyphs -/

/-- The glyphs of the digits `0` to `F`, five rows of eight pixels each. -/
def glyphs : Vector UInt8 80 :=
  #v[0xF0, 0x90, 0x90, 0x90, 0xF0,  0x20, 0x60, 0x20, 0x20, 0x70,
    0xF0, 0x10, 0xF0, 0x80, 0xF0,  0xF0, 0x10, 0xF0, 0x10, 0xF0,
    0x90, 0x90, 0xF0, 0x10, 0x10,  0xF0, 0x80, 0xF0, 0x10, 0xF0,
    0xF0, 0x80, 0xF0, 0x90, 0xF0,  0xF0, 0x10, 0x20, 0x40, 0x40,
    0xF0, 0x90, 0xF0, 0x90, 0xF0,  0xF0, 0x90, 0xF0, 0x10, 0xF0,
    0xF0, 0x90, 0xF0, 0x90, 0x90,  0xE0, 0x90, 0xE0, 0x90, 0xE0,
    0xF0, 0x80, 0x80, 0x80, 0xF0,  0xE0, 0x90, 0x90, 0x90, 0xE0,
    0xF0, 0x80, 0xF0, 0x80, 0xF0,  0xF0, 0x80, 0xF0, 0x80, 0x80]

/-- The address of the first glyph. -/
def glyphStart : Nat := 0x50

/-- How many bytes a glyph has. -/
def glyphSize : Nat := 5

/-! ## Spans -/

/-- The memory with `data` laid over it from an address on; what would lie beyond the end is left
out. -/
def overlay (m : Memory) (start : Nat) (data : Array UInt8) : Memory :=
  { m with
    bytes := m.bytes.mapFinIdx fun i byte _ =>
      if h : start ≤ i ∧ i - start < data.size then data[i - start] else byte }

/-- The memory with zeros everywhere. -/
def zeroed (m : Memory) : Memory := { m with bytes := m.bytes.map fun _ => 0 }

/-- The memory as a machine starts with it: zeros and the glyphs. -/
def reset (m : Memory) : Memory := m.zeroed.overlay glyphStart glyphs.toArray

/-- The memory of a new machine. -/
def fresh (platform : Platform) : Memory :=
  reset ⟨platform, Vector.replicate 4096 0⟩

/-- The bytes at which the glyphs start out, whatever they hold by now. -/
def glyphArea (m : Memory) : Array UInt8 := (m.bytes.extract 0x50 0xA0).toArray

/-- How many bytes the workspace has. -/
def capacity (m : Memory) : Nat := 4096 - m.platform.workspaceStart

/-- Whether an address lies in the workspace. -/
def inWorkspace (m : Memory) (address : Int) : Bool :=
  m.platform.workspaceStart ≤ address && address < 4096

/-- Loads a program into the workspace, where it has to fit. -/
def load (m : Memory) (program : Array UInt8) : Except Fault Memory :=
  if program.size ≤ m.capacity then .ok (m.overlay m.platform.workspaceStart program)
  else .error (.programTooLong program.size m.capacity m.platform.workspaceStart)

/-- Loads a program from wherever it comes, and tells its size. -/
def loadFrom (m : Memory) (read : Reader) (source : Source) : Except Failure (Memory × Nat) := do
  let program ← (source.program read).mapError Failure.read
  let m ← (m.load program).mapError Failure.fault
  return (m, program.size)

/-- Loads a program from a file, and tells its size. -/
def loadFile (m : Memory) (read : Reader) (path : String) : Except Failure (Memory × Nat) :=
  m.loadFrom read (.file path)

/-! ## Single bytes -/

/-- The byte at a signed index. -/
def get (m : Memory) (i : Int) : Except AccessError UInt8 :=
  match Index.resolve 4096 i with
  | some k => .ok m.bytes[k]
  | none => .error (.byteIndex i)

/-- Puts a byte at a signed index. -/
def setByte (m : Memory) (i : Int) (byte : UInt8) : Except AccessError Memory :=
  match Index.resolve 4096 i with
  | some k => .ok { m with bytes := m.bytes.set k byte }
  | none => .error (.byteIndex i)

/-- Puts a value at a signed index, if it is a byte. An index that is no word is refused first, then a
value that is no byte, and last an index outside the memory. -/
def set (m : Memory) (i value : Int) : Except AccessError Memory :=
  if ¬ Index.IsWord i then .error (.byteIndex i)
  else if 0 ≤ value ∧ value < 256 then m.setByte i (UInt8.ofNat value.toNat)
  else .error .byteValue

/-- The bytes that a slice picks. -/
def slice (m : Memory) (s : Slice) : Except AccessError (List UInt8) :=
  match s.positions 4096 with
  | some places => .ok (places.map (m.bytes[·]))
  | none => .error .zeroStep

/-! ## What the operations leave alone -/

theorem getElem_overlay (m : Memory) (start : Nat) (data : Array UInt8) (i : Nat) (hi : i < 4096) :
    (m.overlay start data).bytes[i] =
      if h : start ≤ i ∧ i - start < data.size then data[i - start] else m.bytes[i] := by
  simp only [overlay, Vector.getElem_mapFinIdx]

theorem reset_eq_fresh (m : Memory) : m.reset = fresh m.platform := by
  have h : m.zeroed = zeroed ⟨m.platform, Vector.replicate 4096 0⟩ := by
    simp only [zeroed, Memory.mk.injEq, true_and]
    ext i hi
    simp
  simp only [reset, fresh, h]

end Memory

end ChipEight
