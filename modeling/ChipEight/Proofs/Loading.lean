import ChipEight.Proofs.Bounds

/-!
# Loading programs one after another

After its start, a machine is given programs in any order, as bytes or as files, and some of the attempts
fail. What an attempt answers depends on nothing but the program and the platform (`Attempt.answer`), and
one that fails changes nothing. So memory holds the glyphs, and over the workspace the programs that were
loaded, each laid over those before it (`Machine.loads`): a byte of the workspace belongs to the last
program that reaches so far, which need not be the last one.
-/

namespace ChipEight

/-- Loading first reads the program, and then looks whether it fits. -/
theorem Memory.loadFrom_eq (m : Memory) (read : Reader) (source : Source) :
    m.loadFrom read source =
      match source.program read with
      | .error e => .error (.read e)
      | .ok program =>
        if program.size ≤ 4096 - m.platform.workspaceStart then
          .ok (m.overlay m.platform.workspaceStart program, program.size)
        else
          .error (.fault (.programTooLong program.size (4096 - m.platform.workspaceStart)
            m.platform.workspaceStart)) := by
  unfold Memory.loadFrom
  cases source.program read with
  | error e => rfl
  | ok program =>
    show Except.bind ((m.load program).mapError Failure.fault) (fun memory =>
      Except.ok (memory, program.size)) = _
    rw [Memory.load, Memory.capacity]
    dsimp only
    split <;> rfl

/-! ## Attempts -/

/-- An attempt to load a program, with what reads the files by then. -/
structure Attempt where
  read : Reader
  source : Source

namespace Attempt

/-- The program, or why it cannot be read. -/
def program (a : Attempt) : Except ReadError (Array UInt8) := a.source.program a.read

/-- What an attempt answers if the workspace starts at an address. It succeeds if the program can be read
and is not longer than the workspace, and tells its size then. -/
def answer (start : Nat) (a : Attempt) : Except Failure Nat :=
  match a.program with
  | .error e => .error (.read e)
  | .ok program =>
    if program.size ≤ 4096 - start then .ok program.size
    else .error (.fault (.programTooLong program.size (4096 - start) start))

/-- The program that is loaded if the attempt succeeds. -/
def loads? (start : Nat) (a : Attempt) : Option (Array UInt8) :=
  match a.program with
  | .error _ => none
  | .ok program => if program.size ≤ 4096 - start then some program else none

variable {start : Nat} {a : Attempt} {program : Array UInt8}

theorem loads?_eq_some_iff :
    a.loads? start = some program ↔ a.program = .ok program ∧ program.size ≤ 4096 - start := by
  unfold loads?
  cases a.program with
  | error e => simp
  | ok found =>
    simp only [Option.ite_none_right_eq_some, Option.some.injEq, Except.ok.injEq]
    constructor
    · rintro ⟨fits, rfl⟩
      exact ⟨rfl, fits⟩
    · rintro ⟨rfl, fits⟩
      exact ⟨fits, rfl⟩

/-- An attempt succeeds just if there is a program that it loads. -/
theorem answer_eq_ok_iff {size : Nat} :
    a.answer start = .ok size ↔ ∃ program, a.loads? start = some program ∧ program.size = size := by
  unfold answer loads?
  cases a.program with
  | error e => simp
  | ok program =>
    dsimp only
    split <;> simp

/-- An attempt fails with a fault, or because the program cannot be read. -/
theorem answer_eq_error {e : Failure} (fails : a.answer start = .error e) :
    (∃ f : Fault, f.kind = .segmentation ∧ e = .fault f) ∨
      ∃ r, a.program = .error r ∧ e = .read r := by
  unfold answer at fails
  cases found : a.program with
  | error r =>
    rw [found] at fails
    cases fails
    exact .inr ⟨r, rfl, rfl⟩
  | ok program =>
    rw [found] at fails
    dsimp only at fails
    split at fails
    · cases fails
    · cases fails
      exact .inl ⟨_, rfl, rfl⟩

end Attempt

/-- What a tree of files refuses to read, at a path that can be the path of a file, is refused by the
operating system. -/
theorem Storage.read_eq_error {s : Storage} {path : String} (named : '\x00' ∉ path.toList) {e : ReadError}
    (fails : s.read path = .error e) : ∃ r, e = .refused r path := by
  rw [Storage.read, if_neg named] at fails
  cases found : s.lookup path with
  | ok content =>
    rw [found] at fails
    cases fails
  | error r =>
    rw [found] at fails
    cases fails
    exact ⟨r, rfl⟩

namespace Machine

/-- Makes an attempt. One that fails leaves the machine as it was. -/
def attempt (m : Machine) (a : Attempt) : Machine × Except Failure Nat :=
  match m.memory.loadFrom a.read a.source with
  | .ok (memory, size) => ({ m with memory }, .ok size)
  | .error e => (m, .error e)

/-- Makes attempts one after another, whether they fail or not, and collects the answers. -/
def attempts (m : Machine) : List Attempt → Machine × List (Except Failure Nat)
  | [] => (m, [])
  | a :: rest =>
    let (m, answer) := m.attempt a
    let (m, answers) := m.attempts rest
    (m, answer :: answers)

/-- The machine with a program laid over its workspace. -/
def overlaid (m : Machine) (program : Array UInt8) : Machine :=
  { m with memory := m.memory.overlay m.memory.platform.workspaceStart program }

variable {m : Machine}

/-- Loading a file as a host does is an attempt. -/
theorem loadFile_eq_attempt (m : Machine) (read : Reader) (path : String) :
    m.loadFile read path =
      (m.attempt ⟨read, .file path⟩).2.map fun size =>
        ((m.attempt ⟨read, .file path⟩).1, .loaded path size) := by
  have same : m.memory.loadFile read path = m.memory.loadFrom read (.file path) := rfl
  unfold loadFile attempt
  rw [same]
  cases m.memory.loadFrom read (.file path) <;> rfl

/-- So is loading a program that is there already. -/
theorem load_eq_attempt (m : Machine) (read : Reader) (program : Array UInt8) :
    (m.load program).mapError Failure.fault =
      (m.attempt ⟨read, .bytes program⟩).2.map fun _ => (m.attempt ⟨read, .bytes program⟩).1 := by
  have same : m.memory.loadFrom read (.bytes program) =
      ((m.memory.load program).mapError Failure.fault).map (·, program.size) := rfl
  unfold load attempt
  rw [same]
  cases m.memory.load program <;> rfl

theorem attempt_eq (m : Machine) (a : Attempt) :
    m.attempt a =
      (((a.loads? m.memory.platform.workspaceStart).toList.foldl overlaid m),
        a.answer m.memory.platform.workspaceStart) := by
  unfold attempt Attempt.loads? Attempt.answer Attempt.program
  rw [Memory.loadFrom_eq]
  cases a.source.program a.read with
  | error e => rfl
  | ok program =>
    by_cases fits : program.size ≤ 4096 - m.memory.platform.workspaceStart
    · simp only [if_pos fits]
      rfl
    · simp only [if_neg fits]
      rfl

/-- All that attempts come to. -/
theorem attempts_eq (m : Machine) (attempts : List Attempt) :
    m.attempts attempts =
      ((attempts.filterMap (Attempt.loads? m.memory.platform.workspaceStart)).foldl overlaid m,
        attempts.map (Attempt.answer m.memory.platform.workspaceStart)) := by
  induction attempts generalizing m with
  | nil => rfl
  | cons a rest ih =>
    have made := attempt_eq m a
    rw [Machine.attempts, made]
    cases loads : a.loads? m.memory.platform.workspaceStart with
    | none =>
      rw [List.filterMap_cons_none loads]
      simp only [Option.toList_none, List.foldl_nil, ih, List.map_cons]
    | some program =>
      have platform : (m.overlaid program).memory.platform = m.memory.platform := rfl
      rw [List.filterMap_cons_some loads]
      simp only [Option.toList_some, List.foldl_cons, List.foldl_nil, ih, List.map_cons, platform]

/-! ## Programs over each other -/

/-- Of several programs over each other, a byte is that of the last one that reaches so far. -/
theorem byte_foldl_overlaid (programs : List (Array UInt8)) (m : Machine) (a : Nat) :
    (programs.foldl overlaid m).memory.byte a =
      if m.memory.platform.workspaceStart ≤ a ∧ a < 4096 then
        (programs.reverse.findSome? fun p => p[a - m.memory.platform.workspaceStart]?).getD
          (m.memory.byte a)
      else m.memory.byte a := by
  induction programs generalizing m with
  | nil => simp
  | cons p rest ih =>
    have byte : (m.overlaid p).memory.byte a = _ :=
      m.memory.byte_overlay m.memory.platform.workspaceStart p a
    have platform : (m.overlaid p).memory.platform = m.memory.platform := rfl
    rw [List.foldl_cons, ih, platform, byte, List.reverse_cons, List.findSome?_append]
    split
    · next inside =>
      cases rest.reverse.findSome? fun p => p[a - m.memory.platform.workspaceStart]? with
      | some later => rfl
      | none =>
        simp only [Option.none_or, Option.getD_none, List.findSome?_singleton, inside, true_and]
        split
        · next reaches => rw [Array.getElem?_eq_getElem reaches, Option.getD_some]
        · next short => rw [Array.getElem?_eq_none (Nat.not_lt.1 short), Option.getD_none]
    · next outside => rw [dif_neg fun both => outside ⟨both.2.1, both.1⟩]

/-- Programs that fit are laid over each other as if each was assigned to the slice that it covers. -/
theorem bytes_foldl_overlaid {programs : List (Array UInt8)} {m : Machine} {start : Nat}
    (begins : m.memory.platform.workspaceStart = start) (fit : ∀ p ∈ programs, p.size ≤ 4096 - start) :
    (programs.foldl overlaid m).memory.bytes.toList =
      programs.foldl (fun bytes p => splice bytes start (start + p.size) p.toList)
        m.memory.bytes.toList := by
  induction programs generalizing m with
  | nil => rfl
  | cons p rest ih =>
    have low := m.memory.platform.workspaceStart_le
    have first := fit p List.mem_cons_self
    have spliced := m.memory.overlay_eq_splice start p (by omega)
    rw [List.foldl_cons, List.foldl_cons, ih (m := m.overlaid p) begins
      fun q later => fit q (List.mem_cons_of_mem p later), ← spliced, overlaid, begins]

theorem foldl_overlaid (programs : List (Array UInt8)) (m : Machine) :
    programs.foldl overlaid m = { m with memory := (programs.foldl overlaid m).memory } := by
  induction programs generalizing m with
  | nil => rfl
  | cons p rest ih =>
    rw [List.foldl_cons, ih]
    rfl

/-- The workspace of a machine that was brought back to its start is empty. -/
theorem byte_reset (m : Machine) {a : Nat} (inside : m.memory.platform.workspaceStart ≤ a) :
    m.reset.memory.byte a = 0 := by
  have start : 0x200 ≤ m.memory.platform.workspaceStart := by
    cases m.memory.platform <;> decide
  have size : Memory.glyphs.toArray.size = 80 := Vector.size_toArray ..
  have zero : m.memory.zeroed.byte a = 0 := by
    rw [Memory.byte, Memory.zeroed, Vector.getElem?_map]
    cases m.memory.bytes[a]? <;> rfl
  show (m.memory.zeroed.overlay Memory.glyphStart Memory.glyphs.toArray).byte a = 0
  rw [Memory.byte_overlay, Memory.glyphStart, dif_neg (by rw [size]; omega), zero]

/-! ## All attempts -/

/-- What becomes of a machine that was brought back to its start and is given programs, however often, from
wherever they come, and whatever their length.

Each attempt succeeds just if its program can be read and is not longer than the workspace, and tells its
size then. One that fails changes nothing. It comes to a fault, or the file cannot be read, which is then
refused by the operating system unless there is a NUL in its path. Memory is what it was at the start, with
the programs that were loaded assigned to the slices that they cover, one after another: it keeps its
length, and what lies below the workspace. A byte of the workspace is that of the last program that
reaches so far, and zero if there is none. -/
theorem loads (m : Machine) (attempts : List Attempt) :
    let start := m.memory.platform.workspaceStart
    let programs := attempts.filterMap (Attempt.loads? start)
    let image := splice (List.replicate 4096 0) Memory.glyphStart (Memory.glyphStart + 80)
      Memory.glyphs.toList
    let loaded := (m.reset.attempts attempts).1
    ((m.reset.attempts attempts).2 = attempts.map (Attempt.answer start) ∧
      ∀ a ∈ attempts,
        (∀ program, a.loads? start = some program ↔
          a.program = .ok program ∧ program.size ≤ 4096 - start) ∧
        (∀ size, a.answer start = .ok size ↔
          ∃ program, a.loads? start = some program ∧ program.size = size) ∧
        (∀ e, a.answer start = .error e →
          (∃ f : Fault, f.kind = .segmentation ∧ e = .fault f) ∨
            ∃ r, a.program = .error r ∧ e = .read r) ∧
        ∀ (m' : Machine) (e : Failure), (m'.attempt a).2 = .error e → (m'.attempt a).1 = m') ∧
      (∀ (s : Storage) (path : String) (r : ReadError), '\x00' ∉ path.toList →
        (Attempt.mk s.read (.file path)).program = .error r → ∃ refusal, r = .refused refusal path) ∧
      loaded = { m.reset with memory := loaded.memory } ∧
      loaded.memory.bytes.toList =
        programs.foldl (fun bytes p => splice bytes start (start + p.size) p.toList) image ∧
      loaded.memory.bytes.toList.length = 4096 ∧
      ∀ a, loaded.memory.byte a =
        if start ≤ a ∧ a < 4096 then (programs.reverse.findSome? fun p => p[a - start]?).getD 0
        else image[a]?.getD 0 := by
  intro start programs image loaded
  have made := attempts_eq m.reset attempts
  have all : loaded = programs.foldl overlaid m.reset := congrArg Prod.fst made
  have fit : ∀ p ∈ programs, p.size ≤ 4096 - start := by
    intro p present
    obtain ⟨a, -, loads⟩ := List.mem_filterMap.1 present
    exact (Attempt.loads?_eq_some_iff.1 loads).2
  refine ⟨⟨congrArg Prod.snd made, ?_⟩, ?_, ?_, ?_, Vector.length_toList, ?_⟩
  · intro a _
    refine ⟨fun _ => Attempt.loads?_eq_some_iff, fun _ => Attempt.answer_eq_ok_iff,
      fun _ => Attempt.answer_eq_error, ?_⟩
    intro m' e fails
    unfold attempt at fails ⊢
    split
    · next ok =>
      rw [ok] at fails
      cases fails
    · rfl
  · intro s path r named unread
    exact Storage.read_eq_error named unread
  · rw [all]
    exact foldl_overlaid programs m.reset
  · have spliced : (programs.foldl overlaid m.reset).memory.bytes.toList =
        programs.foldl (fun bytes p => splice bytes start (start + p.size) p.toList)
          m.reset.memory.bytes.toList := bytes_foldl_overlaid rfl fit
    rw [all, spliced, m.reset_eq_splice]
  · intro a
    have initial : m.reset.memory.byte a = image[a]?.getD 0 := by
      rw [Memory.byte, ← Vector.getElem?_toList, m.reset_eq_splice]
    have byte := byte_foldl_overlaid programs m.reset a
    rw [all, byte]
    show (if start ≤ a ∧ a < 4096 then (programs.reverse.findSome? fun p => p[a - start]?).getD _
      else _) = _
    split
    · next inside => rw [byte_reset m inside.1]
    · exact initial

/-- A longer program, a file that is missing, and a shorter program. -/
def programsInTurn : List Attempt :=
  [⟨fun path => .error (.refused .notFound path), .bytes #[1, 2, 3]⟩,
    ⟨fun path => .error (.refused .notFound path), .file "missing"⟩,
    ⟨fun path => .error (.refused .notFound path), .bytes #[4]⟩]

/-- What the shorter program does not reach stays of the longer one, and the file changes nothing. -/
theorem loads_inTurn :
    let made := (fresh .eti660).reset.attempts programsInTurn
    made.2 = [.ok 3, .error (.read (.refused .notFound "missing")), .ok 1] ∧
      made.1.memory.byte 0x600 = 4 ∧ made.1.memory.byte 0x601 = 2 ∧ made.1.memory.byte 0x602 = 3 ∧
      made.1.memory.byte 0x603 = 0 := by
  intro made
  obtain ⟨⟨answers, -⟩, -, -, -, -, bytes⟩ := loads (fresh .eti660) programsInTurn
  exact ⟨answers, bytes 0x600, bytes 0x601, bytes 0x602, bytes 0x603⟩

end Machine
end ChipEight
