import ChipEight.Program
import ChipEight.Proofs.Numerals

/-!
# Command lines read back

A command line can be written from what it says: an `Item` is an option with its value, and the two ways to
write an item are with its value as the next word or joined by an equals sign. Whatever is said, in whatever
order and however often, is read back: `CommandLine.parse` finds the last value of each option, or else the
value that it starts from. Only numbers that are not positive are refused, `--hz` before `--scale`
(`CommandLine.reads_back`).

A negative number is a word that starts with a dash; it is a value and no option because no option starts
with a dash and a digit (`Word.read_negative`).
-/

namespace ChipEight

/-- The spelling of an option with two dashes. -/
def CommandOption.long : CommandOption → String
  | help => "--help"
  | file => "--file"
  | eti660 => "--eti-660"
  | hz => "--hz"
  | scale => "--scale"
  | onError => "--on-error"

/-- The name of a policy. -/
def Policy.name : Policy → String
  | abort => "abort"
  | reset => "reset"

/-! ## Words -/

namespace Word

section
variable {text name value : List Char}

theorem bne_equals (free : '=' ∉ text) : ∀ c ∈ text, (c != '=') = true := by
  intro c among
  rw [bne_iff_ne]
  intro equals
  exact free (equals ▸ among)

theorem dropWhile_eq_nil {p : Char → Bool} (all : ∀ c ∈ text, p c = true) : text.dropWhile p = [] := by
  rw [← List.append_nil text, List.dropWhile_append_of_pos all, List.dropWhile_nil]

theorem splitEquals_of_not_mem (free : '=' ∉ text) : splitEquals text = (text, none) := by
  rw [splitEquals, dropWhile_eq_nil (bne_equals free)]

theorem splitEquals_append (free : '=' ∉ name) :
    splitEquals (name ++ '=' :: value) = (name, some value) := by
  have behind : (name ++ '=' :: value).dropWhile (· != '=') = '=' :: value := by
    rw [List.dropWhile_append_of_pos (bne_equals free), List.dropWhile_cons_of_neg (by simp)]
  have before : (name ++ '=' :: value).takeWhile (· != '=') = name := by
    rw [List.takeWhile_append_of_pos (bne_equals free), List.takeWhile_cons_of_neg (by simp),
      List.append_nil]
  simp only [splitEquals, behind, before]

/-! ### Options -/

/-- No spelling of an option has an equals sign. -/
theorem not_mem_spelling : ∀ s ∈ CommandOption.spellings, '=' ∉ s.1.toList := by decide

theorem spelled?_of_mem (equals : '=' ∈ text) : spelled? text = none := by
  rw [spelled?, Option.map_eq_none_iff, List.find?_eq_none]
  intro s among same
  exact not_mem_spelling s among (beq_iff_eq.1 same ▸ equals)

/-- An option in its long spelling reads as the option. -/
theorem read_long (o : CommandOption) : read o.long.toList = .ok (.option o false none) := by
  cases o <;> rfl

/-- What is joined to it by an equals sign reads as its value. -/
theorem read_joined (o : CommandOption) (value : List Char) :
    read (o.long.toList ++ '=' :: value) = .ok (.option o false (some value)) := by
  have equals : '=' ∈ o.long.toList ++ '=' :: value := by simp
  have dash : (o.long.toList ++ '=' :: value).head? = some '-' := by cases o <;> rfl
  have more : (o.long.toList ++ '=' :: value).length ≠ 1 := by
    cases o <;> simp [CommandOption.long]
  have known : (o.long, o) ∈ CommandOption.spellings := by cases o <;> decide
  have parts : splitEquals (o.long.toList ++ '=' :: value) = (o.long.toList, some value) :=
    splitEquals_append (not_mem_spelling _ known)
  have spelled : spelled? o.long.toList = some o := by cases o <;> rfl
  have long : isShort o.long.toList = false := by cases o <;> rfl
  rw [read, if_neg (fun other => other dash), if_neg (fun same => by simp [same] at equals),
    spelled?_of_mem equals]
  simp only [if_neg more, parts, spelled, long]

/-! ### Values -/

theorem read_plain (plain : text.head? ≠ some '-') : read text = .ok .plain := if_pos plain

/-- No option starts like a negative number. -/
theorem not_spelling_of_isDigit {c : Char} (second : text[1]? = some c) (digit : c.isDigit) :
    ∀ s ∈ CommandOption.spellings, s.1.toList ≠ text := by
  have letters : ∀ s ∈ CommandOption.spellings, s.1.toList[1]?.any Char.isDigit = false := by decide
  intro s among same
  have letter := letters s among
  rw [same, second, Option.any_some, digit] at letter
  cases letter

/-- A dash and digits are a negative number. -/
theorem isNegativeNumber_of_isDigit {digits : List Char} (filled : digits ≠ [])
    (all : ∀ c ∈ digits, c.isDigit) : isNegativeNumber ('-' :: digits) = true := by
  have unbroken : digits.getLast? ≠ some '\n' := by
    intro last
    cases all _ (List.mem_of_getLast? last)
  have whole : digits.dropWhile (fun c => (decimalDigit? c).isSome) = [] := by
    apply dropWhile_eq_nil
    intro c among
    rw [decimalDigit?_of_isDigit (all c among), Option.isSome_some]
  simp only [isNegativeNumber, if_neg unbroken, whole, List.isEmpty_eq_false_iff.2 filled,
    Bool.not_false]

/-- They read as a plain word. -/
theorem read_negative {digits : List Char} (filled : digits ≠ []) (all : ∀ c ∈ digits, c.isDigit) :
    read ('-' :: digits) = .ok .plain := by
  have number := isNegativeNumber_of_isDigit filled all
  obtain ⟨c, rest, rfl⟩ := List.exists_cons_of_ne_nil filled
  have digit : c.isDigit := all c (.head _)
  have other : c ≠ '-' := by
    rintro rfl
    cases digit
  have free : '=' ∉ '-' :: c :: rest := by
    intro among
    obtain same | among := List.mem_cons.1 among
    · cases same
    · cases all _ among
  have unknown : spelled? ('-' :: c :: rest) = none := by
    rw [spelled?, Option.map_eq_none_iff, List.find?_eq_none]
    intro s among same
    exact not_spelling_of_isDigit rfl digit s among (beq_iff_eq.1 same)
  have noOption : shortMatches ('-' :: c :: rest) = [] := by
    rw [shortMatches, List.map_eq_nil_iff, List.filter_eq_nil_iff]
    intro s among same
    exact not_spelling_of_isDigit rfl digit s among (beq_iff_eq.1 same)
  have short : isShort ('-' :: c :: rest) = true := by
    rw [isShort, bne_iff_ne]
    intro same
    exact other (Option.some.inj same)
  rw [read, if_neg (fun dash => dash rfl), if_neg (by simp [other]), unknown]
  simp only [if_neg (show ('-' :: c :: rest).length ≠ 1 by simp), splitEquals_of_not_mem free,
    readMatches, short, if_true, noOption, readRest, number, true_or]

/-- A number in base ten reads as a plain word. -/
theorem read_decimal (n : Int) : read (Numeral.decimal n).toList = .ok .plain := by
  rw [Numeral.decimal, String.toList_ofList, Numeral.sign]
  split
  · apply read_negative Nat.toDigits_ne_nil
    intro c among
    exact isDigit_of_mem_decimal among
  · apply read_plain
    intro dash
    cases isDigit_of_mem_decimal (List.mem_of_mem_head? dash)

/-! ### Several words -/

theorem readAll_cons {arg : String} {word : Word} {rest : List String}
    (reads : read arg.toList = .ok word) (going : word ≠ .separator) :
    readAll (arg :: rest) = (readAll rest).map ((arg, word) :: ·) := by
  rw [readAll, reads]
  simp only [bind, Except.bind, if_neg going]
  cases readAll rest <;> rfl

end

end Word

namespace CommandLine

/-! ## Items -/

/-- What a command line can say: an option, with its value if it has one. -/
inductive Item
  /-- The path of a file, which does not start with a dash. -/
  | file (path : String) (plain : path.toList.head? ≠ some '-')
  /-- A number that has no more digits than are read. -/
  | hz (n : Int) (short : (Nat.toDigits 10 n.natAbs).length ≤ Numeral.maxDigits)
  /-- A number that has no more digits than are read. -/
  | scale (n : Int) (short : (Nat.toDigits 10 n.natAbs).length ≤ Numeral.maxDigits)
  | onError (p : Policy)
  | eti660

namespace Item

/-- The option of an item. -/
def option : Item → CommandOption
  | file .. => .file
  | hz .. => .hz
  | scale .. => .scale
  | onError _ => .onError
  | eti660 => .eti660

/-- The value of an item as a text, if its option has one. -/
def value? : Item → Option String
  | file path _ => some path
  | hz n _ => some (Numeral.decimal n)
  | scale n _ => some (Numeral.decimal n)
  | onError p => some p.name
  | eti660 => none

/-- An item as words of a command line, its value joined to its option or in a word of its own. -/
def words (i : Item) (joined : Bool) : List String :=
  match i.value? with
  | none => [i.option.long]
  | some v => if joined then [i.option.long ++ "=" ++ v] else [i.option.long, v]

/-- These words beside how they read. -/
def readings (i : Item) (joined : Bool) : List (String × Word) :=
  match i.value? with
  | none => [(i.option.long, .option i.option false none)]
  | some v =>
    if joined then [(i.option.long ++ "=" ++ v, .option i.option false (some v.toList))]
    else [(i.option.long, .option i.option false none), (v, .plain)]

/-- What an item makes of what the words before have asked for. -/
def give (i : Item) (d : Draft) : Draft :=
  match i with
  | file path _ => { d with file := some (some path) }
  | hz n _ => { d with hz := some n }
  | scale n _ => { d with scale := some n }
  | onError p => { d with onError := some p }
  | eti660 => { d with eti660 := true }

section
variable {i : Item} {v : String}

theorem takesValue_option (i : Item) : i.option.takesValue = i.value?.isSome := by
  cases i <;> rfl

/-- A value is a plain word. -/
theorem read_value (valued : i.value? = some v) : Word.read v.toList = .ok .plain := by
  cases i with
  | file path plain =>
    cases valued
    exact Word.read_plain plain
  | hz n | scale n =>
    cases valued
    exact Word.read_decimal n
  | onError p =>
    cases valued
    cases p <;> rfl
  | eti660 => cases valued

theorem value_ne_dashes (valued : i.value? = some v) : v.toList ≠ ['-', '-'] := by
  have separator : Word.read ['-', '-'] = .ok .separator := rfl
  intro same
  have plain := read_value valued
  rw [same, separator] at plain
  cases plain

/-- A value is read as what it was written from. -/
theorem take_value (valued : i.value? = some v) (d : Draft) : d.take i.option v = .ok (i.give d) := by
  cases i with
  | file path =>
    cases valued
    rfl
  | hz n short | scale n short =>
    cases valued
    simp only [option, Draft.take, integer, readInteger_decimal short]
    rfl
  | onError p =>
    cases valued
    cases p <;> rfl
  | eti660 => cases valued

theorem readAll_words (i : Item) (joined : Bool) (rest : List String) :
    Word.readAll (i.words joined ++ rest) = (Word.readAll rest).map (i.readings joined ++ ·) := by
  have option := Word.read_long i.option
  unfold words readings
  split
  · exact Word.readAll_cons option nofun
  next v valued =>
    cases joined with
    | true =>
      have reads := Word.read_joined i.option v.toList
      refine Word.readAll_cons ?_ nofun
      rwa [String.toList_append, String.toList_append, List.append_assoc]
    | false =>
      have following : Word.readAll (v :: rest) = (Word.readAll rest).map ((v, .plain) :: ·) :=
        Word.readAll_cons (read_value valued) nofun
      refine (Word.readAll_cons option nofun).trans ?_
      change (Word.readAll (v :: rest)).map _ = _
      rw [following]
      cases Word.readAll rest <;> rfl

/-- An option without a value leaves the next word alone. -/
theorem readWords_flag (arg : String) (rest : List (String × Word)) (d : Draft) :
    readWords ((arg, .option .eti660 false none) :: rest) d = readWords rest (eti660.give d) := by
  obtain _ | ⟨⟨value, word⟩, rest⟩ := rest
  · rfl
  · cases word <;> rfl

theorem readWords_readings (i : Item) (joined : Bool) (rest : List (String × Word)) (d : Draft) :
    readWords (i.readings joined ++ rest) d = readWords rest (i.give d) := by
  have takes := takesValue_option i
  unfold readings
  split
  next flag =>
    cases i with
    | eti660 => exact readWords_flag ..
    | file | hz | scale | onError => cases flag
  next v valued =>
    rw [valued, Option.isSome_some] at takes
    have taken := take_value valued d
    cases joined with
    | true =>
      have attached : d.takeAttached i.option v.toList = .ok (i.give d) := by
        rw [Draft.takeAttached, if_neg (value_ne_dashes valued), String.ofList_toList, taken]
      simp only [if_true, List.singleton_append, readWords, takes, attached, Except.bind]
    | false =>
      simp only [Bool.false_eq_true, if_false, if_true, List.cons_append, List.nil_append, readWords,
        takes, taken, Except.bind]

end

/-! ### What an item says -/

/-- The path that an item names. -/
def path? : Item → Option String
  | file path _ => some path
  | _ => none

/-- The rate that an item asks for. -/
def rate? : Item → Option Int
  | hz n _ => some n
  | _ => none

/-- The side of a pixel that an item asks for. -/
def side? : Item → Option Int
  | scale n _ => some n
  | _ => none

/-- The policy that an item asks for. -/
def policy? : Item → Option Policy
  | onError p => some p
  | _ => none

/-- Whether an item asks for the other platform. -/
def flag? : Item → Option Bool
  | eti660 => some true
  | _ => none

end Item

/-! ## Lines -/

section
variable {α : Type} {get : Item → Option α} {i : Item} {joined : Bool} {line : List (Item × Bool)}
  {file : String}

/-- A line of items, each beside whether its value is joined to it, as words of a command line. -/
def written (line : List (Item × Bool)) : List String :=
  line.flatMap fun (i, joined) => i.words joined

/-- What the last item of a line says that says something of a kind. -/
def last (get : Item → Option α) (line : List (Item × Bool)) : Option α :=
  line.reverse.findSome? fun (i, _) => get i

/-- The settings that a line asks for. -/
def asked (line : List (Item × Bool)) : Settings where
  file := last Item.path? line
  eti660 := (last Item.flag? line).getD false
  hz := (last Item.rate? line).getD 300
  scale := (last Item.side? line).getD 15
  onError := some ((last Item.policy? line).getD .abort)

/-- A draft after a line of items: the last item that says something of a kind counts. -/
def Draft.follow (d : Draft) (line : List (Item × Bool)) : Draft where
  file := ((last Item.path? line).map some).or d.file
  eti660 := (last Item.flag? line).getD d.eti660
  hz := (last Item.rate? line).or d.hz
  scale := (last Item.side? line).or d.scale
  onError := (last Item.policy? line).or d.onError
  leftOver := d.leftOver

theorem last_cons : last get ((i, joined) :: line) = (last get line).or (get i) := by
  rw [last, List.reverse_cons, List.findSome?_append, List.findSome?_singleton, ← last]

theorem exists_last (given : ∃ item ∈ line, (get item.1).isSome) : ∃ a, last get line = some a := by
  obtain ⟨item, among, spoken⟩ := given
  apply Option.isSome_iff_exists.1
  rw [last, List.findSome?_isSome_iff]
  exact ⟨item, List.mem_reverse.2 among, spoken⟩

theorem follow_cons (d : Draft) :
    d.follow ((i, joined) :: line) = (i.give d).follow line := by
  cases i <;>
    simp only [Draft.follow, last_cons, Item.give, Item.path?, Item.flag?, Item.rate?, Item.side?,
      Item.policy?, Option.or_none, Option.or_assoc, Option.some_or, Option.map_or, Option.map_some,
      Option.getD_or, Option.getD_some]

/-- The words of a line read as their options and values, one after another. -/
theorem readAll_written (line : List (Item × Bool)) :
    Word.readAll (written line) = .ok (line.flatMap fun (i, joined) => i.readings joined) := by
  induction line with
  | nil => rfl
  | cons item line ih =>
    obtain ⟨i, joined⟩ := item
    rw [written, List.flatMap_cons, List.flatMap_cons]
    refine (Item.readAll_words i joined _).trans ?_
    rw [← written, ih]
    rfl

/-- Taking them in turn leads to the draft that the line asks for. -/
theorem readWords_written (line : List (Item × Bool)) (d : Draft) :
    readWords (line.flatMap fun (i, joined) => i.readings joined) d = .ok (d.follow line) := by
  induction line generalizing d with
  | nil => rfl
  | cons item line ih =>
    obtain ⟨i, joined⟩ := item
    rw [List.flatMap_cons, follow_cons]
    exact (Item.readWords_readings i joined _ d).trans (ih (i.give d))

/-- The settings of a draft without words that are left over. -/
theorem finish_eq {d : Draft} {path : Option String} {hz scale : Int} (named : d.file = some path)
    (all : d.leftOver = []) (rate : d.hz = some hz) (side : d.scale = some scale) :
    d.finish =
      if hz ≤ 0 then .error (.refused .hzNotPositive)
      else if scale ≤ 0 then .error (.refused .scaleNotPositive)
      else .ok ⟨path, d.eti660, hz, scale, d.onError⟩ := by
  rw [Draft.finish, named, rate, side]
  simp only [all, positive, ne_eq, not_true, if_false]
  by_cases slow : hz ≤ 0
  · rw [if_pos slow, if_pos slow]
    rfl
  · by_cases flat : scale ≤ 0
    · rw [if_neg slow, if_neg slow, if_pos flat, if_pos flat]
      rfl
    · rw [if_neg slow, if_neg slow, if_neg flat, if_neg flat]
      rfl

theorem parse_written (named : last Item.path? line = some file) :
    parse (written line) =
      if (asked line).hz ≤ 0 then .error (.refused .hzNotPositive)
      else if (asked line).scale ≤ 0 then .error (.refused .scaleNotPositive)
      else .ok (asked line) := by
  have finished : parse (written line) = (Draft.initial.follow line).finish := by
    rw [parse, readAll_written]
    change (readWords _ Draft.initial).bind Draft.finish = _
    rw [readWords_written]
    rfl
  have path : (Draft.initial.follow line).file = some (some file) := by
    rw [Draft.follow, named, Option.map_some, Option.some_or]
  have policy : (Draft.initial.follow line).onError = (asked line).onError := Option.or_some
  rw [finished, finish_eq path rfl Option.or_some Option.or_some, policy, ← named]
  rfl

end

/-! ## Reading back -/

/-- A usage error ends the program with its text before it opens a file or a window. -/
def Refuses (argv : List String) (e : UsageError) : Prop :=
  parse argv = .error (.refused e) ∧
  ∀ (d : Display) (read : Reader) (batches : List (List Event)) (debug : Bool) (random : List UInt8),
    Program.run d argv read batches debug random = Program.early "" (complaint e) (.code 2)

theorem refuses_of_parse {argv : List String} {e : UsageError}
    (refused : parse argv = .error (.refused e)) : Refuses argv e := by
  refine ⟨refused, ?_⟩
  intro d read batches debug random
  rw [Program.run, refused]

/-- Every command line that names a file is read back: in whatever order and however often its items come,
and however each is written, the last value of an option counts, or else the value that it starts from. If
both numbers are positive, these are the settings; otherwise the program ends with the complaint about the
rate, or, if only the scale is not positive, with that about the scale. -/
theorem reads_back (line : List (Item × Bool)) (given : ∃ item ∈ line, item.1.option = .file) :
    (asked line).file.isSome ∧
    (1 ≤ (asked line).hz → 1 ≤ (asked line).scale → parse (written line) = .ok (asked line)) ∧
    ((asked line).hz ≤ 0 → Refuses (written line) .hzNotPositive) ∧
    (1 ≤ (asked line).hz → (asked line).scale ≤ 0 → Refuses (written line) .scaleNotPositive) := by
  have named : ∃ item ∈ line, (Item.path? item.1).isSome := by
    obtain ⟨⟨i, joined⟩, among, option⟩ := given
    refine ⟨_, among, ?_⟩
    cases i with
    | file => rfl
    | hz | scale | onError | eti660 => cases option
  obtain ⟨file, last⟩ := exists_last named
  have parsed := parse_written last
  refine ⟨Option.isSome_iff_exists.2 ⟨file, last⟩, ?_, ?_, ?_⟩
  · intro rate side
    rw [parsed, if_neg (by omega), if_neg (by omega)]
  · intro slow
    apply refuses_of_parse
    rw [parsed, if_pos slow]
  · intro rate flat
    apply refuses_of_parse
    rw [parsed, if_neg (by omega), if_pos flat]

/-- A line that corrects itself: its first rate is negative and its first file has a blank in its name. -/
def corrected : List (Item × Bool) :=
  [(.hz (-5) (by decide), false), (.file "a b" (by decide), false), (.scale 7 (by decide), true),
    (.eti660, false), (.onError .reset, false), (.hz 60 (by decide), true),
    (.file "x=y" (by decide), true)]

theorem reads_back_corrected :
    written corrected = ["--hz", "-5", "--file", "a b", "--scale=7", "--eti-660", "--on-error",
      "reset", "--hz=60", "--file=x=y"] ∧
    parse (written corrected) = .ok ⟨some "x=y", true, 60, 7, some .reset⟩ ∧
    Refuses (written (corrected.take 2)) .hzNotPositive := by
  refine ⟨by rfl, ?_, ?_⟩
  · obtain ⟨-, taken, -⟩ := reads_back corrected ⟨_, .tail _ (.head _), rfl⟩
    exact taken (by decide) (by decide)
  · obtain ⟨-, -, slow, -⟩ := reads_back (corrected.take 2) ⟨_, .tail _ (.head _), rfl⟩
    exact slow (by decide)

end CommandLine

end ChipEight
