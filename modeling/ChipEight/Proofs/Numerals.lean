import ChipEight.Text.Integer

/-!
# Numerals read back

What `Numeral.decimal` writes, `readInteger` reads as the same number, unless it has more digits than are
read (`readInteger_decimal`). Without that limit a numeral in base ten or sixteen still determines its number,
whatever width it is filled up to (`Numeral.decimal_injective`, `Numeral.hex_injective`), and it holds no
character of the kind that reports put around numerals (`Numeral.not_mem_decimal`, `Numeral.not_mem_hex`).
-/

namespace ChipEight

section
variable {c : Char}

theorem decimalDigit?_of_isDigit (digit : c.isDigit) :
    decimalDigit? c = some (c.toNat - '0'.toNat) :=
  if_pos (Char.isDigit_iff_toNat.1 digit)

theorem not_isBlank_of_isDigit (digit : c.isDigit) : isBlank c = false := by
  have range : 48 ≤ c.toNat ∧ c.toNat ≤ 57 := Char.isDigit_iff_toNat.1 digit
  simp only [isBlank, Bool.or_eq_false_iff, Bool.and_eq_false_iff, decide_eq_false_iff_not,
    beq_eq_false_iff_ne]
  omega

theorem isDigit_of_mem_decimal {n : Nat} (among : c ∈ Nat.toDigits 10 n) : c.isDigit :=
  Nat.isDigit_of_mem_toDigits (by omega) (by omega) among

end

namespace Integer

section
variable {text : List Char}

/-- A text of ASCII digits is a literal with the values of these digits. -/
theorem digits_of_isDigit (filled : text ≠ []) (all : ∀ c ∈ text, c.isDigit) :
    digits text = some (text.map fun c => c.toNat - '0'.toNat) := by
  fun_induction digits text with
  | case1 => cases filled rfl
  | case2 c => rw [decimalDigit?_of_isDigit (all c (.head _))]; rfl
  | case3 c rest ih => cases all '_' (.tail _ (.head _))
  | case4 c rest single underscore ih =>
    have following := ih single fun c among => all c (.tail _ among)
    rw [decimalDigit?_of_isDigit (all c (.head _)), following]
    rfl

/-- They make up the number that the text is in base ten. -/
theorem value_map_digits :
    value (text.map fun c => c.toNat - '0'.toNat) = Nat.ofDigitChars 10 text 0 := by
  rw [value, List.foldl_map, Nat.ofDigitChars_eq_foldl]

/-- The digits of a number are read as the number. -/
theorem magnitude_toDigits {n : Nat} (short : (Nat.toDigits 10 n).length ≤ Numeral.maxDigits) :
    magnitude (Nat.toDigits 10 n) = some n := by
  have all : ∀ c ∈ Nat.toDigits 10 n, c.isDigit := by
    intro c among
    exact isDigit_of_mem_decimal among
  have read := digits_of_isDigit Nat.toDigits_ne_nil all
  have back : value ((Nat.toDigits 10 n).map fun c => c.toNat - '0'.toNat) = n := by
    rw [value_map_digits, Nat.ofDigitChars_toDigits (by omega) (by omega)]
  rw [magnitude, read]
  simp only [bind, Option.bind, List.length_map, if_pos short, back]

/-- A text without blanks has none at its ends. -/
theorem trim_of_forall (free : ∀ c ∈ text, isBlank c = false) : trim text = text := by
  have kept (l : List Char) (free : ∀ c ∈ l, isBlank c = false) : l.dropWhile isBlank = l := by
    cases l with
    | nil => rfl
    | cons c l => rw [List.dropWhile_cons, free c (.head _), if_neg Bool.false_ne_true]
  rw [trim, kept text free, kept _ (fun c among => free c (List.mem_reverse.1 among)),
    List.reverse_reverse]

end

end Integer

/-- A number written in base ten is read as itself. -/
theorem readInteger_decimal {n : Int}
    (short : (Nat.toDigits 10 n.natAbs).length ≤ Numeral.maxDigits) :
    readInteger (Numeral.decimal n).toList = some n := by
  have trimmed : Integer.trim (Numeral.decimal n).toList = (Numeral.decimal n).toList := by
    apply Integer.trim_of_forall
    intro c among
    rw [Numeral.decimal, String.toList_ofList, List.mem_append] at among
    obtain sign | among := among
    · rw [Numeral.sign] at sign
      split at sign
      · rw [List.mem_singleton.1 sign]
        rfl
      · cases sign
    · exact not_isBlank_of_isDigit (isDigit_of_mem_decimal among)
  have magnitude := Integer.magnitude_toDigits short
  rw [readInteger, trimmed, Numeral.decimal, String.toList_ofList]
  by_cases negative : n < 0
  · rw [Numeral.sign, if_pos negative, List.singleton_append]
    have back : -(n.natAbs : Int) = n := by omega
    simp only [magnitude]
    exact congrArg some back
  · rw [Numeral.sign, if_neg negative, List.nil_append]
    split
    · next dash => cases isDigit_of_mem_decimal (dash ▸ List.mem_cons_self ..)
    · next plus => cases isDigit_of_mem_decimal (plus ▸ List.mem_cons_self ..)
    · rw [magnitude, Option.map_some]
      exact congrArg some (Int.natAbs_of_nonneg (Int.not_lt.1 negative))

/-! ## In any base up to sixteen -/

namespace Numeral

/-- The value of a digit of a base up to sixteen, in lower case. -/
def digitValue (c : Char) : Nat :=
  if c.isDigit then c.toNat - '0'.toNat else c.toNat - 'a'.toNat + 10

/-- The number that digits make up in a base. -/
def value (base : Nat) (text : List Char) : Nat := text.foldl (fun n c => base * n + digitValue c) 0

/-- The number that digits behind a sign make up in a base. -/
def signedValue (base : Nat) : List Char → Int
  | '-' :: text => -value base text
  | text => value base text

/-- Whether a character may stand in a numeral. -/
def isMark (c : Char) : Bool := c.isAlphanum || c == '-'

section
variable {base : Nat} (several : 1 < base) (few : base ≤ 16)
include several few

theorem digitChar_spec {d : Nat} (less : d < base) :
    digitValue (Nat.digitChar d) = d ∧ (Nat.digitChar d).isAlphanum := by
  have all : ∀ d : Fin 16, digitValue (Nat.digitChar d) = d ∧ (Nat.digitChar d).isAlphanum := by decide
  exact all ⟨d, by omega⟩

/-- The digits of a number make it up again. -/
theorem value_toDigits (n : Nat) : value base (Nat.toDigits base n) = n := by
  induction n using Nat.strongRecOn with
  | ind n ih =>
    by_cases small : n < base
    · rw [Nat.toDigits_of_lt_base small]
      simp [value, (digitChar_spec several few small).1]
    · have less : n % base < base := Nat.mod_lt n (by omega)
      have rest := ih (n / base) (Nat.div_lt_self (by omega) several)
      rw [value] at rest ⊢
      rw [Nat.toDigits_of_base_le several (by omega), List.foldl_append, rest, List.foldl_cons,
        List.foldl_nil, (digitChar_spec several few less).1]
      exact Nat.div_add_mod n base

theorem isAlphanum_of_mem_toDigits {n : Nat} : ∀ c ∈ Nat.toDigits base n, c.isAlphanum := by
  induction n using Nat.strongRecOn with
  | ind n ih =>
    intro c among
    by_cases small : n < base
    · rw [Nat.toDigits_of_lt_base small, List.mem_singleton] at among
      rw [among]
      exact (digitChar_spec several few small).2
    · have less : n % base < base := Nat.mod_lt n (by omega)
      rw [Nat.toDigits_of_base_le several (by omega), List.mem_append, List.mem_singleton] at among
      rcases among with leading | rfl
      · exact ih (n / base) (Nat.div_lt_self (by omega) several) c leading
      · exact (digitChar_spec several few less).2

end

/-- Zeros on the left make no difference. -/
theorem value_zeroFill (base width : Nat) (text : List Char) :
    value base (zeroFill width text) = value base text := by
  have zeros (k : Nat) : value base (List.replicate k '0' ++ text) = value base text := by
    induction k with
    | zero => rfl
    | succ k ih => exact ih
  exact zeros _

theorem isAlphanum_zeroFill {width : Nat} {text : List Char} (all : ∀ c ∈ text, c.isAlphanum) :
    ∀ c ∈ zeroFill width text, c.isAlphanum := by
  intro c among
  rw [zeroFill, List.mem_append] at among
  rcases among with zero | digit
  · rw [List.eq_of_mem_replicate zero]
    rfl
  · exact all c digit

/-- The sign in front of digits is read back, too. -/
theorem signedValue_append {base : Nat} {n : Int} {text : List Char} (all : ∀ c ∈ text, c.isAlphanum)
    (magnitude : value base text = n.natAbs) : signedValue base (sign n ++ text) = n := by
  rw [sign]
  split
  · show -(value base text : Int) = n
    omega
  · rw [List.nil_append]
    unfold signedValue
    split
    · next dash => cases all '-' (.head _)
    · omega

theorem isMark_append {n : Int} {text : List Char} (all : ∀ c ∈ text, c.isAlphanum) :
    ∀ c ∈ sign n ++ text, isMark c := by
  intro c among
  rw [isMark, Bool.or_eq_true, beq_iff_eq]
  rcases List.mem_append.1 among with dash | digit
  · rw [sign] at dash
    split at dash
    · exact .inr (List.mem_singleton.1 dash)
    · cases dash
  · exact .inl (all c digit)

/-! ### Hexadecimal -/

section
variable (width : Nat) {n : Int}

theorem isAlphanum_hexDigits (n : Int) :
    ∀ c ∈ zeroFill (width - (sign n).length) (Nat.toDigits 16 n.natAbs), c.isAlphanum :=
  isAlphanum_zeroFill (isAlphanum_of_mem_toDigits (by decide) (by decide))

theorem value_hexDigits (n : Nat) : value 16 (zeroFill width (Nat.toDigits 16 n)) = n := by
  rw [value_zeroFill, value_toDigits (by decide) (by decide)]

theorem signedValue_hex : signedValue 16 (hex width n).toList = n := by
  rw [hex, String.toList_ofList]
  exact signedValue_append (isAlphanum_hexDigits width n) (value_hexDigits _ _)

theorem hex_injective : Function.Injective (hex width) := by
  intro n n' same
  rw [← signedValue_hex width (n := n), same, signedValue_hex]

theorem not_mem_hex {c : Char} (other : isMark c = false) : c ∉ (hex width n).toList := by
  intro among
  rw [hex, String.toList_ofList] at among
  rw [isMark_append (isAlphanum_hexDigits width n) c among] at other
  cases other

end

/-- A natural number is written without a sign. -/
theorem hex_natCast (n : Nat) : (hex width n).toList = zeroFill width (Nat.toDigits 16 n) := by
  rw [hex, String.toList_ofList, sign, if_neg (by omega), List.nil_append, List.length_nil, Nat.sub_zero,
    Int.natAbs_natCast]

/-! ### Decimal -/

section
variable {n : Int}

theorem isAlphanum_decimalDigits (n : Int) : ∀ c ∈ Nat.toDigits 10 n.natAbs, c.isAlphanum :=
  isAlphanum_of_mem_toDigits (by decide) (by decide)

theorem signedValue_decimal : signedValue 10 (decimal n).toList = n := by
  rw [decimal, String.toList_ofList]
  exact signedValue_append (isAlphanum_decimalDigits n) (value_toDigits (by decide) (by decide) _)

theorem decimal_natCast (n : Nat) : (decimal n).toList = Nat.toDigits 10 n := by
  rw [decimal, String.toList_ofList, sign, if_neg (by omega), List.nil_append, Int.natAbs_natCast]

theorem decimal_injective : Function.Injective decimal := by
  intro n n' same
  rw [← signedValue_decimal (n := n), same, signedValue_decimal]

theorem decimal_ne_nil : (decimal n).toList ≠ [] := by
  rw [decimal, String.toList_ofList]
  exact List.append_ne_nil_of_right_ne_nil _ Nat.toDigits_ne_nil

theorem not_mem_decimal {c : Char} (other : isMark c = false) : c ∉ (decimal n).toList := by
  intro among
  rw [decimal, String.toList_ofList] at among
  rw [isMark_append (isAlphanum_decimalDigits n) c among] at other
  cases other

end

end Numeral

end ChipEight
