import AutoTrade.Lib.Json
import Mathlib.Data.Bool.AllAny

/-!
# Reading JSON text

The grammar of Python's `json.loads` and its round trip: reading the text of a
value restores the value.  `NaN` and the infinities, which `json.loads` reads,
and a lone surrogate escape have no canonical text and are errors here.
-/

namespace AutoTrade.Lib.Json

variable {F : Type}

/-! ## The parser -/

/-- White space between tokens. -/
def skipSpace (text : List Char) : List Char :=
  text.dropWhile fun character => character ∈ [' ', '\t', '\n', '\r']

/-- The value of a hexadecimal digit. -/
def hexValue (digit : Char) : Option Nat :=
  if digit.isDigit then some (digit.toNat - 48)
  else if 'a' ≤ digit ∧ digit ≤ 'f' then some (digit.toNat - 87)
  else if 'A' ≤ digit ∧ digit ≤ 'F' then some (digit.toNat - 55)
  else none

/-- Four hexadecimal digits. -/
def scanHex : List Char → Option (Nat × List Char)
  | first :: second :: third :: fourth :: rest => do
      let first ← hexValue first
      let second ← hexValue second
      let third ← hexValue third
      let fourth ← hexValue fourth
      some (first * 4096 + second * 256 + third * 16 + fourth, rest)
  | _ => none

/-- The character of a `\u` escape; a high surrogate takes the escape after it. -/
def scanEscape (text : List Char) : Option (Char × List Char) := do
  let (code, rest) ← scanHex text
  if 0xd800 ≤ code ∧ code ≤ 0xdbff then
    match rest with
    | '\\' :: 'u' :: rest => do
        let (low, rest) ← scanHex rest
        if 0xdc00 ≤ low ∧ low ≤ 0xdfff then
          some (Char.ofNat (0x10000 + (code - 0xd800) * 1024 + (low - 0xdc00)), rest)
        else none
    | _ => none
  else if 0xdc00 ≤ code ∧ code ≤ 0xdfff then none
  else some (Char.ofNat code, rest)

/-- The character a two-character escape stands for. -/
def unescape (character : Char) : Option Char :=
  match character with
  | '"' => some '"'
  | '\\' => some '\\'
  | '/' => some '/'
  | 'b' => some (Char.ofNat 8)
  | 'f' => some (Char.ofNat 12)
  | 'n' => some '\n'
  | 'r' => some '\r'
  | 't' => some '\t'
  | _ => none

/-- The characters up to the closing quote. -/
def scanString : (fuel : Nat) → List Char → Option (List Char × List Char)
  | 0, _ => none
  | _ + 1, [] => none
  | _ + 1, '"' :: rest => some ([], rest)
  | fuel + 1, '\\' :: 'u' :: rest => do
      let (character, rest) ← scanEscape rest
      let (characters, rest) ← scanString fuel rest
      some (character :: characters, rest)
  | fuel + 1, '\\' :: escape :: rest => do
      let character ← unescape escape
      let (characters, rest) ← scanString fuel rest
      some (character :: characters, rest)
  | fuel + 1, character :: rest =>
      if character = '\\' ∨ character.toNat < 0x20 then none
      else do
        let (characters, rest) ← scanString fuel rest
        some (character :: characters, rest)

/-- `0`, or digits that do not start with it. -/
def scanInteger (text : List Char) : Option (List Char × List Char) :=
  match text with
  | '0' :: rest => some (['0'], rest)
  | text =>
      if text.takeWhile Char.isDigit = [] then none
      else some (text.takeWhile Char.isDigit, text.dropWhile Char.isDigit)

/-- A point and digits, or nothing. -/
def scanFraction (text : List Char) : List Char × List Char :=
  match text with
  | '.' :: rest =>
      if rest.takeWhile Char.isDigit = [] then ([], text)
      else ('.' :: rest.takeWhile Char.isDigit, rest.dropWhile Char.isDigit)
  | text => ([], text)

/-- An optional sign. -/
def scanSign (text : List Char) : List Char × List Char :=
  match text with
  | '+' :: rest => (['+'], rest)
  | '-' :: rest => (['-'], rest)
  | text => ([], text)

/-- An exponent mark, an optional sign and digits, or nothing. -/
def scanExponent (text : List Char) : List Char × List Char :=
  match text with
  | mark :: rest =>
      if mark = 'e' ∨ mark = 'E' then
        let (sign, digits) := scanSign rest
        if digits.takeWhile Char.isDigit = [] then ([], text)
        else (mark :: (sign ++ digits.takeWhile Char.isDigit), digits.dropWhile Char.isDigit)
      else ([], text)
  | [] => ([], [])

/-- An optional minus sign. -/
def scanMinus (text : List Char) : List Char × List Char :=
  match text with
  | '-' :: rest => (['-'], rest)
  | text => ([], text)

/-- A number literal. -/
def scanNumber (text : List Char) : Option (NumberText × List Char) := do
  let (sign, unsigned) := scanMinus text
  let (integer, rest) ← scanInteger unsigned
  let (fraction, rest) := scanFraction rest
  let (exponent, rest) := scanExponent rest
  some (⟨sign, integer, fraction, exponent⟩, rest)

/-- The number of a literal; Python does not convert overlong integers. -/
def ofNumber [FloatText F] (number : NumberText) : Option (Json F) :=
  if number.isFloat then some (float (FloatText.ofLiteral number))
  else if maxStrDigits < number.integer.length then none
  else
    let magnitude : Int := Nat.ofDigitChars 10 number.integer 0
    some (int (if number.sign = ['-'] then -magnitude else magnitude))

mutual

/-- One value and the text after it. -/
def parseValue [FloatText F] : (fuel : Nat) → List Char → Option (Json F × List Char)
  | 0, _ => none
  | fuel + 1, text =>
      match text with
      | '"' :: rest => do
          let (characters, rest) ← scanString (rest.length + 1) rest
          some (str (String.ofList characters), rest)
      | '[' :: rest =>
          match skipSpace rest with
          | ']' :: rest => some (arr [], rest)
          | rest => do
              let (item, rest) ← parseValue fuel rest
              let (items, rest) ← parseItems fuel rest
              some (arr (item :: items), rest)
      | '{' :: rest =>
          match skipSpace rest with
          | '}' :: rest => some (obj [], rest)
          | rest => do
              let (member, rest) ← parseMember fuel rest
              let (members, rest) ← parseMembers fuel rest
              some (obj (Dict.setAll ∅ (member :: members)).entries, rest)
      | 'n' :: 'u' :: 'l' :: 'l' :: rest => some (null, rest)
      | 't' :: 'r' :: 'u' :: 'e' :: rest => some (bool true, rest)
      | 'f' :: 'a' :: 'l' :: 's' :: 'e' :: rest => some (bool false, rest)
      | text => do
          let (number, rest) ← scanNumber text
          let value ← ofNumber number
          some (value, rest)

/-- The items after the first, up to the closing bracket. -/
def parseItems [FloatText F] : (fuel : Nat) → List Char →
    Option (List (Json F) × List Char)
  | 0, _ => none
  | fuel + 1, text =>
      match skipSpace text with
      | ']' :: rest => some ([], rest)
      | ',' :: rest => do
          let (item, rest) ← parseValue fuel (skipSpace rest)
          let (items, rest) ← parseItems fuel rest
          some (item :: items, rest)
      | _ => none

/-- A key, a colon and a value. -/
def parseMember [FloatText F] : (fuel : Nat) → List Char →
    Option ((String × Json F) × List Char)
  | 0, _ => none
  | fuel + 1, text =>
      match text with
      | '"' :: rest => do
          let (key, rest) ← scanString (rest.length + 1) rest
          match skipSpace rest with
          | ':' :: rest => do
              let (value, rest) ← parseValue fuel (skipSpace rest)
              some ((String.ofList key, value), rest)
          | _ => none
      | _ => none

/-- The members after the first, up to the closing brace. -/
def parseMembers [FloatText F] : (fuel : Nat) → List Char →
    Option (List (String × Json F) × List Char)
  | 0, _ => none
  | fuel + 1, text =>
      match skipSpace text with
      | '}' :: rest => some ([], rest)
      | ',' :: rest => do
          let (member, rest) ← parseMember fuel (skipSpace rest)
          let (members, rest) ← parseMembers fuel rest
          some (member :: members, rest)
      | _ => none

end

/-- `json.loads`, or `none` where it raises `ValueError`. -/
def loads [FloatText F] (text : String) : Option (Json F) :=
  match parseValue (2 * text.toList.length + 2) (skipSpace text.toList) with
  | some (value, rest) => if skipSpace rest = [] then some value else none
  | none => none

/-! ## Strings -/

theorem hexValue_hexDigit : ∀ digit < 16, hexValue (hexDigit digit) = some digit := by decide

theorem scanEscape_control {code : Nat} (control : code < 0x20) (rest : List Char) :
    scanEscape ('0' :: '0' :: hexDigit (code / 16) :: hexDigit (code % 16) :: rest) =
      some (Char.ofNat code, rest) := by
  have zero : hexValue '0' = some 0 := by decide
  have high := hexValue_hexDigit (code / 16) (by omega)
  have low := hexValue_hexDigit (code % 16) (by omega)
  have joined : 0 * 4096 + 0 * 256 + code / 16 * 16 + code % 16 = code := by omega
  have plain : ¬ (0xd800 ≤ code ∧ code ≤ 0xdbff) := by omega
  have plain' : ¬ (0xdc00 ≤ code ∧ code ≤ 0xdfff) := by omega
  simp only [scanEscape, scanHex, zero, high, low, Option.bind_eq_bind, Option.bind_some,
    joined, if_neg plain, if_neg plain']

theorem unescape_shortEscape {character short : Char}
    (escape : shortEscape character = some short) :
    short ≠ 'u' ∧ unescape short = some character := by
  have restore := Char.ofNat_toNat character
  unfold shortEscape at escape
  split at escape
  case h_8 => cases escape
  all_goals
    rename_i code
    rw [code] at restore
    cases escape
    rw [← restore]
    exact ⟨by decide, rfl⟩

/-- A character that needs no escape. -/
theorem scanString_plain (fuel : Nat) {character : Char} (rest : List Char)
    (quote : character ≠ '"') (backslash : character ≠ '\\')
    (plain : ¬ character.toNat < 0x20) :
    scanString (fuel + 1) (character :: rest) =
      (scanString fuel rest).map fun read => (character :: read.1, read.2) := by
  rw [scanString, if_neg]
  · cases scanString fuel rest <;> rfl
  · rintro (same | small)
    · exact backslash same
    · exact plain small
  · exact quote
  · intro _ same
    exact absurd same backslash
  · intro _ _ same
    exact absurd same backslash

/-- Reading one escaped character. -/
theorem scanString_escapeChar (fuel : Nat) (character : Char) (rest : List Char) :
    scanString (fuel + 1) (escapeChar character ++ rest) =
      (scanString fuel rest).map fun read => (character :: read.1, read.2) := by
  unfold escapeChar
  split
  next short escape =>
    obtain ⟨unicode, value⟩ := unescape_shortEscape escape
    rw [List.cons_append, List.singleton_append, scanString]
    · rw [value]
      cases scanString fuel rest <;> rfl
    · exact unicode
  next long =>
    split
    next control =>
      simp only [List.cons_append, List.nil_append, scanString, scanEscape_control control,
        Option.bind_eq_bind, Option.bind_some, Char.ofNat_toNat]
      cases scanString fuel rest <;> rfl
    next plain =>
      apply scanString_plain
      · rintro rfl
        cases long
      · rintro rfl
        cases long
      · exact plain

/-- A string literal is read back. -/
theorem scanString_escapeText {characters rest : List Char} {fuel : Nat}
    (enough : characters.length < fuel) :
    scanString fuel (escapeText characters ++ '"' :: rest) = some (characters, rest) := by
  induction characters generalizing fuel with
  | nil =>
      cases fuel with
      | zero => cases enough
      | succ fuel => rfl
  | cons character characters ih =>
      cases fuel with
      | zero => cases enough
      | succ fuel =>
          rw [escapeText, List.flatMap_cons, List.append_assoc, scanString_escapeChar]
          rw [← escapeText, ih (Nat.lt_of_succ_lt_succ enough)]
          rfl

/-! ## Numbers -/

/-- What may follow a value: nothing, a comma or a closing bracket. -/
def Follows (rest : List Char) : Prop :=
  ∀ character ∈ rest.head?, character ∈ [',', ']', '}']

theorem follows_nil : Follows [] := by
  intro character head
  cases head

theorem follows_cons {character : Char} {rest : List Char}
    (delimiter : character ∈ [',', ']', '}']) : Follows (character :: rest) := by
  intro other head
  cases head
  exact delimiter

/-- The text does not go on with a digit. -/
def NoDigit (rest : List Char) : Prop :=
  ∀ character ∈ rest.head?, character.isDigit = false

theorem Follows.noDigit {rest : List Char} (follows : Follows rest) : NoDigit rest := by
  have delimiters : ∀ character ∈ [',', ']', '}'], character.isDigit = false :=
    List.all_iff_forall_prop.mp (by decide)
  intro character head
  exact delimiters character (follows character head)

theorem takeWhile_digits {digits rest : List Char}
    (all : ∀ character ∈ digits, character.isDigit = true) (stops : NoDigit rest) :
    (digits ++ rest).takeWhile Char.isDigit = digits := by
  rw [List.takeWhile_append_of_pos all]
  cases rest with
  | nil => simp
  | cons character rest =>
      rw [List.takeWhile_cons_of_neg, List.append_nil]
      rw [stops character rfl]
      exact Bool.false_ne_true

theorem dropWhile_digits {digits rest : List Char}
    (all : ∀ character ∈ digits, character.isDigit = true) (stops : NoDigit rest) :
    (digits ++ rest).dropWhile Char.isDigit = rest := by
  rw [List.dropWhile_append_of_pos all]
  cases rest with
  | nil => simp
  | cons character rest =>
      rw [List.dropWhile_cons_of_neg]
      rw [stops character rfl]
      exact Bool.false_ne_true

theorem scanInteger_append {integer rest : List Char}
    (valid : integer = ['0'] ∨ NumberText.IsDigits integer ∧ integer.head? ≠ some '0')
    (stops : NoDigit rest) : scanInteger (integer ++ rest) = some (integer, rest) := by
  rcases valid with rfl | ⟨⟨nonempty, all⟩, head⟩
  · rfl
  · cases integer with
    | nil => exact absurd rfl nonempty
    | cons first digits =>
        rw [scanInteger]
        · rw [takeWhile_digits all stops, dropWhile_digits all stops, if_neg nonempty]
        · intro _ same
          cases same
          exact head rfl

theorem scanFraction_append {fraction rest : List Char}
    (valid : fraction = [] ∨ ∃ digits, NumberText.IsDigits digits ∧ fraction = '.' :: digits)
    (stops : NoDigit rest) (point : ∀ tail, rest ≠ '.' :: tail) :
    scanFraction (fraction ++ rest) = (fraction, rest) := by
  rcases valid with rfl | ⟨digits, ⟨nonempty, all⟩, rfl⟩
  · rw [List.nil_append, scanFraction]
    exact point
  · rw [List.cons_append, scanFraction, takeWhile_digits all stops,
      dropWhile_digits all stops, if_neg nonempty]

theorem scanSign_append {sign digits : List Char}
    (valid : sign = [] ∨ sign = ['+'] ∨ sign = ['-'])
    (digit : ∃ first tail, digits = first :: tail ∧ first.isDigit = true) :
    scanSign (sign ++ digits) = (sign, digits) := by
  obtain ⟨first, tail, rfl, isDigit⟩ := digit
  rcases valid with rfl | rfl | rfl
  · rw [List.nil_append, scanSign]
    · rintro _ same
      cases same
      cases isDigit
    · rintro _ same
      cases same
      cases isDigit
  · rfl
  · rfl

theorem scanExponent_append {exponent rest : List Char}
    (valid : exponent = [] ∨ ∃ mark sign digits, (mark = 'e' ∨ mark = 'E') ∧
      (sign = [] ∨ sign = ['+'] ∨ sign = ['-']) ∧ NumberText.IsDigits digits ∧
      exponent = mark :: (sign ++ digits)) (follows : Follows rest) :
    scanExponent (exponent ++ rest) = (exponent, rest) := by
  rcases valid with rfl | ⟨mark, sign, digits, isMark, isSign, ⟨nonempty, all⟩, rfl⟩
  · have delimiters : ∀ character ∈ [',', ']', '}'], ¬ (character = 'e' ∨ character = 'E') :=
      List.all_iff_forall_prop.mp (by decide)
    cases rest with
    | nil => rfl
    | cons character rest =>
        rw [List.nil_append, scanExponent, if_neg (delimiters character (follows character rfl))]
  · have first : ∃ first tail, digits ++ rest = first :: tail ∧ first.isDigit = true := by
      cases digits with
      | nil => exact absurd rfl nonempty
      | cons first tail => exact ⟨first, tail ++ rest, rfl, all first List.mem_cons_self⟩
    rw [List.cons_append, List.append_assoc, scanExponent, if_pos isMark,
      scanSign_append isSign first]
    simp only [takeWhile_digits all follows.noDigit, dropWhile_digits all follows.noDigit,
      if_neg nonempty]

theorem scanMinus_append {sign integer : List Char} (rest : List Char)
    (valid : sign = [] ∨ sign = ['-'])
    (isInteger : integer = ['0'] ∨
      NumberText.IsDigits integer ∧ integer.head? ≠ some '0') :
    scanMinus (sign ++ (integer ++ rest)) = (sign, integer ++ rest) := by
  rcases valid with rfl | rfl
  · rw [List.nil_append, scanMinus]
    intro tail same
    rcases isInteger with rfl | ⟨⟨nonempty, all⟩, _⟩
    · cases same
    · cases integer with
      | nil => exact nonempty rfl
      | cons first digits =>
          cases same
          have digit := all '-' List.mem_cons_self
          cases digit
  · rfl

/-- A number literal is read back. -/
theorem scanNumber_append {number : NumberText} (valid : number.Valid) {rest : List Char}
    (follows : Follows rest) : scanNumber (number.text ++ rest) = some (number, rest) := by
  obtain ⟨sign, integer, fraction, exponent⟩ := number
  obtain ⟨isSign, isInteger, isFraction, isExponent⟩ := valid
  simp only at isSign isInteger isFraction isExponent
  have afterFraction : NoDigit (exponent ++ rest) ∧ ∀ tail, exponent ++ rest ≠ '.' :: tail := by
    rcases isExponent with rfl | ⟨mark, _, _, isMark, _, _, rfl⟩
    · refine ⟨follows.noDigit, ?_⟩
      rintro tail same
      rw [List.nil_append] at same
      have delimiter := follows '.' (by rw [same]; rfl)
      exact absurd delimiter (by decide)
    · constructor
      · intro character head
        cases head
        rcases isMark with rfl | rfl <;> rfl
      · intro tail same
        cases same
        rcases isMark with mark | mark <;> cases mark
  have afterInteger : NoDigit (fraction ++ (exponent ++ rest)) := by
    rcases isFraction with rfl | ⟨_, _, rfl⟩
    · exact afterFraction.1
    · intro character head
      cases head
      rfl
  have unsigned := scanInteger_append isInteger afterInteger
  have pieces := scanFraction_append isFraction afterFraction.1 afterFraction.2
  have power := scanExponent_append isExponent follows
  have minus := scanMinus_append (fraction ++ (exponent ++ rest)) isSign isInteger
  simp only [NumberText.text, List.append_assoc, scanNumber, minus, unsigned,
    Option.bind_eq_bind, Option.bind_some, pieces, power]

theorem isDigits_toDigits (number : Nat) : NumberText.IsDigits (Nat.toDigits 10 number) :=
  ⟨Nat.toDigits_ne_nil, fun _ member =>
    Nat.isDigit_of_mem_toDigits (by decide) (by decide) member⟩

theorem toDigits_head? {number : Nat} (nonzero : number ≠ 0) :
    (Nat.toDigits 10 number).head? ≠ some '0' := by
  induction number using Nat.strongRecOn with
  | ind number ih =>
      by_cases small : number < 10
      · have heads : ∀ digit < 10, digit ≠ 0 → [Nat.digitChar digit].head? ≠ some '0' := by
          decide
        rw [Nat.toDigits_of_lt_base small]
        exact heads number small nonzero
      · rw [Nat.toDigits_of_base_le (by decide) (by omega),
          List.head?_append_of_ne_nil _ Nat.toDigits_ne_nil]
        exact ih (number / 10) (by omega) (by omega)

theorem digitChar_toNat {character : Char} (digit : character.isDigit = true) :
    character.toNat - '0'.toNat < 10 ∧
      Nat.digitChar (character.toNat - '0'.toNat) = character := by
  have codes : 48 ≤ character.toNat ∧ character.toNat ≤ 57 := by
    rw [Char.isDigit, Bool.and_eq_true, decide_eq_true_iff, decide_eq_true_iff] at digit
    exact digit
  have restore : ∀ code < 10, Nat.digitChar code = Char.ofNat (48 + code) := by decide
  have zero : '0'.toNat = 48 := rfl
  refine ⟨by omega, ?_⟩
  rw [restore _ (by omega), zero, Nat.add_sub_cancel' codes.1, Char.ofNat_toNat]

/-- Appending digits to a positive number appends them to its text. -/
theorem toDigits_append {digits : List Char} {number : Nat} (positive : 0 < number)
    (all : ∀ character ∈ digits, character.isDigit = true) :
    Nat.toDigits 10 number ++ digits =
      Nat.toDigits 10 (Nat.ofDigitChars 10 digits number) := by
  induction digits generalizing number with
  | nil => rw [List.append_nil, Nat.ofDigitChars_nil]
  | cons digit rest ih =>
      obtain ⟨small, restore⟩ := digitChar_toNat (all digit List.mem_cons_self)
      have next := Nat.toDigits_append_toDigits (b := 10) (by decide) positive small
      rw [Nat.toDigits_of_lt_base small, restore] at next
      rw [Nat.ofDigitChars_cons, ← ih (by omega), ← next, List.append_assoc]
      · rfl
      · intro other member
        exact all other (List.mem_cons_of_mem digit member)

/-- A literal integer is the text of its value. -/
theorem toDigits_ofDigitChars {digits : List Char}
    (valid : digits = ['0'] ∨ NumberText.IsDigits digits ∧ digits.head? ≠ some '0') :
    Nat.toDigits 10 (Nat.ofDigitChars 10 digits 0) = digits := by
  rcases valid with rfl | ⟨⟨nonempty, all⟩, head⟩
  · rfl
  · cases digits with
    | nil => exact absurd rfl nonempty
    | cons digit rest =>
        obtain ⟨small, restore⟩ := digitChar_toNat (all digit List.mem_cons_self)
        have nonzero : digit.toNat - '0'.toNat ≠ 0 := by
          intro zero
          rw [zero] at restore
          exact head (congrArg some restore.symm)
        rw [Nat.ofDigitChars_cons, Nat.mul_zero, Nat.zero_add, ← toDigits_append (by omega),
          Nat.toDigits_of_lt_base small, restore, List.singleton_append]
        intro other member
        exact all other (List.mem_cons_of_mem digit member)

theorem intText_valid (value : Int) : (intText value).Valid where
  sign := by
    simp only [intText]
    split
    · exact .inr rfl
    · exact .inl rfl
  integer := by
    simp only [intText]
    by_cases zero : value.natAbs = 0
    · rw [zero]
      exact .inl rfl
    · exact .inr ⟨isDigits_toDigits _, toDigits_head? zero⟩
  fraction := .inl rfl
  exponent := .inl rfl

section RoundTrip

variable [FloatText F]

theorem ofNumber_intText {value : Int} (writable : (int value : Json F).Writable = true) :
    ofNumber (intText value) = some (int value : Json F) := by
  rw [Writable, decide_eq_true_iff] at writable
  have magnitude : Nat.ofDigitChars 10 (intText value).integer 0 = value.natAbs :=
    Nat.ofDigitChars_ten_toDigits
  rw [ofNumber, if_neg (by simp [intText, NumberText.isFloat]), if_neg (by omega)]
  simp only [magnitude]
  congr 2
  by_cases negative : value < 0
  · rw [intText, if_pos (if_pos negative)]
    omega
  · rw [intText, if_neg (by rw [if_neg negative]; simp)]
    omega

theorem ofNumber_repr {value : F} (finite : FloatText.finite value = true) :
    ofNumber (FloatText.repr value) = some (float value) := by
  rw [ofNumber, if_pos (FloatText.repr_isFloat value finite),
    FloatText.ofLiteral_repr value finite]

end RoundTrip

/-! ## Values -/

/-- The characters a value may start with. -/
def StartsValue (character : Char) : Prop :=
  character ∈ ['n', 't', 'f', '"', '[', '{', '-'] ∨ character.isDigit = true

theorem StartsValue.not_delimiter {character : Char} (starts : StartsValue character) :
    character ∉ [' ', '\t', '\n', '\r', ',', ']', '}'] := by
  rcases starts with mark | digit
  · have marks : ∀ character ∈ ['n', 't', 'f', '"', '[', '{', '-'],
        character ∉ [' ', '\t', '\n', '\r', ',', ']', '}'] :=
      List.all_iff_forall_prop.mp (by decide)
    exact marks character mark
  · intro delimiter
    have none : ∀ character ∈ [' ', '\t', '\n', '\r', ',', ']', '}'],
        character.isDigit = false := List.all_iff_forall_prop.mp (by decide)
    rw [none character delimiter] at digit
    cases digit

/-- A number starts with a minus sign or a digit. -/
theorem numberText_head {number : NumberText} (valid : number.Valid) :
    ∃ first tail, number.text = first :: tail ∧ (first = '-' ∨ first.isDigit = true) := by
  obtain ⟨sign, integer, fraction, exponent⟩ := number
  rw [NumberText.text]
  rcases valid.sign with plain | minus
  · simp only at plain
    rw [plain, List.nil_append]
    rcases valid.integer with zero | ⟨⟨nonempty, all⟩, _⟩
    · simp only at zero
      rw [zero]
      exact ⟨'0', fraction ++ exponent, rfl, .inr rfl⟩
    · simp only at nonempty all
      cases integer with
      | nil => exact absurd rfl nonempty
      | cons first tail =>
          exact ⟨first, tail ++ (fraction ++ exponent), rfl, .inr (all first List.mem_cons_self)⟩
  · simp only at minus
    rw [minus]
    exact ⟨'-', integer ++ (fraction ++ exponent), rfl, .inl rfl⟩

section RoundTrip

variable [FloatText F]

theorem write_head {value : Json F} (writable : value.Writable = true) :
    ∃ first tail, value.write = first :: tail ∧ StartsValue first := by
  have number : ∀ {text : NumberText}, text.Valid →
      ∃ first tail, text.text = first :: tail ∧ StartsValue first := by
    intro text valid
    obtain ⟨first, tail, equal, head⟩ := numberText_head valid
    refine ⟨first, tail, equal, head.imp_left ?_⟩
    rintro rfl
    decide
  cases value with
  | null => exact ⟨_, _, rfl, .inl (by decide)⟩
  | bool value => cases value <;> exact ⟨_, _, rfl, .inl (by decide)⟩
  | int value => exact number (intText_valid value)
  | float value => exact number (FloatText.repr_valid value writable)
  | str value => exact ⟨_, _, rfl, .inl (by decide)⟩
  | arr items => cases items <;> exact ⟨_, _, by rw [write], .inl (by decide)⟩
  | obj members =>
      rcases members with _ | ⟨⟨_, _⟩, _⟩ <;> exact ⟨_, _, by rw [write], .inl (by decide)⟩

/-- No white space is skipped before a token. -/
theorem skipSpace_cons {first : Char} {rest : List Char}
    (token : first ∉ [' ', '\t', '\n', '\r']) : skipSpace (first :: rest) = first :: rest := by
  rw [skipSpace, List.dropWhile_cons_of_neg]
  simpa using token

theorem skipSpace_write {value : Json F} (writable : value.Writable = true)
    (rest : List Char) : skipSpace (value.write ++ rest) = value.write ++ rest := by
  obtain ⟨first, tail, equal, starts⟩ := write_head writable
  rw [equal]
  apply skipSpace_cons
  intro space
  apply starts.not_delimiter
  simp only [List.mem_cons, List.not_mem_nil, or_false] at space ⊢
  tauto

end RoundTrip

theorem escapeChar_length_pos (character : Char) : 0 < (escapeChar character).length := by
  unfold escapeChar
  split
  · exact Nat.succ_pos _
  · split <;> exact Nat.succ_pos _

theorem length_le_escapeText (characters : List Char) :
    characters.length ≤ (escapeText characters).length := by
  induction characters with
  | nil => exact Nat.le_refl _
  | cons character rest ih =>
      have first := escapeChar_length_pos character
      rw [escapeText, List.flatMap_cons, List.length_append, List.length_cons, ← escapeText]
      omega

/-! ## Fuel -/

mutual

/-- The fuel that reading a value takes. -/
def size : Json F → Nat
  | arr items => 1 + sizeItems items
  | obj members => 1 + sizeMembers members
  | null => 1
  | bool _ => 1
  | int _ => 1
  | float _ => 1
  | str _ => 1

def sizeItems : List (Json F) → Nat
  | [] => 1
  | item :: rest => 1 + size item + sizeItems rest

def sizeMembers : List (String × Json F) → Nat
  | [] => 1
  | (_, value) :: rest => 2 + size value + sizeMembers rest

end

section RoundTrip

variable [FloatText F]

mutual

theorem size_le_length : (value : Json F) → value.Writable = true →
    value.size ≤ 2 * value.write.length
  | null, _ => by simp [size, write]
  | bool true, _ => by simp [size, write]
  | bool false, _ => by simp [size, write]
  | int value, _ => by
      obtain ⟨first, tail, equal, _⟩ := numberText_head (intText_valid value)
      rw [size, write, equal, List.length_cons]
      omega
  | float value, writable => by
      obtain ⟨first, tail, equal, _⟩ := numberText_head (FloatText.repr_valid value writable)
      rw [size, write, equal, List.length_cons]
      omega
  | str value, _ => by
      rw [size, write, quote, List.length_cons]
      omega
  | arr [], _ => by simp [size, sizeItems, write]
  | arr (item :: rest), writable => by
      rw [Writable, WritableItems, Bool.and_eq_true] at writable
      have head := size_le_length item writable.1
      have tail := sizeItems_le_length rest writable.2
      rw [size, sizeItems, write, List.length_cons, List.length_append]
      omega
  | obj [], _ => by simp [size, sizeMembers, write]
  | obj ((key, value) :: rest), writable => by
      rw [Writable, WritableMembers, Bool.and_eq_true] at writable
      have head := size_le_length value writable.1
      have tail := sizeMembers_le_length rest writable.2
      rw [size, sizeMembers, write, List.length_cons, List.length_append, List.length_cons,
        List.length_append]
      omega

theorem sizeItems_le_length : (items : List (Json F)) → WritableItems items = true →
    sizeItems items ≤ 2 * (writeItems items).length
  | [], _ => by simp [sizeItems, writeItems]
  | item :: rest, writable => by
      rw [WritableItems, Bool.and_eq_true] at writable
      have head := size_le_length item writable.1
      have tail := sizeItems_le_length rest writable.2
      rw [sizeItems, writeItems, List.length_cons, List.length_append]
      omega

theorem sizeMembers_le_length : (members : List (String × Json F)) →
    WritableMembers members = true → sizeMembers members ≤ 2 * (writeMembers members).length
  | [], _ => by simp [sizeMembers, writeMembers]
  | (key, value) :: rest, writable => by
      rw [WritableMembers, Bool.and_eq_true] at writable
      have head := size_le_length value writable.1
      have tail := sizeMembers_le_length rest writable.2
      rw [sizeMembers, writeMembers, List.length_cons, List.length_append, List.length_cons,
        List.length_append]
      omega

end

/-! ## The round trip -/

theorem parseValue_number {number : NumberText} (valid : number.Valid) {rest : List Char}
    (follows : Follows rest) {value : Json F} (denotes : ofNumber number = some value)
    (fuel : Nat) : parseValue (fuel + 1) (number.text ++ rest) = some (value, rest) := by
  obtain ⟨first, tail, equal, head⟩ := numberText_head valid
  have literal := scanNumber_append valid follows
  rw [equal, List.cons_append] at literal ⊢
  have letters : ∀ mark ∈ ['"', '[', '{', 'n', 't', 'f'], first ≠ mark := by
    have others : ∀ mark ∈ ['"', '[', '{', 'n', 't', 'f'],
        ¬ (mark = '-' ∨ mark.isDigit = true) := List.all_iff_forall_prop.mp (by decide)
    rintro mark member rfl
    exact others first member head
  rw [parseValue]
  · simp only [literal, denotes, Option.bind_eq_bind, Option.bind_some]
  all_goals
    intro _ same
    exact letters _ (by decide) (List.cons.inj same).1

theorem follows_writeItems (items : List (Json F)) (rest : List Char) :
    Follows (writeItems items ++ rest) := by
  cases items with
  | nil => exact follows_cons (by decide)
  | cons item others => exact follows_cons (by decide)

theorem follows_writeMembers (members : List (String × Json F)) (rest : List Char) :
    Follows (writeMembers members ++ rest) := by
  rcases members with _ | ⟨⟨_, _⟩, _⟩
  · exact follows_cons (by decide)
  · exact follows_cons (by decide)

/-- A key or a string value is read back. -/
theorem scanString_quote (text : String) (rest : List Char) :
    scanString ((escapeText text.toList ++ '"' :: rest).length + 1)
      (escapeText text.toList ++ '"' :: rest) = some (text.toList, rest) := by
  apply scanString_escapeText
  have shorter := length_le_escapeText text.toList
  rw [List.length_append]
  omega

theorem parseMember_write (key : String) {value : Json F} {fuel : Nat} {rest : List Char}
    (writable : value.Writable = true)
    (read : parseValue fuel (value.write ++ rest) = some (value, rest)) :
    parseMember (fuel + 1) (quote key ++ ':' :: (value.write ++ rest)) =
      some ((key, value), rest) := by
  have literal := scanString_quote key (':' :: (value.write ++ rest))
  simp only [quote, List.cons_append, List.append_assoc, List.nil_append, parseMember, literal,
    Option.bind_eq_bind, Option.bind_some, skipSpace_cons (by decide : ':' ∉ _),
    skipSpace_write writable, read, String.ofList_toList]

mutual

theorem parseValue_write : (value : Json F) → {fuel : Nat} → {rest : List Char} →
    value.Distinct → value.Writable = true → value.size ≤ fuel → Follows rest →
    parseValue fuel (value.write ++ rest) = some (value, rest)
  | value, 0, _, _, _, enough, _ => by
      exfalso
      revert enough
      cases value <;> simp [size]
  | null, fuel + 1, rest, _, _, _, _ => by simp [write, parseValue]
  | bool true, fuel + 1, rest, _, _, _, _ => by simp [write, parseValue]
  | bool false, fuel + 1, rest, _, _, _, _ => by simp [write, parseValue]
  | int value, fuel + 1, rest, _, writable, _, follows =>
      parseValue_number (intText_valid value) follows (ofNumber_intText writable) fuel
  | float value, fuel + 1, rest, _, writable, _, follows =>
      parseValue_number (FloatText.repr_valid value writable) follows
        (ofNumber_repr writable) fuel
  | str value, fuel + 1, rest, _, _, _, _ => by
      have literal := scanString_quote value rest
      simp only [write, quote, List.cons_append, List.append_assoc, List.nil_append, parseValue,
        literal, Option.bind_eq_bind, Option.bind_some, String.ofList_toList]
  | arr [], fuel + 1, rest, _, _, _, _ => by
      simp [write, parseValue, skipSpace_cons]
  | arr (item :: others), fuel + 1, rest, distinct, writable, enough, _ => by
      rw [Writable, WritableItems, Bool.and_eq_true] at writable
      rw [size, sizeItems] at enough
      have head : parseValue fuel (item.write ++ (writeItems others ++ rest)) =
          some (item, writeItems others ++ rest) :=
        parseValue_write item distinct.1 writable.1 (by omega) (follows_writeItems others rest)
      have tail : parseItems fuel (writeItems others ++ rest) = some (others, rest) :=
        parseItems_write others distinct.2 writable.2 (by omega)
      simp only [write, List.cons_append, List.append_assoc, parseValue,
        skipSpace_write writable.1]
      split
      next bracket =>
        obtain ⟨first, text, equal, starts⟩ := write_head writable.1
        rw [equal] at bracket
        cases bracket
        exact absurd (by decide) starts.not_delimiter
      next => simp only [head, tail, Option.bind_eq_bind, Option.bind_some]
  | obj [], fuel + 1, rest, _, _, _, _ => by
      simp [write, parseValue, skipSpace_cons]
  | obj ((key, value) :: others), fuel + 1, rest, distinct, writable, enough, _ => by
      rw [Writable, WritableMembers, Bool.and_eq_true] at writable
      rw [size, sizeMembers] at enough
      obtain ⟨fuel, rfl⟩ : ∃ less, fuel = less + 1 := ⟨fuel - 1, by omega⟩
      have head : parseValue fuel (value.write ++ (writeMembers others ++ rest)) =
          some (value, writeMembers others ++ rest) :=
        parseValue_write value distinct.2.1 writable.1 (by omega)
          (follows_writeMembers others rest)
      have tail : parseMembers (fuel + 1) (writeMembers others ++ rest) = some (others, rest) :=
        parseMembers_write others distinct.2.2 writable.2 (by omega)
      have member := parseMember_write key writable.1 head
      have entries : (Dict.setAll ∅ ((key, value) :: others)).entries = (key, value) :: others :=
        Dict.entries_setAll_empty distinct.1
      rw [write, List.cons_append, List.append_assoc, List.cons_append, List.append_assoc,
        parseValue]
      simp only [quote, List.cons_append] at member ⊢
      rw [skipSpace_cons (by decide)]
      split
      next brace => cases brace
      next => simp only [member, tail, entries, Option.bind_eq_bind, Option.bind_some]

theorem parseItems_write : (items : List (Json F)) → {fuel : Nat} → {rest : List Char} →
    DistinctItems items → WritableItems items = true → sizeItems items ≤ fuel →
    parseItems fuel (writeItems items ++ rest) = some (items, rest)
  | [], 0, _, _, _, enough => by simp [sizeItems] at enough
  | _ :: _, 0, _, _, _, enough => by simp [sizeItems] at enough
  | [], fuel + 1, rest, _, _, _ => by
      simp [writeItems, parseItems, skipSpace_cons]
  | item :: others, fuel + 1, rest, distinct, writable, enough => by
      rw [WritableItems, Bool.and_eq_true] at writable
      rw [sizeItems] at enough
      have head : parseValue fuel (item.write ++ (writeItems others ++ rest)) =
          some (item, writeItems others ++ rest) :=
        parseValue_write item distinct.1 writable.1 (by omega) (follows_writeItems others rest)
      have tail : parseItems fuel (writeItems others ++ rest) = some (others, rest) :=
        parseItems_write others distinct.2 writable.2 (by omega)
      simp only [writeItems, List.cons_append, List.append_assoc, parseItems,
        skipSpace_cons (by decide : ',' ∉ _), skipSpace_write writable.1, head, tail,
        Option.bind_eq_bind, Option.bind_some]

theorem parseMembers_write : (members : List (String × Json F)) → {fuel : Nat} →
    {rest : List Char} → DistinctMembers members → WritableMembers members = true →
    sizeMembers members ≤ fuel →
    parseMembers fuel (writeMembers members ++ rest) = some (members, rest)
  | [], 0, _, _, _, enough => by simp [sizeMembers] at enough
  | (_, _) :: _, 0, _, _, _, enough => by simp [sizeMembers] at enough
  | [], fuel + 1, rest, _, _, _ => by
      simp [writeMembers, parseMembers, skipSpace_cons]
  | (key, value) :: others, fuel + 1, rest, distinct, writable, enough => by
      rw [WritableMembers, Bool.and_eq_true] at writable
      rw [sizeMembers] at enough
      obtain ⟨fuel, rfl⟩ : ∃ less, fuel = less + 1 := ⟨fuel - 1, by omega⟩
      have head : parseValue fuel (value.write ++ (writeMembers others ++ rest)) =
          some (value, writeMembers others ++ rest) :=
        parseValue_write value distinct.1 writable.1 (by omega)
          (follows_writeMembers others rest)
      have tail : parseMembers (fuel + 1) (writeMembers others ++ rest) = some (others, rest) :=
        parseMembers_write others distinct.2 writable.2 (by omega)
      have member := parseMember_write key writable.1 head
      rw [writeMembers, List.cons_append, List.append_assoc, List.cons_append,
        List.append_assoc, parseMembers, skipSpace_cons (by decide)]
      simp only [quote, List.cons_append] at member ⊢
      rw [skipSpace_cons (by decide)]
      simp only [member, tail, Option.bind_eq_bind, Option.bind_some]

end

/-- The text of a value is read back as the value. -/
theorem loads_write {value : Json F} (distinct : value.Distinct)
    (writable : value.Writable = true) : loads (String.ofList value.write) = some value := by
  have enough := size_le_length value writable
  have read : parseValue (2 * value.write.length + 2) (value.write ++ []) = some (value, []) :=
    parseValue_write value distinct writable (by omega) follows_nil
  have start := skipSpace_write writable []
  rw [List.append_nil] at read start
  simp only [loads, String.toList_ofList, start, read]
  rfl

/-- Canonical text is read back with the keys sorted. -/
theorem loads_canonicalText {value : Json F} {text : String} (distinct : value.Distinct)
    (written : value.canonicalText = some text) : loads text = some value.normal := by
  obtain ⟨writable, rfl⟩ := canonicalText_eq_some.mp written
  apply loads_write distinct.normal
  rw [writable_normal]
  exact writable

/-- Values with one canonical text differ in the order of keys at most. -/
theorem canonicalText_injective {left right : Json F} {text : String}
    (distinctLeft : left.Distinct) (distinctRight : right.Distinct)
    (writtenLeft : left.canonicalText = some text)
    (writtenRight : right.canonicalText = some text) : left.normal = right.normal :=
  Option.some.inj ((loads_canonicalText distinctLeft writtenLeft).symm.trans
    (loads_canonicalText distinctRight writtenRight))

end RoundTrip

end AutoTrade.Lib.Json
