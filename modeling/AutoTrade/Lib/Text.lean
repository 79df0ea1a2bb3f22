import Mathlib.Data.List.DropRight
import Mathlib.Data.String.Basic

/-!
# Python text normalization

`str.strip()` without arguments removes every leading and trailing character of
the Unicode white-space class.  The class is finite, so it is spelled out below
and `strip` is executable.

The Unicode case tables are not spelled out.  `CaseMap` carries a case mapping
together with the three laws that normalized identifiers rely on, and
`CaseMap.ascii` is the mapping restricted to ASCII letters.
-/

namespace AutoTrade.Lib

/-- The characters for which Python's `str.isspace()` holds. -/
def isSpace (character : Char) : Bool :=
  let code := character.toNat
  (9 ≤ code && code ≤ 13) || (28 ≤ code && code ≤ 32) || code == 0x85 ||
    code == 0xa0 || code == 0x1680 || (0x2000 ≤ code && code ≤ 0x200a) ||
    code == 0x2028 || code == 0x2029 || code == 0x202f || code == 0x205f ||
    code == 0x3000

/-- A visible ASCII character is not white space. -/
theorem isSpace_eq_false {character : Char} (above : 33 ≤ character.toNat)
    (below : character.toNat ≤ 126) : isSpace character = false := by
  simp only [isSpace, Bool.or_eq_false_iff, Bool.and_eq_false_iff, decide_eq_false_iff_not,
    beq_eq_false_iff_ne]
  omega

/-- Drop a matching prefix and a matching suffix. -/
def stripList {α : Type} (discard : α → Bool) (values : List α) : List α :=
  (values.dropWhile discard).rdropWhile discard

/-- `str.strip()`. -/
def strip (text : String) : String :=
  String.ofList (stripList isSpace text.toList)

/-- A list that starts and ends with kept elements is not changed by
stripping. -/
theorem stripList_eq_self {α : Type} {discard : α → Bool} {values : List α}
    (first : ∀ value ∈ values.head?, discard value = false)
    (last : ∀ value ∈ values.getLast?, discard value = false) :
    stripList discard values = values := by
  have dropped : values.dropWhile discard = values := by
    cases values with
    | nil => rfl
    | cons value rest =>
        have kept := first value (by simp)
        simp [kept]
  rw [stripList, dropped, List.rdropWhile_eq_self_iff]
  intro nonempty matched
  have kept := last (values.getLast nonempty) (by
    rw [List.getLast?_eq_some_getLast nonempty]
    rfl)
  rw [kept] at matched
  exact Bool.false_ne_true matched

/-- Stripping leaves a kept first element. -/
theorem stripList_head? {α : Type} (discard : α → Bool) (values : List α) :
    ∀ value ∈ (stripList discard values).head?, discard value = false := by
  intro value member
  have isPrefix := List.rdropWhile_prefix discard (l := values.dropWhile discard)
  have member' : value ∈ (values.dropWhile discard).head? := by
    obtain ⟨suffix, equal⟩ := isPrefix
    rw [← equal]
    rw [stripList] at member
    rw [List.head?_append]
    rw [Option.mem_def] at member ⊢
    rw [member]
    rfl
  rw [Option.mem_def] at member'
  have dropped := List.head?_dropWhile_not discard values
  rw [member'] at dropped
  simpa using dropped

/-- Stripping leaves a kept last element. -/
theorem stripList_getLast? {α : Type} (discard : α → Bool) (values : List α) :
    ∀ value ∈ (stripList discard values).getLast?, discard value = false := by
  intro value member
  rw [Option.mem_def] at member
  cases nonempty : (stripList discard values) with
  | nil => simp [nonempty] at member
  | cons head tail =>
      have notEmpty : (values.dropWhile discard).rdropWhile discard ≠ [] := by
        rw [← stripList, nonempty]
        simp
      have kept := List.rdropWhile_last_not discard _ notEmpty
      rw [List.getLast?_eq_some_getLast (by rw [nonempty]; simp)] at member
      cases member
      simpa [stripList] using kept

@[simp] theorem stripList_idem {α : Type} (discard : α → Bool) (values : List α) :
    stripList discard (stripList discard values) = stripList discard values :=
  stripList_eq_self (stripList_head? discard values)
    (stripList_getLast? discard values)

@[simp] theorem strip_strip (text : String) : strip (strip text) = strip text := by
  simp [strip]

/-- Text that stripping leaves as it is, and that is not empty. -/
def Normal (text : String) : Prop := strip text = text ∧ text ≠ ""

instance (text : String) : Decidable (Normal text) :=
  inferInstanceAs (Decidable (_ ∧ _))

theorem normal_strip {text : String} (nonempty : strip text ≠ "") : Normal (strip text) :=
  ⟨strip_strip text, nonempty⟩

theorem normal_val (value : { text : String // Normal text }) : Normal value.1 := value.2

/-- A prefix that starts with a kept character preserves normal text. -/
theorem normal_append {mark text : String} {first : Char}
    (start : mark.toList.head? = some first) (kept : isSpace first = false)
    (normal : Normal text) : Normal (mark ++ text) := by
  have stripped : stripList isSpace text.toList = text.toList := by
    have equal := congrArg String.toList normal.1
    rwa [strip, String.toList_ofList] at equal
  have nonempty : text.toList ≠ [] := by
    intro empty
    exact normal.2 (String.toList_eq_nil_iff.mp empty)
  constructor
  · rw [strip, stripList_eq_self, String.ofList_toList]
    · intro character member
      rw [String.toList_append, List.head?_append, start] at member
      cases member
      exact kept
    · intro character member
      rw [String.toList_append, List.getLast?_append_of_ne_nil _ nonempty, ← stripped] at member
      exact stripList_getLast? isSpace text.toList character member
  · intro empty
    have bothEmpty := congrArg String.toList empty
    rw [String.toList_append] at bothEmpty
    exact nonempty (List.append_eq_nil_iff.mp bothEmpty).2

/-- Text without white space is normal. -/
theorem normal_of_forall {text : String} (nonempty : text ≠ "")
    (kept : ∀ character ∈ text.toList, isSpace character = false) : Normal text := by
  refine ⟨?_, nonempty⟩
  rw [strip, stripList_eq_self, String.ofList_toList]
  · exact fun character first => kept character (List.mem_of_mem_head? first)
  · exact fun character last => kept character (List.mem_of_mem_getLast? last)

/-- A case mapping and the laws that make normalization idempotent. -/
class CaseMap where
  upper : String → String
  lower : String → String
  upper_upper : ∀ text, upper (upper text) = upper text
  upper_strip : ∀ text, strip text = text → strip (upper text) = upper text
  upper_ne_empty : ∀ text, text ≠ "" → upper text ≠ ""

export CaseMap (upper lower)

attribute [simp] CaseMap.upper_upper

@[simp] theorem strip_upper_strip [CaseMap] (text : String) :
    strip (upper (strip text)) = upper (strip text) :=
  CaseMap.upper_strip _ (strip_strip text)

theorem normal_upper [CaseMap] {text : String} (normal : Normal text) :
    Normal (upper text) :=
  ⟨CaseMap.upper_strip text normal.1, CaseMap.upper_ne_empty text normal.2⟩

namespace CaseMap

/-- Upper case of an ASCII letter; every other character is kept. -/
def asciiUpper (character : Char) : Char :=
  if 97 ≤ character.toNat ∧ character.toNat ≤ 122 then
    Char.ofNat (character.toNat - 32)
  else character

/-- Lower case of an ASCII letter; every other character is kept. -/
def asciiLower (character : Char) : Char :=
  if 65 ≤ character.toNat ∧ character.toNat ≤ 90 then
    Char.ofNat (character.toNat + 32)
  else character

theorem asciiUpper_toNat {character : Char}
    (letter : 97 ≤ character.toNat ∧ character.toNat ≤ 122) :
    (asciiUpper character).toNat = character.toNat - 32 := by
  have valid : (character.toNat - 32).isValidChar := by
    left
    omega
  rw [asciiUpper, if_pos letter, Char.ofNat, dif_pos valid]
  rfl

theorem asciiUpper_idem (character : Char) :
    asciiUpper (asciiUpper character) = asciiUpper character := by
  by_cases letter : 97 ≤ character.toNat ∧ character.toNat ≤ 122
  · have shifted := asciiUpper_toNat letter
    rw [asciiUpper.eq_1 (asciiUpper character), if_neg (by omega)]
  · simp only [asciiUpper, if_neg letter]

theorem isSpace_asciiUpper (character : Char) :
    isSpace (asciiUpper character) = isSpace character := by
  by_cases letter : 97 ≤ character.toNat ∧ character.toNat ≤ 122
  · have shifted := asciiUpper_toNat letter
    rw [isSpace_eq_false (by omega) (by omega), isSpace_eq_false (by omega) (by omega)]
  · simp only [asciiUpper, if_neg letter]

/-- The mapping restricted to ASCII letters. -/
@[reducible] def ascii : CaseMap where
  upper text := String.ofList (text.toList.map asciiUpper)
  lower text := String.ofList (text.toList.map asciiLower)
  upper_upper text := by
    simp [Function.comp_def, asciiUpper_idem]
  upper_strip text stripped := by
    have stripped' : stripList isSpace text.toList = text.toList := by
      simpa [strip] using congrArg String.toList stripped
    have first := stripList_head? isSpace text.toList
    have last := stripList_getLast? isSpace text.toList
    rw [stripped'] at first last
    simp only [strip, String.toList_ofList]
    congr 1
    apply stripList_eq_self
    · intro value member
      rw [List.head?_map, Option.mem_def, Option.map_eq_some_iff] at member
      obtain ⟨source, sourceMem, rfl⟩ := member
      rw [isSpace_asciiUpper]
      exact first source sourceMem
    · intro value member
      rw [List.getLast?_map, Option.mem_def, Option.map_eq_some_iff] at member
      obtain ⟨source, sourceMem, rfl⟩ := member
      rw [isSpace_asciiUpper]
      exact last source sourceMem
  upper_ne_empty text nonempty := by
    intro empty
    apply nonempty
    have characters := congrArg String.toList empty
    simpa using characters

end CaseMap

end AutoTrade.Lib
