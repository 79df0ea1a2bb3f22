import AutoTrade.Lib.Dict
import AutoTrade.Lib.JsonParser

/-!
# Canonical text in ASCII

The text of `json.dumps` with `ensure_ascii`: every character outside the printable
ASCII range stands as one or two `\u` escapes.  The escapes are read back one token at
a time, so values with one text differ in the order of keys at most.
-/

namespace AutoTrade.Lib.Json

variable {F : Type}

/-- Four hexadecimal digits of a code unit. -/
def unicodeEscape (code : Nat) : List Char :=
  ['\\', 'u', hexDigit (code / 4096 % 16), hexDigit (code / 256 % 16), hexDigit (code / 16 % 16),
    hexDigit (code % 16)]

/-- A character of JSON text in ASCII; an astral one stands as a pair of surrogates. -/
def asciiEscape (character : Char) : List Char :=
  let code := character.toNat
  if code < 0x7f then [character]
  else if code < 0x10000 then unicodeEscape code
  else unicodeEscape (0xd800 + (code - 0x10000) / 1024) ++
    unicodeEscape (0xdc00 + (code - 0x10000) % 1024)

/-- `json.dumps` with sorted keys and `ensure_ascii`. -/
def asciiText [FloatText F] (value : Json F) : Option String :=
  value.canonicalText.map fun text => String.ofList (text.toList.flatMap asciiEscape)

/-! ## Tokens -/

/-- The first token of a text without its escape. -/
def restoreToken : List Char → Option (List Char × List Char)
  | '\\' :: 'u' :: rest =>
      (scanEscape rest).map fun read =>
        (if read.1.toNat < 0x20 then
            ['\\', 'u', '0', '0', hexDigit (read.1.toNat / 16), hexDigit (read.1.toNat % 16)]
          else [read.1], read.2)
  | '\\' :: escape :: rest => some (['\\', escape], rest)
  | character :: rest => some ([character], rest)
  | [] => none

/-- A text that is read back from its escapes. -/
def Token (token : List Char) : Prop :=
  ∀ rest, restoreToken (token.flatMap asciiEscape ++ rest) = some (token, rest)

theorem scanHex_unicode {code : Nat} (small : code < 0x10000) (rest : List Char) :
    scanHex ((unicodeEscape code).drop 2 ++ rest) = some (code, rest) := by
  have first := hexValue_hexDigit (code / 4096 % 16) (by omega)
  have second := hexValue_hexDigit (code / 256 % 16) (by omega)
  have third := hexValue_hexDigit (code / 16 % 16) (by omega)
  have fourth := hexValue_hexDigit (code % 16) (by omega)
  have joined : code / 4096 % 16 * 4096 + code / 256 % 16 * 256 + code / 16 % 16 * 16 + code % 16 =
      code := by omega
  simp only [unicodeEscape, List.drop_succ_cons, List.drop_zero, List.cons_append, List.nil_append,
    scanHex, first, second, third, fourth, Option.bind_eq_bind, Option.bind_some, joined]

theorem unicodeEscape_eq (code : Nat) (rest : List Char) : unicodeEscape code ++ rest =
    '\\' :: 'u' :: ((unicodeEscape code).drop 2 ++ rest) := rfl

theorem scanEscape_basic {code : Nat} (basic : code < 0x10000)
    (high : ¬ (0xd800 ≤ code ∧ code ≤ 0xdbff)) (low : ¬ (0xdc00 ≤ code ∧ code ≤ 0xdfff))
    (rest : List Char) :
    scanEscape ((unicodeEscape code).drop 2 ++ rest) = some (Char.ofNat code, rest) := by
  rw [scanEscape, scanHex_unicode basic]
  simp only [Option.bind_eq_bind, Option.bind_some, if_neg high, if_neg low]

theorem scanEscape_pair {first second : Nat} (high : 0xd800 ≤ first ∧ first ≤ 0xdbff)
    (low : 0xdc00 ≤ second ∧ second ≤ 0xdfff) (rest : List Char) :
    scanEscape ((unicodeEscape first).drop 2 ++ (unicodeEscape second ++ rest)) =
      some (Char.ofNat (0x10000 + (first - 0xd800) * 1024 + (second - 0xdc00)), rest) := by
  rw [scanEscape, scanHex_unicode (by omega), unicodeEscape_eq second]
  simp only [Option.bind_eq_bind, Option.bind_some, if_pos high, scanHex_unicode
    (show second < 0x10000 by omega), if_pos low]

/-- The escape of a character beyond ASCII is read as the character. -/
theorem scanEscape_ascii {character : Char} (beyond : ¬ character.toNat < 0x7f)
    (rest : List Char) :
    ∃ digits, asciiEscape character ++ rest = '\\' :: 'u' :: digits ∧
      scanEscape digits = some (character, rest) := by
  have restore := Char.ofNat_toNat character
  have valid : character.toNat < 0xd800 ∨ 0xdfff < character.toNat ∧ character.toNat < 0x110000 :=
    character.valid
  unfold asciiEscape
  rw [if_neg beyond]
  split
  next basic =>
    refine ⟨_, unicodeEscape_eq _ rest, ?_⟩
    rw [scanEscape_basic basic (by omega) (by omega), restore]
  next astral =>
    generalize first : 0xd800 + (character.toNat - 0x10000) / 1024 = high
    generalize second : 0xdc00 + (character.toNat - 0x10000) % 1024 = low
    have joined : 0x10000 + (high - 0xd800) * 1024 + (low - 0xdc00) = character.toNat := by omega
    refine ⟨_, by rw [List.append_assoc, unicodeEscape_eq], ?_⟩
    rw [scanEscape_pair (by omega) (by omega), joined, restore]

/-- A character other than the backslash. -/
theorem token_plain {character : Char} (plain : character ≠ '\\')
    (visible : ¬ character.toNat < 0x20) : Token [character] := by
  intro rest
  rw [List.flatMap_singleton]
  by_cases ascii : character.toNat < 0x7f
  · rw [asciiEscape, if_pos ascii]
    change restoreToken (character :: rest) = _
    unfold restoreToken
    split
    next same => cases same; exact absurd rfl plain
    next same => cases same; exact absurd rfl plain
    next same => cases same; rfl
    next same => cases same
  · obtain ⟨digits, escaped, read⟩ := scanEscape_ascii ascii rest
    rw [escaped, restoreToken, read, Option.map_some, if_neg visible]

/-- A two-character escape. -/
theorem token_short {character short : Char} (escape : shortEscape character = some short) :
    Token ['\\', short] := by
  intro rest
  have notUnicode := (unescape_shortEscape escape).1
  have ascii : asciiEscape short = [short] := by
    unfold shortEscape at escape
    split at escape
    case h_8 => cases escape
    all_goals
      cases escape
      rfl
  have backslash : asciiEscape '\\' = ['\\'] := rfl
  rw [List.flatMap_cons, List.flatMap_singleton, ascii, backslash]
  change restoreToken ('\\' :: short :: rest) = _
  unfold restoreToken
  split
  next same => cases same; exact absurd rfl notUnicode
  next same => cases same; rfl
  next others same => cases same; exact (others short rest rfl rfl).elim
  next same => cases same

theorem asciiEscape_hexDigit : ∀ digit < 16, asciiEscape (hexDigit digit) = [hexDigit digit] := by
  decide

/-- The escape of a control character. -/
theorem token_control {character : Char} (control : character.toNat < 0x20) :
    Token ['\\', 'u', '0', '0', hexDigit (character.toNat / 16),
      hexDigit (character.toNat % 16)] := by
  intro rest
  have high := asciiEscape_hexDigit (character.toNat / 16) (by omega)
  have low := asciiEscape_hexDigit (character.toNat % 16) (by omega)
  have backslash : asciiEscape '\\' = ['\\'] := rfl
  have unicode : asciiEscape 'u' = ['u'] := rfl
  have zero : asciiEscape '0' = ['0'] := rfl
  simp only [List.flatMap_cons, List.flatMap_nil, high, low, backslash, unicode, zero,
    List.cons_append, List.nil_append, restoreToken, scanEscape_control control, Option.map_some,
    Char.ofNat_toNat, if_pos control]

/-! ## Texts -/

/-- A text of tokens. -/
def Tokens (text : List Char) : Prop :=
  ∃ tokens : List (List Char), (∀ token ∈ tokens, Token token) ∧ text = tokens.flatten

theorem tokens_nil : Tokens [] := ⟨[], fun _ member => absurd member List.not_mem_nil, rfl⟩

theorem Token.tokens {token : List Char} (single : Token token) : Tokens token := by
  refine ⟨[token], ?_, by simp⟩
  intro other member
  rw [List.mem_singleton.mp member]
  exact single

theorem Tokens.append {left right : List Char} (first : Tokens left) (second : Tokens right) :
    Tokens (left ++ right) := by
  obtain ⟨lefts, leftAll, rfl⟩ := first
  obtain ⟨rights, rightAll, rfl⟩ := second
  refine ⟨lefts ++ rights, ?_, by rw [List.flatten_append]⟩
  intro token member
  rcases List.mem_append.mp member with inLeft | inRight
  · exact leftAll token inLeft
  · exact rightAll token inRight

theorem Tokens.cons {character : Char} {text : List Char} (plain : character ≠ '\\')
    (visible : ¬ character.toNat < 0x20) (tokens : Tokens text) : Tokens (character :: text) :=
  (token_plain plain visible).tokens.append tokens

theorem tokens_of_forall {text : List Char}
    (all : ∀ character ∈ text, character ≠ '\\' ∧ ¬ character.toNat < 0x20) : Tokens text := by
  induction text with
  | nil => exact tokens_nil
  | cons character rest ih =>
      rw [List.forall_mem_cons] at all
      exact (ih all.2).cons all.1.1 all.1.2

theorem tokens_of_all {text : List Char}
    (all : text.all (fun character => character ≠ '\\' ∧ ¬ character.toNat < 0x20) = true) :
    Tokens text :=
  tokens_of_forall fun character member =>
    of_decide_eq_true (List.all_eq_true.mp all character member)

/-- A text of tokens is determined by its escapes. -/
theorem Tokens.injective {left right : List Char} (first : Tokens left) (second : Tokens right)
    (same : left.flatMap asciiEscape = right.flatMap asciiEscape) : left = right := by
  obtain ⟨lefts, leftAll, rfl⟩ := first
  obtain ⟨rights, rightAll, rfl⟩ := second
  -- A token is not empty, so the two lists run out together.
  have present : ∀ token : List Char, Token token → ∀ rest,
      token.flatMap asciiEscape ++ rest ≠ [] := by
    intro token single rest empty
    have read := single rest
    rw [empty] at read
    cases read
  induction lefts generalizing rights with
  | nil =>
      cases rights with
      | nil => rfl
      | cons token others =>
          rw [List.flatten_cons, List.flatMap_append] at same
          exact absurd same.symm (present token (rightAll token List.mem_cons_self) _)
  | cons token others ih =>
      rw [List.forall_mem_cons] at leftAll
      cases rights with
      | nil =>
          rw [List.flatten_cons, List.flatMap_append] at same
          exact absurd same (present token leftAll.1 _)
      | cons other rest =>
          rw [List.forall_mem_cons] at rightAll
          rw [List.flatten_cons, List.flatten_cons, List.flatMap_append, List.flatMap_append]
            at same
          have read := leftAll.1 (others.flatten.flatMap asciiEscape)
          rw [same, rightAll.1, Option.some.injEq, Prod.mk.injEq] at read
          rw [List.flatten_cons, List.flatten_cons, ← read.1,
            ih leftAll.2 rest rightAll.2 read.2.symm]

theorem tokens_escapeText (text : List Char) : Tokens (escapeText text) := by
  induction text with
  | nil => exact tokens_nil
  | cons character rest ih =>
      change Tokens (escapeChar character ++ escapeText rest)
      apply Tokens.append _ ih
      unfold escapeChar
      split
      next escape => exact (token_short escape).tokens
      next kept =>
        split
        next control => exact (token_control control).tokens
        next visible =>
          apply (token_plain _ visible).tokens
          rintro rfl
          cases kept

theorem tokens_quote (text : String) : Tokens (quote text) :=
  ((tokens_escapeText text.toList).append
    (tokens_nil.cons (by decide) (by decide))).cons (by decide) (by decide)

theorem tokens_digits {digits : List Char}
    (all : ∀ character ∈ digits, character.isDigit = true) : Tokens digits := by
  apply tokens_of_forall
  intro character member
  have digit := all character member
  rw [Char.isDigit, Bool.and_eq_true, decide_eq_true_eq, decide_eq_true_eq] at digit
  have lower : 48 ≤ character.toNat := digit.1
  have upper : character.toNat ≤ 57 := digit.2
  constructor
  · rintro rfl
    exact absurd upper (by decide)
  · omega

theorem tokens_number {number : NumberText} (valid : number.Valid) : Tokens number.text := by
  have sign : Tokens number.sign := by
    rcases valid.sign with none | minus
    · rw [none]
      exact tokens_nil
    · rw [minus]
      exact tokens_nil.cons (by decide) (by decide)
  have integer : Tokens number.integer := by
    rcases valid.integer with zero | ⟨digits, _⟩
    · rw [zero]
      exact tokens_nil.cons (by decide) (by decide)
    · exact tokens_digits digits.2
  have fraction : Tokens number.fraction := by
    rcases valid.fraction with none | ⟨digits, all, some⟩
    · rw [none]
      exact tokens_nil
    · rw [some]
      exact (tokens_digits all.2).cons (by decide) (by decide)
  have exponent : Tokens number.exponent := by
    rcases valid.exponent with none | ⟨mark, sign, digits, marked, signed, all, some⟩
    · rw [none]
      exact tokens_nil
    · have signTokens : Tokens sign := by
        rcases signed with none | plus | minus
        · rw [none]
          exact tokens_nil
        · rw [plus]
          exact tokens_nil.cons (by decide) (by decide)
        · rw [minus]
          exact tokens_nil.cons (by decide) (by decide)
      rw [some]
      rcases marked with rfl | rfl
      · exact (signTokens.append (tokens_digits all.2)).cons (by decide) (by decide)
      · exact (signTokens.append (tokens_digits all.2)).cons (by decide) (by decide)
  exact sign.append (integer.append (fraction.append exponent))

section Writing

variable [FloatText F]

mutual

/-- The text of a value consists of tokens. -/
theorem tokens_write : (value : Json F) → value.Writable = true → Tokens value.write
  | null, _ => show Tokens ['n', 'u', 'l', 'l'] from tokens_of_all (by decide)
  | bool true, _ => show Tokens ['t', 'r', 'u', 'e'] from tokens_of_all (by decide)
  | bool false, _ => show Tokens ['f', 'a', 'l', 's', 'e'] from tokens_of_all (by decide)
  | int value, _ => tokens_number (intText_valid value)
  | float value, writable => tokens_number (FloatText.repr_valid value writable)
  | str value, _ => tokens_quote value
  | arr [], _ => show Tokens ['[', ']'] from tokens_of_all (by decide)
  | arr (item :: rest), writable => by
      rw [Writable, WritableItems, Bool.and_eq_true] at writable
      exact ((tokens_write item writable.1).append (tokens_writeItems rest writable.2)).cons
        (by decide) (by decide)
  | obj [], _ => show Tokens ['{', '}'] from tokens_of_all (by decide)
  | obj ((key, value) :: rest), writable => by
      rw [Writable, WritableMembers, Bool.and_eq_true] at writable
      have tail := (tokens_write value writable.1).append (tokens_writeMembers rest writable.2)
      exact ((tokens_quote key).append (tail.cons (by decide) (by decide))).cons
        (by decide) (by decide)

theorem tokens_writeItems : (items : List (Json F)) → WritableItems items = true →
    Tokens (writeItems items)
  | [], _ => show Tokens [']'] from tokens_of_all (by decide)
  | item :: rest, writable => by
      rw [WritableItems, Bool.and_eq_true] at writable
      exact ((tokens_write item writable.1).append (tokens_writeItems rest writable.2)).cons
        (by decide) (by decide)

theorem tokens_writeMembers : (members : List (String × Json F)) →
    WritableMembers members = true → Tokens (writeMembers members)
  | [], _ => show Tokens ['}'] from tokens_of_all (by decide)
  | (key, value) :: rest, writable => by
      rw [WritableMembers, Bool.and_eq_true] at writable
      have tail := (tokens_write value writable.1).append (tokens_writeMembers rest writable.2)
      exact ((tokens_quote key).append (tail.cons (by decide) (by decide))).cons
        (by decide) (by decide)

end

/-- Values with one text in ASCII differ in the order of keys at most. -/
theorem asciiText_injective {left right : Json F} {text : String} (distinctLeft : left.Distinct)
    (distinctRight : right.Distinct) (writtenLeft : left.asciiText = some text)
    (writtenRight : right.asciiText = some text) : left.normal = right.normal := by
  obtain ⟨leftText, leftWritten, leftEscaped⟩ := Option.map_eq_some_iff.mp writtenLeft
  obtain ⟨rightText, rightWritten, rightEscaped⟩ := Option.map_eq_some_iff.mp writtenRight
  obtain ⟨leftWritable, rfl⟩ := canonicalText_eq_some.mp leftWritten
  obtain ⟨rightWritable, rfl⟩ := canonicalText_eq_some.mp rightWritten
  have escapes := String.ofList_injective (leftEscaped.trans rightEscaped.symm)
  rw [String.toList_ofList, String.toList_ofList] at escapes
  have same := (tokens_write _ ((writable_normal left).trans leftWritable)).injective
    (tokens_write _ ((writable_normal right).trans rightWritable)) escapes
  rw [← same] at rightWritten
  exact canonicalText_injective distinctLeft distinctRight leftWritten rightWritten

/-- Values that differ in the order of keys have one text. -/
theorem asciiText_eq_of_normal {left right : Json F} (same : left.normal = right.normal) :
    left.asciiText = right.asciiText := by
  rw [asciiText, asciiText, ← canonicalText_normal left, same, canonicalText_normal right]

end Writing

/-! ## Members of values with one normal form -/

theorem map_get?_of_normal {left right : Json F} (distinctLeft : left.Distinct)
    (distinctRight : right.Distinct) (same : left.normal = right.normal) (key : String) :
    (left.get? key).map normal = (right.get? key).map normal := by
  rw [← get?_normal distinctLeft, same, get?_normal distinctRight]

/-! ## Objects of texts -/

/-- The object of a dictionary of texts. -/
def ofTexts (texts : Dict String String) : Json F :=
  obj (texts.entries.map fun entry => (entry.1, str entry.2))

theorem ofTexts_distinct (texts : Dict String String) : (ofTexts texts : Json F).Distinct := by
  simp only [ofTexts, Distinct, List.map_map, distinctMembers_iff]
  constructor
  · exact texts.nodup
  · intro member listed
    obtain ⟨entry, _, rfl⟩ := List.mem_map.mp listed
    trivial

theorem ofTexts_writable [FloatText F] (texts : Dict String String) :
    (ofTexts texts : Json F).Writable = true := by
  rw [ofTexts, Writable, writableMembers_iff]
  intro member listed
  obtain ⟨entry, _, rfl⟩ := List.mem_map.mp listed
  rfl

/-- Members in two orders are sorted alike. -/
theorem sortMembers_eq_of_perm {left right : List (String × Json F)}
    (distinct : (left.map Prod.fst).Nodup) (perm : left.Perm right) :
    sortMembers left = sortMembers right := by
  have sorted : ∀ members : List (String × Json F),
      (sortMembers members).Pairwise fun first second => first.1 ≤ second.1 := by
    intro members
    have : Std.Total fun first second : String × Json F => first.1 ≤ second.1 :=
      ⟨fun first second => le_total first.1 second.1⟩
    have : IsTrans (String × Json F) fun first second => first.1 ≤ second.1 :=
      ⟨fun _ _ _ => le_trans⟩
    exact List.pairwise_insertionSort _ members
  have perms := (sortMembers_perm left).trans (perm.trans (sortMembers_perm right).symm)
  apply List.Perm.eq_of_pairwise _ (sorted left) (sorted right) perms
  intro first second firstMember secondMember below above
  have listed := perms.mem_iff.mpr secondMember
  exact List.inj_on_of_nodup_map (keys_sortMembers_nodup distinct) firstMember listed
    (le_antisymm below above)

/-- Two objects have one normal form exactly when the values under each key have one. -/
theorem normal_obj_eq_iff {left right : List (String × Json F)}
    (distinctLeft : (left.map Prod.fst).Nodup) (distinctRight : (right.map Prod.fst).Nodup) :
    (obj left).normal = (obj right).normal ↔
      ∀ key, (Dict.find? key left).map normal = (Dict.find? key right).map normal := by
  have keysLeft := keys_normalMembers left ▸ distinctLeft
  have keysRight := keys_normalMembers right ▸ distinctRight
  rw [normal, normal, obj.injEq]
  simp only [← find?_normalMembers]
  constructor
  · intro same key
    rw [← find?_sortMembers keysLeft, same, find?_sortMembers keysRight]
  · intro lookups
    apply sortMembers_eq_of_perm keysLeft
    rw [List.perm_ext_iff_of_nodup (List.Nodup.of_map _ keysLeft) (List.Nodup.of_map _ keysRight)]
    intro member
    rw [← Dict.find?_eq_some keysLeft, ← Dict.find?_eq_some keysRight, lookups]

/-- Lists have one normal form exactly when their items have one. -/
theorem normal_arr_eq_iff {left right : List (Json F)} :
    (arr left).normal = (arr right).normal ↔ left.map normal = right.map normal := by
  rw [normal, normal, arr.injEq, normalItems_eq, normalItems_eq]

theorem normal_eq_str {value : Json F} {text : String} :
    value.normal = str text ↔ value = str text := by
  cases value <;> simp [normal]

/-- A value with the normal form of an object is an object. -/
theorem exists_obj_of_normal {value : Json F} {members : List (String × Json F)}
    (same : value.normal = (obj members).normal) : ∃ others, value = obj others := by
  cases value with
  | obj others => exact ⟨others, rfl⟩
  | null | bool _ | int _ | float _ | str _ | arr _ =>
      rw [normal, normal] at same
      cases same

/-- A value with the normal form of a list is a list. -/
theorem exists_arr_of_normal {value : Json F} {items : List (Json F)}
    (same : value.normal = (arr items).normal) : ∃ others, value = arr others := by
  cases value with
  | arr others => exact ⟨others, rfl⟩
  | null | bool _ | int _ | float _ | str _ | obj _ =>
      rw [normal, normal] at same
      cases same

theorem normal_ofTexts (texts : Dict String String) : (ofTexts texts : Json F).normal =
    obj (sortMembers (texts.entries.map fun entry => (entry.1, str entry.2))) := by
  rw [ofTexts, normal, normalMembers_eq, List.map_map]
  rfl

/-- The objects of two dictionaries differ in the order of keys exactly when their lookups
agree. -/
theorem normal_ofTexts_eq_iff {left right : Dict String String} :
    (ofTexts left : Json F).normal = (ofTexts right).normal ↔ left.get? = right.get? := by
  have image : Function.Injective fun entry : String × String =>
      (entry.1, (str entry.2 : Json F)) := by
    intro first second same
    rw [Prod.mk.injEq, str.injEq] at same
    exact Prod.ext same.1 same.2
  rw [normal_ofTexts, normal_ofTexts, obj.injEq]
  constructor
  · intro same
    have perm := (sortMembers_perm _).symm.trans
      ((List.Perm.of_eq same).trans (sortMembers_perm _))
    funext key
    exact Dict.get?_eq_of_perm ((List.map_perm_map_iff image).mp perm) key
  · intro same
    apply sortMembers_eq_of_perm
    · rw [List.map_map]
      exact left.nodup
    · apply List.Perm.map
      rw [List.perm_ext_iff_of_nodup (List.Nodup.of_map Prod.fst left.nodup)
        (List.Nodup.of_map Prod.fst right.nodup)]
      intro entry
      rw [Dict.mem_entries, Dict.mem_entries, same]

/-- The members of an object whose values are all texts. -/
def textMembers : List (String × Json F) → Option (List (String × String))
  | [] => some []
  | (key, .str text) :: rest => (textMembers rest).map fun entries => (key, text) :: entries
  | _ => none

/-- A dictionary whose values are all texts. -/
def texts? : Json F → Option (Dict String String)
  | obj members =>
      match textMembers members with
      | none => none
      | some entries =>
          if distinct : (entries.map Prod.fst).Nodup then some ⟨entries, distinct⟩ else none
  | _ => none

theorem textMembers_map (entries : List (String × String)) :
    textMembers (entries.map fun entry => (entry.1, (str entry.2 : Json F))) = some entries := by
  induction entries with
  | nil => rfl
  | cons entry rest ih =>
      rw [List.map_cons, textMembers, ih]
      rfl

theorem textMembers_eq_some {members : List (String × Json F)} {entries : List (String × String)}
    (found : textMembers members = some entries) :
    members = entries.map fun entry => (entry.1, str entry.2) := by
  induction members generalizing entries with
  | nil =>
      cases found
      rfl
  | cons member rest ih =>
      obtain ⟨key, value⟩ := member
      cases value with
      | str text =>
          rw [textMembers, Option.map_eq_some_iff] at found
          obtain ⟨later, laterFound, rfl⟩ := found
          rw [List.map_cons, ← ih laterFound]
      | null | bool _ | int _ | float _ | arr _ | obj _ => cases found

@[simp] theorem texts?_ofTexts (texts : Dict String String) :
    (ofTexts texts : Json F).texts? = some texts := by
  rw [ofTexts, texts?, textMembers_map]
  exact dif_pos texts.nodup

theorem texts?_eq_some {value : Json F} {texts : Dict String String}
    (found : value.texts? = some texts) : value = ofTexts texts := by
  cases value with
  | obj members =>
      rw [texts?] at found
      split at found
      · cases found
      next entries listed =>
        split at found
        · cases found
          rw [textMembers_eq_some listed]
          rfl
        · cases found
  | null | bool _ | int _ | float _ | str _ | arr _ => cases found

/-- A value that differs from an object of texts in the order of keys is one. -/
theorem exists_ofTexts_of_normal {value : Json F} {texts : Dict String String}
    (distinct : value.Distinct) (same : value.normal = (ofTexts texts).normal) :
    ∃ others, value = ofTexts others ∧ others.get? = texts.get? := by
  cases value with
  | obj members =>
      rw [normal_ofTexts, normal, normalMembers_eq, obj.injEq] at same
      have perm := (sortMembers_perm _).symm.trans
        ((List.Perm.of_eq same).trans (sortMembers_perm _))
      have onlyTexts : ∀ member ∈ members, ∃ text, member.2 = str text := by
        intro member listed
        have image := perm.mem_iff.mp (List.mem_map_of_mem listed)
        obtain ⟨entry, -, shown⟩ := List.mem_map.mp image
        rw [Prod.mk.injEq] at shown
        cases stored : member.2 with
        | str text => exact ⟨text, rfl⟩
        | null | bool _ | int _ | float _ | arr _ | obj _ =>
            rw [stored] at shown
            cases shown.2
      have written : ∃ entries : List (String × String),
          members = entries.map fun entry => (entry.1, str entry.2) := by
        clear perm same distinct
        induction members with
        | nil => exact ⟨[], rfl⟩
        | cons member rest ih =>
            obtain ⟨text, textEq⟩ := onlyTexts member List.mem_cons_self
            obtain ⟨entries, restEq⟩ := ih fun other listed =>
              onlyTexts other (List.mem_cons_of_mem member listed)
            refine ⟨(member.1, text) :: entries, ?_⟩
            rw [List.map_cons, ← restEq, ← textEq]
      obtain ⟨entries, rfl⟩ := written
      have nodup : (entries.map Prod.fst).Nodup := by
        have keys := distinct.1
        rwa [List.map_map] at keys
      refine ⟨⟨entries, nodup⟩, rfl, ?_⟩
      apply normal_ofTexts_eq_iff.mp
      rw [normal_ofTexts, normal_ofTexts, ← same, List.map_map]
      rfl
  | null | bool _ | int _ | float _ | str _ | arr _ =>
      rw [normal_ofTexts, normal] at same
      cases same

end AutoTrade.Lib.Json
