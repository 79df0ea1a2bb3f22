import AutoTrade.Lib.Dict
import AutoTrade.Lib.Fingerprint
import Mathlib.Data.List.Sort
import Mathlib.Data.String.Basic

/-!
# JSON values and their canonical text

The values of Python's `json` module with exact built-in types, the text of
`json.dumps` with sorted keys, compact separators, no ASCII escapes and no
`NaN`, and the normal form in which every object has its keys sorted.

Text is Unicode text: a lone surrogate has no encoding, so a value with one
never reaches a digest or a stored text.  Floating-point numbers are a
parameter, `FloatText`.
-/

namespace AutoTrade.Lib

/-! ## Number literals -/

/-- The parts of a JSON number literal. -/
structure NumberText where
  sign : List Char
  integer : List Char
  fraction : List Char
  exponent : List Char
  deriving DecidableEq, Repr

namespace NumberText

def text (number : NumberText) : List Char :=
  number.sign ++ (number.integer ++ (number.fraction ++ number.exponent))

/-- A literal with a fraction or an exponent denotes a float. -/
def isFloat (number : NumberText) : Bool := number.fraction ≠ [] || number.exponent ≠ []

/-- Decimal digits, at least one. -/
def IsDigits (digits : List Char) : Prop :=
  digits ≠ [] ∧ ∀ character ∈ digits, character.isDigit = true

/-- The grammar of the parts. -/
structure Valid (number : NumberText) : Prop where
  sign : number.sign = [] ∨ number.sign = ['-']
  integer : number.integer = ['0'] ∨
    IsDigits number.integer ∧ number.integer.head? ≠ some '0'
  fraction : number.fraction = [] ∨
    ∃ digits, IsDigits digits ∧ number.fraction = '.' :: digits
  exponent : number.exponent = [] ∨
    ∃ mark sign digits, (mark = 'e' ∨ mark = 'E') ∧
      (sign = [] ∨ sign = ['+'] ∨ sign = ['-']) ∧ IsDigits digits ∧
      number.exponent = mark :: (sign ++ digits)

end NumberText

/-- Floats as a JSON codec sees them: `float.__repr__` on a finite float is a
number literal from which `float` restores it. -/
class FloatText (F : Type) where
  finite : F → Bool
  repr : F → NumberText
  ofLiteral : NumberText → F
  repr_valid : ∀ value, finite value = true → (repr value).Valid
  repr_isFloat : ∀ value, finite value = true → (repr value).isFloat = true
  ofLiteral_repr : ∀ value, finite value = true → ofLiteral (repr value) = value

/-- Values without floats, for evaluation. -/
@[reducible] def FloatText.none : FloatText Unit where
  finite _ := false
  repr _ := ⟨[], [], [], []⟩
  ofLiteral _ := ()
  repr_valid _ absurd := (Bool.false_ne_true absurd).elim
  repr_isFloat _ absurd := (Bool.false_ne_true absurd).elim
  ofLiteral_repr _ _ := rfl

/-! ## Values -/

/-- A JSON value; an object lists its members in dictionary order. -/
inductive Json (F : Type) where
  | null
  | bool (value : Bool)
  | int (value : Int)
  | float (value : F)
  | str (value : String)
  | arr (items : List (Json F))
  | obj (members : List (String × Json F))

namespace Json

variable {F : Type}

/-- `sys.get_int_max_str_digits()`. -/
def maxStrDigits : Nat := 4300

/-- The literal of an integer. -/
def intText (value : Int) : NumberText where
  sign := if value < 0 then ['-'] else []
  integer := Nat.toDigits 10 value.natAbs
  fraction := []
  exponent := []

mutual

/-- Object keys are distinct at every depth, as in a dictionary. -/
def Distinct : Json F → Prop
  | arr items => DistinctItems items
  | obj members => (members.map Prod.fst).Nodup ∧ DistinctMembers members
  | _ => True

def DistinctItems : List (Json F) → Prop
  | [] => True
  | item :: rest => Distinct item ∧ DistinctItems rest

def DistinctMembers : List (String × Json F) → Prop
  | [] => True
  | (_, value) :: rest => Distinct value ∧ DistinctMembers rest

end

mutual

/-- Every float is finite and no integer is longer than Python converts. -/
def Writable [FloatText F] : Json F → Bool
  | int value => (intText value).integer.length ≤ maxStrDigits
  | float value => FloatText.finite value
  | arr items => WritableItems items
  | obj members => WritableMembers members
  | _ => true

def WritableItems [FloatText F] : List (Json F) → Bool
  | [] => true
  | item :: rest => Writable item && WritableItems rest

def WritableMembers [FloatText F] : List (String × Json F) → Bool
  | [] => true
  | (_, value) :: rest => Writable value && WritableMembers rest

end

/-! ## Equality -/

section Equality

variable [DecidableEq F]

mutual

def same : Json F → Json F → Bool
  | null, null => true
  | bool left, bool right => left = right
  | int left, int right => left = right
  | float left, float right => left = right
  | str left, str right => left = right
  | arr left, arr right => sameItems left right
  | obj left, obj right => sameMembers left right
  | _, _ => false

def sameItems : List (Json F) → List (Json F) → Bool
  | [], [] => true
  | left :: lefts, right :: rights => same left right && sameItems lefts rights
  | _, _ => false

def sameMembers : List (String × Json F) → List (String × Json F) → Bool
  | [], [] => true
  | (key, left) :: lefts, (other, right) :: rights =>
      key = other && same left right && sameMembers lefts rights
  | _, _ => false

end

mutual

theorem same_iff : (left right : Json F) → (same left right = true ↔ left = right)
  | arr left, right => by
      cases right <;> simp [same, sameItems_iff left]
  | obj left, right => by
      cases right <;> simp [same, sameMembers_iff left]
  | null, right => by cases right <;> simp [same]
  | bool _, right => by cases right <;> simp [same]
  | int _, right => by cases right <;> simp [same]
  | float _, right => by cases right <;> simp [same]
  | str _, right => by cases right <;> simp [same]

theorem sameItems_iff : (left right : List (Json F)) →
    (sameItems left right = true ↔ left = right)
  | [], right => by cases right <;> simp [sameItems]
  | item :: rest, right => by
      cases right with
      | nil => simp [sameItems]
      | cons other others =>
          simp [sameItems, same_iff item other, sameItems_iff rest others]

theorem sameMembers_iff : (left right : List (String × Json F)) →
    (sameMembers left right = true ↔ left = right)
  | [], right => by cases right <;> simp [sameMembers]
  | (key, value) :: rest, right => by
      cases right with
      | nil => simp [sameMembers]
      | cons member others =>
          obtain ⟨other, value'⟩ := member
          simp [sameMembers, same_iff value value', sameMembers_iff rest others]

end

instance : DecidableEq (Json F) := fun left right =>
  decidable_of_iff (same left right = true) (same_iff left right)

end Equality

/-! ## The normal form -/

/-- Members in the order of their keys. -/
def sortMembers (members : List (String × Json F)) : List (String × Json F) :=
  members.insertionSort fun left right => left.1 ≤ right.1

mutual

/-- The value with the keys of every object sorted. -/
def normal : Json F → Json F
  | arr items => arr (normalItems items)
  | obj members => obj (sortMembers (normalMembers members))
  | null => null
  | bool value => bool value
  | int value => int value
  | float value => float value
  | str value => str value

def normalItems : List (Json F) → List (Json F)
  | [] => []
  | item :: rest => normal item :: normalItems rest

def normalMembers : List (String × Json F) → List (String × Json F)
  | [] => []
  | (key, value) :: rest => (key, normal value) :: normalMembers rest

end

/-! ## Text -/

/-- A JSON string literal. -/
def quote (text : String) : List Char := '"' :: (escapeText text.toList ++ ['"'])

mutual

/-- The compact text of a value, its members in the order they have. -/
def write [FloatText F] : Json F → List Char
  | null => ['n', 'u', 'l', 'l']
  | bool true => ['t', 'r', 'u', 'e']
  | bool false => ['f', 'a', 'l', 's', 'e']
  | int value => (intText value).text
  | float value => (FloatText.repr value).text
  | str value => quote value
  | arr [] => ['[', ']']
  | arr (item :: rest) => '[' :: (write item ++ writeItems rest)
  | obj [] => ['{', '}']
  | obj ((key, value) :: rest) =>
      '{' :: (quote key ++ ':' :: (write value ++ writeMembers rest))

/-- The items after the first and the closing bracket. -/
def writeItems [FloatText F] : List (Json F) → List Char
  | [] => [']']
  | item :: rest => ',' :: (write item ++ writeItems rest)

/-- The members after the first and the closing brace. -/
def writeMembers [FloatText F] : List (String × Json F) → List Char
  | [] => ['}']
  | (key, value) :: rest =>
      ',' :: (quote key ++ ':' :: (write value ++ writeMembers rest))

end

/-- `canonical_json`, or `none` where `json.dumps` raises `ValueError`. -/
def canonicalText [FloatText F] (value : Json F) : Option String :=
  if value.Writable then some (String.ofList value.normal.write) else none

/-- `dict.get` on a value that is an object. -/
def get? (value : Json F) (key : String) : Option (Json F) :=
  match value with
  | obj members => Dict.find? key members
  | _ => none

/-! ## Members and their order -/

theorem normalItems_eq (items : List (Json F)) : normalItems items = items.map normal := by
  induction items with
  | nil => rfl
  | cons item rest ih => rw [normalItems, ih, List.map_cons]

theorem normalMembers_eq (members : List (String × Json F)) :
    normalMembers members = members.map fun member => (member.1, member.2.normal) := by
  induction members with
  | nil => rfl
  | cons member rest ih =>
      obtain ⟨key, value⟩ := member
      rw [normalMembers, ih, List.map_cons]

theorem keys_normalMembers (members : List (String × Json F)) :
    (normalMembers members).map Prod.fst = members.map Prod.fst := by
  rw [normalMembers_eq, List.map_map]
  rfl

theorem sortMembers_perm (members : List (String × Json F)) :
    (sortMembers members).Perm members :=
  List.perm_insertionSort _ members

theorem keys_sortMembers_nodup {members : List (String × Json F)}
    (distinct : (members.map Prod.fst).Nodup) :
    ((sortMembers members).map Prod.fst).Nodup :=
  ((sortMembers_perm members).map _).nodup_iff.mpr distinct

theorem distinctItems_iff {items : List (Json F)} :
    DistinctItems items ↔ ∀ item ∈ items, item.Distinct := by
  induction items with
  | nil => simp [DistinctItems]
  | cons item rest ih => rw [DistinctItems, ih, List.forall_mem_cons]

theorem distinctMembers_iff {members : List (String × Json F)} :
    DistinctMembers members ↔ ∀ member ∈ members, member.2.Distinct := by
  induction members with
  | nil => simp [DistinctMembers]
  | cons member rest ih =>
      obtain ⟨key, value⟩ := member
      rw [DistinctMembers, ih, List.forall_mem_cons]

theorem writableItems_iff [FloatText F] {items : List (Json F)} :
    WritableItems items = true ↔ ∀ item ∈ items, item.Writable = true := by
  induction items with
  | nil => simp [WritableItems]
  | cons item rest ih => rw [WritableItems, Bool.and_eq_true, ih, List.forall_mem_cons]

theorem writableMembers_iff [FloatText F] {members : List (String × Json F)} :
    WritableMembers members = true ↔ ∀ member ∈ members, member.2.Writable = true := by
  induction members with
  | nil => simp [WritableMembers]
  | cons member rest ih =>
      obtain ⟨key, value⟩ := member
      rw [WritableMembers, Bool.and_eq_true, ih, List.forall_mem_cons]

/-- A lookup does not depend on the order of distinct keys. -/
theorem find?_sortMembers {members : List (String × Json F)}
    (distinct : (members.map Prod.fst).Nodup) (key : String) :
    Dict.find? key (sortMembers members) = Dict.find? key members := by
  apply Option.ext
  intro value
  rw [Dict.find?_eq_some (keys_sortMembers_nodup distinct), Dict.find?_eq_some distinct,
    (sortMembers_perm members).mem_iff]

theorem find?_normalMembers (members : List (String × Json F)) (key : String) :
    Dict.find? key (normalMembers members) = (Dict.find? key members).map normal := by
  induction members with
  | nil => rfl
  | cons member rest ih =>
      obtain ⟨other, value⟩ := member
      rw [normalMembers, Dict.find?, Dict.find?]
      split
      · rfl
      · exact ih

/-- Sorting keys does not change what a key holds. -/
theorem get?_normal {value : Json F} (distinct : value.Distinct) (key : String) :
    value.normal.get? key = (value.get? key).map normal := by
  cases value with
  | obj members =>
      simp only [normal, get?]
      rw [find?_sortMembers, find?_normalMembers]
      rw [keys_normalMembers]
      exact distinct.1
  | null => rfl
  | bool value => rfl
  | int value => rfl
  | float value => rfl
  | str value => rfl
  | arr items => rfl

theorem Distinct.get? {value item : Json F} (distinct : value.Distinct) {key : String}
    (found : value.get? key = some item) : item.Distinct := by
  cases value with
  | obj members =>
      rw [Json.get?, Dict.find?_eq_some distinct.1] at found
      exact distinctMembers_iff.mp distinct.2 _ found
  | null => cases found
  | bool value => cases found
  | int value => cases found
  | float value => cases found
  | str value => cases found
  | arr items => cases found

/-! ## The normal form is stable -/

theorem sortMembers_map {members : List (String × Json F)} (image : Json F → Json F) :
    (sortMembers members).map (fun member => (member.1, image member.2)) =
      sortMembers (members.map fun member => (member.1, image member.2)) := by
  apply List.map_insertionSort
  intro left _ right _
  rfl

theorem sortMembers_sortMembers (members : List (String × Json F)) :
    sortMembers (sortMembers members) = sortMembers members := by
  have total : Std.Total fun left right : String × Json F => left.1 ≤ right.1 :=
    ⟨fun left right => le_total left.1 right.1⟩
  have transitive : IsTrans (String × Json F) fun left right => left.1 ≤ right.1 :=
    ⟨fun _ _ _ first second => le_trans first second⟩
  exact (List.pairwise_insertionSort _ members).insertionSort_eq

mutual

theorem normal_normal : (value : Json F) → value.normal.normal = value.normal
  | arr items => by
      rw [normal, normal, normalItems_normal items]
  | obj members => by
      rw [normal, normal]
      rw [normalMembers_eq (sortMembers _), sortMembers_map, sortMembers_sortMembers,
        ← normalMembers_eq, normalMembers_normal members]
  | null => rfl
  | bool _ => rfl
  | int _ => rfl
  | float _ => rfl
  | str _ => rfl

theorem normalItems_normal : (items : List (Json F)) →
    normalItems (normalItems items) = normalItems items
  | [] => rfl
  | item :: rest => by
      rw [normalItems, normalItems, normal_normal item, normalItems_normal rest]

theorem normalMembers_normal : (members : List (String × Json F)) →
    normalMembers (normalMembers members) = normalMembers members
  | [] => rfl
  | (key, value) :: rest => by
      rw [normalMembers, normalMembers, normal_normal value, normalMembers_normal rest]

end

mutual

theorem Distinct.normal : {value : Json F} → value.Distinct → value.normal.Distinct
  | arr items, distinct => by
      rw [Json.normal, Distinct]
      exact DistinctItems.normal distinct
  | obj members, distinct => by
      rw [Json.normal, Distinct]
      constructor
      · apply keys_sortMembers_nodup
        rw [keys_normalMembers]
        exact distinct.1
      · rw [distinctMembers_iff]
        intro member found
        exact distinctMembers_iff.mp (DistinctMembers.normal distinct.2) member
          ((sortMembers_perm _).mem_iff.mp found)
  | null, _ => trivial
  | bool _, _ => trivial
  | int _, _ => trivial
  | float _, _ => trivial
  | str _, _ => trivial

theorem DistinctItems.normal : {items : List (Json F)} → DistinctItems items →
    DistinctItems (normalItems items)
  | [], _ => trivial
  | _ :: _, distinct => ⟨distinct.1.normal, DistinctItems.normal distinct.2⟩

theorem DistinctMembers.normal : {members : List (String × Json F)} →
    DistinctMembers members → DistinctMembers (normalMembers members)
  | [], _ => trivial
  | (_, _) :: _, distinct => ⟨distinct.1.normal, DistinctMembers.normal distinct.2⟩

end

section Writing

variable [FloatText F]

mutual

theorem writable_normal : (value : Json F) → value.normal.Writable = value.Writable
  | arr items => by
      rw [normal, Writable, Writable, writableItems_normal items]
  | obj members => by
      rw [normal, Writable, Writable, ← writableMembers_normal members]
      rw [Bool.eq_iff_iff, writableMembers_iff, writableMembers_iff]
      simp only [(sortMembers_perm _).mem_iff]
  | null => rfl
  | bool _ => rfl
  | int _ => rfl
  | float _ => rfl
  | str _ => rfl

theorem writableItems_normal : (items : List (Json F)) →
    WritableItems (normalItems items) = WritableItems items
  | [] => rfl
  | item :: rest => by
      rw [normalItems, WritableItems, WritableItems, writable_normal item,
        writableItems_normal rest]

theorem writableMembers_normal : (members : List (String × Json F)) →
    WritableMembers (normalMembers members) = WritableMembers members
  | [] => rfl
  | (key, value) :: rest => by
      rw [normalMembers, WritableMembers, WritableMembers, writable_normal value,
        writableMembers_normal rest]

end

/-- Sorting keys beforehand does not change the canonical text. -/
theorem canonicalText_normal (value : Json F) :
    value.normal.canonicalText = value.canonicalText := by
  rw [canonicalText, canonicalText, writable_normal, normal_normal]

theorem canonicalText_eq_some {value : Json F} {text : String} :
    value.canonicalText = some text ↔
      value.Writable = true ∧ String.ofList value.normal.write = text := by
  rw [canonicalText]
  split
  next writable => simp [writable]
  next unwritable => simp [unwritable]

end Writing

end Json

end AutoTrade.Lib
