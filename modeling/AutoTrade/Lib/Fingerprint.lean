import Mathlib.Data.String.Basic

/-!
# Content identities

SHA-256 and `uuid5` are parameters of the model, `Fingerprint`.  `canonicalJson`
is the JSON text of a list of strings, which is how identity parts are joined.
-/

namespace AutoTrade.Lib

/-- The characters with a two-character escape in a JSON string literal. -/
def shortEscape (character : Char) : Option Char :=
  match character.toNat with
  | 0x22 => some '"'
  | 0x5c => some '\\'
  | 0x0a => some 'n'
  | 0x0d => some 'r'
  | 0x09 => some 't'
  | 0x0c => some 'f'
  | 0x08 => some 'b'
  | _ => none

/-- A lower-case hexadecimal digit. -/
def hexDigit (digit : Nat) : Char := Char.ofNat (if digit < 10 then 48 + digit else 87 + digit)

/-- One character of a JSON string literal; control characters are escaped and
every other character is kept. -/
def escapeChar (character : Char) : List Char :=
  match shortEscape character with
  | some short => ['\\', short]
  | none =>
      if character.toNat < 0x20 then
        ['\\', 'u', '0', '0', hexDigit (character.toNat / 16), hexDigit (character.toNat % 16)]
      else [character]

/-- The body of a JSON string literal. -/
def escapeText (text : List Char) : List Char := text.flatMap escapeChar

/-- The literals of a JSON array, each followed by its delimiter. -/
def jsonItems : List String → List Char
  | [] => [']']
  | [text] => '"' :: escapeText text.toList ++ ['"', ']']
  | text :: rest => '"' :: escapeText text.toList ++ '"' :: ',' :: jsonItems rest

/-- `canonical_json` of a list of strings. -/
def canonicalJson (parts : List String) : String := String.ofList ('[' :: jsonItems parts)

/-- SHA-256 in hexadecimal and `uuid5` in the URL namespace. -/
class Fingerprint where
  sha256 : String → String
  uuid5 : String → String

export Fingerprint (sha256 uuid5)

/-- Texts as their own fingerprints, for evaluation. -/
@[reducible] def Fingerprint.plain : Fingerprint where
  sha256 text := text
  uuid5 text := text

/-- Texts in hexadecimal as their own fingerprints, for evaluation. -/
@[reducible] def Fingerprint.hexadecimal : Fingerprint where
  sha256 text := String.ofList (text.toList.flatMap fun character =>
    (List.range 6).map fun place => hexDigit (character.toNat / 16 ^ place % 16))
  uuid5 text := text

/-- 64 zeros as the digest of every text, for evaluation. -/
@[reducible] def Fingerprint.zeros : Fingerprint where
  sha256 _ := String.ofList (List.replicate 64 '0')
  uuid5 text := text

/-- The sizes of texts as their fingerprints, for evaluation on a few texts. -/
@[reducible] def Fingerprint.sizes : Fingerprint where
  sha256 text := Nat.repr text.utf8ByteSize
  uuid5 text := Nat.repr text.utf8ByteSize

/-- One digest for every text and the sizes of texts as their identities, for
evaluation where only identities are compared. -/
@[reducible] def Fingerprint.flat : Fingerprint where
  sha256 _ := "0"
  uuid5 text := Nat.repr text.utf8ByteSize

/-- `_identity_digest`: the digest of a tuple of texts. -/
def identityDigest [Fingerprint] (parts : List String) : String := sha256 (canonicalJson parts)

end AutoTrade.Lib
