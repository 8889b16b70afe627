import TypedSql.Text.Unprintable

/-!
# Quoted text

A text between double quotes, in which the quote, the backslash, and every
character that does not print by itself are written as escapes.
-/

namespace TypedSql
namespace Quoted

/-- The escape of a character by its code point in hexadecimal. -/
def codePointEscape (character : Char) : List Char :=
  ['\\', 'u', '\x7b'] ++ Nat.toDigits 16 character.toNat ++ ['\x7d']

/-- A character as it stands between the quotes. -/
def encodeChar (character : Char) : List Char :=
  if character = '\x00' then ['\\', '0']
  else if character = '\t' then ['\\', 't']
  else if character = '\n' then ['\\', 'n']
  else if character = '\r' then ['\\', 'r']
  else if character = '\\' then ['\\', '\\']
  else if character = '"' then ['\\', '"']
  else if Unprintable.isUnprintable character then codePointEscape character
  else [character]

/-- The quoted form of a text. -/
def encode (text : String) : String :=
  String.ofList ('"' :: (text.toList.flatMap encodeChar ++ ['"']))

end Quoted
end TypedSql
