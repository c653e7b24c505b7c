import TraceOverhead.Json.Basic
import TraceOverhead.Number.Digits
import TraceOverhead.Number.FloatText
/-!
The two written forms of a JSON document: compact, with no space at all, and indented by two spaces
a level.
-/

namespace TraceOverhead.Json

/-- Controls have a short escape or are spelled by number; all but the quote and the backslash is
written as it is. -/
def escapeChar (character : Char) : List Char :=
  match character with
  | '"' => ['\\', '"']
  | '\\' => ['\\', '\\']
  | '\n' => ['\\', 'n']
  | '\r' => ['\\', 'r']
  | '\t' => ['\\', 't']
  | '\x08' => ['\\', 'b']
  | '\x0c' => ['\\', 'f']
  | _ =>
    if character.toNat < 0x20 then ['\\', 'u'] ++ Number.hexadecimal 4 character.toNat
    else [character]

def stringChars (text : String) : List Char :=
  '"' :: text.toList.flatMap escapeChar ++ ['"']

def numeralChars : Numeral → List Char
  | .integer value => (Number.signedDecimal value).toList
  | .double value =>
    if Number.isFinite value then (Number.reportLayout.text value).toList else "null".toList

def boolChars (value : Bool) : List Char := if value then "true".toList else "false".toList

mutual

def compactChars : Json → List Char
  | .null => "null".toList
  | .bool value => boolChars value
  | .number value => numeralChars value
  | .string value => stringChars value
  | .array items => '[' :: compactItems items ++ [']']
  | .object members => '\x7b' :: compactMembers members ++ ['\x7d']

def compactItems : List Json → List Char
  | [] => []
  | [item] => compactChars item
  | item :: items => compactChars item ++ ',' :: compactItems items

def compactMembers : List (String × Json) → List Char
  | [] => []
  | [(name, value)] => stringChars name ++ ':' :: compactChars value
  | (name, value) :: members =>
    stringChars name ++ ':' :: compactChars value ++ ',' :: compactMembers members

end

def compact (document : Json) : String := String.ofList (compactChars document)

def lineBreak (depth : Nat) : List Char := '\n' :: List.replicate (2 * depth) ' '

mutual

/-- The indented form, at a depth of nesting. Empty arrays and objects stay on one line. -/
def indentedChars (depth : Nat) : Json → List Char
  | .null => "null".toList
  | .bool value => boolChars value
  | .number value => numeralChars value
  | .string value => stringChars value
  | .array [] => ['[', ']']
  | .array (item :: items) =>
    '[' :: lineBreak (depth + 1) ++ indentedChars (depth + 1) item ++
      indentedItems depth items
  | .object [] => ['\x7b', '\x7d']
  | .object ((name, value) :: members) =>
    '\x7b' :: lineBreak (depth + 1) ++ stringChars name ++ [':', ' '] ++
      indentedChars (depth + 1) value ++ indentedMembers depth members

/-- What follows the first item, up to the closing bracket. -/
def indentedItems (depth : Nat) : List Json → List Char
  | [] => lineBreak depth ++ [']']
  | item :: items =>
    ',' :: lineBreak (depth + 1) ++ indentedChars (depth + 1) item ++ indentedItems depth items

def indentedMembers (depth : Nat) : List (String × Json) → List Char
  | [] => lineBreak depth ++ ['\x7d']
  | (name, value) :: members =>
    ',' :: lineBreak (depth + 1) ++ stringChars name ++ [':', ' '] ++
      indentedChars (depth + 1) value ++ indentedMembers depth members

end

def indented (document : Json) : String := String.ofList (indentedChars 0 document)

end TraceOverhead.Json
