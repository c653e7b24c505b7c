import TraceOverhead.Text.Unprintable
import TraceOverhead.Text.GraphemeExtend
import TraceOverhead.Text.DefaultIgnorable
/-!
Text in quotes, as messages show a text that could not be read: the quote, the backslash and the
common controls are escaped, and a character that could not be told from its surroundings is
spelled by its number.
-/

namespace TraceOverhead.Text

/-- The two halfwidth Katakana voicing marks extend the character before them, yet stand in a cell
of their own, where they can be told apart. -/
def isHalfwidthVoicingMark (character : Char) : Bool :=
  character == '\uff9e' || character == '\uff9f'

/-- A character that a reader could not tell from its surroundings: it has no visible form, is drawn
together with its neighbour, or is left out by a display. -/
def isIndistinct (character : Char) : Bool :=
  isUnprintable character || isDefaultIgnorable character ||
    (isGraphemeExtend character && !isHalfwidthVoicingMark character)

/-- One quoted character. A single quote needs no escape between double quotes. -/
def quoteChar (character : Char) : List Char :=
  match character with
  | '"' => ['\\', '"']
  | '\\' => ['\\', '\\']
  | '\n' => ['\\', 'n']
  | '\r' => ['\\', 'r']
  | '\t' => ['\\', 't']
  | '\x00' => ['\\', '0']
  | _ =>
    if isIndistinct character then
      ['\\', 'u', '\x7b'] ++ Nat.toDigits 16 character.toNat ++ ['\x7d']
    else [character]

def quoted (text : String) : String :=
  String.ofList (['"'] ++ text.toList.flatMap quoteChar ++ ['"'])

end TraceOverhead.Text
