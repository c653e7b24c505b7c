import TraceOverhead.Json.Token
import TraceOverhead.Text.Bytes
/-!
Reading a JSON text. The parser is a machine that takes one token at a time and keeps the arrays
and objects that are still open on a stack, so nesting is bounded by the height of the stack and
no recursion is needed. A reader of a record knows the names of its members and passes over the
others: those need only the form of JSON.
-/

namespace TraceOverhead.Json

/-- An open array or object; what it holds so far is kept last first. -/
inductive Frame where
  | items (read : List Json)
  | members (read : List (String × Json)) (name : String)

/-- What may come next, with the frames around it, the innermost first. -/
inductive Expect where
  | value (frames : List Frame)
  /-- After an opening bracket: a value, or the end of an empty array. -/
  | firstItem (frames : List Frame)
  /-- After an opening brace: a name, or the end of an empty object. -/
  | firstName (frames : List Frame)
  | nextName (read : List (String × Json)) (frames : List Frame)
  | colon (read : List (String × Json)) (name : String) (frames : List Frame)
  | afterItem (read : List Json) (frames : List Frame)
  | afterMember (read : List (String × Json)) (frames : List Frame)
  | finished (document : Json)

/-- Arrays and objects that are read for their content may be nested this deep. -/
def depthLimit : Nat := 127

/-- A value is complete and goes into the frame around it. -/
def deliver (value : Json) : List Frame → Expect
  | [] => .finished value
  | .items read :: frames => .afterItem (value :: read) frames
  | .members read name :: frames => .afterMember ((name, value) :: read) frames

/-- Whether another array or object may be opened inside these. -/
def mayOpen (care : Care) (frames : List Frame) : Bool :=
  care = .form || frames.length < depthLimit

/-- The first token of a value. -/
def startValue? (care : Care) (frames : List Frame) : Token → Option Expect
  | .null => some (deliver .null frames)
  | .bool value => some (deliver (.bool value) frames)
  | .number value => some (deliver (.number value) frames)
  | .text value => some (deliver (.string value) frames)
  | .openArray => if mayOpen care frames then some (.firstItem frames) else none
  | .openObject => if mayOpen care frames then some (.firstName frames) else none
  | _ => none

def Expect.step? (care : Care) : Expect → Token → Option Expect
  | .value frames, token => startValue? care frames token
  | .firstItem frames, .closeArray => some (deliver (.array []) frames)
  | .firstItem frames, token => startValue? care (.items [] :: frames) token
  | .firstName frames, .closeObject => some (deliver (.object []) frames)
  | .firstName frames, .text name => some (.colon [] name frames)
  | .nextName read frames, .text name => some (.colon read name frames)
  | .colon read name frames, .colon => some (.value (.members read name :: frames))
  | .afterItem read frames, .comma => some (.value (.items read :: frames))
  | .afterItem read frames, .closeArray => some (deliver (.array read.reverse) frames)
  | .afterMember read frames, .comma => some (.nextName read frames)
  | .afterMember read frames, .closeObject => some (deliver (.object read.reverse) frames)
  | _, _ => none

/-- The care for what comes next. It changes only where a member of the document itself begins or
ends; all that stands inside the member is read with the same care. -/
def Expect.care (known : String → Bool) (current : Care) : Expect → Care
  | .value [.members _ name] => if known name then .content else .form
  | .afterMember _ [] | .finished _ => .content
  | _ => current

/-- Scanner and parser together, between two characters. -/
structure Reader where
  scan : Scan
  expect : Expect
  care : Care

namespace Reader

def start : Reader := ⟨.between, .value [], .content⟩

def take? (known : String → Bool) (reader : Reader) (token : Token) : Option Reader := do
  let expect ← reader.expect.step? reader.care token
  some { reader with expect, care := expect.care known reader.care }

def step? (known : String → Bool) (reader : Reader) (character : Char) : Option Reader := do
  let (tokens, scan) ← reader.scan.step? reader.care character
  tokens.foldlM (take? known) { reader with scan }

def finish? (known : String → Bool) (reader : Reader) : Option Json := do
  let tokens ← reader.scan.finish? reader.care
  match (← tokens.foldlM (take? known) reader).expect with
  | .finished document => some document
  | _ => none

end Reader

/-- The document that a text holds, with nothing after it but blanks. If it is an object, only the
values of its known members are what the text says. -/
def parseKnowing? (known : String → Bool) (text : String) : Option Json := do
  let reader ← text.toList.foldlM (Reader.step? known) Reader.start
  reader.finish? known

/-- A document every part of which is read for its content. -/
def parse? (text : String) : Option Json := parseKnowing? (fun _ => true) text

def parseBytes? (bytes : Bytes) : Option Json := do
  let text ← Text.ofBytes? bytes
  parse? text

end TraceOverhead.Json
