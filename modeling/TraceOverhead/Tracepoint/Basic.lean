import TraceOverhead.Number.Digits
import TraceOverhead.Number.FloatText
/-!
Synthetic tracepoints: a handful of candidate arguments with literal values, and fields that record
some of them. A tracepoint declares exactly the arguments that its fields refer to.
-/

namespace TraceOverhead

/-- The candidate arguments, in the byte order of their names. -/
inductive Argument where
  | text
  | textSize
  | double1
  | double2
  | float1
  | float2
  | int1
  | int2
  | long1
  | long2
  deriving DecidableEq, Repr

namespace Argument

def all : List Argument :=
  [.text, .textSize, .double1, .double2, .float1, .float2, .int1, .int2, .long1, .long2]

def name : Argument → String
  | .text => "tp_charptr_1"
  | .textSize => "tp_charptr_1_size"
  | .double1 => "tp_double_1"
  | .double2 => "tp_double_2"
  | .float1 => "tp_float_1"
  | .float2 => "tp_float_2"
  | .int1 => "tp_int_1"
  | .int2 => "tp_int_2"
  | .long1 => "tp_long_1"
  | .long2 => "tp_long_2"

def cType : Argument → String
  | .text => "char *"
  | .textSize => "size_t"
  | .double1 | .double2 => "double"
  | .float1 | .float2 => "float"
  | .int1 | .int2 => "int"
  | .long1 | .long2 => "long"

end Argument

/-- The values that one tracepoint's candidate arguments have in its call. -/
structure Literals where
  text : List Char
  int1 : Int
  int2 : Int
  long1 : Int
  long2 : Int
  float1 : Float
  float2 : Float
  double1 : Float
  double2 : Float

def Literals.render (literals : Literals) : Argument → String
  | .text => String.ofList ('"' :: literals.text ++ ['"'])
  | .textSize => Number.decimal literals.text.length
  | .double1 => Number.literalLayout.text literals.double1
  | .double2 => Number.literalLayout.text literals.double2
  | .float1 => Number.literalLayout.text literals.float1
  | .float2 => Number.literalLayout.text literals.float2
  | .int1 => Number.signedDecimal literals.int1
  | .int2 => Number.signedDecimal literals.int2
  | .long1 => Number.signedDecimal literals.long1
  | .long2 => Number.signedDecimal literals.long2

inductive NumberType where
  | int
  | long
  | float
  | double
  deriving DecidableEq, Repr

namespace NumberType

def cType : NumberType → String
  | .int => "int"
  | .long => "long"
  | .float => "float"
  | .double => "double"

def fieldMacro : NumberType → String
  | .int | .long => "ctf_integer"
  | .float | .double => "ctf_float"

def first : NumberType → Argument
  | .int => .int1
  | .long => .long1
  | .float => .float1
  | .double => .double1

def second : NumberType → Argument
  | .int => .int2
  | .long => .long2
  | .float => .float2
  | .double => .double2

end NumberType

inductive TextForm where
  | string
  | sequence
  | sequenceText
  | array
  | arrayText
  deriving DecidableEq, Repr

def TextForm.fieldMacro : TextForm → String
  | .string => "ctf_string"
  | .sequence => "ctf_sequence"
  | .sequenceText => "ctf_sequence_text"
  | .array => "ctf_array"
  | .arrayText => "ctf_array_text"

inductive FieldKind where
  | number (type : NumberType)
  | text (form : TextForm)
  deriving DecidableEq, Repr

def FieldKind.first : FieldKind := .number .int

def FieldKind.others : List FieldKind :=
  [.number .long, .number .float, .number .double, .text .string, .text .sequence,
   .text .sequenceText, .text .array, .text .arrayText]

/-- A named field. A number is one argument or the sum of both of its type. -/
inductive Field where
  | number (type : NumberType) (name : String) (both : Bool)
  | text (form : TextForm) (name : String)
  deriving DecidableEq, Repr

namespace Field

def name : Field → String
  | .number _ name _ => name
  | .text _ name => name

def arguments : Field → List Argument
  | .number type _ both => if both then [type.first, type.second] else [type.first]
  | .text form _ => match form with
    | .sequence | .sequenceText => [.text, .textSize]
    | .string | .array | .arrayText => [.text]

/-- What stands between the brackets of the field's macro. An array has its length written out. -/
def operands (literals : Literals) : Field → List String
  | .number type name both =>
    let terms := if both then [type.first, type.second] else [type.first]
    [type.cType, name, " + ".intercalate (terms.map Argument.name)]
  | .text form name => match form with
    | .string => [name, Argument.text.name]
    | .sequence | .sequenceText =>
      ["char", name, Argument.text.name, Argument.textSize.cType, Argument.textSize.name]
    | .array | .arrayText =>
      ["char", name, Argument.text.name, literals.render .textSize]

def fieldMacro : Field → String
  | .number type _ _ => type.fieldMacro
  | .text form _ => form.fieldMacro

def render (literals : Literals) (field : Field) : String :=
  field.fieldMacro ++ "(" ++ ", ".intercalate (field.operands literals) ++ ")"

end Field

structure Tracepoint where
  number : Nat
  literals : Literals
  fields : List Field

namespace Tracepoint

def provider (tracepoint : Tracepoint) : String :=
  "benchmark_tracepoint_" ++ Number.decimal tracepoint.number

def name (tracepoint : Tracepoint) : String :=
  "random_tp_" ++ Number.decimal tracepoint.number

/-- The arguments that some field refers to, in the order of their names. -/
def arguments (tracepoint : Tracepoint) : List Argument :=
  Argument.all.filter fun argument =>
    tracepoint.fields.any fun field => field.arguments.contains argument

def fieldTexts (tracepoint : Tracepoint) : List String :=
  tracepoint.fields.map (Field.render tracepoint.literals)

/-- The literals of the call, one for every argument. -/
def values (tracepoint : Tracepoint) : List String :=
  tracepoint.arguments.map tracepoint.literals.render

end Tracepoint
end TraceOverhead
