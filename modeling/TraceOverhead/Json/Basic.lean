import Std.Data.TreeMap.Basic
import TraceOverhead.Number.Double
/-!
JSON documents. A document keeps the members of its objects as they were written, repetitions
included; `canonical` is the view of a reader that knows no field names, where the members are
sorted and the last of equal names wins.
-/

namespace TraceOverhead

/-- An integer stays exact if it is written as one and fits 64 bits, signed or not. -/
inductive Json.Numeral where
  | integer (value : Int)
  | double (value : Float)

inductive Json where
  | null
  | bool (value : Bool)
  | number (value : Json.Numeral)
  | string (value : String)
  | array (items : List Json)
  | object (members : List (String × Json))

namespace Json

instance : Inhabited Json := ⟨.null⟩

def Numeral.toFloat : Numeral → Float
  | .integer value => Number.ofInt value
  | .double value => value

def natural (value : Nat) : Json := .number (.integer value)

/-- A measured time. One that is not finite has no JSON form. -/
def float (value : Float) : Json :=
  if Number.isFinite value then .number (.double value) else .null

def optional (encode : α → Json) : Option α → Json
  | none => .null
  | some value => encode value

def strings (values : List String) : Json := .array (values.map .string)

/-- Members in increasing order of their names, which is the order of the names' UTF-8 bytes. -/
def sortMembers (members : List (String × Json)) : List (String × Json) :=
  (Std.TreeMap.ofList members compare).toList

mutual

def canonical : Json → Json
  | .array items => .array (canonicalItems items)
  | .object members => .object (sortMembers (canonicalMembers members))
  | .null => .null
  | .bool value => .bool value
  | .number value => .number value
  | .string value => .string value

def canonicalItems : List Json → List Json
  | [] => []
  | item :: items => canonical item :: canonicalItems items

def canonicalMembers : List (String × Json) → List (String × Json)
  | [] => []
  | (name, value) :: members => (name, canonical value) :: canonicalMembers members

end

end Json
end TraceOverhead
