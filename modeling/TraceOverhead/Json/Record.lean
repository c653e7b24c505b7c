import TraceOverhead.Json.Parser
/-!
Records in JSON documents: a record is an object, whose unknown members are passed over and whose
known ones may come only once, or an array of its fields in order.
-/

namespace TraceOverhead.Json

/-- The value of a member that may be missing but not repeated. -/
def member? (members : List (String × Json)) (name : String) : Option (Option Json) :=
  match members.filter fun member => member.1 = name with
  | [] => some none
  | [(_, value)] => some (some value)
  | _ => none

/-- One slot for every field. The first `required` fields have to be there in an array. -/
def fields? (names : List String) (required : Nat) : Json → Option (List (Option Json))
  | .object members => names.mapM (member? members)
  | .array items =>
    if required ≤ items.length ∧ items.length ≤ names.length then
      some (items.map some ++ List.replicate (names.length - items.length) none)
    else none
  | _ => none

/-- The slots of the record that a text holds. An unknown member needs only the form of JSON. -/
def fieldsOfText? (names : List String) (required : Nat) (text : String) :
    Option (List (Option Json)) :=
  (parseKnowing? names.contains text).bind (fields? names required)

def text? : Json → Option String
  | .string value => some value
  | _ => none

def naturalBelow? (limit : Nat) : Json → Option Nat
  | .number (.integer value) =>
    if 0 ≤ value ∧ value < limit then some value.toNat else none
  | _ => none

def word? (document : Json) : Option UInt64 :=
  (naturalBelow? UInt64.size document).map UInt64.ofNat

def float? : Json → Option Float
  | .number value => some value.toFloat
  | _ => none

def list? (read? : Json → Option α) : Json → Option (List α)
  | .array items => items.mapM read?
  | _ => none

def texts? : Json → Option (List String) := list? text?

/-- A field that has to be there. -/
def required? (read? : Json → Option α) (slot : Option Json) : Option α := slot.bind read?

/-- A field that may be missing or null. -/
def nullable? (read? : Json → Option α) : Option Json → Option (Option α)
  | none | some .null => some none
  | some value => (read? value).map some

/-- A field that may be missing, with the value it then has. -/
def defaulted? (read? : Json → Option α) (value : α) : Option Json → Option α
  | none => some value
  | some given => read? given

end TraceOverhead.Json
