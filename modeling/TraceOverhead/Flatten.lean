import TraceOverhead.Json.Printer
/-!
Flat views of result trees: one entry for every leaf, under the path that leads to it. Names are
joined with dots; the places of an array are written with a dot for plots and in brackets for the
combined property text. A leaf that is null has no entry, so a measurement that was not taken never
becomes a plot.
-/

namespace TraceOverhead

inductive IndexStyle where
  /-- `a.c.0` -/
  | dotted
  /-- `a.c[0]` -/
  | bracketed
  deriving DecidableEq, Repr

/-- Entries in the byte order of their paths. -/
abbrev FlatMap := Std.TreeMap String Json

namespace Flatten

/-- The path of a member. An empty path leaves no dot behind. -/
def memberPath (path name : String) : String :=
  if path.isEmpty then name else path ++ "." ++ name

def itemPath (style : IndexStyle) (path : String) (index : Nat) : String :=
  match style with
  | .dotted => path ++ "." ++ Number.decimal index
  | .bracketed => path ++ "[" ++ Number.decimal index ++ "]"

mutual

/-- Adds the leaves of a tree; of two leaves with one path the later wins. -/
def insertLeaves (style : IndexStyle) (path : String) : Json → FlatMap → FlatMap
  | .null, entries => entries
  | .array items, entries => insertItems style path 0 items entries
  | .object members, entries => insertMembers style path members entries
  | .bool value, entries => entries.insert path (.bool value)
  | .number value, entries => entries.insert path (.number value)
  | .string value, entries => entries.insert path (.string value)

def insertItems (style : IndexStyle) (path : String) (index : Nat) :
    List Json → FlatMap → FlatMap
  | [], entries => entries
  | item :: items, entries =>
    insertItems style path (index + 1) items
      (insertLeaves style (itemPath style path index) item entries)

def insertMembers (style : IndexStyle) (path : String) :
    List (String × Json) → FlatMap → FlatMap
  | [], entries => entries
  | (name, value) :: members, entries =>
    insertMembers style path members
      (insertLeaves style (memberPath path name) value entries)

end

end Flatten

/-- The flat view of a tree, whose objects are read in the order of their names. -/
def flatten (style : IndexStyle) (tree : Json) : FlatMap :=
  Flatten.insertLeaves style "" tree.canonical ∅

/-- A leaf as property files show it: text bare, all else in its JSON form. -/
def renderValue : Json → String
  | .string value => value
  | .null => "None"
  | value => value.compact

/-- The texts of the kinds of leaves. What is no leaf is shown as a document. -/
inductive ShownAs : Json → String → Prop
  | text (value : String) : ShownAs (.string value) value
  | absent : ShownAs .null "None"
  | truth (value : Bool) : ShownAs (.bool value) (if value then "true" else "false")
  | integer (value : Int) : ShownAs (.number (.integer value)) (Number.signedDecimal value)
  | double {value : Float} (finite : Number.isFinite value) :
      ShownAs (.number (.double value)) (Number.reportLayout.text value)
  | infinite {value : Float} (beyond : Number.isFinite value = false) :
      ShownAs (.number (.double value)) "null"
  | array (items : List Json) : ShownAs (.array items) (Json.array items).compact
  | object (members : List (String × Json)) :
      ShownAs (.object members) (Json.object members).compact

theorem shown_as_render_value (value : Json) : ShownAs value (renderValue value) := by
  cases value with
  | null => exact .absent
  | bool value => cases value <;> exact .truth _
  | string value => exact .text value
  | array items => exact .array items
  | object members => exact .object members
  | number value =>
      have numeral : renderValue (.number value) = String.ofList (Json.numeralChars value) := rfl
      rw [numeral]
      cases value with
      | integer value =>
          rw [Json.numeralChars, String.ofList_toList]
          exact .integer value
      | double value =>
          rw [Json.numeralChars]
          cases finite : Number.isFinite value with
          | true =>
              rw [if_pos rfl, String.ofList_toList]
              exact .double finite
          | false => exact .infinite finite

end TraceOverhead
