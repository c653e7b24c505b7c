import TraceOverhead.Pass
import TraceOverhead.Proofs.Flatten.Separable
import TraceOverhead.Proofs.Json.Numbers
/-!
The numeric fields of a pass. Each has a path that does not depend on the pass, and the name of the
benchmark stands before it; whatever the names are, the keys that come of this can be told apart.
-/

namespace TraceOverhead

inductive Part where
  | baseline
  | tracingDisabled
  | tracingEnabled
  deriving DecidableEq, Repr

inductive Quantity where
  | startTime
  | runTime
  | perEvent
  | startOverhead
  | startOverheadPercent
  | eventCount
  deriving DecidableEq, Repr

structure NumericField where
  part : Part
  quantity : Quantity
  deriving DecidableEq, Repr

def Part.name : Part → String
  | .baseline => "baseline"
  | .tracingDisabled => "tracing_disabled"
  | .tracingEnabled => "tracing_enabled"

def Quantity.name : Quantity → String
  | .startTime => "start_time"
  | .runTime => "run_time"
  | .perEvent => "ns_per_event"
  | .startOverhead => "start_overhead_s"
  | .startOverheadPercent => "start_overhead_pct"
  | .eventCount => "event_count"

def NumericField.path (field : NumericField) : String :=
  field.part.name ++ "." ++ field.quantity.name

def averageKey (name : String) (field : NumericField) : String :=
  if name = "" then field.path else name ++ "." ++ field.path

def BaselineResult.number? (result : BaselineResult) : Quantity → Option Float
  | .startTime => finite? result.startTime
  | .runTime => result.runTime.bind finite?
  | _ => none

def TracingResult.number? (result : TracingResult) : Quantity → Option Float
  | .startTime => finite? result.startTime
  | .runTime => result.runTime.bind finite?
  | .perEvent => result.perEvent.bind finite?
  | .startOverhead => finite? result.startOverhead
  | .startOverheadPercent => result.startOverheadPercent.bind finite?
  | .eventCount => result.eventCount.map fun count => Number.ofNat count.toNat

/-- The number in a field, if the field is there and finite. -/
def PassResult.number? (result : PassResult) (field : NumericField) : Option Float :=
  match result, field.part with
  | .user measurement, .baseline => measurement.baseline.number? field.quantity
  | .user measurement, .tracingDisabled => measurement.tracingDisabled.number? field.quantity
  | .user measurement, .tracingEnabled => measurement.tracingEnabled.number? field.quantity
  | .kernel measurement, .baseline => match field.quantity with
    | .runTime => finite? measurement.baseRun
    | _ => none
  | .kernel _, .tracingDisabled => none
  | .kernel measurement, .tracingEnabled => match field.quantity with
    | .runTime => finite? measurement.tracedRun
    | .perEvent => finite? measurement.perEvent
    | _ => none

section Keys

theorem unbroken_part_name (part : Part) :
    Flatten.isUnbroken .dotted part.name.toList.reverse := by
  cases part <;> decide

theorem unbroken_quantity_name (quantity : Quantity) :
    Flatten.isUnbroken .dotted quantity.name.toList.reverse := by
  cases quantity <;> decide

theorem part_name_inj {first second : Part} (same : first.name = second.name) :
    first = second := by
  cases first <;> cases second <;> first | rfl | exact absurd same (by decide)

theorem quantity_name_inj {first second : Quantity} (same : first.name = second.name) :
    first = second := by
  cases first <;> cases second <;> first | rfl | exact absurd same (by decide)

/-- What stands before the field in a key, read from its end. -/
def nameEnd (name : String) : List Char := if name = "" then [] else '.' :: name.toList.reverse

theorem broken_name_end (name : String) : Flatten.Broken .dotted (nameEnd name) := by
  rw [nameEnd]
  split
  · intro character impossible
    contradiction
  · exact Flatten.broken_cons rfl _

theorem name_end_inj {first second : String} (same : nameEnd first = nameEnd second) :
    first = second := by
  simp only [nameEnd] at same
  split at same <;> split at same <;> simp_all [String.toList_inj]

theorem reverse_average_key (name : String) (field : NumericField) :
    (averageKey name field).toList.reverse =
      field.quantity.name.toList.reverse ++ '.' ::
        (field.part.name.toList.reverse ++ nameEnd name) := by
  rw [averageKey, nameEnd]
  split <;> simp [NumericField.path]

theorem average_key_inj {first second : String} {field other : NumericField}
    (same : averageKey first field = averageKey second other) : first = second ∧ field = other := by
  -- A name may have dots of its own, so a key can only be taken apart from its end.
  have backwards := congrArg (fun key => key.toList.reverse) same
  simp only [reverse_average_key] at backwards
  have dot : ∀ rest, Flatten.Broken .dotted ('.' :: rest) := Flatten.broken_cons rfl
  have quantities := Flatten.append_broken_inj (unbroken_quantity_name field.quantity)
    (unbroken_quantity_name other.quantity) (dot _) (dot _) backwards
  have parts := Flatten.append_broken_inj (unbroken_part_name field.part)
    (unbroken_part_name other.part) (broken_name_end first) (broken_name_end second)
    (List.cons.inj quantities.2).2
  have quantity := quantity_name_inj (String.toList_inj.1 (List.reverse_inj.1 quantities.1))
  have part := part_name_inj (String.toList_inj.1 (List.reverse_inj.1 parts.1))
  refine ⟨name_end_inj parts.2, ?_⟩
  cases field
  cases other
  subst part quantity
  rfl

end Keys

end TraceOverhead
