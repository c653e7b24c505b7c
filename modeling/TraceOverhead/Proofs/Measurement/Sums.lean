import Mathlib.Data.List.Forall2
import TraceOverhead.Measurement
/-!
Sums over timing records. The records are gone through once, and each is asked for its timestamps in
a fixed order. Main statement: summing fails at the first timestamp that is needed and not there, and
if none is missing it gives the times between two timestamps, added up in the order of the records.
-/

namespace TraceOverhead

namespace TimingRecord

/-- The timestamps that a record has to have, in the order in which they are asked for. -/
def needed (looped : Bool) : List Timestamp :=
  if looped then [.main, .exec, .finish, .start] else [.main, .exec]

def missing? (looped : Bool) (record : TimingRecord) : Option Timestamp :=
  (needed looped).find? fun field => (record.timestamp field).isNone

/-- The first timestamp that is needed and not there. -/
def firstMissing? (looped : Bool) (records : List TimingRecord) : Option Timestamp :=
  records.findSome? (missing? looped)

/-- The time between two timestamps of a record that has both. -/
def IsSpan (later earlier : Timestamp) (record : TimingRecord) (span : Float) : Prop :=
  ∃ reached left, record.timestamp later = some reached ∧ record.timestamp earlier = some left ∧
    span = reached - left

/-- The times between two timestamps, added record by record to what there is. -/
def AddsUp (later earlier : Timestamp) (records : List TimingRecord) (start sum : Float) : Prop :=
  ∃ spans, List.Forall₂ (IsSpan later earlier) records spans ∧ sum = spans.foldl (· + ·) start

theorem missing_iff {looped : Bool} {record : TimingRecord} :
    (missing? looped record).isSome ↔ record.main = none ∨ record.exec = none ∨
      looped ∧ (record.finish = none ∨ record.start = none) := by
  cases looped <;> simp [missing?, needed, timestamp]

theorem adds_up_cons {later earlier : Timestamp} {record : TimingRecord}
    {records : List TimingRecord} {start span sum : Float}
    (first : IsSpan later earlier record span)
    (rest : AddsUp later earlier records (start + span) sum) :
    AddsUp later earlier (record :: records) start sum := by
  obtain ⟨spans, each, rfl⟩ := rest
  exact ⟨span :: spans, .cons first each, rfl⟩

end TimingRecord

namespace Totals

open TimingRecord

/-- Adds what one record has to say to the sums. -/
def addRecord (looped : Bool) (sums : Float × Float) (record : TimingRecord) :
    Except Error (Float × Float) := do
  let start := sums.1 + (← record.startup)
  if looped then return (start, sums.2 + (← record.run)) else return (start, sums.2)

theorem of_records_eq (looped : Bool) (records : List TimingRecord) :
    ofRecords looped records = (do
      let sums ← records.foldlM (addRecord looped) ((0.0 : Float), (0.0 : Float))
      return ⟨sums.1, if looped then some sums.2 else none⟩) := rfl

variable {looped : Bool} {record : TimingRecord} {records : List TimingRecord}
  {sums : Float × Float} {field : Timestamp}

theorem add_record_of_missing (lacks : missing? looped record = some field) :
    addRecord looped sums record = .error (.missingField field) := by
  rcases record with ⟨exec, main, start, finish⟩
  cases looped <;> cases main <;> cases exec <;> cases finish <;> cases start <;>
    first
    | contradiction
    | rw [← Option.some.inj lacks]; rfl

theorem add_record_of_complete (complete : missing? looped record = none) :
    ∃ ended, addRecord looped sums record = .ok ended ∧
      (∃ span, IsSpan .main .exec record span ∧ ended.1 = sums.1 + span) ∧
      (looped → ∃ span, IsSpan .finish .start record span ∧ ended.2 = sums.2 + span) := by
  have there : ¬ (missing? looped record).isSome := by simp [complete]
  rw [missing_iff, not_or, not_or] at there
  rcases record with ⟨exec, main, start, finish⟩
  obtain ⟨reached, rfl⟩ := Option.ne_none_iff_exists'.1 there.1
  obtain ⟨left, rfl⟩ := Option.ne_none_iff_exists'.1 there.2.1
  have begun : IsSpan .main .exec ⟨some left, some reached, start, finish⟩ (reached - left) :=
    ⟨reached, left, rfl, rfl, rfl⟩
  cases looped with
  | false => exact ⟨_, rfl, ⟨_, begun, rfl⟩, by simp⟩
  | true =>
      have loop := not_or.1 (not_and.1 there.2.2 rfl)
      obtain ⟨last, rfl⟩ := Option.ne_none_iff_exists'.1 loop.1
      obtain ⟨first, rfl⟩ := Option.ne_none_iff_exists'.1 loop.2
      have lap : IsSpan .finish .start ⟨some left, some reached, some first, some last⟩
          (last - first) :=
        ⟨last, first, rfl, rfl, rfl⟩
      exact ⟨_, rfl, ⟨_, begun, rfl⟩, fun _ => ⟨_, lap, rfl⟩⟩

theorem fold_of_missing (lacks : firstMissing? looped records = some field) :
    records.foldlM (addRecord looped) sums = .error (.missingField field) := by
  induction records generalizing sums with
  | nil => contradiction
  | cons record records induction =>
      rw [firstMissing?, List.findSome?_cons] at lacks
      rw [List.foldlM_cons]
      cases here : missing? looped record with
      | some first =>
          rw [here] at lacks
          rw [add_record_of_missing here, ← Option.some.inj lacks]
          rfl
      | none =>
          rw [here] at lacks
          obtain ⟨ended, added, _⟩ := add_record_of_complete here
          rw [added]
          exact induction lacks

theorem fold_of_complete (complete : firstMissing? looped records = none) :
    ∃ ended, records.foldlM (addRecord looped) sums = .ok ended ∧
      AddsUp .main .exec records sums.1 ended.1 ∧
      (looped → AddsUp .finish .start records sums.2 ended.2) := by
  induction records generalizing sums with
  | nil => exact ⟨sums, rfl, ⟨[], .nil, rfl⟩, fun _ => ⟨[], .nil, rfl⟩⟩
  | cons record records induction =>
      rw [firstMissing?, List.findSome?_eq_none_iff] at complete
      have others : firstMissing? looped records = none := by
        rw [firstMissing?, List.findSome?_eq_none_iff]
        exact fun other member => complete other (List.mem_cons_of_mem _ member)
      obtain ⟨middle, added, ⟨span, begun, total⟩, looping⟩ :=
        add_record_of_complete (complete record List.mem_cons_self)
      obtain ⟨ended, folded, starts, loops⟩ := induction others
      refine ⟨ended, ?_, ?_, ?_⟩
      · rw [List.foldlM_cons, added]
        exact folded
      · rw [total] at starts
        exact adds_up_cons begun starts
      · intro looped
        obtain ⟨lap, run, amount⟩ := looping looped
        have further := loops looped
        rw [amount] at further
        exact adds_up_cons run further

theorem of_records_of_missing (lacks : firstMissing? looped records = some field) :
    ofRecords looped records = .error (.missingField field) := by
  rw [of_records_eq, fold_of_missing lacks]
  rfl

/-- What the records of a run sum up to. There is a time in the loop exactly if there is a loop. -/
structure SumUp (looped : Bool) (records : List TimingRecord) (start : Float)
    (run : Option Float) : Prop where
  start : AddsUp .main .exec records 0.0 start
  looped : run.isSome = looped
  run : ∀ time, run = some time → AddsUp .finish .start records 0.0 time

theorem of_records_of_complete (complete : firstMissing? looped records = none) :
    ∃ totals, ofRecords looped records = .ok totals ∧
      SumUp looped records totals.start totals.run := by
  obtain ⟨ended, folded, starts, loops⟩ := fold_of_complete complete
  rw [of_records_eq, folded]
  refine ⟨_, rfl, starts, by cases looped <;> rfl, ?_⟩
  intro time ran
  cases looped with
  | false => contradiction
  | true =>
      rw [← Option.some.inj ran]
      exact loops rfl

end Totals
end TraceOverhead
