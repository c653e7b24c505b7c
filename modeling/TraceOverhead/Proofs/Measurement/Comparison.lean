import TraceOverhead.Proofs.Measurement.Sums
import TraceOverhead.Proofs.Number.Count
/-!
What one repetition of a benchmark measures. Main statement: the three lists of records give a
measurement unless a timestamp is missing that is needed, in which case the first one is named, and
each figure of the measurement is what it is said to be and is there exactly when it has a meaning.
Nothing is ever divided by zero.
-/

namespace TraceOverhead

open TimingRecord

/-- Among how many tracepoints the time in a loop is shared: all that were passed, as far as 64 bits
can count them. -/
def Benchmark.sharers (benchmark : Benchmark) (loops : UInt64) : Nat :=
  min (loops.toNat * benchmark.tracepointsPerLoop.toNat) (2 ^ 64 - 1)

/-- The figures of an instrumented run next to those of the plain one. -/
structure Compares (benchmark : Benchmark) (records : List TimingRecord) (base : BaselineResult)
    (result : TracingResult) : Prop where
  arguments : result.arguments = benchmark.instrumentedArguments
  sums : Totals.SumUp benchmark.loops.isSome records result.startTime result.runTime
  overhead : result.startOverhead = result.startTime - base.startTime
  percent : result.startOverheadPercent =
    if base.startTime == 0.0 then none else some (result.startOverhead * 100.0 / base.startTime)
  shared : result.perEvent.isSome ↔
    ∃ loops, benchmark.loops = some loops ∧ 1 ≤ loops.toNat ∧ 1 ≤ benchmark.tracepointsPerLoop.toNat
  perEvent : ∀ share, result.perEvent = some share →
    ∃ loops run baseRun, benchmark.loops = some loops ∧ result.runTime = some run ∧
      base.runTime = some baseRun ∧
      share = (run - baseRun) * 1e9 / Number.ofNat (benchmark.sharers loops) ∧
      (Number.ofNat (benchmark.sharers loops) == 0.0) = false

/-- A measurement that says of three lists of records what there is to be said. -/
structure Measures (benchmark : Benchmark) (base disabled enabled : List TimingRecord)
    (eventCount : Option UInt64) (measurement : UserMeasurement) : Prop where
  arguments : measurement.baseline.arguments = benchmark.baselineArguments
  sums : Totals.SumUp benchmark.loops.isSome base measurement.baseline.startTime
    measurement.baseline.runTime
  disabled : Compares benchmark disabled measurement.baseline measurement.tracingDisabled
  enabled : Compares benchmark enabled measurement.baseline measurement.tracingEnabled
  uncounted : measurement.tracingDisabled.eventCount = none
  counted : measurement.tracingEnabled.eventCount = eventCount

section Figures

variable {benchmark : Benchmark} {records others : List TimingRecord} {totals base : Totals}

theorem sharers_pos_iff {loops : UInt64} :
    0 < benchmark.sharers loops ↔ 1 ≤ loops.toNat ∧ 1 ≤ benchmark.tracepointsPerLoop.toNat := by
  have product : 0 < loops.toNat * benchmark.tracepointsPerLoop.toNat ↔
      0 < loops.toNat ∧ 0 < benchmark.tracepointsPerLoop.toNat := by
    simp only [Nat.pos_iff_ne_zero, Nat.mul_ne_zero_iff]
  rw [Benchmark.sharers]
  omega

/-- Without a loop there is no time that could be shared. -/
theorem per_event_eq (arguments : List String) (eventCount : Option UInt64)
    (ran : totals.run.isSome = benchmark.loops.isSome)
    (baseRan : base.run.isSome = benchmark.loops.isSome) :
    (benchmark.loops = none ∧
        (TracingResult.ofTotals arguments totals base benchmark.eventCount eventCount).perEvent =
          none) ∨
      ∃ loops run baseRun, benchmark.loops = some loops ∧ totals.run = some run ∧
        base.run = some baseRun ∧
        (TracingResult.ofTotals arguments totals base benchmark.eventCount eventCount).perEvent =
          if 0 < benchmark.sharers loops then
            some ((run - baseRun) * 1e9 / Number.ofNat (benchmark.sharers loops))
          else none := by
  cases looped : benchmark.loops with
  | none =>
      refine .inl ⟨rfl, ?_⟩
      rw [looped, Option.isSome_none, Option.isSome_eq_false_iff, Option.isNone_iff_eq_none] at ran
      simp only [TracingResult.ofTotals, ran]
  | some loops =>
      rw [looped] at ran baseRan
      obtain ⟨run, ran⟩ := Option.isSome_iff_exists.1 ran
      obtain ⟨baseRun, baseRan⟩ := Option.isSome_iff_exists.1 baseRan
      refine .inr ⟨loops, run, baseRun, rfl, ran, baseRan, ?_⟩
      have counted : benchmark.eventCount = some (benchmark.sharers loops) := by
        rw [Benchmark.eventCount, looped]
        rfl
      simp only [TracingResult.ofTotals, ran, baseRan, counted]
      rfl

theorem compares_of_totals (eventCount : Option UInt64)
    (sums : Totals.SumUp benchmark.loops.isSome records totals.start totals.run)
    (baseSums : Totals.SumUp benchmark.loops.isSome others base.start base.run) :
    Compares benchmark records ⟨benchmark.baselineArguments, base.start, base.run⟩
      (.ofTotals benchmark.instrumentedArguments totals base benchmark.eventCount eventCount) := by
  have shares := per_event_eq benchmark.instrumentedArguments eventCount sums.looped baseSums.looped
  refine ⟨rfl, sums, rfl, rfl, ?_, ?_⟩
  · rcases shares with ⟨plain, absent⟩ | ⟨loops, run, baseRun, looped, _, _, share⟩
    · simp [plain, absent]
    · simp only [looped, share, Option.some.injEq, exists_eq_left', ← sharers_pos_iff]
      split <;> simp_all
  · intro share present
    rcases shares with ⟨_, absent⟩ | ⟨loops, run, baseRun, looped, ran, baseRan, shared⟩
    · rw [absent] at present
      contradiction
    · rw [shared] at present
      split at present
      · rename_i positive
        exact ⟨loops, run, baseRun, looped, ran, baseRan, (Option.some.inj present).symm,
          Number.of_nat_not_zero positive⟩
      · contradiction

end Figures

section Outcomes

variable {benchmark : Benchmark} {base disabled enabled : List TimingRecord}
  {eventCount : Option UInt64}

theorem first_missing_append (looped : Bool) (first second : List TimingRecord) :
    firstMissing? looped (first ++ second) =
      (firstMissing? looped first).or (firstMissing? looped second) :=
  List.findSome?_append

theorem of_records_of_missing {field : Timestamp}
    (lacks : firstMissing? benchmark.loops.isSome (base ++ disabled ++ enabled) = some field) :
    UserMeasurement.ofRecords benchmark base disabled enabled eventCount =
      .error (.missingField field) := by
  rw [List.append_assoc, first_missing_append, first_missing_append] at lacks
  rw [UserMeasurement.ofRecords]
  cases first : firstMissing? benchmark.loops.isSome base with
  | some missing =>
      rw [first] at lacks
      rw [Totals.of_records_of_missing first, ← Option.some.inj lacks]
      rfl
  | none =>
      obtain ⟨baseTotals, baseSummed, _⟩ := Totals.of_records_of_complete first
      rw [first, Option.none_or] at lacks
      rw [baseSummed]
      cases second : firstMissing? benchmark.loops.isSome disabled with
      | some missing =>
          rw [second] at lacks
          rw [Totals.of_records_of_missing second, ← Option.some.inj lacks]
          rfl
      | none =>
          obtain ⟨disabledTotals, disabledSummed, _⟩ := Totals.of_records_of_complete second
          rw [second, Option.none_or] at lacks
          rw [disabledSummed, Totals.of_records_of_missing lacks]
          rfl

theorem of_records_of_complete
    (complete : firstMissing? benchmark.loops.isSome (base ++ disabled ++ enabled) = none) :
    ∃ measurement, UserMeasurement.ofRecords benchmark base disabled enabled eventCount =
        .ok measurement ∧
      Measures benchmark base disabled enabled eventCount measurement := by
  rw [first_missing_append, first_missing_append, Option.or_eq_none_iff, Option.or_eq_none_iff]
    at complete
  obtain ⟨baseTotals, baseSummed, baseSums⟩ := Totals.of_records_of_complete complete.1.1
  obtain ⟨disabledTotals, disabledSummed, disabledSums⟩ :=
    Totals.of_records_of_complete complete.1.2
  obtain ⟨enabledTotals, enabledSummed, enabledSums⟩ := Totals.of_records_of_complete complete.2
  rw [UserMeasurement.ofRecords, baseSummed, disabledSummed, enabledSummed]
  exact ⟨_, rfl, rfl, baseSums, compares_of_totals none disabledSums baseSums,
    compares_of_totals eventCount enabledSums baseSums, rfl, rfl⟩

/-- Which lists of records give a measurement, what is reported of the others, and what is measured. -/
theorem measurement_of_records (benchmark : Benchmark) (base disabled enabled : List TimingRecord)
    (eventCount : Option UInt64) :
    (∀ failure, UserMeasurement.ofRecords benchmark base disabled enabled eventCount =
          .error failure ↔
        ∃ field, firstMissing? benchmark.loops.isSome (base ++ disabled ++ enabled) = some field ∧
          failure = .missingField field) ∧
      ((∃ failure, UserMeasurement.ofRecords benchmark base disabled enabled eventCount =
          .error failure) ↔
        ∃ record ∈ base ++ disabled ++ enabled, record.main = none ∨ record.exec = none ∨
          benchmark.loops.isSome ∧ (record.finish = none ∨ record.start = none)) ∧
      ∀ measurement, UserMeasurement.ofRecords benchmark base disabled enabled eventCount =
          .ok measurement →
        Measures benchmark base disabled enabled eventCount measurement := by
  have lacking : (firstMissing? benchmark.loops.isSome (base ++ disabled ++ enabled)).isSome ↔
      ∃ record ∈ base ++ disabled ++ enabled, record.main = none ∨ record.exec = none ∨
        benchmark.loops.isSome ∧ (record.finish = none ∨ record.start = none) := by
    simp only [firstMissing?, List.findSome?_isSome_iff, missing_iff]
  rw [← lacking]
  cases first : firstMissing? benchmark.loops.isSome (base ++ disabled ++ enabled) with
  | some field =>
      rw [of_records_of_missing first]
      simp [eq_comm]
  | none =>
      obtain ⟨measurement, measured, measures⟩ := of_records_of_complete first
      rw [measured]
      simpa using measures

end Outcomes

def stampedRecord (exec main start finish : Float) : TimingRecord :=
  ⟨some exec, some main, some start, some finish⟩

/-- A loop whose tracepoints are more than 64 bits can count. -/
def vastBenchmark : Benchmark :=
  { Benchmark.ofPrograms "plain" "traced" with loops := some 0x8000000000000000, tracepointsPerLoop := 4 }

/-- More tracepoints than can be counted, and a traced run that never reached its loop. It is the end
of the loop that is missed first there, whatever the next record lacks. -/
theorem measurement_of_vast_loop :
    (∃ measurement,
        UserMeasurement.ofRecords vastBenchmark
          [stampedRecord 0 0.5 1 2, stampedRecord 0 0.25 1 2] [stampedRecord 0 1 1 3] []
          (some 7) = .ok measurement ∧
        Measures vastBenchmark [stampedRecord 0 0.5 1 2, stampedRecord 0 0.25 1 2]
          [stampedRecord 0 1 1 3] [] (some 7) measurement ∧
        vastBenchmark.sharers 0x8000000000000000 = 2 ^ 64 - 1) ∧
      UserMeasurement.ofRecords vastBenchmark [stampedRecord 0 0.5 1 2] [stampedRecord 0 1 1 3]
          [⟨some 0, some 1, none, none⟩, ⟨none, none, none, none⟩] (some 7) =
        .error (.missingField .finish) := by
  refine ⟨⟨_, rfl, ?_, rfl⟩, ?_⟩
  · exact (measurement_of_records vastBenchmark _ _ _ _).2.2 _ rfl
  · exact ((measurement_of_records vastBenchmark _ _ _ _).1 _).2 ⟨.finish, rfl, rfl⟩

end TraceOverhead
