import TraceOverhead.Pass
import TraceOverhead.Proofs.Flatten.Separable
/-!
The leaves of a pass have paths of their own in both styles, whatever the benchmark is called.
-/

namespace TraceOverhead

open Flatten

variable {style : IndexStyle}

theorem separable_baseline (result : BaselineResult) : Separable style result.toJson := by
  apply separable_record ["args", "start_time", "run_time"] rfl (by decide)
    (by cases style <;> decide)
  simp only [List.forall_mem_cons]
  refine ⟨separable_strings _, separable_float _, separable_optional separable_float _, ?_⟩
  simp

theorem separable_tracing (result : TracingResult) : Separable style result.toJson := by
  rw [TracingResult.toJson]
  cases result.eventCount with
  | none =>
      apply separable_record ["args", "start_time", "run_time", "ns_per_event",
        "start_overhead_s", "start_overhead_pct"] rfl (by decide) (by cases style <;> decide)
      simp [separable_strings, separable_float, separable_optional separable_float]
  | some count =>
      apply separable_record ["args", "start_time", "run_time", "ns_per_event",
        "start_overhead_s", "start_overhead_pct", "event_count"] rfl (by decide)
        (by cases style <;> decide)
      have counted : Separable style (Json.natural count.toNat) := Separable.scalar _ rfl
      simp [separable_strings, separable_float, separable_optional separable_float, counted]

theorem separable_result (result : PassResult) : Separable style result.toJson := by
  cases result with
  | user measurement =>
      apply separable_record ["baseline", "tracing_disabled", "tracing_enabled"] rfl (by decide)
        (by cases style <;> decide)
      simp [separable_baseline, separable_tracing]
  | kernel measurement =>
      have base : Separable style (.object [("run_time", Json.float measurement.baseRun)]) :=
        Separable.single _ _ (separable_float _)
      have traced : Separable style (.object [("run_time", Json.float measurement.tracedRun),
          ("ns_per_event", Json.float measurement.perEvent)]) := by
        apply separable_record ["run_time", "ns_per_event"] rfl (by decide)
          (by cases style <;> decide)
        simp [separable_float]
      apply separable_record ["baseline", "tracing_enabled"] rfl (by decide)
        (by cases style <;> decide)
      simp [base, traced]

theorem separable_pass (pass : Pass) : Separable style pass.toJson :=
  Separable.single pass.name pass.result.toJson (separable_result pass.result)

end TraceOverhead
