import TraceOverhead.Proofs.Campaign.Requests
import TraceOverhead.Proofs.Cpu.Machine
/-!
Suites leave the CPUs alone. The one file that a pass writes is the count of the loop in the kernel,
and that is no CPU's switch; so whatever is answered, no CPU is switched while a suite runs.
-/

namespace TraceOverhead

open Dialogue

namespace Hotplug

def Spares (root : String) : Host.Request → Prop
  | .writeFile path _ => ∀ cpu, path ≠ switchPath root cpu
  | _ => True

def SparesAll (root : String) : Instruments.Request → Prop
  | .host request => Spares root request
  | _ => True

/-- Of files, at most the count of a loop in the kernel is written. -/
def WritesCount : Host.Request → Prop
  | .writeFile path _ => ∃ sysfs, path = Path.join sysfs "count"
  | _ => True

def WritesCountAll : Instruments.Request → Prop
  | .host request => WritesCount request
  | _ => True

variable {root : String}

theorem switched_of_spares {exchange : Exchange host} (spares : Spares root exchange.request)
    (states : CpuStates) : switched root states exchange = states := by
  fun_cases switched root states exchange with
  | case1 path content =>
      funext cpu
      exact if_neg (spares cpu)
  | case2 => rfl

theorem count_ne_switch_path (root sysfs : String) (cpu : Nat) :
    Path.join sysfs "count" ≠ switchPath root cpu :=
  Path.join_ne_of_getLast (by decide) (by decide) (by decide)

theorem spares_of_writes_count {request : Host.Request} (writes : WritesCount request) :
    Spares root request := by
  cases request with
  | writeFile path content =>
      obtain ⟨sysfs, rfl⟩ := writes
      exact count_ne_switch_path root sysfs
  | _ => trivial

end Hotplug

namespace Campaign

open Hotplug

variable {α : Type} {root : String}

def SparesLaw (root : String) (exchanges : List (Exchange instruments)) : Prop :=
  ∀ exchange ∈ exchanges, SparesAll root exchange.request

theorem spares_of_counts {exchanges : List (Exchange instruments)}
    (counts : Footprint WritesCountAll exchanges) : SparesLaw root exchanges := by
  intro exchange member
  have writes := counts exchange member
  obtain ⟨request, answer⟩ := exchange
  cases request with
  | host request => exact spares_of_writes_count writes
  | controller | releaseController | countEvents => trivial

theorem allows_counts (campaign : Campaign) : Allows campaign WritesCountAll := by
  constructor
  case kernel =>
    intro bench request _ work
    cases request with
    | writeFile path content => exact ⟨bench.sysfs, work⟩
    | _ => trivial
  case runner =>
    intro request work
    cases request with
    | writeFile => contradiction
    | _ => trivial
  case userTalk | kernelTalk =>
    intros
    rename_i request talk
    cases request with
    | host request =>
        cases request with
        | writeFile => contradiction
        | _ => trivial
    | controller | releaseController | countEvents => trivial
  case count | look | log => intros; trivial

theorem counts_suite (campaign : Campaign) : SuiteLaw campaign (Footprint WritesCountAll) :=
  footprint_suite (allows_counts campaign)

/-- While a suite runs no CPU is switched. -/
theorem cpus_unchanged_of_spares {exchanges : List (Exchange instruments)}
    (spares : SparesLaw root exchanges) {start finish : CpuStates}
    (machine : CpuRun root start (hostExchanges exchanges) finish) : finish = start := by
  apply cpu_run_still _ machine
  intro exchange member states
  obtain ⟨passed, there, held⟩ := List.mem_filterMap.1 member
  apply switched_of_spares
  have allowed := spares passed there
  obtain ⟨request, answer⟩ := passed
  cases request with
  | host request =>
      obtain rfl := Option.some.inj held
      exact allowed
  | controller | releaseController | countEvents => contradiction

end Campaign

end TraceOverhead
