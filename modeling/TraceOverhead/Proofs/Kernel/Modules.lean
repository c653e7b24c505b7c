import TraceOverhead.Kernel
import TraceOverhead.Proofs.Host
/-!
The kernel modules of the benchmark: what the benchmark asks for at most, and what loading and
unloading come to, step by step, whatever is answered. Insertions and removals are read off what was
asked, so that whoever else asks for them is seen as well.
-/

namespace TraceOverhead

open Dialogue

namespace KernelModule

variable {module : KernelModule} {asked : List (Exchange host)}

/-- Where the system shows a module as long as it is loaded. -/
def place (module : KernelModule) : String := Path.join module.root module.name

def look (module : KernelModule) (loaded : Bool) : Exchange host :=
  ⟨Host.Request.pathExists module.place, loaded⟩

def insert (module : KernelModule) (answer : Except IoFailure Host.Output) : Exchange host :=
  ⟨Host.Request.run "insmod" [module.path], answer⟩

def remove (module : KernelModule) (answer : Except IoFailure Host.Output) : Exchange host :=
  ⟨Host.Request.run "rmmod" [module.name], answer⟩

def tell (module : KernelModule) (news : String) : Exchange host :=
  ⟨Host.Request.log .info (news ++ module.name), ()⟩

/-- A module is inserted unless it is there. -/
theorem load_cases {outcome : Except Error Bool}
    (course : Course module.load.outcome asked outcome) :
    (asked = [module.look true] ∧ outcome = .ok false) ∨
    (∃ answer failure, Host.ranWell answer = false ∧
      asked = [module.look false, module.insert answer] ∧ outcome = .error failure) ∨
    ∃ answer, Host.ranWell answer = true ∧
      asked = [module.look false, module.insert answer, module.tell "loaded "] ∧
      outcome = .ok true := by
  obtain ⟨loaded, others, continued, rfl⟩ := course_request_bind_iff.1 course
  cases loaded with
  | true =>
      obtain ⟨rfl, rfl⟩ := course_outcome_pure_iff.1 continued
      exact .inl ⟨rfl, rfl⟩
  | false =>
      right
      rcases course_outcome_bind_iff.1 continued with
        ⟨failure, inserting, rfl⟩ | ⟨first, _, rest, inserting, told, rfl⟩
      · obtain ⟨answer, rfl, badly⟩ := Host.ran_of_course_discard inserting
        exact .inl ⟨answer, failure, badly, rfl, rfl⟩
      · obtain ⟨answer, rfl, well⟩ := Host.ran_of_course_discard inserting
        obtain ⟨_, others, ended, rfl⟩ := course_request_bind_iff.1 told
        obtain ⟨rfl, rfl⟩ := course_outcome_pure_iff.1 ended
        exact .inr ⟨answer, well, rfl, rfl⟩

/-- A module is removed unless it is not there. -/
theorem unload_cases {outcome : Except Error Unit}
    (course : Course module.unload.outcome asked outcome) :
    (asked = [module.look false] ∧ outcome = .ok ()) ∨
    (∃ answer failure, Host.ranWell answer = false ∧
      asked = [module.look true, module.remove answer] ∧ outcome = .error failure) ∨
    ∃ answer, Host.ranWell answer = true ∧
      asked = [module.look true, module.remove answer, module.tell "unloaded "] ∧
      outcome = .ok () := by
  obtain ⟨loaded, others, continued, rfl⟩ := course_request_bind_iff.1 course
  cases loaded with
  | false =>
      obtain ⟨rfl, rfl⟩ := course_outcome_pure_iff.1 continued
      exact .inl ⟨rfl, rfl⟩
  | true =>
      right
      rcases course_outcome_bind_iff.1 continued with
        ⟨failure, removing, rfl⟩ | ⟨first, _, rest, removing, told, rfl⟩
      · obtain ⟨answer, rfl, badly⟩ := Host.ran_of_course_discard removing
        exact .inl ⟨answer, failure, badly, rfl, rfl⟩
      · obtain ⟨answer, rfl, well⟩ := Host.ran_of_course_discard removing
        obtain ⟨_, others, ended, rfl⟩ := course_request_bind_iff.1 told
        obtain ⟨rfl, rfl⟩ := course_done_iff.1 ended
        exact .inr ⟨answer, well, rfl, rfl⟩

end KernelModule

namespace KernelBench

/-- The modules in the order in which they are inserted. -/
def modules (bench : KernelBench) : List KernelModule := [bench.main, bench.probe]

/-- What the benchmark in the kernel asks for as long as it is needed. -/
def Work (bench : KernelBench) : Host.Request → Prop
  | .pathExists path => ∃ module ∈ bench.modules, path = module.place
  | .run program arguments =>
    program = "insmod" ∧ ∃ module ∈ bench.modules, arguments = [module.path]
  | .writeFile path _ => path = Path.join bench.sysfs "count"
  | .readFile _ | .log .. => True
  | _ => False

variable {bench : KernelBench}

theorem asks_load {module : KernelModule} (known : module ∈ bench.modules) :
    Asks bench.Work module.load.outcome := by
  have looked : Asks bench.Work module.isLoaded := ⟨⟨module, known, rfl⟩, fun _ => trivial⟩
  apply Attempt.asks_bind (Attempt.asks_lift looked)
  intro loaded
  cases loaded with
  | true => trivial
  | false =>
      apply Attempt.asks_bind
      · apply Dialogue.asks_bind (Host.asks_output ⟨rfl, module, known, rfl⟩)
        intro outcome
        cases outcome <;> trivial
      · intro _
        exact Attempt.asks_bind (Attempt.asks_lift (Host.asks_ask trivial)) fun _ => trivial

theorem asks_load_all {modules : List KernelModule} (known : ∀ module ∈ modules, module ∈ bench.modules)
    (inserted : Inserted) : Asks bench.Work (loadAll modules inserted) := by
  induction modules generalizing inserted with
  | nil => trivial
  | cons module modules induction =>
      rw [List.forall_mem_cons] at known
      apply Dialogue.asks_bind (asks_load known.1)
      intro outcome
      cases outcome with
      | error failure => trivial
      | ok added => cases added <;> exact induction known.2 _

theorem asks_run_loop (bench : KernelBench) (count : UInt64) :
    Asks bench.Work (bench.runLoop count).outcome := by
  apply Attempt.asks_bind
  · exact Host.asks_write_text rfl
  · intro _
    exact Attempt.asks_bind (Host.asks_read_text trivial) fun _ => trivial

theorem asks_benchmark (bench : KernelBench) (count : UInt64) (inserted : Inserted) :
    Asks bench.Work (bench.benchmark count inserted) := by
  apply Dialogue.asks_bind (asks_load_all (fun _ known => known) inserted)
  intro loaded
  obtain ⟨inserted, outcome⟩ := loaded
  cases outcome with
  | error failure => trivial
  | ok => exact Dialogue.asks_bind (asks_run_loop bench count) fun _ => trivial

theorem asks_events (bench : KernelBench) : Asks bench.Work bench.events.outcome :=
  Attempt.asks_bind (Host.asks_read_text trivial) fun _ => trivial

end KernelBench

/-- The file of a module that was inserted. -/
def insertion? : Exchange host → Option String
  | ⟨Host.Request.run program [path], answer⟩ =>
    if program = "insmod" ∧ Host.ranWell answer = true then some path else none
  | _ => none

/-- The name of a module that was to be removed, whether it was removed or not. -/
def removal? : Exchange host → Option String
  | ⟨Host.Request.run program [name], _⟩ => if program = "rmmod" then some name else none
  | _ => none

/-- Where a module was looked for and not found. -/
def absence? : Exchange host → Option String
  | ⟨Host.Request.pathExists path, false⟩ => some path
  | _ => none

def insertions (asked : List (Exchange host)) : List String := asked.filterMap insertion?

def removals (asked : List (Exchange host)) : List String := asked.filterMap removal?

def absences (asked : List (Exchange host)) : List String := asked.filterMap absence?

/-- A program that is not one of the two for modules. -/
def Harmless (program : String) : Prop := program ≠ "insmod" ∧ program ≠ "rmmod"

/-- What neither inserts nor removes a module. -/
def Aloof : Host.Request → Prop
  | .run program _ => Harmless program
  | _ => True

section Tallies

variable {module : KernelModule} {first second asked : List (Exchange host)}

@[simp] theorem insertions_nil : insertions [] = [] := rfl

@[simp] theorem removals_nil : removals [] = [] := rfl

@[simp] theorem insertions_append : insertions (first ++ second) = insertions first ++ insertions second :=
  List.filterMap_append

@[simp] theorem removals_append : removals (first ++ second) = removals first ++ removals second :=
  List.filterMap_append

@[simp] theorem absences_append : absences (first ++ second) = absences first ++ absences second :=
  List.filterMap_append

@[simp] theorem absences_present : absences (module.look true :: asked) = absences asked := rfl

@[simp] theorem absences_absent : absences (module.look false :: asked) = module.place :: absences asked :=
  rfl

@[simp] theorem absences_insert {answer : Except IoFailure Host.Output} :
    absences (module.insert answer :: asked) = absences asked := rfl

@[simp] theorem absences_tell (news : String) :
    absences (module.tell news :: asked) = absences asked := rfl

@[simp] theorem insertions_look (loaded : Bool) :
    insertions (module.look loaded :: asked) = insertions asked := rfl

@[simp] theorem insertions_insert {answer : Except IoFailure Host.Output} :
    insertions (module.insert answer :: asked) =
      (if Host.ranWell answer = true then [module.path] else []) ++ insertions asked := by
  cases well : Host.ranWell answer with
  | false => exact List.filterMap_cons_none (if_neg fun inserted => by simp [well] at inserted)
  | true => exact List.filterMap_cons_some (if_pos ⟨rfl, well⟩)

@[simp] theorem insertions_remove {answer : Except IoFailure Host.Output} :
    insertions (module.remove answer :: asked) = insertions asked := rfl

@[simp] theorem insertions_tell (news : String) :
    insertions (module.tell news :: asked) = insertions asked := rfl

@[simp] theorem removals_look (loaded : Bool) :
    removals (module.look loaded :: asked) = removals asked := rfl

@[simp] theorem removals_insert {answer : Except IoFailure Host.Output} :
    removals (module.insert answer :: asked) = removals asked := rfl

@[simp] theorem removals_remove {answer : Except IoFailure Host.Output} :
    removals (module.remove answer :: asked) = module.name :: removals asked := rfl

@[simp] theorem removals_tell (news : String) :
    removals (module.tell news :: asked) = removals asked := rfl

theorem insertions_of_aloof (aloof : ∀ exchange ∈ asked, Aloof exchange.request) :
    insertions asked = [] := by
  apply List.filterMap_eq_nil_iff.2
  intro exchange member
  have apart := aloof exchange member
  fun_cases insertion? exchange with
  | case1 program path answer inserted => exact absurd inserted.1 apart.1
  | case2 | case3 => rfl

theorem removals_of_aloof (aloof : ∀ exchange ∈ asked, Aloof exchange.request) :
    removals asked = [] := by
  apply List.filterMap_eq_nil_iff.2
  intro exchange member
  have apart := aloof exchange member
  fun_cases removal? exchange with
  | case1 name answer => exact absurd rfl apart.2
  | case2 | case3 => rfl

end Tallies

namespace KernelBench

/-- How modules are inserted that are not loaded, one after the other, until one cannot be. -/
inductive Loading : List KernelModule → Inserted → List (Exchange host) → Inserted →
    Except Error Unit → Prop
  | done (inserted : Inserted) : Loading [] inserted [] inserted (.ok ())
  | present (module : KernelModule) {modules inserted asked reached outcome}
      (rest : Loading modules inserted asked reached outcome) :
      Loading (module :: modules) inserted (module.look true :: asked) reached outcome
  | added (module : KernelModule) {modules inserted asked reached outcome answer}
      (well : Host.ranWell answer = true)
      (rest : Loading modules (module :: inserted) asked reached outcome) :
      Loading (module :: modules) inserted
        (module.look false :: module.insert answer :: module.tell "loaded " :: asked) reached outcome
  | failed (module : KernelModule) (modules : List KernelModule) (inserted : Inserted) {answer}
      (failure : Error) (badly : Host.ranWell answer = false) :
      Loading (module :: modules) inserted [module.look false, module.insert answer] inserted
        (.error failure)

/-- How the record of the inserted modules is worked off until a module cannot be removed. -/
inductive Unloading : Inserted → List (Exchange host) → Inserted → Except Error Unit → Prop
  | done : Unloading [] [] [] (.ok ())
  | absent (module : KernelModule) {inserted asked left outcome}
      (rest : Unloading inserted asked left outcome) :
      Unloading (module :: inserted) (module.look false :: asked) left outcome
  | removed (module : KernelModule) {inserted asked left outcome answer}
      (well : Host.ranWell answer = true) (rest : Unloading inserted asked left outcome) :
      Unloading (module :: inserted)
        (module.look true :: module.remove answer :: module.tell "unloaded " :: asked) left outcome
  | failed (module : KernelModule) (inserted : Inserted) {answer} (failure : Error)
      (badly : Host.ranWell answer = false) :
      Unloading (module :: inserted) [module.look true, module.remove answer] inserted
        (.error failure)

variable {bench : KernelBench} {asked : List (Exchange host)} {inserted reached left : Inserted}
  {outcome : Except Error Unit}

theorem loading_of_course {modules : List KernelModule}
    (course : Course (loadAll modules inserted) asked (reached, outcome)) :
    Loading modules inserted asked reached outcome := by
  induction modules generalizing inserted asked with
  | nil =>
      obtain ⟨rfl, same⟩ := course_done_iff.1 course
      obtain ⟨rfl, rfl⟩ := Prod.mk.inj same
      exact .done reached
  | cons module modules induction =>
      obtain ⟨first, outcome, rest, loading, continued, rfl⟩ := course_bind_iff.1 course
      rcases KernelModule.load_cases loading with
        ⟨rfl, rfl⟩ | ⟨answer, failure, badly, rfl, rfl⟩ | ⟨answer, well, rfl, rfl⟩
      · exact .present module (induction continued)
      · obtain ⟨rfl, same⟩ := course_done_iff.1 continued
        obtain ⟨rfl, rfl⟩ := Prod.mk.inj same
        exact .failed module modules reached failure badly
      · exact .added module well (induction continued)

theorem unloading_of_course (course : Course (unload inserted) asked (left, outcome)) :
    Unloading inserted asked left outcome := by
  induction inserted generalizing asked with
  | nil =>
      obtain ⟨rfl, same⟩ := course_done_iff.1 course
      obtain ⟨rfl, rfl⟩ := Prod.mk.inj same
      exact .done
  | cons module inserted induction =>
      obtain ⟨first, ended, rest, unloading, continued, rfl⟩ := course_bind_iff.1 course
      rcases KernelModule.unload_cases unloading with
        ⟨rfl, rfl⟩ | ⟨answer, failure, badly, rfl, rfl⟩ | ⟨answer, well, rfl, rfl⟩
      · exact .absent module (induction continued)
      · obtain ⟨rfl, same⟩ := course_done_iff.1 continued
        obtain ⟨rfl, rfl⟩ := Prod.mk.inj same
        exact .failed module left failure badly
      · exact .removed module well (induction continued)

/-- To release is to work off the record and at most to complain. -/
theorem unloading_of_release (course : Course (release inserted) asked left) :
    ∃ first rest ended, Unloading inserted first left ended ∧
      (∀ exchange ∈ rest, Aloof exchange.request) ∧ asked = first ++ rest := by
  obtain ⟨first, ⟨reached, ended⟩, rest, unloading, continued, rfl⟩ := course_bind_iff.1 course
  cases ended with
  | ok =>
      obtain ⟨rfl, rfl⟩ := course_done_iff.1 continued
      exact ⟨first, [], .ok (), unloading_of_course unloading, by simp, rfl⟩
  | error failure =>
      obtain ⟨_, others, finished, rfl⟩ := course_request_bind_iff.1 continued
      obtain ⟨rfl, rfl⟩ := course_done_iff.1 finished
      exact ⟨first, _, .error failure, unloading_of_course unloading, by simp [Aloof], rfl⟩

theorem aloof_run_loop (bench : KernelBench) (count : UInt64) :
    Asks Aloof (bench.runLoop count).outcome := by
  apply Attempt.asks_bind
  · exact Host.asks_write_text trivial
  · intro _
    exact Attempt.asks_bind (Host.asks_read_text trivial) fun _ => trivial

/-- The benchmark loads its modules, and what else it does is nothing to them. -/
theorem loading_of_benchmark {count : UInt64} {time : Except Error Float}
    (course : Course (bench.benchmark count inserted) asked (reached, time)) :
    ∃ first loaded rest, Loading bench.modules inserted first reached loaded ∧
      (∀ exchange ∈ rest, Aloof exchange.request) ∧ asked = first ++ rest := by
  obtain ⟨first, ⟨_, loaded⟩, rest, loading, continued, rfl⟩ := course_bind_iff.1 course
  cases loaded with
  | error failure =>
      obtain ⟨rfl, same⟩ := course_done_iff.1 continued
      obtain ⟨rfl, _⟩ := Prod.mk.inj same
      exact ⟨first, .error failure, [], loading_of_course loading, by simp, rfl⟩
  | ok =>
      obtain ⟨_, timed, same⟩ := course_bind_done_iff.1 continued
      obtain ⟨rfl, _⟩ := Prod.mk.inj same
      exact ⟨first, .ok (), rest, loading_of_course loading,
        allowed_of_course timed (aloof_run_loop bench count), rfl⟩

end KernelBench
end TraceOverhead
