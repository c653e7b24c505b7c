import Mathlib.Logic.Function.Basic
import TraceOverhead.Proofs.Kernel.Modules
/-!
Which modules are loaded, on a system that shows it and on which nothing inserts or removes a module
but the two programs for it. On such a system the record of the inserted modules lacks no module
that was inserted and is still loaded, up to the first removal that fails.
-/

namespace TraceOverhead

/-- Whether the module of a name is loaded. -/
abbrev ModuleStates := String → Bool

namespace ModuleStates

def next (states : ModuleStates) : Exchange host → ModuleStates
  | ⟨Host.Request.run program [argument], answer⟩ =>
    if Host.ranWell answer = true then
      if program = "insmod" then Function.update states (Path.fileStem argument) true
      else if program = "rmmod" then Function.update states argument false
      else states
    else states
  | _ => states

def after (states : ModuleStates) (asked : List (Exchange host)) : ModuleStates :=
  asked.foldl next states

/-- What a look at a path shows. It is right if one of the modules is shown there. -/
def Agrees (known : List KernelModule) (states : ModuleStates) (path : String) (loaded : Bool) :
    Prop :=
  ∀ module ∈ known, path = module.place → loaded = states module.name

instance decidableAgrees (known : List KernelModule) (states : ModuleStates) (path : String)
    (loaded : Bool) : Decidable (Agrees known states path loaded) :=
  inferInstanceAs (Decidable (∀ module ∈ known, path = module.place → loaded = states module.name))

def Shows (known : List KernelModule) (states : ModuleStates) : Exchange host → Prop
  | ⟨Host.Request.pathExists path, loaded⟩ => Agrees known states path loaded
  | _ => True

instance decidableShows (known : List KernelModule) (states : ModuleStates) :
    (exchange : Exchange host) → Decidable (Shows known states exchange)
  | ⟨.pathExists path, loaded⟩ => decidableAgrees known states path loaded
  | ⟨.run .., _⟩ | ⟨.readFile _, _⟩ | ⟨.writeFile .., _⟩ | ⟨.makeDirectories _, _⟩
  | ⟨.isDirectory _, _⟩ | ⟨.walk _, _⟩ | ⟨.temporaryDirectory _, _⟩ | ⟨.removeTree _, _⟩
  | ⟨.terminate _, _⟩ | ⟨.interrupted, _⟩ | ⟨.parallelism, _⟩ | ⟨.entropy, _⟩
  | ⟨.environment _, _⟩ | ⟨.time, _⟩ | ⟨.platform, _⟩ | ⟨.log .., _⟩ => .isTrue trivial

/-- All looks at the modules are right, and nothing but insertions and removals matters to them. -/
def Faithful (known : List KernelModule) : ModuleStates → List (Exchange host) → Prop
  | _, [] => True
  | states, exchange :: asked => Shows known states exchange ∧ Faithful known (states.next exchange) asked

instance decidableFaithful (known : List KernelModule) : (states : ModuleStates) →
    (asked : List (Exchange host)) → Decidable (Faithful known states asked)
  | _, [] => .isTrue trivial
  | states, exchange :: asked =>
    have := decidableFaithful known (states.next exchange) asked
    inferInstanceAs (Decidable (Shows known states exchange ∧
      Faithful known (states.next exchange) asked))

section Steps

variable {known : List KernelModule} {states : ModuleStates} {module : KernelModule}
  {first second asked : List (Exchange host)}

@[simp] theorem after_nil : states.after [] = states := rfl

@[simp] theorem after_cons (exchange : Exchange host) :
    states.after (exchange :: asked) = (states.next exchange).after asked := rfl

@[simp] theorem after_append : states.after (first ++ second) = (states.after first).after second :=
  List.foldl_append

@[simp] theorem faithful_nil : Faithful known states [] := trivial

@[simp] theorem faithful_cons {exchange : Exchange host} :
    Faithful known states (exchange :: asked) ↔
      Shows known states exchange ∧ Faithful known (states.next exchange) asked := Iff.rfl

@[simp] theorem faithful_append :
    Faithful known states (first ++ second) ↔
      Faithful known states first ∧ Faithful known (states.after first) second := by
  induction first generalizing states with
  | nil => simp
  | cons exchange first induction => simp [induction, and_assoc]

@[simp] theorem next_look (loaded : Bool) : states.next (module.look loaded) = states := rfl

@[simp] theorem next_tell (news : String) : states.next (module.tell news) = states := rfl

@[simp] theorem next_insert {answer : Except IoFailure Host.Output} :
    states.next (module.insert answer) =
      if Host.ranWell answer = true then Function.update states module.name true else states :=
  rfl

@[simp] theorem next_remove {answer : Except IoFailure Host.Output} :
    states.next (module.remove answer) =
      if Host.ranWell answer = true then Function.update states module.name false else states :=
  rfl

theorem shown {loaded : Bool} (shows : Shows known states (module.look loaded))
    (member : module ∈ known) : states module.name = loaded :=
  (shows module member rfl).symm

theorem after_of_aloof (aloof : ∀ exchange ∈ asked, Aloof exchange.request) :
    states.after asked = states := by
  induction asked with
  | nil => rfl
  | cons exchange asked induction =>
      rw [List.forall_mem_cons] at aloof
      have still : states.next exchange = states := by
        have apart := aloof.1
        fun_cases next states exchange with
        | case1 argument => exact absurd rfl apart.1
        | case2 argument => exact absurd rfl apart.2
        | case3 | case4 | case5 => rfl
      rw [after_cons, still, induction aloof.2]

/-- A loaded module stays until someone asks for its removal. -/
theorem loaded_of_not_removed {name : String} (loaded : states name = true)
    (spared : name ∉ removals asked) : states.after asked name = true := by
  induction asked generalizing states with
  | nil => exact loaded
  | cons exchange asked induction =>
      have first : removal? exchange ≠ some name ∧ name ∉ removals asked := by
        constructor
        · intro same
          exact spared (by simp [removals, same])
        · exact mt (List.Sublist.filterMap removal? (List.sublist_cons_self exchange asked)).mem spared
      apply induction _ first.2
      have apart := first.1
      fun_cases next states exchange with
      | case1 argument =>
          by_cases same : name = Path.fileStem argument <;> simp [same, loaded, Function.update]
      | case2 argument =>
          have other : name ≠ argument := fun same => apart (by simp [removal?, same])
          rwa [Function.update_of_ne other]
      | case3 | case4 | case5 => exact loaded

end Steps

end ModuleStates

namespace KernelBench

/-- The two modules do not have the same name, so none is taken for the other. -/
def Distinct (bench : KernelBench) : Prop := bench.main.name ≠ bench.probe.name

/-- What was inserted and is loaded is on record. -/
def Tracked (bench : KernelBench) (history : List (Exchange host)) (states : ModuleStates)
    (inserted : Inserted) : Prop :=
  ∀ module ∈ bench.modules, module.path ∈ insertions history → states module.name = true →
    module ∈ inserted

section Records

variable {bench : KernelBench} {history asked : List (Exchange host)} {states : ModuleStates}
  {inserted reached left : Inserted} {outcome : Except Error Unit}

theorem eq_of_name_eq (distinct : bench.Distinct) {first second : KernelModule}
    (known : first ∈ bench.modules) (other : second ∈ bench.modules)
    (same : first.name = second.name) : first = second := by
  simp only [modules, List.mem_cons, List.not_mem_nil, or_false] at known other
  rcases known with rfl | rfl <;> rcases other with rfl | rfl
  · rfl
  · exact absurd same distinct
  · exact absurd same.symm distinct
  · rfl

theorem name_eq_of_path_eq {first second : KernelModule} (same : first.path = second.path) :
    first.name = second.name := congrArg Path.fileStem same

theorem tracked_of_loading {modules : List KernelModule} (distinct : bench.Distinct)
    (known : ∀ module ∈ modules, module ∈ bench.modules)
    (loading : Loading modules inserted asked reached outcome)
    (tracked : bench.Tracked history states inserted) :
    bench.Tracked (history ++ asked) (states.after asked) reached := by
  induction loading generalizing history states with
  | done => simpa using tracked
  | failed module modules inserted failure badly => simpa [badly, Tracked] using tracked
  | present module rest induction =>
      rw [List.forall_mem_cons] at known
      simpa [Tracked] using induction known.2 tracked
  | @added module _ inserted _ _ _ answer well rest induction =>
      rw [List.forall_mem_cons] at known
      have pushed : bench.Tracked (history ++ [module.insert answer])
          (Function.update states module.name true) (module :: inserted) := by
        intro other member present loaded
        by_cases same : other = module
        · simp [same]
        · have apart := mt (eq_of_name_eq distinct member known.1) same
          simp [well, mt name_eq_of_path_eq apart] at present
          rw [Function.update_of_ne apart] at loaded
          exact List.mem_cons_of_mem _ (tracked other member present loaded)
      simpa [Tracked, well] using induction known.2 pushed

/-- What is worked off to the end is not loaded any more, so it need not be on record. -/
theorem tracked_of_unloading {others : Inserted}
    (known : ∀ module ∈ inserted, module ∈ bench.modules)
    (unloading : Unloading inserted asked left outcome) (ended : outcome = .ok ())
    (faithful : states.Faithful bench.modules asked)
    (tracked : bench.Tracked history states (inserted ++ others)) :
    bench.Tracked (history ++ asked) (states.after asked) others := by
  induction unloading generalizing history states with
  | done => simpa using tracked
  | failed => contradiction
  | @absent module inserted _ _ _ rest induction =>
      rw [List.forall_mem_cons] at known
      have gone : states module.name = false := ModuleStates.shown faithful.1 known.1
      have popped : bench.Tracked history states (inserted ++ others) := by
        intro other member present loaded
        have apart : other ≠ module := by
          intro same
          rw [same, gone] at loaded
          contradiction
        exact List.mem_of_ne_of_mem apart (tracked other member present loaded)
      simpa [Tracked] using induction known.2 ended faithful.2 popped
  | @removed module inserted _ _ _ answer well rest induction =>
      rw [List.forall_mem_cons] at known
      simp only [ModuleStates.faithful_cons, ModuleStates.next_look, ModuleStates.next_remove,
        ModuleStates.next_tell, well, if_true] at faithful
      have popped : bench.Tracked history (Function.update states module.name false)
          (inserted ++ others) := by
        intro other member present loaded
        by_cases same : other.name = module.name
        · simp [same] at loaded
        · rw [Function.update_of_ne same] at loaded
          have apart : other ≠ module := mt (congrArg KernelModule.name) same
          exact List.mem_of_ne_of_mem apart (tracked other member present loaded)
      simpa [Tracked, well] using induction known.2 ended faithful.2.2.2 popped

/-- What is on record is there once and is loaded. -/
structure Upright (states : ModuleStates) (inserted : Inserted) : Prop where
  nodup : inserted.Nodup
  loaded : ∀ module ∈ inserted, states module.name = true

theorem upright_of_loading {modules : List KernelModule}
    (loading : Loading modules inserted asked reached outcome)
    (listed : ∀ module ∈ modules, module ∈ bench.modules)
    (faithful : states.Faithful bench.modules asked) (upright : Upright states inserted) :
    Upright (states.after asked) reached := by
  induction loading generalizing states with
  | done => exact upright
  | failed module modules inserted failure badly => simpa [badly] using upright
  | present module rest induction =>
      exact induction (fun _ later => listed _ (.tail _ later)) faithful.2 upright
  | @added module _ inserted _ _ _ answer well rest induction =>
      simp only [ModuleStates.faithful_cons, ModuleStates.next_look, ModuleStates.next_insert,
        ModuleStates.next_tell, well, if_true] at faithful
      have gone := ModuleStates.shown faithful.1 (listed module (.head _))
      have pushed : Upright (Function.update states module.name true) (module :: inserted) := by
        constructor
        · refine List.nodup_cons.2 ⟨?_, upright.nodup⟩
          intro member
          rw [upright.loaded module member] at gone
          contradiction
        · intro other member
          by_cases same : other.name = module.name
          · simp [same]
          · rw [Function.update_of_ne same]
            have apart : other ≠ module := mt (congrArg KernelModule.name) same
            exact upright.loaded other (List.mem_of_ne_of_mem apart member)
      simpa [well] using induction (fun _ later => listed _ (.tail _ later)) faithful.2.2.2 pushed

end Records

end KernelBench

end TraceOverhead
