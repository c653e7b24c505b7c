import TraceOverhead.Proofs.File.Tree
import TraceOverhead.Proofs.Host
import TraceOverhead.Proofs.Json.Place
import TraceOverhead.Session.Workspace
/-!
Scratch spaces. The name of a seed is one step of a path, of a length that no draw changes, and it
keeps every digit of its draws; behind it each session has its number as a step of its own. Main
statement: of the trace directories of a scratch space none is another one or lies in one, and none
holds the pidfile.
-/

namespace TraceOverhead

open Dialogue

/-- What the next session is to record. -/
structure SessionRequest where
  domain : Domain
  events : List String
  snapshot : Bool
  deriving DecidableEq, Repr

namespace Workspace

open FileTree

section Names

def isLowerHex (character : Char) : Bool :=
  character.isDigit || ('a' ≤ character && character ≤ 'f')

/-- Hexadecimal digits of a number, in lower case and of a given width. -/
structure Digits (width number : Nat) (digits : List Char) : Prop where
  width : digits.length = width
  lower : ∀ character ∈ digits, isLowerHex character
  value : Json.hexValue digits = number

/-- The draws of a seed that its session name is made of: 32, 16 and 48 bits. -/
def nameDraws (seed : UInt64) : UInt32 × UInt16 × UInt64 :=
  let (first, stream) := (Random.Stream.ofSeed seed).word
  let (second, stream) := stream.word
  (first, second.toUInt16, stream.doubleWord.1 &&& 0xffffffffffff)

/-- A session name of a seed. It is a single step of a path. -/
structure NamedBy (seed : UInt64) (name : String) : Prop where
  spelled : ∃ first second third, Digits 8 (nameDraws seed).1.toNat first ∧
    Digits 4 (nameDraws seed).2.1.toNat second ∧ Digits 12 (nameDraws seed).2.2.toNat third ∧
    name.toList = "bench-".toList ++ first ++ '-' :: second ++ '-' :: third
  length : name.length = 32
  single : Path.route name = [name.toList]

theorem digits_hexadecimal {width number drawn : Nat} (kept : drawn % Nat.pow 16 width = number) :
    Digits width number (Number.hexadecimal width drawn) where
  width := Number.length_hexadecimal width drawn
  lower := Json.forall_mem_hexadecimal (by decide) width drawn
  value := by rw [Json.hex_value_hexadecimal, kept]

theorem route_join {name : String} (named : EntryName name) (base : String) :
    Path.route (Path.join base name) = Path.route base ++ [name.toList] :=
  Path.route_join named.nonempty named.unbroken named.proper.1 base

theorem name_of_seed_spelled (seed : UInt64) :
    ∃ first second third, Digits 8 (nameDraws seed).1.toNat first ∧
      Digits 4 (nameDraws seed).2.1.toNat second ∧ Digits 12 (nameDraws seed).2.2.toNat third ∧
      (nameOfSeed seed).toList = "bench-".toList ++ first ++ '-' :: second ++ '-' :: third := by
  let stream := (Random.Stream.ofSeed seed).word.2
  refine ⟨_, _, _, digits_hexadecimal ?_, digits_hexadecimal ?_, digits_hexadecimal ?_,
    String.toList_ofList⟩
  · exact Nat.mod_eq_of_lt (UInt32.toNat_lt _)
  · exact (UInt32.toNat_toUInt16 stream.word.1).symm
  · have masked : (stream.word.2.doubleWord.1 &&& 0xffffffffffff).toNat =
        stream.word.2.doubleWord.1.toNat &&& (2 ^ 48 - 1) := UInt64.toNat_and _ _
    exact (masked.trans (Nat.and_two_pow_sub_one_eq_mod _ 48)).symm

theorem not_mem_digits {width number : Nat} {digits : List Char} (spelled : Digits width number digits)
    {character : Char} (other : isLowerHex character = false) : character ∉ digits := by
  intro member
  rw [spelled.lower character member] at other
  contradiction

theorem length_name_of_seed (seed : UInt64) : (nameOfSeed seed).length = 32 := by
  obtain ⟨first, second, third, one, two, three, text⟩ := name_of_seed_spelled seed
  rw [← String.length_toList, text]
  simp [one.width, two.width, three.width]

theorem entry_name_of_seed (seed : UInt64) : EntryName (nameOfSeed seed) := by
  have unbroken : '/' ∉ (nameOfSeed seed).toList := by
    obtain ⟨first, second, third, one, two, three, text⟩ := name_of_seed_spelled seed
    have slash : isLowerHex '/' = false := by decide
    rw [text]
    simp [not_mem_digits one slash, not_mem_digits two slash, not_mem_digits three slash]
  have other : ∀ name : String, name.length ≠ 32 → nameOfSeed seed ≠ name := by
    rintro name different rfl
    exact different (length_name_of_seed seed)
  exact ⟨other "" (by decide), unbroken, other "." (by decide), other ".." (by decide)⟩

theorem named_by_name_of_seed (seed : UInt64) : NamedBy seed (nameOfSeed seed) where
  spelled := name_of_seed_spelled seed
  length := length_name_of_seed seed
  single := by
    have joined : Path.join "" (nameOfSeed seed) = nameOfSeed seed := if_pos (by simp)
    rw [← joined, route_join (entry_name_of_seed seed), joined]
    rfl

end Names

section Making

variable {seed : UInt64} {asked : List (Exchange host)} {outcome : Except Error Workspace}

/-- A scratch space of a seed that is given takes nothing from its surroundings but its directory. -/
theorem course_make_iff (known : seed ≠ 0) :
    Course (make seed).outcome asked outcome ↔ ∃ answer : Except IoFailure String,
      asked = [⟨Host.Request.temporaryDirectory "lttng-ust-bench-", answer⟩] ∧
        outcome = (answer.mapError Error.io).map fun directory => ⟨directory, nameOfSeed seed⟩ := by
  have unseeded : make seed =
      Host.fallible (Host.ask (.temporaryDirectory "lttng-ust-bench-")) >>= fun directory =>
        pure ⟨directory, nameOfSeed seed⟩ := by
    rw [make]
    simp [known]
  rw [unseeded, course_outcome_bind_iff]
  constructor
  · intro parts
    rcases parts with ⟨failure, refused, rfl⟩ | ⟨first, directory, rest, made, ended, rfl⟩
    · obtain ⟨answer, asking, same⟩ := Host.course_fallible_iff.1 refused
      exact ⟨answer, course_request_iff.1 asking, by rw [← same]; rfl⟩
    · obtain ⟨answer, asking, same⟩ := Host.course_fallible_iff.1 made
      obtain ⟨rfl, rfl⟩ := course_outcome_pure_iff.1 ended
      rw [List.append_nil]
      exact ⟨answer, course_request_iff.1 asking, by rw [← same]; rfl⟩
  · intro parts
    obtain ⟨answer, rfl, rfl⟩ := parts
    have asking : Course (Host.fallible (Host.ask (.temporaryDirectory "lttng-ust-bench-"))).outcome
        [⟨Host.Request.temporaryDirectory "lttng-ust-bench-", answer⟩] (answer.mapError Error.io) :=
      Host.course_fallible_iff.2 ⟨answer, course_request_iff.2 rfl, rfl⟩
    cases answer with
    | error cause => exact .inl ⟨.io cause, asking, rfl⟩
    | ok directory =>
        exact .inr ⟨_, directory, [], asking, course_outcome_pure_iff.2 ⟨rfl, rfl⟩, rfl⟩

end Making

section Traces

variable {workspace : Workspace} {requests : List SessionRequest}

/-- The configurations that answer requests one after the other, numbered from the first on. -/
def sessionConfigs (workspace : Workspace) (first : Nat) (requests : List SessionRequest) :
    List SessionConfig :=
  (requests.zipIdx first).map fun (request, number) =>
    workspace.sessionConfig number request.domain request.events request.snapshot

theorem session_configs_append (first : Nat) (requests others : List SessionRequest) :
    workspace.sessionConfigs first (requests ++ others) =
      workspace.sessionConfigs first requests ++
        workspace.sessionConfigs (first + requests.length) others := by
  rw [sessionConfigs, List.zipIdx_append, List.map_append]
  rfl

/-- A session that is configured as it was asked for, to record into the directory of its number. The
number is counted in 32 bits. -/
structure Configures (workspace : Workspace) (number : Nat) (request : SessionRequest)
    (config : SessionConfig) : Prop where
  counted : number < UInt32.size
  name : config.name = workspace.sessionName
  path : config.tracePath.toList = Path.opening workspace.directory ++
    (workspace.sessionName.toList ++ '/' :: Nat.toDigits 10 number)
  channel : config.channel = "channel0"
  domain : config.domain = request.domain
  events : config.events = request.events
  snapshot : config.snapshot = request.snapshot

/-- Every session has a trace directory of its own. -/
structure OwnTraces (workspace : Workspace) (requests : List SessionRequest)
    (configs : List SessionConfig) : Prop where
  length : configs.length = requests.length
  configured : ∀ number request config, requests[number]? = some request →
    configs[number]? = some config → workspace.Configures number request config
  distinct : (configs.map SessionConfig.tracePath).Nodup
  apart : configs.Pairwise fun one other => ¬ Path.Within one.tracePath other.tracePath ∧
    ¬ Path.Within other.tracePath one.tracePath
  scratch : ∀ config ∈ configs, Path.Within config.tracePath workspace.directory
  pidfile : ∀ config ∈ configs, config.tracePath ≠ workspace.pidfile ∧
    ¬ Path.Within workspace.pidfile config.tracePath

theorem entry_name_decimal (number : Nat) : EntryName (Number.decimal number) := by
  have digit : ∀ character, character.isDigit = false →
      character ∉ (Number.decimal number).toList := by
    intro character other member
    rw [Number.is_digit_of_mem_decimal member] at other
    contradiction
  have undotted : ∀ name : String, '.' ∈ name.toList → Number.decimal number ≠ name := by
    rintro name dot rfl
    exact digit '.' rfl dot
  exact ⟨Number.decimal_ne_empty number, digit '/' rfl, undotted "." (by decide),
    undotted ".." (by decide)⟩

variable (named : EntryName workspace.sessionName)

include named

theorem trace_path_spelled (number : Nat) : (workspace.tracePath number).toList =
    Path.opening workspace.directory ++
      (workspace.sessionName.toList ++ '/' :: Nat.toDigits 10 number) := by
  have digits : (Number.decimal number).toList = Nat.toDigits 10 number := String.toList_ofList
  rw [tracePath, Path.join_relative (entry_name_decimal number).relative,
    Path.opening_join named.nonempty named.unbroken, digits]
  simp

theorem route_trace_path (number : Nat) : Path.route (workspace.tracePath number) =
    Path.route workspace.directory ++
      [workspace.sessionName.toList, (Number.decimal number).toList] := by
  rw [tracePath, route_join (entry_name_decimal number), route_join named, List.append_assoc]
  rfl

theorem within_trace_path_iff {number other : Nat} :
    Path.Within (workspace.tracePath number) (workspace.tracePath other) ↔ number = other := by
  rw [Path.Within, route_trace_path named, route_trace_path named, List.prefix_append_right_inj,
    List.prefix_cons_inj, List.singleton_prefix_cons_iff, String.toList_inj, Number.decimal_inj]
  exact eq_comm

theorem not_within_pidfile (number : Nat) :
    ¬ Path.Within workspace.pidfile (workspace.tracePath number) := by
  have proper : EntryName "lttng-sessiond.pid" := ⟨by decide, by decide, by decide, by decide⟩
  rw [Path.Within, route_trace_path named, pidfile, route_join proper,
    List.prefix_append_right_inj]
  intro leading
  exact absurd leading.length_le (by simp)

omit named in
theorem map_trace_path (first : Nat) (requests : List SessionRequest) :
    (workspace.sessionConfigs first requests).map SessionConfig.tracePath =
      (List.range' first requests.length).map workspace.tracePath := by
  rw [sessionConfigs, List.map_map, ← List.zipIdx_map_snd first requests, List.map_map]
  rfl

omit named in
theorem exists_number_of_mem {config : SessionConfig}
    (member : config ∈ workspace.sessionConfigs 0 requests) :
    ∃ number, config.tracePath = workspace.tracePath number := by
  obtain ⟨⟨request, number⟩, _, rfl⟩ := List.mem_map.1 member
  exact ⟨number, rfl⟩

/-- Numbers that are counted from zero tell the directories apart, as none of them has a slash. -/
theorem own_traces (few : requests.length < UInt32.size) :
    workspace.OwnTraces requests (workspace.sessionConfigs 0 requests) := by
  have unequal : ((List.range' 0 requests.length).map workspace.tracePath).Pairwise
      fun one other => ¬ Path.Within one other ∧ ¬ Path.Within other one := by
    rw [List.pairwise_map]
    apply (List.nodup_range' 1).imp
    intro number other different
    rw [within_trace_path_iff named, within_trace_path_iff named]
    exact ⟨different, different.symm⟩
  rw [← map_trace_path] at unequal
  constructor
  case length => simp [sessionConfigs]
  case configured =>
    intro number request config asked given
    have within : number < requests.length := (List.getElem?_eq_some_iff.1 asked).1
    rw [sessionConfigs, List.getElem?_map, List.getElem?_zipIdx, asked, Nat.zero_add] at given
    obtain rfl := Option.some.inj given
    exact ⟨Nat.lt_trans within few, rfl, trace_path_spelled named number, rfl, rfl, rfl, rfl⟩
  case distinct =>
    apply unequal.imp
    rintro one other ⟨outside, _⟩ rfl
    exact outside (Path.within_refl one)
  case apart => exact List.pairwise_map.1 unequal
  case scratch =>
    intro config member
    obtain ⟨number, path⟩ := exists_number_of_mem member
    rw [path, Path.Within, route_trace_path named]
    exact List.prefix_append _ _
  case pidfile =>
    intro config member
    obtain ⟨number, path⟩ := exists_number_of_mem member
    rw [path]
    have outside := not_within_pidfile named number
    refine ⟨?_, outside⟩
    intro same
    rw [same] at outside
    exact outside (Path.within_refl _)

end Traces

end Workspace
end TraceOverhead
