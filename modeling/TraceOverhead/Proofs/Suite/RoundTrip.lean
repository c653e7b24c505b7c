import TraceOverhead.Proofs.Host
import TraceOverhead.Proofs.Json.Record
import TraceOverhead.Proofs.Json.Written
import TraceOverhead.Proofs.Text.Bytes
import TraceOverhead.Suite
/-!
Suite files. A suite is written as an array of objects, one for each entry, in which the fields of a
benchmark stand among those of its entry, in any order. Main statement: `Suite.load_written`, a
suite is loaded from every file that it is written in.
-/

namespace TraceOverhead

open Dialogue Json

/-- An absent loop count is left out or written as null. -/
inductive LoopsWritten : Option UInt64 → Option Json → Prop
  | count (loops : UInt64) : LoopsWritten (some loops) (some (natural loops.toNat))
  | omitted : LoopsWritten none none
  | null : LoopsWritten none (some .null)

/-- A single tracepoint in each loop need not be mentioned. -/
inductive TracepointsWritten : UInt64 → Option Json → Prop
  | count (tracepoints : UInt64) :
      TracepointsWritten tracepoints (some (natural tracepoints.toNat))
  | omitted : TracepointsWritten 1 none

/-- The members of an entry that is written with these values, or none, for its two numbers. -/
def SuiteEntry.membersWith (entry : SuiteEntry) (loops tracepoints : Option Json) :
    List (String × Json) :=
  [("name", .string entry.name), ("group", .string entry.group.name),
    ("baseline", strings entry.benchmark.baseline),
    ("ust", strings entry.benchmark.instrumented)] ++
    (loops.map fun value => ("nr_loops", value)).toList ++
    (tracepoints.map fun value => ("tp_per_loop", value)).toList

inductive EntryWritten (entry : SuiteEntry) : Json → Prop
  | object {loops tracepoints : Option Json} {members : List (String × Json)}
      (loopsWritten : LoopsWritten entry.benchmark.loops loops)
      (tracepointsWritten : TracepointsWritten entry.benchmark.tracepointsPerLoop tracepoints)
      (anyOrder : members.Perm (entry.membersWith loops tracepoints)) :
      EntryWritten entry (.object members)

inductive SuiteWritten (suite : Suite) : Json → Prop
  | array {items : List Json} (each : List.Forall₂ EntryWritten suite items) :
      SuiteWritten suite (.array items)

section Writing

theorem entry_written_to_json (entry : SuiteEntry) : EntryWritten entry entry.toJson := by
  obtain ⟨name, group, baseline, instrumented, loops, tracepoints⟩ := entry
  cases loops with
  | none => exact .object .omitted (.count tracepoints) (.refl _)
  | some loops => exact .object (.count loops) (.count tracepoints) (.refl _)

theorem suite_written_to_json (suite : Suite) : SuiteWritten suite suite.toJson := by
  refine .array ?_
  rw [List.forall₂_map_right_iff]
  exact List.forall₂_same.2 fun entry _ => entry_written_to_json entry

end Writing

section Reading

theorem texts_strings (values : List String) : texts? (strings values) = some values := by
  refine list_eq_some_iff.2 ⟨_, rfl, ?_⟩
  rw [List.forall₂_map_left_iff]
  exact List.forall₂_same.2 fun _ _ => rfl

theorem word_natural (value : UInt64) : word? (natural value.toNat) = some value := by
  have small : 0 ≤ (value.toNat : Int) ∧ (value.toNat : Int) < UInt64.size := by
    have := value.toNat_lt_size
    omega
  rw [word?, natural, naturalBelow?, if_pos small]
  exact congrArg some UInt64.ofNat_toNat

theorem group_of_name (group : Group) : Group.ofJson? (.string group.name) = some group := by
  cases group <;> rfl

theorem member_eq_of_perm {members others : List (String × Json)}
    (anyOrder : members.Perm others) (name : String) :
    member? members name = member? others name := by
  have shuffled : (valuesOf members name).Perm (valuesOf others name) :=
    (anyOrder.filter _).map _
  apply Option.ext
  intro slot
  rw [member_eq_some_iff, member_eq_some_iff]
  cases slot with
  | none => rw [Option.toList_none, ← List.perm_nil, ← List.perm_nil, shuffled.congr_left]
  | some value =>
      rw [Option.toList_some, ← List.perm_singleton, ← List.perm_singleton, shuffled.congr_left]

theorem entry_of_json_eq_of_perm {members others : List (String × Json)}
    (anyOrder : members.Perm others) :
    SuiteEntry.ofJson? (.object members) = SuiteEntry.ofJson? (.object others) := by
  have same : member? members = member? others := funext (member_eq_of_perm anyOrder)
  simp only [SuiteEntry.ofJson?, Benchmark.ofJson?, fields?, same]

theorem fields_of_members_with (entry : SuiteEntry) (loops tracepoints : Option Json) :
    fields? Benchmark.fieldNames 2 (.object (entry.membersWith loops tracepoints)) =
      some [some (strings entry.benchmark.baseline), some (strings entry.benchmark.instrumented),
        loops, tracepoints] := by
  cases loops <;> cases tracepoints <;> rfl

theorem nullable_natural {α : Type} (read? : Json → Option α) (value : Nat) :
    nullable? read? (some (natural value)) = (read? (natural value)).map some := rfl

theorem nullable_of_written {loops : Option UInt64} {slot : Option Json}
    (written : LoopsWritten loops slot) : nullable? word? slot = some loops := by
  cases written with
  | count loops => rw [nullable_natural, word_natural, Option.map_some]
  | omitted | null => rfl

theorem defaulted_of_written {tracepoints : UInt64} {slot : Option Json}
    (written : TracepointsWritten tracepoints slot) :
    defaulted? word? 1 slot = some tracepoints := by
  cases written with
  | count tracepoints => rw [defaulted?, word_natural]
  | omitted => rfl

theorem entry_of_written {entry : SuiteEntry} {document : Json}
    (written : EntryWritten entry document) : SuiteEntry.ofJson? document = some entry := by
  cases written with
  | @object loops tracepoints members loopsWritten tracepointsWritten anyOrder =>
      have nameSlot : member? (entry.membersWith loops tracepoints) "name" =
          some (some (.string entry.name)) := by
        cases loops <;> cases tracepoints <;> rfl
      have groupSlot : member? (entry.membersWith loops tracepoints) "group" =
          some (some (.string entry.group.name)) := by
        cases loops <;> cases tracepoints <;> rfl
      rw [entry_of_json_eq_of_perm anyOrder]
      simp only [SuiteEntry.ofJson?, Benchmark.ofJson?, Benchmark.ofFields?, nameSlot, groupSlot,
        fields_of_members_with, required?, text?, group_of_name, texts_strings,
        nullable_of_written loopsWritten, defaulted_of_written tracepointsWritten,
        Option.bind_eq_bind, Option.bind_some, Option.pure_def]

theorem suite_of_written {suite : Suite} {document : Json} (written : SuiteWritten suite document) :
    Suite.ofJson? document = some suite := by
  cases written with | array each => ?_
  refine list_eq_some_iff.2 ⟨_, rfl, ?_⟩
  exact (each.imp fun _ _ => entry_of_written).flip

end Reading

section Plainness

theorem plain_strings {room : Nat} (values : List String) : Plain (room + 1) (strings values) := by
  refine .array _ fun item member => ?_
  obtain ⟨value, _, rfl⟩ := List.mem_map.1 member
  exact .string value

theorem plain_natural_of_word {room : Nat} (value : UInt64) : Plain room (natural value.toNat) :=
  .natural _ value.toNat_lt_size

theorem plain_of_loops_written {room : Nat} {loops : Option UInt64} {slot : Option Json}
    (written : LoopsWritten loops slot) : ∀ value ∈ slot, Plain room value := by
  cases written with
  | count loops => rintro _ ⟨⟩; exact plain_natural_of_word loops
  | omitted => simp
  | null => rintro _ ⟨⟩; exact .null

theorem plain_of_tracepoints_written {room : Nat} {tracepoints : UInt64} {slot : Option Json}
    (written : TracepointsWritten tracepoints slot) : ∀ value ∈ slot, Plain room value := by
  cases written with
  | count tracepoints => rintro _ ⟨⟩; exact plain_natural_of_word tracepoints
  | omitted => simp

theorem plain_of_entry_written {room : Nat} {entry : SuiteEntry} {document : Json}
    (written : EntryWritten entry document) : Plain (room + 2) document := by
  cases written with
  | object loopsWritten tracepointsWritten anyOrder =>
      refine .object _ fun member here => ?_
      have there := anyOrder.mem_iff.1 here
      simp only [SuiteEntry.membersWith, List.mem_append, List.mem_cons, List.not_mem_nil,
        Option.mem_toList, Option.map_eq_some_iff, or_false] at there
      rcases there with ((rfl | rfl | rfl | rfl) | ⟨value, held, rfl⟩) | ⟨value, held, rfl⟩
      · exact .string _
      · exact .string _
      · exact plain_strings _
      · exact plain_strings _
      · exact plain_of_loops_written loopsWritten value held
      · exact plain_of_tracepoints_written tracepointsWritten value held

theorem plain_of_suite_written {room : Nat} {suite : Suite} {document : Json}
    (written : SuiteWritten suite document) : Plain (room + 3) document := by
  cases written with
  | @array items each =>
      have below : ∀ item ∈ items, Plain (room + 2) item := by
        induction each with
        | nil => simp
        | cons first _ induction =>
            exact List.forall_mem_cons.2 ⟨plain_of_entry_written first, induction⟩
      exact .array items below

end Plainness

theorem load_eq (path : String) :
    Suite.load path = Host.readText path >>= fun text =>
      liftM (match Suite.ofText? text with
        | some suite => Except.ok suite
        | none => .error Error.json) := by
  rw [Suite.load]
  congr
  funext text
  cases Suite.ofText? text <;> rfl

theorem suite_of_text_of_written {suite : Suite} {document : Json} {text : String}
    (written : SuiteWritten suite document)
    (form : text = document.compact ∨ text = document.indented) :
    Suite.ofText? text = some suite := by
  have plain : Plain depthLimit document := plain_of_suite_written written
  have parsed : parse? text = some document := by
    rcases form with rfl | rfl
    · exact (parse_written plain).1
    · exact (parse_written plain).2
  rw [Suite.ofText?, parsed, Option.bind_some, suite_of_written written]

/-- A suite is loaded as it was, whatever its entries are, from any document that it may be written
as; the one that it is written as by itself is among them. -/
theorem Suite.load_written (suite : Suite) :
    SuiteWritten suite suite.toJson ∧
      ∀ (document : Json) (text path : String) (outcome : Except Error Suite),
        SuiteWritten suite document → (text = document.compact ∨ text = document.indented) →
          (Course (Suite.load path).outcome
              [⟨Host.Request.readFile path, (.ok (Text.toBytes text) : Except IoFailure Bytes)⟩]
              outcome ↔
            outcome = .ok suite) := by
  refine ⟨suite_written_to_json suite, ?_⟩
  intro document text path outcome written form
  have decoded : Host.decode (Text.toBytes text) = .ok text := by
    rw [Host.decode, Text.of_bytes_to_bytes]
  have read := suite_of_text_of_written written form
  rw [load_eq, course_outcome_bind_lift_iff]
  constructor
  · intro parts
    obtain ⟨reached, reading, rfl⟩ := parts
    obtain ⟨answer, same, rfl⟩ := Host.course_read_text_iff.1 reading
    cases same
    change (Host.decode (Text.toBytes text)).bind _ = _
    rw [decoded]
    change (match Suite.ofText? text with | some suite => _ | none => _) = _
    rw [read]
  · rintro rfl
    refine ⟨.ok text, Host.course_read_text_iff.2 ⟨_, rfl, decoded.symm⟩, ?_⟩
    change _ = (match Suite.ofText? text with | some suite => _ | none => _)
    rw [read]

def awkwardSuite : Suite :=
  [⟨"a \"quoted\" \\ name\n\x00", .full, ⟨[], ["", "\x1f"], some 18446744073709551615, 1⟩⟩,
   ⟨"", .fast, ⟨["é", "\\u"], [], none, 0⟩⟩]

/-- Each entry the other way round, its numbers given as shortly and as fully as they may be. -/
def awkwardDocument : Json :=
  .array [
    .object (awkwardSuite[0].membersWith (some (natural 18446744073709551615)) none).reverse,
    .object (awkwardSuite[1].membersWith (some .null) (some (natural 0))).reverse]

theorem awkward_suite_loaded :
    SuiteWritten awkwardSuite awkwardDocument ∧
      Course (Suite.load "suite.json").outcome
        [⟨Host.Request.readFile "suite.json",
          (.ok (Text.toBytes awkwardDocument.indented) : Except IoFailure Bytes)⟩]
        (.ok awkwardSuite) := by
  have written : SuiteWritten awkwardSuite awkwardDocument :=
    .array (.cons (.object (.count 18446744073709551615) .omitted (List.reverse_perm _))
      (.cons (.object .null (.count 0) (List.reverse_perm _)) .nil))
  exact ⟨written, ((Suite.load_written awkwardSuite).2 _ _ _ _ written (.inr rfl)).2 rfl⟩

end TraceOverhead
