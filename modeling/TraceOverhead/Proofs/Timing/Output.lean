import TraceOverhead.Proofs.Json.Parsing
import TraceOverhead.Proofs.Json.Record
import TraceOverhead.Proofs.Text.Bytes
import TraceOverhead.Timing
/-!
Which outputs of a runner are timing records. The runner is said to print an array of record objects,
or one such object alone. Main statement: these are read, and besides them only what has rows, arrays
of exactly the four stamps, in the place of record objects. A row may also be the whole output, so
four bare numbers count as a record. An output of either form has to keep within what is read of JSON
at all: its nesting is limited, and so are its numbers and what its strings may have for characters.
-/

namespace TraceOverhead.TimingRecord

open Json

/-- What a record may have in the place of a timestamp. -/
inductive Stamp : Option Json → Option Float → Prop
  | absent : Stamp none none
  | null : Stamp (some .null) none
  | number (value : Numeral) : Stamp (some (.number value)) (some value.toFloat)

/-- An object in which no timestamp comes twice. Members of other names say nothing. -/
inductive IsObject : Json → TimingRecord → Prop
  | object {members : List (String × Json)} {record : TimingRecord}
      (stamps : ∀ field : Timestamp, ∃ slot, valuesOf members field.name = slot.toList ∧
        Stamp slot (record.timestamp field)) : IsObject (.object members) record

/-- An array of exactly the four timestamps. -/
inductive IsRow : Json → TimingRecord → Prop
  | row {exec main start finish : Json} {record : TimingRecord}
      (stamps : Stamp (some exec) record.exec ∧ Stamp (some main) record.main ∧
        Stamp (some start) record.start ∧ Stamp (some finish) record.finish) :
      IsRow (.array [exec, main, start, finish]) record

/-- What the runner is said to print. -/
inductive IsOutput : Json → List TimingRecord → Prop
  | list {items : List Json} {records : List TimingRecord}
      (each : List.Forall₂ IsObject items records) : IsOutput (.array items) records
  | single {document : Json} {record : TimingRecord} (alone : IsObject document record) :
      IsOutput document [record]

/-- What is read although the runner is not said to print it. -/
inductive IsLooseOutput : Json → List TimingRecord → Prop
  | list {items : List Json} {records : List TimingRecord} {row : Json} {read : TimingRecord}
      (each : List.Forall₂ (fun item record => IsObject item record ∨ IsRow item record) items
        records)
      (loose : row ∈ items) (stamps : IsRow row read) : IsLooseOutput (.array items) records
  | single {document : Json} {record : TimingRecord} (alone : IsRow document record) :
      IsLooseOutput document [record]

section Records

variable {document : Json} {record : TimingRecord}

theorem nullable_float_iff {slot : Option Json} {time : Option Float} :
    nullable? float? slot = some time ↔ Stamp slot time := by
  constructor
  · intro read
    rcases slot with _ | value
    · obtain rfl := Option.some.inj read
      exact .absent
    · cases value with
      | null =>
          obtain rfl := Option.some.inj read
          exact .null
      | number value =>
          obtain rfl := Option.some.inj read
          exact .number value
      | bool | string | array | object => simp [nullable?, float?] at read
  · intro stamp
    cases stamp <;> rfl

theorem of_json_eq_some_iff_fields :
    ofJson? document = some record ↔
      ∃ exec main start finish, document.fields? fieldNames 4 = some [exec, main, start, finish] ∧
        Stamp exec record.exec ∧ Stamp main record.main ∧ Stamp start record.start ∧
        Stamp finish record.finish := by
  simp only [ofJson?, Option.bind_eq_bind, Option.bind_eq_some_iff, ← nullable_float_iff]
  constructor
  · rintro ⟨slots, listed, read⟩
    split at read
    · rename_i exec main start finish
      simp only [Option.bind_eq_some_iff] at read
      obtain ⟨_, first, _, second, _, third, _, fourth, same⟩ := read
      obtain rfl := Option.some.inj same
      exact ⟨exec, main, start, finish, listed, first, second, third, fourth⟩
    · contradiction
  · rintro ⟨exec, main, start, finish, listed, first, second, third, fourth⟩
    refine ⟨_, listed, ?_⟩
    simp [first, second, third, fourth]

theorem of_json_eq_some_iff :
    ofJson? document = some record ↔ IsObject document record ∨ IsRow document record := by
  rw [of_json_eq_some_iff_fields]
  cases document with
  | object members =>
      have named : ∀ slots, (Json.object members).fields? fieldNames 4 = some slots ↔
          List.Forall₂ (fun name slot => valuesOf members name = slot.toList) fieldNames slots := by
        intro slots
        simp only [fields?, map_m_eq_some_iff, member_eq_some_iff]
      constructor
      · rintro ⟨exec, main, start, finish, listed, stamps⟩
        have slots := (named _).1 listed
        simp only [fieldNames, List.map_cons, List.map_nil, List.forall₂_cons] at slots
        refine .inl (.object fun field => ?_)
        cases field with
        | exec => exact ⟨exec, slots.1, stamps.1⟩
        | main => exact ⟨main, slots.2.1, stamps.2.1⟩
        | start => exact ⟨start, slots.2.2.1, stamps.2.2.1⟩
        | finish => exact ⟨finish, slots.2.2.2.1, stamps.2.2.2⟩
      · rintro (isObject | impossible)
        · cases isObject with | object stamps => ?_
          obtain ⟨exec, first, execStamp⟩ := stamps .exec
          obtain ⟨main, second, mainStamp⟩ := stamps .main
          obtain ⟨start, third, startStamp⟩ := stamps .start
          obtain ⟨finish, fourth, finishStamp⟩ := stamps .finish
          have slots := (named [exec, main, start, finish]).2
            (.cons first (.cons second (.cons third (.cons fourth .nil))))
          exact ⟨exec, main, start, finish, slots, execStamp, mainStamp, startStamp, finishStamp⟩
        · contradiction
  | array items =>
      constructor
      · rintro ⟨exec, main, start, finish, listed, stamps⟩
        rw [fields?] at listed
        split at listed
        · rename_i sized
          have four : items.length = fieldNames.length := Nat.le_antisymm sized.2 sized.1
          rw [four, Nat.sub_self, List.replicate_zero, List.append_nil] at listed
          simp only [Option.some.injEq, List.map_eq_cons_iff, List.map_eq_nil_iff] at listed
          obtain ⟨_, _, rfl, rfl, _, _, rfl, rfl, _, _, rfl, rfl, _, _, rfl, rfl, rfl⟩ := listed
          exact .inr (.row stamps)
        · contradiction
      · rintro (impossible | isRow)
        · contradiction
        · cases isRow with | row stamps => exact ⟨_, _, _, _, rfl, stamps⟩
  | null | bool | number | string =>
      constructor
      · rintro ⟨_, _, _, _, impossible, _⟩
        contradiction
      · rintro (impossible | impossible) <;> contradiction

theorem not_is_row_of_is_object {other : TimingRecord} (isObject : IsObject document record) :
    ¬ IsRow document other := by
  intro isRow
  cases isObject
  contradiction

theorem of_json_stamp {time : Option Float} (stamp : Stamp (some document) time) :
    ofJson? document = none := by
  cases stamp <;> rfl

end Records

section Outputs

variable {document : Json} {records : List TimingRecord}

theorem list_of_json_eq_some_iff :
    listOfJson? document = some records ↔
      IsOutput document records ∨ IsLooseOutput document records := by
  rw [listOfJson?, Option.or_eq_some_iff, Option.map_eq_some_iff, list_eq_some_iff]
  simp only [of_json_eq_some_iff]
  constructor
  · rintro (⟨items, rfl, each⟩ | ⟨_, record, read, rfl⟩)
    · by_cases loose : ∃ row ∈ items, ∃ read, IsRow row read
      · obtain ⟨row, member, read, stamps⟩ := loose
        exact .inr (.list each member stamps)
      · have strict : ∀ item ∈ items, ∀ read, ¬ IsRow item read := by
          intro item member read stamps
          exact loose ⟨item, member, read, stamps⟩
        have sorted := (List.forall₂_and_left _ _).2 ⟨strict, each⟩
        exact .inl (.list (sorted.imp fun item record apart => apart.2.resolve_right (apart.1 record)))
    · rcases read with isObject | isRow
      · exact .inl (.single isObject)
      · exact .inr (.single isRow)
  · rintro (isOutput | loose)
    · cases isOutput with
      | list each => exact .inl ⟨_, rfl, each.imp fun _ _ => .inl⟩
      | single alone =>
          refine .inr ⟨?_, _, .inl alone, rfl⟩
          cases alone
          rfl
    · cases loose with
      | list each => exact .inl ⟨_, rfl, each⟩
      | single alone =>
          refine .inr ⟨?_, _, .inr alone, rfl⟩
          -- A stamp is no record, so a row is no list of records.
          cases alone with | row stamps => ?_
          simp [list?, List.mapM_cons, of_json_stamp stamps.1]

theorem not_is_loose_output_of_is_output {others : List TimingRecord}
    (isOutput : IsOutput document records) : ¬ IsLooseOutput document others := by
  intro loose
  cases isOutput with
  | list each =>
      cases loose with
      | list _ member stamps =>
          have objects := each.imp fun item record isObject =>
            (⟨⟨record, isObject⟩, isObject⟩ : (∃ record, IsObject item record) ∧ IsObject item record)
          obtain ⟨_, isObject⟩ := ((List.forall₂_and_left _ _).1 objects).1 _ member
          exact not_is_row_of_is_object isObject stamps
      | single alone =>
          cases alone with | row stamps => ?_
          cases each with | cons first _ => ?_
          have read := of_json_eq_some_iff.2 (.inl first)
          rw [of_json_stamp stamps.1] at read
          contradiction
  | single alone =>
      cases loose with
      | list => contradiction
      | single row => exact not_is_row_of_is_object alone row

/-- The grammar of JSON makes this document of an output, whether or not it can be read. -/
def Holds (output : Bytes) (pieces : List Piece) (document : Json) : Prop :=
  ∃ text, output = Text.toBytes text ∧ IsText text pieces document

theorem parse_bytes_eq_some_iff {output : Bytes} :
    parseBytes? output = some document ↔
      ∃ pieces, Holds output pieces document ∧ Readable pieces document := by
  rw [parseBytes?, Option.bind_eq_bind, Option.bind_eq_some_iff]
  simp only [Text.of_bytes_eq_some_iff, parse_eq_some_iff, Holds]
  constructor
  · rintro ⟨text, same, pieces, isText, readable⟩
    exact ⟨pieces, ⟨text, same, isText⟩, readable⟩
  · rintro ⟨pieces, ⟨text, same, isText⟩, readable⟩
    exact ⟨text, same, pieces, isText, readable⟩

theorem parse_bytes_of_holds {output : Bytes} {pieces : List Piece}
    (holds : Holds output pieces document) :
    (parseBytes? output = some document ↔ Readable pieces document) ∧
      (parseBytes? output = none ↔ ¬ Readable pieces document) := by
  obtain ⟨text, rfl, isText⟩ := holds
  rw [parseBytes?, Text.of_bytes_to_bytes]
  exact parse_of_is_text isText

/-- What keeps a document from being read: its depth, or one of its numbers or strings. -/
theorem not_readable_iff {pieces : List Piece} :
    ¬ Readable pieces document ↔ 127 < document.depth ∨
      (∃ parts, .numeral parts ∈ pieces ∧ parts.OutOfRange) ∨
        ∃ parts, .string parts ∈ pieces ∧ partsText? none parts = none := by
  have unread : (¬ ∀ piece ∈ pieces, piece.read?.isSome) ↔
      (∃ parts, .numeral parts ∈ pieces ∧ parts.OutOfRange) ∨
        ∃ parts, .string parts ∈ pieces ∧ partsText? none parts = none := by
    simp only [← value_eq_none_iff]
    constructor
    · intro some_unread
      obtain ⟨piece, member, unread⟩ : ∃ piece ∈ pieces, ¬ piece.read?.isSome := by
        simpa using some_unread
      cases piece with
      | fixed token => exact absurd rfl unread
      | numeral parts => exact .inl ⟨parts, member, by simpa [Piece.read?] using unread⟩
      | string parts => exact .inr ⟨parts, member, by simpa [Piece.read?] using unread⟩
    · rintro (⟨parts, member, unread⟩ | ⟨parts, member, unread⟩) all_read
      · simpa [Piece.read?, unread] using all_read _ member
      · simpa [Piece.read?, unread] using all_read _ member
  have limit : depthLimit = 127 := rfl
  rw [← unread, ← limit, ← Nat.not_le, ← not_and_or]
  exact not_congr ⟨fun readable => ⟨readable.bounded, readable.read⟩, fun both => ⟨both.1, both.2⟩⟩

theorem read_output_eq_ok_iff {output : Bytes} :
    readOutput output = .ok records ↔
      ∃ document, parseBytes? output = some document ∧ listOfJson? document = some records := by
  rw [← Option.bind_eq_some_iff, readOutput]
  cases (parseBytes? output).bind listOfJson? <;> simp

theorem read_output_eq_error_iff {output : Bytes} {failure : Error} :
    readOutput output = .error failure ↔
      failure = .json ∧ ¬ ∃ records, readOutput output = .ok records := by
  rw [readOutput]
  cases (parseBytes? output).bind listOfJson? <;> simp [eq_comm]

/-- An output is read if it is of the form that the runner is said to print, or of the one other form
that has rows in it, and no output is of both. Every other output is an error of its form. Of the
outputs of the form that the runner is said to print, only those are errors that are nested too
deep, have a number past the largest double or have half of a surrogate pair in a string. -/
theorem output_read_iff (output : Bytes) :
    (∀ records, readOutput output = .ok records ↔
        ∃ pieces document, Holds output pieces document ∧ Readable pieces document ∧
          (IsOutput document records ∨ IsLooseOutput document records)) ∧
      (∀ failure, readOutput output = .error failure ↔
        failure = .json ∧ ¬ ∃ pieces document records, Holds output pieces document ∧
          Readable pieces document ∧
            (IsOutput document records ∨ IsLooseOutput document records)) ∧
      (∀ document records others, ¬ (IsOutput document records ∧ IsLooseOutput document others)) ∧
      ∀ pieces document records, Holds output pieces document → IsOutput document records →
        (readOutput output = .ok records ↔ Readable pieces document) ∧
          (readOutput output = .error .json ↔ 127 < document.depth ∨
            (∃ parts, .numeral parts ∈ pieces ∧ parts.OutOfRange) ∨
              ∃ parts, .string parts ∈ pieces ∧ partsText? none parts = none) := by
  have accepted : ∀ records, readOutput output = .ok records ↔
      ∃ pieces document, Holds output pieces document ∧ Readable pieces document ∧
        (IsOutput document records ∨ IsLooseOutput document records) := by
    intro records
    rw [read_output_eq_ok_iff]
    simp only [list_of_json_eq_some_iff, parse_bytes_eq_some_iff]
    constructor
    · rintro ⟨document, ⟨pieces, holds, readable⟩, formed⟩
      exact ⟨pieces, document, holds, readable, formed⟩
    · rintro ⟨pieces, document, holds, readable, formed⟩
      exact ⟨document, ⟨pieces, holds, readable⟩, formed⟩
  refine ⟨accepted, ?_, fun document records others both =>
    not_is_loose_output_of_is_output both.1 both.2, ?_⟩
  · intro failure
    have none_accepted : (∃ pieces document records, Holds output pieces document ∧
        Readable pieces document ∧ (IsOutput document records ∨ IsLooseOutput document records)) ↔
        ∃ records, readOutput output = .ok records := by
      simp only [accepted]
      constructor
      · rintro ⟨pieces, document, records, found⟩
        exact ⟨records, pieces, document, found⟩
      · rintro ⟨records, pieces, document, found⟩
        exact ⟨pieces, document, records, found⟩
    rw [none_accepted]
    exact read_output_eq_error_iff
  · intro pieces document records holds isOutput
    obtain ⟨parsed, refused⟩ := parse_bytes_of_holds holds
    have read := list_of_json_eq_some_iff.2 (.inl isOutput)
    rw [← not_readable_iff]
    by_cases readable : Readable pieces document
    · have found := read_output_eq_ok_iff.2 ⟨document, parsed.2 readable, read⟩
      simp [found, readable]
    · have failed : readOutput output = .error .json := by
        rw [readOutput, refused.2 readable]
        rfl
      simp [failed, readable]

def bareNumbers : Json := .array [natural 1, natural 2, natural 3, natural 4]

/-- Four numbers are read as a record, although the runner is not said to print them. -/
theorem bare_numbers_read :
    parseBytes? (Text.toBytes "[1, 2, 3, 4]") = some bareNumbers ∧
      (∀ records, ¬ IsOutput bareNumbers records) ∧
      ∃ record, readOutput (Text.toBytes "[1, 2, 3, 4]") = .ok [record] := by
  have parsed : parseBytes? (Text.toBytes "[1, 2, 3, 4]") = some bareNumbers := by
    rw [parseBytes?, Text.of_bytes_to_bytes]
    rfl
  refine ⟨parsed, ?_, ?_⟩
  · intro records isOutput
    cases isOutput with
    | list each => cases each; contradiction
    | single alone => contradiction
  · rw [readOutput, parsed]
    exact ⟨_, rfl⟩

end Outputs

end TraceOverhead.TimingRecord
