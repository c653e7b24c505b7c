import TraceOverhead.Proofs.Tracepoint.Drawing
/-!
The names of fields. They are drawn one by one and nothing is asked of them together, so names can
repeat, and three words that C reserves can be spoken. Main statements: which lists of names can be
drawn, and which of them can name the members of one record.
-/

namespace TraceOverhead.Tracepoint

open Dialogue TraceOverhead.Random

def fieldNames (tracepoint : Tracepoint) : List String := tracepoint.fields.map Field.name

/-- The words that C reserves, up to its last revision. -/
def reservedWords : List String :=
  ["alignas", "alignof", "auto", "bool", "break", "case", "char", "const", "constexpr", "continue",
   "default", "do", "double", "else", "enum", "extern", "false", "float", "for", "goto", "if",
   "inline", "int", "long", "nullptr", "register", "restrict", "return", "short", "signed", "sizeof",
   "static", "static_assert", "struct", "switch", "thread_local", "true", "typedef", "typeof",
   "typeof_unqual", "union", "unsigned", "void", "volatile", "while", "_Alignas", "_Alignof",
   "_Atomic", "_BitInt", "_Bool", "_Complex", "_Decimal128", "_Decimal32", "_Decimal64", "_Generic",
   "_Imaginary", "_Noreturn", "_Static_assert", "_Thread_local"]

/-- Names that the members of one record can have. -/
structure Usable (names : List String) : Prop where
  distinct : names.Nodup
  free : ∀ name ∈ names, name ∉ reservedWords

/-- The reserved words that consist of syllables. -/
def spokenReserved : List String := ["case", "goto", "volatile"]

theorem mem_spoken_reserved_iff {name : String} (spoken : Spoken name) :
    name ∈ spokenReserved ↔ name ∈ reservedWords := by
  have chosen : reservedWords.filter (fun word => Spoken word) = spokenReserved := by decide
  rw [← chosen, List.mem_filter, decide_eq_true_eq]
  exact and_iff_left spoken

/-- Spoken names are usable unless one repeats or is one of three words. -/
theorem usable_iff {names : List String} (spoken : ∀ name ∈ names, Spoken name) :
    Usable names ↔ names.Nodup ∧ ∀ word ∈ spokenReserved, word ∉ names := by
  constructor
  · intro usable
    refine ⟨usable.distinct, ?_⟩
    intro word reserved present
    exact usable.free word present ((mem_spoken_reserved_iff (spoken word present)).1 reserved)
  · rintro ⟨distinct, free⟩
    refine ⟨distinct, ?_⟩
    intro name present reserved
    exact free name ((mem_spoken_reserved_iff (spoken name present)).2 reserved) present

theorem spoken_of_draw {number : Nat} {tracepoint : Tracepoint}
    (drawn : Yields (draw number) tracepoint) :
    (1 ≤ tracepoint.fieldNames.length ∧ tracepoint.fieldNames.length ≤ 10) ∧
      ∀ name ∈ tracepoint.fieldNames, Spoken name := by
  obtain ⟨_, _, within, spoken⟩ := yields_draw_iff.1 drawn
  rw [fieldNames, List.length_map, List.forall_mem_map]
  exact ⟨within, spoken⟩

/-- Any names can come together. -/
theorem exists_draw_of_spoken {names : List String} (within : 1 ≤ names.length ∧ names.length ≤ 10)
    (spoken : ∀ name ∈ names, Spoken name) (number : Nat) :
    ∃ tracepoint, Yields (draw number) tracepoint ∧ tracepoint.fieldNames = names := by
  obtain ⟨literals, drawn⟩ := exists_drawn_literals
  refine ⟨⟨number, literals, names.map (Field.text .string)⟩, ?_, ?_⟩
  · rw [yields_draw_iff, List.length_map, List.forall_mem_map]
    exact ⟨rfl, drawn, within, spoken⟩
  · rw [fieldNames, List.map_map]
    exact List.map_id names

/-- The fields of a tracepoint have one to ten names of two to five syllables each, any of them
together. They are usable unless one repeats or is one of the three reserved words that can be
spoken. -/
theorem names_of_drawn_fields :
    (∀ count seed, ∀ tracepoint ∈ generate count seed,
      (∀ name ∈ tracepoint.fieldNames, Spoken name ∧
        (name ∈ reservedWords → name ∈ ["case", "goto", "volatile"])) ∧
      (Usable tracepoint.fieldNames ↔ tracepoint.fieldNames.Nodup ∧
        ∀ word ∈ ["case", "goto", "volatile"], word ∉ tracepoint.fieldNames)) ∧
    ∀ number names,
      (∃ tracepoint, Yields (draw number) tracepoint ∧ tracepoint.fieldNames = names) ↔
        (1 ≤ names.length ∧ names.length ≤ 10) ∧ ∀ name ∈ names, Spoken name := by
  constructor
  · intro count seed tracepoint member
    have all := yields_draw_all_iff.1 (yields_run_seeded seed (drawAll count))
    have spoken := (spoken_of_draw (all.2 tracepoint member)).2
    refine ⟨?_, usable_iff spoken⟩
    intro name present
    exact ⟨spoken name present, (mem_spoken_reserved_iff (spoken name present)).2⟩
  · intro number names
    constructor
    · rintro ⟨tracepoint, drawn, rfl⟩
      exact spoken_of_draw drawn
    · rintro ⟨within, spoken⟩
      exact exists_draw_of_spoken within spoken number

theorem exists_of_field_names {tracepoints : List Tracepoint} {names : List String}
    (only : tracepoints.map fieldNames = [names]) :
    ∃ tracepoint ∈ tracepoints, tracepoint.fieldNames = names := by
  obtain ⟨tracepoint, rfl, named⟩ := List.map_eq_singleton_iff.1 only
  exact ⟨tracepoint, List.mem_singleton_self tracepoint, named⟩

theorem repeated_name_of_seed :
    (generate 1 120747).map fieldNames = [["yira", "yira", "wiva", "retoqytoyy", "bubepypa"]] := by
  decide +kernel

theorem reserved_name_of_seed : (generate 1 13299).map fieldNames = [["goto"]] := by decide +kernel

theorem names_of_reserved_field :
    ∃ tracepoint ∈ generate 1 13299, tracepoint.fieldNames = ["goto"] ∧
      (∀ name ∈ tracepoint.fieldNames, Spoken name ∧
        (name ∈ reservedWords → name ∈ ["case", "goto", "volatile"])) ∧
      (Usable tracepoint.fieldNames ↔ tracepoint.fieldNames.Nodup ∧
        ∀ word ∈ ["case", "goto", "volatile"], word ∉ tracepoint.fieldNames) := by
  obtain ⟨tracepoint, member, named⟩ := exists_of_field_names reserved_name_of_seed
  exact ⟨tracepoint, member, named, names_of_drawn_fields.1 1 13299 tracepoint member⟩

/-- There is a seed whose first tracepoint has two fields of one name, and one whose first tracepoint
has a field that is named like a statement of C. -/
theorem drawn_names_unusable :
    (∃ tracepoint ∈ generate 1 120747, ¬ tracepoint.fieldNames.Nodup) ∧
    (∃ tracepoint ∈ generate 1 13299, ∃ name ∈ tracepoint.fieldNames, name ∈ reservedWords) ∧
    ¬ ∀ count seed, ∀ tracepoint ∈ generate count seed, Usable tracepoint.fieldNames := by
  obtain ⟨first, drawn, repeated⟩ := exists_of_field_names repeated_name_of_seed
  obtain ⟨second, generated, reserved⟩ := exists_of_field_names reserved_name_of_seed
  have twice : ¬ first.fieldNames.Nodup := by
    rw [repeated]
    decide
  refine ⟨⟨first, drawn, twice⟩, ⟨second, generated, "goto", ?_, by decide⟩, ?_⟩
  · rw [reserved]
    exact List.mem_singleton_self "goto"
  · intro all
    exact twice (all 1 120747 first drawn).distinct

end TraceOverhead.Tracepoint
