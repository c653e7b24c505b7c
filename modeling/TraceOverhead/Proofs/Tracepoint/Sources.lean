import TraceOverhead.Proofs.Text.Source
import TraceOverhead.Proofs.Tracepoint.Consistency
import TraceOverhead.Tracepoint.Source
/-!
The sources of tracepoints as a compiler reads them. Whatever is drawn is written with characters
that end neither an operand nor a line. Main statements: a call passes what the definition declares,
and the lines of a header are its inclusions and, once joined, a single macro with all calls.
-/

namespace TraceOverhead.Tracepoint

open Text

variable {tracepoint : Tracepoint} {tracepoints : List Tracepoint} {character : Char}

section Characters

/-- The characters of literals and names. -/
def isOperandCharacter (character : Char) : Bool :=
  isWordCharacter character || ['"', '.', '+', '-'].contains character

/-- Whether a text can stand between commas and brackets without being taken for more than one. -/
def IsOperand (text : String) : Prop := ∀ character ∈ text.toList, isOperandCharacter character

instance (text : String) : Decidable (IsOperand text) :=
  decidable_of_iff (text.toList.all isOperandCharacter = true) List.all_eq_true

theorem is_operand_append {first second : String} :
    IsOperand (first ++ second) ↔ IsOperand first ∧ IsOperand second := by
  simp only [IsOperand, String.toList_append, List.forall_mem_append]

theorem not_mem_of_is_operand {text : String} (operand : IsOperand text)
    (other : isOperandCharacter character = false) : character ∉ text.toList := by
  intro member
  have inside := operand character member
  rw [other] at inside
  contradiction

theorem is_operand_of_is_numeric (numeric : Number.isNumeric character = true) :
    isOperandCharacter character = true := by
  simp only [Number.isNumeric, Bool.or_eq_true, beq_iff_eq] at numeric
  rcases numeric with (((digit | rfl) | rfl) | rfl) | rfl
  · simp [isOperandCharacter, isWordCharacter, Char.isAlphanum, digit]
  all_goals rfl

theorem is_operand_decimal (number : Nat) : IsOperand (Number.decimal number) := by
  intro character member
  exact is_operand_of_is_numeric
    (Number.is_numeric_of_is_digit (Number.is_digit_of_mem_decimal member))

theorem is_operand_float (layout : Number.FloatLayout) (number : Float) :
    IsOperand (layout.text number) := by
  rw [Number.FloatLayout.text]
  cases Number.Double.ofFloat number with
  | nan => exact (by decide : IsOperand "NaN")
  | infinite negative =>
      cases negative with
      | false => exact (by decide : IsOperand "inf")
      | true => exact (by decide : IsOperand "-inf")
  | finite negative mantissa exponent =>
      intro character member
      exact is_operand_of_is_numeric (Number.is_numeric_of_mem_finite member)

theorem is_operand_literal {letters : List Char} {type value : String}
    (literal : LiteralOf letters type value)
    (alphabetic : ∀ letter ∈ letters, letter.isAlpha = true) : IsOperand value := by
  cases literal with
  | text =>
      have quote : isOperandCharacter '"' = true := rfl
      have letter : ∀ letter ∈ letters, isOperandCharacter letter = true := by
        intro letter member
        simp [isOperandCharacter, isWordCharacter, Char.isAlphanum, alphabetic letter member]
      rw [IsOperand, String.toList_ofList, List.forall_mem_append]
      exact ⟨List.forall_mem_cons.2 ⟨quote, letter⟩, by simp [quote]⟩
  | size => exact is_operand_decimal letters.length
  | integer =>
      intro character member
      exact is_operand_of_is_numeric (Number.is_numeric_of_mem_signed_decimal member)
  | fraction => exact is_operand_float _ _

theorem is_operand_provider (tracepoint : Tracepoint) : IsOperand tracepoint.provider :=
  is_operand_append.2 ⟨by decide, is_operand_decimal _⟩

theorem is_operand_name (tracepoint : Tracepoint) : IsOperand tracepoint.name :=
  is_operand_append.2 ⟨by decide, is_operand_decimal _⟩

theorem is_operand_value (consistent : tracepoint.Consistent) :
    ∀ value ∈ tracepoint.values, IsOperand value := by
  have passed := consistent.passed
  rw [values, List.forall₂_map_right_iff, List.forall₂_same] at passed
  intro value member
  obtain ⟨argument, listed, rfl⟩ := List.mem_map.1 member
  exact is_operand_literal (passed argument listed).2 consistent.letters

end Characters

section Calls

theorem not_operand_of_is_space (space : isSpace character = true) :
    isOperandCharacter character = false := by
  rw [isSpace, List.contains_iff_mem] at space
  simp only [List.mem_cons, List.not_mem_nil, or_false] at space
  rcases space with rfl | rfl | rfl <;> rfl

theorem items_of_operand {text : String} (operand : IsOperand text) :
    items text.toList = [text.toList] := by
  apply items_single (not_mem_of_is_operand operand rfl)
  intro character member
  rw [← Bool.not_eq_true]
  exact fun space => not_mem_of_is_operand operand (not_operand_of_is_space space) member

theorem items_of_operands {operands : List String} (nonempty : operands ≠ [])
    (each : ∀ operand ∈ operands, IsOperand operand) :
    items ([',', ' '].intercalate (operands.map String.toList)) = operands.map String.toList := by
  rw [items_intercalate (by simpa using nonempty), List.flatMap_map, List.map_eq_flatMap]
  exact List.flatMap_congr fun operand member => items_of_operand (each operand member)

/-- What a call has between its brackets. -/
def passed (tracepoint : Tracepoint) : List String :=
  tracepoint.provider :: tracepoint.name :: tracepoint.values

theorem is_operand_passed (consistent : tracepoint.Consistent) :
    ∀ operand ∈ tracepoint.passed, IsOperand operand :=
  List.forall_mem_cons.2 ⟨is_operand_provider tracepoint,
    List.forall_mem_cons.2 ⟨is_operand_name tracepoint, is_operand_value consistent⟩⟩

theorem call_eq (consistent : tracepoint.Consistent) : tracepoint.call.toList =
    "tracepoint".toList ++
      '(' :: ([',', ' '].intercalate (tracepoint.passed.map String.toList) ++ ')' :: [';']) := by
  have more : tracepoint.values ≠ [] := by
    simpa [values] using consistent.declares
  obtain ⟨value, others, split⟩ := List.exists_cons_of_ne_nil more
  have first : "tracepoint(".toList = "tracepoint".toList ++ ['('] := rfl
  have comma : ", ".toList = [',', ' '] := rfl
  have last : ");".toList = [')', ';'] := rfl
  unfold call passed
  simp only [split, String.toList_append, first, comma, last, String.toList_intercalate,
    List.map_cons, List.intercalate_cons_cons, List.append_assoc, List.cons_append, List.nil_append]

/-- What is neither in an operand nor between operands is not in what is passed. -/
theorem not_mem_passed (consistent : tracepoint.Consistent)
    (other : isOperandCharacter character = false) (apart : character ∉ [',', ' ']) :
    character ∉ [',', ' '].intercalate (tracepoint.passed.map String.toList) := by
  apply not_mem_intercalate apart
  rw [List.forall_mem_map]
  exact fun operand listed =>
    not_mem_of_is_operand (is_operand_passed consistent operand listed) other

theorem bracketed_call (consistent : tracepoint.Consistent) : bracketed tracepoint.call.toList =
    [',', ' '].intercalate (tracepoint.passed.map String.toList) := by
  rw [call_eq consistent,
    bracketed_append (by decide) (not_mem_passed consistent rfl (by decide))]

theorem not_mem_call (consistent : tracepoint.Consistent)
    (other : isOperandCharacter character = false) (apart : character ∉ [',', ' '])
    (outside : character ∉ "tracepoint();".toList) : character ∉ tracepoint.call.toList := by
  have within := not_mem_passed consistent other apart
  have parts : "tracepoint();".toList = "tracepoint".toList ++ ['(', ')', ';'] := rfl
  rw [parts] at outside
  rw [call_eq consistent]
  simp only [List.mem_append, List.mem_cons, List.not_mem_nil, or_false, not_or] at outside ⊢
  exact ⟨outside.1, outside.2.1, within, outside.2.2⟩

end Calls

section Definitions

theorem items_declaration (argument : Argument) :
    items (declaration argument).toList = [argument.cType.toList, argument.name.toList] := by
  cases argument <;> decide

/-- What a definition has before its arguments. -/
def heading (tracepoint : Tracepoint) : List Char :=
  '\n' :: '\t' :: tracepoint.provider.toList ++
    ',' :: '\n' :: '\t' :: (tracepoint.name.toList ++ ',' :: '\n' :: '\t' :: "TP_ARGS".toList)

def declarations (tracepoint : Tracepoint) : List Char :=
  [',', ' '].intercalate (tracepoint.arguments.map fun argument => (declaration argument).toList)

theorem items_declarations (consistent : tracepoint.Consistent) :
    items tracepoint.declarations = tracepoint.arguments.flatMap
      fun argument => [argument.cType.toList, argument.name.toList] := by
  rw [declarations, items_intercalate (by simpa using consistent.declares), List.flatMap_map]
  exact List.flatMap_congr fun argument _ => items_declaration argument

theorem definition_eq (tracepoint : Tracepoint) : ∃ fields : List Char,
    tracepoint.definition.toList = "TRACEPOINT_EVENT".toList ++
      '(' :: (tracepoint.heading ++ '(' :: (tracepoint.declarations ++ ')' :: fields)) := by
  have first : "TRACEPOINT_EVENT(\n\t".toList =
    "TRACEPOINT_EVENT".toList ++ ['(', '\n', '\t'] := rfl
  have second : ",\n\t".toList = [',', '\n', '\t'] := rfl
  have third : ",\n\tTP_ARGS(".toList = ',' :: '\n' :: '\t' :: "TP_ARGS".toList ++ ['('] := rfl
  have fourth : "),\n\tTP_FIELDS(\n\t\t".toList = ')' :: ",\n\tTP_FIELDS(\n\t\t".toList := rfl
  have comma : ", ".toList = [',', ' '] := rfl
  refine ⟨",\n\tTP_FIELDS(\n\t\t".toList ++ ("\n\t\t".intercalate tracepoint.fieldTexts).toList ++
    "\n\t)\n)".toList, ?_⟩
  unfold definition heading declarations
  simp only [String.toList_append, first, second, third, fourth, comma, String.toList_intercalate,
    List.map_map, List.append_assoc, List.cons_append, List.nil_append, Function.comp_def]

theorem not_mem_heading (other : isOperandCharacter character = false)
    (outside : character ∉ "\n\t,TP_ARGS".toList) : character ∉ tracepoint.heading := by
  have provider := not_mem_of_is_operand (is_operand_provider tracepoint) other
  have name := not_mem_of_is_operand (is_operand_name tracepoint) other
  have parts : "\n\t,TP_ARGS".toList = '\n' :: '\t' :: ',' :: "TP_ARGS".toList := rfl
  rw [parts] at outside
  unfold heading
  simp only [List.mem_append, List.mem_cons, not_or] at outside ⊢
  obtain ⟨line, tab, comma, clause⟩ := outside
  exact ⟨⟨line, tab, provider⟩, comma, line, tab, name, comma, line, tab, clause⟩

theorem items_heading (tracepoint : Tracepoint) (rest : List Char) : ∃ clause others,
    items (tracepoint.heading ++ '(' :: rest) = tracepoint.provider.toList ::
      tracepoint.name.toList :: ("TP_ARGS(".toList ++ clause) :: others := by
  have whole : ',' ∉ "TP_ARGS(".toList := by decide
  obtain ⟨clause, others, opening⟩ := items_opening whole rfl rest
  refine ⟨clause, others, ?_⟩
  have text : tracepoint.heading ++ '(' :: rest = '\n' :: '\t' :: tracepoint.provider.toList ++
      ',' :: '\n' :: '\t' :: (tracepoint.name.toList ++
        ',' :: '\n' :: '\t' :: ("TP_ARGS(".toList ++ rest)) := by
    have bracket : "TP_ARGS(".toList = "TP_ARGS".toList ++ ['('] := rfl
    unfold heading
    simp only [bracket, List.append_assoc, List.cons_append, List.nil_append]
  rw [text, items_append, items_space rfl, items_space rfl,
    items_of_operand (is_operand_provider tracepoint), items_space rfl, items_space rfl,
    items_append, items_of_operand (is_operand_name tracepoint), items_space rfl, items_space rfl]
  exact congrArg (tracepoint.provider.toList :: tracepoint.name.toList :: ·) opening

/-- A call passes what the definition is named by, and then a literal for each argument that the
definition declares. -/
structure PassesDeclared (tracepoint : Tracepoint) : Prop where
  opens : tracepoint.definition.toList =
    "TRACEPOINT_EVENT(".toList ++ opened tracepoint.definition.toList
  defines : ∃ clause others,
    items (bracketed tracepoint.definition.toList) = tracepoint.provider.toList ::
      tracepoint.name.toList :: ("TP_ARGS(".toList ++ clause) :: others
  declares : items (bracketed (opened tracepoint.definition.toList)) =
    tracepoint.arguments.flatMap fun argument => [argument.cType.toList, argument.name.toList]
  calls : tracepoint.call.toList =
    "tracepoint(".toList ++ bracketed tracepoint.call.toList ++ ");".toList
  passes : items (bracketed tracepoint.call.toList) = tracepoint.provider.toList ::
    tracepoint.name.toList :: tracepoint.values.map String.toList
  fitting : List.Forall₂
    (fun argument value => value = tracepoint.literals.render argument ∧
      LiteralOf tracepoint.literals.text argument.cType value)
    tracepoint.arguments tracepoint.values

theorem passes_declared (consistent : tracepoint.Consistent) : tracepoint.PassesDeclared := by
  obtain ⟨fields, spelled⟩ := definition_eq tracepoint
  have within : ')' ∉ tracepoint.declarations := by
    apply not_mem_intercalate (by decide)
    rw [List.forall_mem_map]
    intro argument _
    cases argument <;> decide
  have inside : ')' ∉ tracepoint.heading ++ '(' :: tracepoint.declarations := by
    rw [List.mem_append, List.mem_cons, not_or, not_or]
    exact ⟨not_mem_heading rfl (by decide), by decide, within⟩
  have whole : tracepoint.definition.toList = "TRACEPOINT_EVENT".toList ++
      '(' :: ((tracepoint.heading ++ '(' :: tracepoint.declarations) ++ ')' :: fields) := by
    rw [spelled, List.append_assoc, List.cons_append]
  constructor
  · have bracket : "TRACEPOINT_EVENT(".toList = "TRACEPOINT_EVENT".toList ++ ['('] := rfl
    rw [spelled, opened_append (by decide), bracket, List.append_assoc, List.singleton_append]
  · rw [whole, bracketed_append (by decide) inside]
    exact items_heading tracepoint _
  · rw [spelled, opened_append (by decide),
      bracketed_append (not_mem_heading rfl (by decide)) within]
    exact items_declarations consistent
  · have bracket : "tracepoint(".toList = "tracepoint".toList ++ ['('] := rfl
    have ending : ");".toList = [')', ';'] := rfl
    rw [bracketed_call consistent, call_eq consistent, bracket, ending, List.append_assoc,
      List.append_assoc, List.singleton_append]
  · rw [bracketed_call consistent]
    exact items_of_operands (List.cons_ne_nil _ _) (is_operand_passed consistent)
  · exact consistent.passed

end Definitions

section Headers

/-- The line that includes what is generated from a template file. -/
def inclusion (file : String) : List Char := "#include \"".toList ++ file.toList ++ ".h\"".toList

/-- The inclusions of the files that the tracepoints are written to. -/
def includeTexts (tracepoints : List Tracepoint) : List (List Char) :=
  (tracepoints.map fileName).map inclusion

def callTexts (tracepoints : List Tracepoint) : List (List Char) :=
  tracepoints.map fun tracepoint => tracepoint.call.toList

def macroOpening : List Char := "#define GENERATED_TP".toList

def isInclude (line : List Char) : Bool := "#include".toList.isPrefixOf line

/-- The lines of a header are the inclusions of the tracepoints' files and, once joined, a macro with
all calls. -/
structure Spliced (tracepoints : List Tracepoint) : Prop where
  includes : (pieces '\n' (header tracepoints).toList).filter isInclude = includeTexts tracepoints
  joined : ∃ line,
    ((pieces '\n' (splice (header tracepoints).toList)).filter fun line => !line.isEmpty) =
      includeTexts tracepoints ++ [line] ∧
    ((pieces '\t' line).filter fun part => !part.isEmpty) =
      macroOpening :: callTexts tracepoints

/-- A header includes a tracepoint by the name of its own file. -/
theorem include_line_eq (tracepoint : Tracepoint) :
    tracepoint.includeLine.toList = inclusion tracepoint.fileName := by
  have ending : ".tp.h\"".toList = ".tp".toList ++ ".h\"".toList := rfl
  unfold includeLine inclusion fileName
  simp only [String.toList_append, ending, List.append_assoc]

theorem include_lines_eq (tracepoints : List Tracepoint) :
    (tracepoints.map fun tracepoint => tracepoint.includeLine.toList) =
      includeTexts tracepoints := by
  rw [includeTexts, List.map_map]
  exact List.map_congr_left fun tracepoint _ => include_line_eq tracepoint

theorem is_include_inclusion (file : String) : isInclude (inclusion file) = true := by
  have opening : "#include \"".toList = "#include".toList ++ [' ', '"'] := rfl
  rw [isInclude, List.isPrefixOf_iff_prefix]
  unfold inclusion
  rw [opening, List.append_assoc, List.append_assoc]
  exact List.prefix_append _ _

theorem is_operand_file_name (tracepoint : Tracepoint) : IsOperand tracepoint.fileName :=
  is_operand_append.2 ⟨is_operand_name tracepoint, by decide⟩

theorem not_mem_inclusion {file : String} (operand : IsOperand file)
    (other : isOperandCharacter character = false) (outside : character ∉ "#include \".h\"".toList) :
    character ∉ inclusion file := by
  have parts : "#include \".h\"".toList = "#include \"".toList ++ ".h\"".toList := rfl
  rw [parts, List.mem_append, not_or] at outside
  unfold inclusion
  rw [List.mem_append, List.mem_append, not_or, not_or]
  exact ⟨⟨outside.1, not_mem_of_is_operand operand other⟩, outside.2⟩

/-- The text of the macro once its lines are joined. -/
def macroLine (tracepoints : List Tracepoint) : List Char :=
  macroOpening ++ '\t' :: ['\t'].intercalate (callTexts tracepoints)

theorem header_eq (tracepoints : List Tracepoint) : (header tracepoints).toList =
    ['\n'].intercalate (includeTexts tracepoints) ++
      '\n' :: '\n' :: (macroOpening ++ '\\' :: '\n' :: '\t' ::
        (['\\', '\n', '\t'].intercalate (callTexts tracepoints) ++ ['\n'])) := by
  have opening : "\n\n#define GENERATED_TP\\\n\t".toList =
    '\n' :: '\n' :: (macroOpening ++ ['\\', '\n', '\t']) := rfl
  have line : "\n".toList = ['\n'] := rfl
  have continued : "\\\n\t".toList = ['\\', '\n', '\t'] := rfl
  rw [← include_lines_eq]
  unfold header callTexts
  simp only [String.toList_append, opening, line, continued, String.toList_intercalate,
    List.map_map, List.append_assoc, List.cons_append, List.nil_append, Function.comp_def]

theorem not_mem_include_texts (other : isOperandCharacter character = false)
    (outside : character ∉ "#include \".h\"".toList) :
    ∀ text ∈ includeTexts tracepoints, character ∉ text := by
  rw [includeTexts, List.forall_mem_map, List.forall_mem_map]
  exact fun tracepoint _ => not_mem_inclusion (is_operand_file_name tracepoint) other outside

variable (consistent : ∀ tracepoint ∈ tracepoints, tracepoint.Consistent)
include consistent

theorem not_mem_call_texts (other : isOperandCharacter character = false)
    (apart : character ∉ [',', ' ']) (outside : character ∉ "tracepoint();".toList) :
    ∀ text ∈ callTexts tracepoints, character ∉ text := by
  rw [callTexts, List.forall_mem_map]
  exact fun tracepoint listed => not_mem_call (consistent tracepoint listed) other apart outside

theorem splice_header : splice (header tracepoints).toList =
    ['\n'].intercalate (includeTexts tracepoints) ++
      '\n' :: '\n' :: (macroLine tracepoints ++ ['\n']) := by
  have includes : '\\' ∉ ['\n'].intercalate (includeTexts tracepoints) :=
    not_mem_intercalate (by decide) (not_mem_include_texts rfl (by decide))
  have opening : '\\' ∉ '\n' :: '\n' :: macroOpening := by decide
  have calls : ∀ text ∈ callTexts tracepoints, '\\' ∉ text :=
    not_mem_call_texts consistent rfl (by decide) (by decide)
  have indent : '\\' ∉ ['\t'] := by decide
  rw [header_eq, splice_append includes]
  refine congrArg (_ ++ ·) ?_
  calc
    _ = '\n' :: '\n' :: macroOpening ++ splice ('\t' ::
        (['\\', '\n', '\t'].intercalate (callTexts tracepoints) ++ ['\n'])) :=
      splice_append opening _
    _ = '\n' :: '\n' :: macroOpening ++ '\t' ::
        splice (['\\', '\n', '\t'].intercalate (callTexts tracepoints) ++ ['\n']) :=
      congrArg (_ ++ ·) (splice_append indent _)
    _ = '\n' :: '\n' :: macroOpening ++ '\t' ::
        (['\t'].intercalate (callTexts tracepoints) ++ ['\n']) :=
      congrArg (_ ++ '\t' :: ·) (splice_intercalate indent calls _)
    _ = _ := by simp [macroLine]

/-- The calls are set apart by the tabs of the macro. -/
theorem parts_macro_line :
    ((pieces '\t' (macroLine tracepoints)).filter fun part => !part.isEmpty) =
      macroOpening :: callTexts tracepoints := by
  have opening : '\t' ∉ macroOpening := by decide
  have parts : ((pieces '\t' (['\t'].intercalate (callTexts tracepoints))).filter
      fun part => !part.isEmpty) = callTexts tracepoints := by
    refine full_pieces_intercalate ?_ (not_mem_call_texts consistent rfl (by decide) (by decide))
    rw [callTexts, List.forall_mem_map]
    intro tracepoint listed
    rw [call_eq (consistent tracepoint listed)]
    simp
  rw [macroLine, pieces_append_separator, pieces_of_not_mem opening, List.filter_append, parts]
  rfl

theorem not_mem_macro_line : '\n' ∉ macroLine tracepoints := by
  have calls : '\n' ∉ ['\t'].intercalate (callTexts tracepoints) :=
    not_mem_intercalate (by decide) (not_mem_call_texts consistent rfl (by decide) (by decide))
  rw [macroLine, List.mem_append, List.mem_cons, not_or, not_or]
  exact ⟨by decide, by decide, calls⟩

omit consistent in
/-- The lines of a text that begins with inclusions and an empty line. -/
theorem pieces_after_includes (rest : List Char) :
    pieces '\n' (['\n'].intercalate (includeTexts tracepoints) ++ '\n' :: '\n' :: rest) =
      pieces '\n' (['\n'].intercalate (includeTexts tracepoints)) ++ [] :: pieces '\n' rest := by
  rw [pieces_append_separator]
  exact congrArg (_ ++ ·) (pieces_append_separator [] rest)

omit consistent in
theorem full_include_texts :
    ((pieces '\n' (['\n'].intercalate (includeTexts tracepoints))).filter fun line =>
      !line.isEmpty) = includeTexts tracepoints := by
  refine full_pieces_intercalate ?_ (not_mem_include_texts rfl (by decide))
  rw [includeTexts, List.forall_mem_map]
  intro file _ empty
  have opening := is_include_inclusion file
  rw [empty] at opening
  contradiction

omit consistent in
theorem included_include_texts :
    (pieces '\n' (['\n'].intercalate (includeTexts tracepoints))).filter isInclude =
      includeTexts tracepoints := by
  have full : ∀ line : List Char, isInclude line = (isInclude line && !line.isEmpty) := by
    intro line
    cases line with
    | nil => rfl
    | cons character rest => simp
  have each : ∀ line ∈ includeTexts tracepoints, isInclude line = true := by
    rw [includeTexts, List.forall_mem_map]
    exact fun file _ => is_include_inclusion file
  calc
    _ = (pieces '\n' (['\n'].intercalate (includeTexts tracepoints))).filter
        fun line => isInclude line && !line.isEmpty := List.filter_congr fun line _ => full line
    _ = (includeTexts tracepoints).filter isInclude := by
      rw [← List.filter_filter, full_include_texts]
    _ = includeTexts tracepoints := List.filter_eq_self.2 each

/-- No inclusion is among the lines of the macro. -/
theorem not_include_of_macro_lines :
    ∀ line ∈ pieces '\n' (macroOpening ++ '\\' :: '\n' :: '\t' ::
      (['\\', '\n', '\t'].intercalate (callTexts tracepoints) ++ ['\n'])),
      isInclude line = false := by
  have opening : '\n' ∉ macroOpening ++ ['\\'] := by decide
  have calls : '#' ∉ ['\\', '\n', '\t'].intercalate (callTexts tracepoints) :=
    not_mem_intercalate (by decide) (not_mem_call_texts consistent rfl (by decide) (by decide))
  intro line listed
  rw [List.append_cons, pieces_append_separator, pieces_of_not_mem opening, List.singleton_append,
    List.mem_cons] at listed
  rcases listed with rfl | later
  · decide
  · -- An inclusion has a character that is nowhere in the calls.
    cases included : isInclude line with
    | false => rfl
    | true =>
        have mark : '#' ∈ line :=
          (List.isPrefixOf_iff_prefix.1 included).subset (by decide)
        have inside := mem_of_mem_pieces later mark
        simp [calls] at inside

theorem spliced_header : Spliced tracepoints := by
  constructor
  · rw [header_eq, pieces_after_includes, List.filter_append, included_include_texts]
    have none := List.filter_eq_nil_iff.2 fun line listed =>
      Bool.eq_false_iff.1 (not_include_of_macro_lines consistent line listed)
    rw [List.filter_cons_of_neg (by decide), none, List.append_nil]
  · have full : (macroLine tracepoints).isEmpty = false := rfl
    refine ⟨macroLine tracepoints, ?_, parts_macro_line consistent⟩
    rw [splice_header consistent, pieces_after_includes, List.filter_append, full_include_texts,
      pieces_append_separator, pieces_of_not_mem (not_mem_macro_line consistent)]
    simp [pieces, full]

end Headers

end TraceOverhead.Tracepoint
