import TraceOverhead.Json.Parser
import TraceOverhead.Proofs.Json.Scanning
/-!
Reading a text is scanning it and parsing its tokens. The tokens of a document are parsed as that
document, in whatever stands open around it, as long as the nesting keeps within its limit, and no
other tokens are parsed at all: what the parser has taken so far shows in what it expects next.
-/

namespace TraceOverhead.Json

def Expect.document? : Expect → Option Json
  | .finished document => some document
  | _ => none

/-- The document that the last of the tokens completes. -/
def parseFrom? (care : Care) (expect : Expect) (tokens : List Token) : Option Json :=
  (tokens.foldlM (Expect.step? care) expect).bind Expect.document?

section Readers

variable {care : Care} {expect next : Expect} {token : Token} {tokens : List Token}

theorem parse_from_cons (stepped : expect.step? care token = some next) :
    parseFrom? care expect (token :: tokens) = parseFrom? care next tokens := by
  rw [parseFrom?, List.foldlM_cons, stepped]
  rfl

theorem parse_from_append (expect : Expect) (first later : List Token) :
    parseFrom? care expect (first ++ later) =
      (first.foldlM (Expect.step? care) expect).bind (parseFrom? care · later) := by
  rw [parseFrom?, List.foldlM_append]
  exact Option.bind_assoc ..

/-- A reader that passes over nothing never loses its care. -/
theorem fold_take_eq (tokens : List Token) (scan : Scan) (expect : Expect) :
    tokens.foldlM (Reader.take? fun _ => true) ⟨scan, expect, .content⟩ =
      (tokens.foldlM (Expect.step? .content) expect).map (⟨scan, ·, .content⟩) := by
  have careful : ∀ expect : Expect, expect.care (fun _ => true) .content = .content := by
    intro expect
    fun_cases Expect.care with
    | case2 => contradiction
    | case1 | case3 | case4 | case5 => rfl
  induction tokens generalizing expect with
  | nil => rfl
  | cons token tokens induction =>
      rw [List.foldlM_cons, List.foldlM_cons, Reader.take?]
      cases stepped : expect.step? .content token with
      | none => rfl
      | some next =>
          change tokens.foldlM _ (Reader.mk scan next (next.care _ .content)) = _
          rw [careful, induction]
          rfl

theorem read_rest_eq (text : List Char) (scan : Scan) (expect : Expect) :
    (text.foldlM (Reader.step? fun _ => true) ⟨scan, expect, .content⟩).bind
        (Reader.finish? fun _ => true) =
      (tokensFrom? .content scan text).bind (parseFrom? .content expect) := by
  -- Taking tokens leaves the scan alone, so scanner and parser may each run to the end of the text.
  induction text generalizing scan expect with
  | nil =>
      change (scan.finish? .content).bind (fun tokens =>
        (tokens.foldlM (Reader.take? fun _ => true) ⟨scan, expect, .content⟩).bind _) =
          (scan.finish? .content).bind _
      congr 1
      funext tokens
      rw [fold_take_eq, Option.bind_map]
      rfl
  | cons character text induction =>
      rw [List.foldlM_cons, Reader.step?, tokensFrom?]
      cases scan.step? .content character with
      | none => rfl
      | some found =>
          obtain ⟨first, next⟩ := found
          change ((first.foldlM (Reader.take? _) (Reader.mk next expect .content)).bind _).bind _ =
            ((tokensFrom? .content next text).bind fun later => some (first ++ later)).bind _
          rw [fold_take_eq, Option.bind_assoc, Option.bind_map, Option.bind_assoc]
          simp only [Function.comp_def, induction, Option.bind_some, parse_from_append]
          cases first.foldlM (Expect.step? .content) expect with
          | none => exact (Option.bind_fun_none _).symm
          | some next => rfl

theorem parse_eq (text : String) :
    parse? text = (tokensFrom? .content .between text.toList).bind (parseFrom? .content (.value [])) :=
  read_rest_eq text.toList .between (.value [])

end Readers

section Documents

/-- There is room for arrays and objects of a depth inside so many others. -/
def Fits (care : Care) (outside depth : Nat) : Prop := care = .form ∨ outside + depth ≤ depthLimit

variable {care : Care} {frames : List Frame} {rest : List Token}

theorem fits_inside {outside depth : Nat} (fits : Fits care outside (depth + 1)) :
    Fits care (outside + 1) depth :=
  fits.imp id fun bounded => by omega

theorem fits_max {outside depth other : Nat} (fits : Fits care outside (max depth other)) :
    Fits care outside depth ∧ Fits care outside other :=
  ⟨fits.imp id fun bounded => by omega, fits.imp id fun bounded => by omega⟩

theorem may_open_of_fits {depth : Nat} (fits : Fits care frames.length (depth + 1)) :
    mayOpen care frames := by
  simp only [mayOpen, Bool.or_eq_true, decide_eq_true_iff]
  exact fits.imp id fun fits => by omega

/-- No document begins with the bracket that would close an empty array. -/
theorem parse_first_item (document : Json) :
    parseFrom? care (.firstItem frames) (document.tokens ++ rest) =
      parseFrom? care (.value (.items [] :: frames)) (document.tokens ++ rest) := by
  cases document with
  | array items => cases items <;> rfl
  | object members => cases members <;> rfl
  | null | bool | number | string => rfl

mutual

/-- Wherever a document fits, its tokens are parsed as that document. -/
theorem parse_document_tokens (frames : List Frame) (rest : List Token) :
    (document : Json) → Fits care frames.length document.depth →
      parseFrom? care (.value frames) (document.tokens ++ rest) =
        parseFrom? care (deliver document frames) rest
  | .null, _ | .bool _, _ | .number _, _ | .string _, _ => rfl
  | .array [], fits => by
      have opened : (Expect.value frames).step? care .openArray = some (.firstItem frames) :=
        if_pos (may_open_of_fits fits)
      rw [tokens, List.cons_append, parse_from_cons opened]
      rfl
  | .array (item :: items), fits => by
      have opened : (Expect.value frames).step? care .openArray = some (.firstItem frames) :=
        if_pos (may_open_of_fits fits)
      obtain ⟨here, others⟩ := fits_max (fits_inside fits)
      rw [tokens, List.cons_append, List.cons_append, parse_from_cons opened, List.append_assoc,
        parse_first_item, parse_document_tokens (.items [] :: frames) _ item here]
      exact parse_item_tokens frames rest [item] items others
  | .object [], fits => by
      have opened : (Expect.value frames).step? care .openObject = some (.firstName frames) :=
        if_pos (may_open_of_fits fits)
      rw [tokens, List.cons_append, parse_from_cons opened]
      rfl
  | .object ((name, value) :: members), fits => by
      have opened : (Expect.value frames).step? care .openObject = some (.firstName frames) :=
        if_pos (may_open_of_fits fits)
      obtain ⟨here, others⟩ := fits_max (fits_inside fits)
      rw [tokens, List.append_assoc]
      simp only [List.cons_append]
      rw [parse_from_cons opened, parse_from_cons rfl, parse_from_cons rfl,
        parse_document_tokens (.members [] name :: frames) _ value here]
      exact parse_member_tokens frames rest [(name, value)] members others

theorem parse_item_tokens (frames : List Frame) (rest : List Token) (read : List Json) :
    (items : List Json) → Fits care (frames.length + 1) (itemsDepth items) →
      parseFrom? care (.afterItem read frames) (itemTokens items ++ rest) =
        parseFrom? care (deliver (.array (read.reverse ++ items)) frames) rest
  | [], _ => by
      rw [List.append_nil]
      rfl
  | item :: items, fits => by
      obtain ⟨here, others⟩ := fits_max fits
      have later := parse_item_tokens frames rest (item :: read) items others
      rw [itemTokens, List.append_assoc, List.cons_append, parse_from_cons rfl,
        parse_document_tokens (.items read :: frames) _ item here, deliver, later]
      simp

theorem parse_member_tokens (frames : List Frame) (rest : List Token)
    (read : List (String × Json)) :
    (members : List (String × Json)) → Fits care (frames.length + 1) (membersDepth members) →
      parseFrom? care (.afterMember read frames) (memberTokens members ++ rest) =
        parseFrom? care (deliver (.object (read.reverse ++ members)) frames) rest
  | [], _ => by
      rw [List.append_nil]
      rfl
  | (name, value) :: members, fits => by
      obtain ⟨here, others⟩ := fits_max fits
      have later := parse_member_tokens frames rest ((name, value) :: read) members others
      rw [memberTokens, List.append_assoc]
      simp only [List.cons_append]
      rw [parse_from_cons rfl, parse_from_cons rfl, parse_from_cons rfl,
        parse_document_tokens (.members read name :: frames) _ value here, deliver, later]
      simp

end

theorem parse_tokens {document : Json} (fits : Fits care 0 document.depth) :
    parseFrom? care (.value []) document.tokens = some document := by
  have parsed := parse_document_tokens [] [] document fits
  rw [List.append_nil] at parsed
  exact parsed

/-- The tokens of a document say which one it is. -/
theorem tokens_injective {document other : Json} (same : document.tokens = other.tokens) :
    document = other := by
  have first : parseFrom? .form (.value []) document.tokens = some document :=
    parse_tokens (.inl rfl)
  have second : parseFrom? .form (.value []) other.tokens = some other := parse_tokens (.inl rfl)
  rw [same, second] at first
  exact (Option.some.inj first).symm

end Documents

section Soundness

variable {frames : List Frame} {taken : List Token} {expect next : Expect} {token : Token}

/-- The tokens from which these frames have been opened, with whatever they hold within the limit. -/
inductive Opened : List Frame → List Token → Prop
  | outside : Opened [] []
  | array {frames : List Frame} {taken : List Token} (opened : Opened frames taken)
      (room : frames.length < depthLimit) : Opened (.items [] :: frames) (taken ++ [.openArray])
  | item {frames : List Frame} {taken : List Token} {read : List Json} {item : Json}
      (opened : Opened (.items read :: frames) taken)
      (fits : Fits .content (frames.length + 1) item.depth) :
      Opened (.items (item :: read) :: frames) (taken ++ item.tokens ++ [.comma])
  | object {frames : List Frame} {taken : List Token} (name : String)
      (opened : Opened frames taken) (room : frames.length < depthLimit) :
      Opened (.members [] name :: frames) (taken ++ [.openObject, .text name, .colon])
  | member {frames : List Frame} {taken : List Token} {read : List (String × Json)}
      {name : String} {value : Json} (next : String)
      (opened : Opened (.members read name :: frames) taken)
      (fits : Fits .content (frames.length + 1) value.depth) :
      Opened (.members ((name, value) :: read) next :: frames)
        (taken ++ value.tokens ++ [.comma, .text next, .colon])

/-- The tokens after which this is what comes next. -/
inductive Reached : Expect → List Token → Prop
  | value {frames : List Frame} {taken : List Token} (opened : Opened frames taken) :
      Reached (.value frames) taken
  | firstItem {frames : List Frame} {taken : List Token} (opened : Opened frames taken)
      (room : frames.length < depthLimit) : Reached (.firstItem frames) (taken ++ [.openArray])
  | firstName {frames : List Frame} {taken : List Token} (opened : Opened frames taken)
      (room : frames.length < depthLimit) : Reached (.firstName frames) (taken ++ [.openObject])
  | delivered {frames : List Frame} {taken : List Token} {value : Json}
      (opened : Opened frames taken) (fits : Fits .content frames.length value.depth) :
      Reached (deliver value frames) (taken ++ value.tokens)
  | nextName {frames : List Frame} {taken : List Token} {read : List (String × Json)}
      {name : String} {value : Json} (opened : Opened (.members read name :: frames) taken)
      (fits : Fits .content (frames.length + 1) value.depth) :
      Reached (.nextName ((name, value) :: read) frames) (taken ++ value.tokens ++ [.comma])
  | colon {frames : List Frame} {taken : List Token} {read : List (String × Json)} {name : String}
      (opened : Opened (.members read name :: frames) (taken ++ [.colon])) :
      Reached (.colon read name frames) taken

theorem fits_outside {outside depth : Nat} (fits : Fits .content (outside + 1) depth) :
    Fits .content outside (depth + 1) :=
  fits.imp id fun bounded => by omega

theorem fits_both {outside depth other : Nat} (here : Fits .content outside depth)
    (others : Fits .content outside other) : Fits .content outside (max depth other) := by
  have first := here.resolve_left (by decide)
  have second := others.resolve_left (by decide)
  exact .inr (by omega)

/-- An open array becomes the array of what it holds and of what comes up to its closing bracket. -/
theorem opened_items {read : List Json} (opened : Opened (.items read :: frames) taken) :
    ∃ outside, Opened frames outside ∧ ∀ item items,
      Fits .content (frames.length + 1) (itemsDepth (item :: items)) →
        taken ++ item.tokens ++ itemTokens items =
            outside ++ (Json.array (read.reverse ++ item :: items)).tokens ∧
          Fits .content frames.length (Json.array (read.reverse ++ item :: items)).depth := by
  induction read generalizing taken with
  | nil =>
      cases opened with
      | array opened _ =>
          refine ⟨_, opened, fun item items fits => ⟨?_, fits_outside fits⟩⟩
          simp [tokens]
  | cons last read induction =>
      cases opened with
      | item opened fitsLast =>
          obtain ⟨outside, opened, closed⟩ := induction opened
          refine ⟨outside, opened, fun item items fits => ?_⟩
          have whole := closed last (item :: items) (fits_both fitsLast fits)
          simpa [itemTokens] using whole

theorem opened_members {read : List (String × Json)} {name : String}
    (opened : Opened (.members read name :: frames) taken) :
    ∃ outside, Opened frames outside ∧ ∀ value members,
      Fits .content (frames.length + 1) (membersDepth ((name, value) :: members)) →
        taken ++ value.tokens ++ memberTokens members =
            outside ++ (Json.object (read.reverse ++ (name, value) :: members)).tokens ∧
          Fits .content frames.length
            (Json.object (read.reverse ++ (name, value) :: members)).depth := by
  induction read generalizing taken name with
  | nil =>
      cases opened with
      | object _ opened _ =>
          refine ⟨_, opened, fun value members fits => ⟨?_, fits_outside fits⟩⟩
          simp [tokens]
  | cons last read induction =>
      cases opened with
      | member _ opened fitsLast =>
          obtain ⟨outside, opened, closed⟩ := induction opened
          refine ⟨outside, opened, fun value members fits => ?_⟩
          have whole := closed _ ((name, value) :: members) (fits_both fitsLast fits)
          simpa [memberTokens] using whole

theorem room_of_may_open (may : mayOpen .content frames) : frames.length < depthLimit := by
  simpa [mayOpen] using may

theorem length_le_of_opened (opened : Opened frames taken) : frames.length ≤ depthLimit := by
  cases opened with
  | outside => exact Nat.zero_le _
  | array _ room | object _ _ room => exact room
  | item _ fits | member _ _ fits =>
      have bounded := fits.resolve_left (by decide)
      exact Nat.le_trans (Nat.le_add_right _ _) bounded

theorem fits_flat (opened : Opened frames taken) : Fits .content frames.length 0 :=
  .inr (length_le_of_opened opened)

theorem reached_started (opened : Opened frames taken)
    (started : startValue? .content frames token = some next) : Reached next (taken ++ [token]) := by
  cases token with
  | null | bool | number | text =>
      obtain rfl := Option.some.inj started
      exact .delivered opened (fits_flat opened)
  | openArray =>
      obtain ⟨may, same⟩ := Option.ite_none_right_eq_some.1 started
      obtain rfl := Option.some.inj same
      exact .firstItem opened (room_of_may_open may)
  | openObject =>
      obtain ⟨may, same⟩ := Option.ite_none_right_eq_some.1 started
      obtain rfl := Option.some.inj same
      exact .firstName opened (room_of_may_open may)
  | closeArray | closeObject | comma | colon => contradiction

theorem reached_first_item (opened : Opened frames taken) (room : frames.length < depthLimit)
    (stepped : (Expect.firstItem frames).step? .content token = some next) :
    Reached next (taken ++ [.openArray] ++ [token]) := by
  cases token with
  | closeArray =>
      obtain rfl := Option.some.inj stepped
      rw [List.append_assoc]
      have fits : Fits .content frames.length (Json.array []).depth := .inr room
      exact .delivered opened fits
  | null | bool | number | text | openArray | openObject | closeObject | comma | colon =>
      exact reached_started (.array opened room) stepped

theorem reached_first_name (opened : Opened frames taken) (room : frames.length < depthLimit)
    (stepped : (Expect.firstName frames).step? .content token = some next) :
    Reached next (taken ++ [.openObject] ++ [token]) := by
  cases token with
  | closeObject =>
      obtain rfl := Option.some.inj stepped
      rw [List.append_assoc]
      have fits : Fits .content frames.length (Json.object []).depth := .inr room
      exact .delivered opened fits
  | text name =>
      obtain rfl := Option.some.inj stepped
      refine .colon ?_
      simpa using Opened.object name opened room
  | null | bool | number | openArray | openObject | closeArray | comma | colon => contradiction

theorem reached_after_value {value : Json} (opened : Opened frames taken)
    (fits : Fits .content frames.length value.depth)
    (stepped : (deliver value frames).step? .content token = some next) :
    Reached next (taken ++ value.tokens ++ [token]) := by
  cases frames with
  | nil => cases token <;> contradiction
  | cons frame frames =>
      cases frame with
      | items read =>
          cases token with
          | comma =>
              obtain rfl := Option.some.inj stepped
              exact .value (.item opened fits)
          | closeArray =>
              obtain rfl := Option.some.inj stepped
              obtain ⟨outside, around, closed⟩ := opened_items opened
              obtain ⟨same, whole⟩ := closed value []
                (fits_both fits (.inr (length_le_of_opened opened)))
              rw [itemTokens] at same
              rw [same, List.reverse_cons]
              exact .delivered around whole
          | null | bool | number | text | openArray | openObject | closeObject | colon =>
              contradiction
      | members read name =>
          cases token with
          | comma =>
              obtain rfl := Option.some.inj stepped
              exact .nextName opened fits
          | closeObject =>
              obtain rfl := Option.some.inj stepped
              obtain ⟨outside, around, closed⟩ := opened_members opened
              obtain ⟨same, whole⟩ := closed value []
                (fits_both fits (.inr (length_le_of_opened opened)))
              rw [memberTokens] at same
              rw [same, List.reverse_cons]
              exact .delivered around whole
          | null | bool | number | text | openArray | openObject | closeArray | colon =>
              contradiction

/-- A parser that takes a token has come along that token too. -/
theorem reached_stepped (reached : Reached expect taken)
    (stepped : expect.step? .content token = some next) : Reached next (taken ++ [token]) := by
  cases reached with
  | value opened => exact reached_started opened stepped
  | firstItem opened room => exact reached_first_item opened room stepped
  | firstName opened room => exact reached_first_name opened room stepped
  | delivered opened fits => exact reached_after_value opened fits stepped
  | nextName opened fits =>
      cases token with
      | text next =>
          obtain rfl := Option.some.inj stepped
          refine .colon ?_
          simpa using Opened.member next opened fits
      | _ => contradiction
  | colon opened =>
      cases token with
      | colon =>
          obtain rfl := Option.some.inj stepped
          exact .value opened
      | _ => contradiction

theorem reached_fold {tokens : List Token} (reached : Reached expect taken)
    (folded : tokens.foldlM (Expect.step? .content) expect = some next) :
    Reached next (taken ++ tokens) := by
  induction tokens generalizing expect taken with
  | nil =>
      obtain rfl := Option.some.inj folded
      rw [List.append_nil]
      exact reached
  | cons token tokens induction =>
      rw [List.foldlM_cons] at folded
      obtain ⟨after, stepped, folded⟩ := Option.bind_eq_some_iff.1 folded
      have later := induction (reached_stepped reached stepped) folded
      rw [List.append_assoc] at later
      exact later

theorem reached_finished {document : Json} (reached : Reached expect taken)
    (finished : expect = .finished document) :
    taken = document.tokens ∧ document.depth ≤ depthLimit := by
  cases reached with
  | @delivered frames _ _ opened fits =>
      cases frames with
      | nil =>
          obtain rfl := Expect.finished.inj finished
          cases opened
          exact ⟨rfl, by simpa using fits.resolve_left (by decide)⟩
      | cons frame => cases frame <;> contradiction
  | _ => contradiction

/-- Exactly the tokens of a document within the limit are parsed. -/
theorem parse_tokens_eq_some_iff {tokens : List Token} {document : Json} :
    parseFrom? .content (.value []) tokens = some document ↔
      tokens = document.tokens ∧ document.depth ≤ depthLimit := by
  constructor
  · intro parsed
    obtain ⟨last, folded, finished⟩ := Option.bind_eq_some_iff.1 parsed
    have same : last = .finished document := by
      cases last with
      | finished found => rw [Option.some.inj finished]
      | _ => contradiction
    exact reached_finished (reached_fold (.value .outside) folded) same
  · rintro ⟨rfl, bounded⟩
    exact parse_tokens (.inr (by rwa [Nat.zero_add]))

end Soundness

section Texts

variable {pieces : List Piece} {document : Json} {text : String}

theorem map_m_read_eq_some_iff {tokens : List Token} :
    pieces.mapM Piece.read? = some tokens ↔
      (∀ piece ∈ pieces, piece.read?.isSome) ∧ pieces.map Piece.meaning = tokens := by
  induction pieces generalizing tokens with
  | nil => simp
  | cons piece pieces induction =>
      simp only [map_m_read_cons, List.forall_mem_cons, List.map_cons, Option.bind_eq_some_iff,
        Option.map_eq_some_iff, induction]
      constructor
      · rintro ⟨token, read, _, ⟨others, rfl⟩, rfl⟩
        rw [Piece.meaning, read]
        exact ⟨⟨rfl, others⟩, rfl⟩
      · rintro ⟨⟨read, others⟩, rfl⟩
        obtain ⟨token, read⟩ := Option.isSome_iff_exists.1 read
        rw [Piece.meaning, read]
        exact ⟨token, rfl, _, ⟨others, rfl⟩, rfl⟩

/-- Exactly the readable texts of a document are read as that document. -/
theorem parse_eq_some_iff :
    parse? text = some document ↔
      ∃ pieces, IsText text pieces document ∧ Readable pieces document := by
  rw [parse_eq, Option.bind_eq_some_iff]
  simp only [parse_tokens_eq_some_iff, scan_eq_some_iff, map_m_read_eq_some_iff]
  constructor
  · rintro ⟨_, ⟨pieces, laid, read, shown⟩, rfl, bounded⟩
    exact ⟨pieces, ⟨laid, shown⟩, bounded, read⟩
  · rintro ⟨pieces, isText, readable⟩
    exact ⟨_, ⟨pieces, isText.laid, readable.read, isText.shown⟩, rfl, readable.bounded⟩

/-- A text of a document is read as nothing else. -/
theorem parse_of_is_text (isText : IsText text pieces document) :
    (parse? text = some document ↔ Readable pieces document) ∧
      (parse? text = none ↔ ¬ Readable pieces document) := by
  have only : ∀ other, parse? text = some other → other = document ∧ Readable pieces document := by
    intro other parsed
    obtain ⟨others, otherText, readable⟩ := parse_eq_some_iff.1 parsed
    have scanned : tokensFrom? .content .between text.toList = some other.tokens :=
      scan_eq_some_iff.2 ⟨others, otherText.laid,
        map_m_read_eq_some_iff.2 ⟨readable.read, otherText.shown⟩⟩
    rw [scan_laid isText.laid, map_m_read_eq_some_iff, isText.shown] at scanned
    obtain rfl := tokens_injective scanned.2
    exact ⟨rfl, readable.bounded, scanned.1⟩
  have known : Readable pieces document → parse? text = some document :=
    fun readable => parse_eq_some_iff.2 ⟨pieces, isText, readable⟩
  refine ⟨⟨fun parsed => (only document parsed).2, known⟩, ?_⟩
  cases parsed : parse? text with
  | none =>
      refine ⟨fun _ readable => ?_, fun _ => rfl⟩
      rw [known readable] at parsed
      contradiction
  | some other =>
      refine ⟨fun impossible => by contradiction, fun refused => ?_⟩
      exact absurd (only other parsed).2 refused

end Texts

end TraceOverhead.Json
