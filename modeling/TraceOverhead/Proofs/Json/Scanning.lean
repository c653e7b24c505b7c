import TraceOverhead.Json.Printer
import TraceOverhead.Json.Token
import TraceOverhead.Proofs.Json.Grammar
/-!
Scanning a text. A text that is laid out as pieces is scanned as what can be read of them, and only
such a text is scanned at all: what the scanner is in the middle of says how the text has to go on.
-/

namespace TraceOverhead.Json

/-- The tokens of a text that is scanned to its end. -/
def tokensFrom? (care : Care) : Scan → List Char → Option (List Token)
  | scan, [] => scan.finish? care
  | scan, character :: rest => do
    let (first, scan) ← scan.step? care character
    let later ← tokensFrom? care scan rest
    some (first ++ later)

section Steps

variable {scan : Scan} {character : Char} {rest : List Char}

/-- A character that completes no token. -/
theorem tokens_from_silent (next : Scan)
    (stepped : scan.step? .content character = some ([], next)) :
    tokensFrom? .content scan (character :: rest) = tokensFrom? .content next rest := by
  rw [tokensFrom?, stepped]
  change ((tokensFrom? .content next rest).bind fun later => some ([] ++ later)) = _
  cases tokensFrom? .content next rest <;> rfl

theorem tokens_from_complete {token : Token} {next : Scan}
    (stepped : scan.step? .content character = some ([token], next)) :
    tokensFrom? .content scan (character :: rest) =
      (tokensFrom? .content next rest).map (token :: ·) := by
  rw [tokensFrom?, stepped]
  change ((tokensFrom? .content next rest).bind fun later => some ([token] ++ later)) = _
  cases tokensFrom? .content next rest <;> rfl

theorem tokens_from_refused (stepped : scan.step? .content character = none) :
    tokensFrom? .content scan (character :: rest) = none := by
  rw [tokensFrom?, stepped]
  rfl

end Steps

section Strings

variable {rest : List Char}

/-- In a string, or after a high surrogate in it. -/
def stringScan (read : List Char) : Option Nat → Scan
  | none => .quoted read
  | some high => .paired read high

theorem scan_digits {digits : List Char} (read : List Char) (lead? : Option Nat) (value : Nat)
    (nonempty : digits ≠ []) (hexadecimal : ∀ digit ∈ digits, (hexDigit? digit).isSome) :
    tokensFrom? .content (.unit read lead? digits.length value) (digits ++ rest) =
      (finishUnit? .content read lead?
        (digits.foldl (fun value digit => value * 16 + (hexDigit? digit).getD 0) value)).bind
          fun next => tokensFrom? .content next rest := by
  induction digits generalizing value with
  | nil => contradiction
  | cons digit digits induction =>
      obtain ⟨number, means⟩ := Option.isSome_iff_exists.1 (hexadecimal digit (by simp))
      rw [List.foldl_cons, means, Option.getD_some, List.cons_append]
      cases digits with
      | nil =>
          have stepped : (Scan.unit read lead? 1 value).step? .content digit =
              (finishUnit? .content read lead? (value * 16 + number)).map fun scan => ([], scan) := by
            rw [Scan.step?, means]
            rfl
          rw [List.foldl_nil, List.nil_append]
          cases finished : finishUnit? .content read lead? (value * 16 + number) with
          | none => exact tokens_from_refused (by rw [List.length_singleton, stepped, finished]; rfl)
          | some next =>
              exact tokens_from_silent next (by rw [List.length_singleton, stepped, finished]; rfl)
      | cons second digits =>
          have stepped : (Scan.unit read lead? (digits.length + 2) value).step? .content digit =
              some ([], .unit read lead? (digits.length + 1) (value * 16 + number)) := by
            simp [Scan.step?, means]
          rw [List.length_cons, List.length_cons, tokens_from_silent _ stepped]
          exact induction _ (by simp) fun other member => hexadecimal other (by simp [member])

theorem scan_unit {digits : List Char} (read : List Char) (lead? : Option Nat)
    (four : digits.length = 4) (hexadecimal : ∀ digit ∈ digits, (hexDigit? digit).isSome) :
    tokensFrom? .content (stringScan read lead?) ('\\' :: 'u' :: (digits ++ rest)) =
      (finishUnit? .content read lead? (hexValue digits)).bind
        fun next => tokensFrom? .content next rest := by
  have nonempty : digits ≠ [] := by
    rintro rfl
    contradiction
  have opened : tokensFrom? .content (stringScan read lead?) ('\\' :: 'u' :: (digits ++ rest)) =
      tokensFrom? .content (.unit read lead? 4 0) (digits ++ rest) := by
    cases lead? with
    | none => rw [stringScan, tokens_from_silent (.escape read) rfl, tokens_from_silent _ rfl]
    | some high =>
        rw [stringScan, tokens_from_silent (.pairedEscape read high) rfl, tokens_from_silent _ rfl]
  rw [opened, ← four]
  exact scan_digits read lead? 0 nonempty hexadecimal

/-- The tokens from a string on, of whose text `read` came before. -/
def stringTokens (rest read : List Char) (text? : Option (List Char)) : Option (List Token) :=
  text?.bind fun text =>
    (tokensFrom? .content .between rest).map (.text (String.ofList (read.reverse ++ text)) :: ·)

theorem string_tokens_cons (value : Char) (read : List Char) (text? : Option (List Char)) :
    stringTokens rest (value :: read) text? = stringTokens rest read (text?.map (value :: ·)) := by
  cases text? <;> simp [stringTokens]

/-- A string is scanned as the text of its parts. -/
theorem scan_spelled {parts : List StringPart} {inside : List Char} (spelled : Spelled parts inside)
    (read : List Char) (lead? : Option Nat) :
    tokensFrom? .content (stringScan read lead?) (inside ++ '"' :: rest) =
      stringTokens rest read (partsText? lead? parts) := by
  induction spelled generalizing read lead? with
  | finish =>
      cases lead? with
      | none =>
          rw [stringScan, List.nil_append, partsText?, stringTokens, Option.bind_some, List.append_nil]
          exact tokens_from_complete rfl
      | some high => exact tokens_from_refused rfl
  | @plain value parts text uncontrolled unmarked _ induction =>
      cases lead? with
      | none =>
          have stepped : (Scan.quoted read).step? .content value =
              some ([], .quoted (value :: read)) := by
            simp only [Scan.step?, if_neg unmarked.1, if_neg unmarked.2,
              if_neg (Nat.not_lt.2 uncontrolled)]
          rw [stringScan, List.cons_append, tokens_from_silent _ stepped, partsText?,
            ← string_tokens_cons]
          exact induction (value :: read) none
      | some high => exact tokens_from_refused (if_neg unmarked.2)
  | @short letter value parts text means _ induction =>
      have numbered : letter ≠ 'u' := by
        rintro rfl
        contradiction
      cases lead? with
      | none =>
          have stepped : (Scan.escape read).step? .content letter =
              some ([], .quoted (value :: read)) := by
            simp [Scan.step?, numbered, means]
          rw [stringScan, List.cons_append, List.cons_append,
            tokens_from_silent (.escape read) rfl, tokens_from_silent _ stepped, partsText?,
            ← string_tokens_cons]
          exact induction (value :: read) none
      | some high =>
          rw [stringScan, List.cons_append, List.cons_append,
            tokens_from_silent (.pairedEscape read high) rfl]
          exact tokens_from_refused (if_neg numbered)
  | @unit digits parts text four hexadecimal _ induction =>
      rw [List.cons_append, List.cons_append, List.append_assoc,
        scan_unit read lead? four hexadecimal]
      cases lead? with
      | none =>
          simp only [finishUnit?, partsText?, reduceCtorEq, if_false]
          by_cases high : isHighSurrogate (hexValue digits)
          · rw [if_pos high, if_pos high]
            exact induction read (some _)
          · rw [if_neg high, if_neg high]
            by_cases low : isLowSurrogate (hexValue digits)
            · rw [if_pos low, if_pos low]
              rfl
            · rw [if_neg low, if_neg low, ← string_tokens_cons]
              exact induction (_ :: read) none
      | some lead =>
          simp only [finishUnit?, partsText?]
          by_cases low : isLowSurrogate (hexValue digits)
          · rw [if_pos low, if_pos low, ← string_tokens_cons]
            exact induction (_ :: read) none
          · rw [if_neg low, if_neg low]
            rfl

end Strings

section Words

variable {scan : Scan} {rest : List Char}

/-- A longer token is complete where something ends it, the end of the text included. -/
theorem scan_ended {token? : Option Token} {belongs : Char → Bool} (ended : Stops belongs rest)
    (finished : scan.finish? .content = token?.map fun token => [token])
    (stopped : ∀ character, belongs character = false →
      scan.step? .content character = endToken? token? character) :
    tokensFrom? .content scan rest =
      token?.bind fun token => (tokensFrom? .content .between rest).map (token :: ·) := by
  cases rest with
  | nil =>
      rw [tokensFrom?, tokensFrom?, finished]
      cases token? <;> rfl
  | cons character rest =>
      rw [tokensFrom?, tokensFrom?, stopped character (ended character rfl)]
      cases token? with
      | none => rfl
      | some token =>
          change ((startToken? character).bind fun found =>
            some (token :: found.1, found.2)).bind _ =
              Option.map _ ((startToken? character).bind _)
          cases startToken? character with
          | none => rfl
          | some found =>
              change ((tokensFrom? .content found.2 rest).bind fun later => _) =
                Option.map _ ((tokensFrom? .content found.2 rest).bind fun later => _)
              cases tokensFrom? .content found.2 rest <;> rfl

/-- Characters that belong to a longer token are kept until it ends. -/
theorem scan_while (state : List Char → Scan) {belongs : Char → Bool}
    (kept : ∀ read character, belongs character →
      (state read).step? .content character = some ([], state (character :: read)))
    (read : List Char) {characters : List Char} (all : characters.all belongs) :
    tokensFrom? .content (state read) (characters ++ rest) =
      tokensFrom? .content (state (characters.reverse ++ read)) rest := by
  induction characters generalizing read with
  | nil => rfl
  | cons character characters induction =>
      rw [List.all_cons, Bool.and_eq_true] at all
      rw [List.cons_append, tokens_from_silent _ (kept read character all.1), induction _ all.2,
        List.reverse_cons, List.append_assoc, List.singleton_append]

theorem word_step (read : List Char) (character : Char) :
    (Scan.word read).step? .content character =
      if character.isAlpha then some ([], .word (character :: read))
      else endToken? (wordToken? read.reverse) character :=
  rfl

theorem numeral_step (read : List Char) (character : Char) :
    (Scan.numeral read).step? .content character =
      if isNumeralChar character then some ([], .numeral (character :: read))
      else endToken? (numeralToken? .content read.reverse) character :=
  rfl

theorem word_token_of_known {word : String} {token : Token} (known : (word, token) ∈ words) :
    wordToken? word.toList = some token ∧ word.toList.all Char.isAlpha ∧
      ∃ letter letters, word.toList = letter :: letters ∧
        Scan.between.step? .content letter = some ([], .word [letter]) := by
  simp only [words, List.mem_cons, Prod.mk.injEq, List.not_mem_nil, or_false] at known
  rcases known with ⟨rfl, rfl⟩ | ⟨rfl, rfl⟩ | ⟨rfl, rfl⟩ <;> exact ⟨rfl, rfl, _, _, rfl, rfl⟩

theorem scan_word {word : String} {token : Token} (known : (word, token) ∈ words)
    (ended : Stops Char.isAlpha rest) :
    tokensFrom? .content .between (word.toList ++ rest) =
      (tokensFrom? .content .between rest).map (token :: ·) := by
  obtain ⟨means, alphabetic, letter, letters, spelled, begun⟩ := word_token_of_known known
  rw [spelled] at means alphabetic
  rw [List.all_cons, Bool.and_eq_true] at alphabetic
  have whole : wordToken? (letters.reverse ++ [letter]).reverse = some token := by
    simpa using means
  have finished : (Scan.word (letters.reverse ++ [letter])).finish? .content =
      (some token).map fun token => [token] := by
    rw [Scan.finish?, whole]
  rw [spelled, List.cons_append, tokens_from_silent (.word [letter]) begun,
    scan_while .word (fun read letter known => if_pos known) [letter] alphabetic.2,
    scan_ended ended finished]
  · rfl
  · intro character other
    rw [word_step, other, whole]
    rfl

theorem start_token_digit {character : Char} (digit : Number.isDigit character) :
    startToken? character = some ([], .numeral [character]) := by
  fun_cases startToken? character with
  | case13 | case14 | case15 => simp_all
  | _ => contradiction

theorem scan_numeral {parts : NumeralParts} {digits : List Char}
    (spelled : NumeralSpelled parts digits) (ended : Stops isNumeralChar rest) :
    tokensFrom? .content .between (digits ++ rest) =
      (Piece.numeral parts).read?.bind fun token =>
        (tokensFrom? .content .between rest).map (token :: ·) := by
  obtain ⟨numeric, first, others, rfl, starts⟩ := numeral_chars_of_spelled spelled
  have begun : Scan.between.step? .content first = some ([], .numeral [first]) := by
    rcases starts with rfl | digit
    · rfl
    · exact start_token_digit digit
  have whole : numeralToken? .content (others.reverse ++ [first]).reverse =
      (Piece.numeral parts).read? := by
    have parsed := numeral_parts_eq_some_iff.2 spelled
    rw [List.reverse_append, List.reverse_reverse, List.reverse_singleton, List.singleton_append,
      numeralToken?, numeral?, parsed]
    rfl
  rw [List.all_cons, Bool.and_eq_true] at numeric
  rw [List.cons_append, tokens_from_silent (.numeral [first]) begun,
    scan_while .numeral (fun read character known => if_pos known) [first] numeric.2,
    scan_ended ended]
  · rw [Scan.finish?, whole]
  · intro character other
    rw [numeral_step, other, whole]
    rfl

end Words

theorem start_mark {character : Char} {token : Token}
    (stands : markToken? character = some token) :
    Scan.between.step? .content character = some ([token], .between) := by
  revert stands
  fun_cases markToken? character with
  | case7 => exact fun impossible => by contradiction
  | _ => exact fun stands => by rw [← Option.some.inj stands]; rfl

theorem start_blank {character : Char} (blank : isBlank character) :
    Scan.between.step? .content character = some ([], .between) := by
  simp only [isBlank, Bool.or_eq_true, beq_iff_eq] at blank
  rcases blank with ((rfl | rfl) | rfl) | rfl <;> rfl

theorem map_m_read_cons (piece : Piece) (pieces : List Piece) :
    (piece :: pieces).mapM Piece.read? =
      piece.read?.bind fun token => (pieces.mapM Piece.read?).map (token :: ·) := by
  rw [List.mapM_cons]
  cases piece.read? with
  | none => rfl
  | some token => cases pieces.mapM Piece.read? <;> rfl

/-- A text that is laid out as pieces is scanned as what can be read of them. -/
theorem scan_laid {pieces : List Piece} {text : List Char} (laid : Laid pieces text) :
    tokensFrom? .content .between text = pieces.mapM Piece.read? := by
  induction laid with
  | finish => rfl
  | blank between _ induction => rw [tokens_from_silent .between (start_blank between), induction]
  | mark stands _ induction =>
      rw [tokens_from_complete (start_mark stands), induction, map_m_read_cons]
      rfl
  | word known ended _ induction =>
      rw [scan_word known ended, induction, map_m_read_cons]
      rfl
  | numeral spelled ended _ induction =>
      rw [scan_numeral spelled ended, induction, map_m_read_cons]
  | string spelled _ induction =>
      rw [tokens_from_silent (.quoted []) rfl, map_m_read_cons, ← induction, Piece.read?,
        Option.bind_map]
      exact scan_spelled spelled [] none

section Soundness

variable {character : Char} {rest : List Char} {first : List Token} {next : Scan}

/-- How a text goes on inside a string of which a part, if any, is still open. -/
def StringGoesOn (opened : List Char) (text : List Char) : Prop :=
  ∃ parts inside rest pieces, text = inside ++ '"' :: rest ∧ Spelled parts (opened ++ inside) ∧
    Laid pieces rest

/-- How a text goes on after what the scanner is in the middle of. -/
def Scan.GoesOn : Scan → List Char → Prop
  | .between, text => ∃ pieces, Laid pieces text
  | .word read, text => ∃ word token letters rest pieces, text = letters ++ rest ∧
      word.toList = read.reverse ++ letters ∧ (word, token) ∈ words ∧ Stops Char.isAlpha rest ∧
      Laid pieces rest
  | .numeral read, text => ∃ parts digits rest pieces, text = digits ++ rest ∧
      NumeralSpelled parts (read.reverse ++ digits) ∧ Stops isNumeralChar rest ∧ Laid pieces rest
  | .quoted _, text => StringGoesOn [] text
  | .escape _, text => StringGoesOn ['\\'] text
  | .unit _ _ left _, text => ∃ digits rest, text = digits ++ rest ∧ digits.length = max left 1 ∧
      (∀ digit ∈ digits, (hexDigit? digit).isSome) ∧ StringGoesOn [] rest
  | .paired .., text => StringGoesOn [] text
  | .pairedEscape .., text => StringGoesOn ['\\'] text

theorem goes_on_marked {token : Token} (stands : markToken? character = some token)
    (later : Scan.between.GoesOn rest) : Scan.between.GoesOn (character :: rest) := by
  obtain ⟨pieces, laid⟩ := later
  exact ⟨_, .mark stands laid⟩

theorem goes_on_numeral (later : (Scan.numeral [character]).GoesOn rest) :
    Scan.between.GoesOn (character :: rest) := by
  obtain ⟨parts, digits, after, pieces, rfl, spelled, ended, laid⟩ := later
  exact ⟨_, .numeral spelled ended laid⟩

theorem goes_on_word (later : (Scan.word [character]).GoesOn rest) :
    Scan.between.GoesOn (character :: rest) := by
  obtain ⟨word, token, letters, after, pieces, rfl, same, known, ended, laid⟩ := later
  have whole := Laid.word known ended laid
  rw [same] at whole
  exact ⟨_, whole⟩

theorem goes_on_started (started : startToken? character = some (first, next))
    (later : next.GoesOn rest) : Scan.between.GoesOn (character :: rest) := by
  revert started
  fun_cases startToken? character with
  | case1 | case2 | case3 | case4 | case5 | case6 =>
      rintro ⟨⟩
      exact goes_on_marked rfl later
  | case7 =>
      rintro ⟨⟩
      obtain ⟨parts, inside, after, pieces, rfl, spelled, laid⟩ := later
      exact ⟨_, .string spelled laid⟩
  | case8 | case9 | case10 | case11 =>
      rintro ⟨⟩
      obtain ⟨pieces, laid⟩ := later
      exact ⟨pieces, .blank rfl laid⟩
  | case12 =>
      rintro ⟨⟩
      exact goes_on_numeral later
  | case13 _ digit =>
      rw [if_pos digit]
      rintro ⟨⟩
      exact goes_on_numeral later
  | case14 _ other letter =>
      rw [if_neg other, if_pos letter]
      rintro ⟨⟩
      exact goes_on_word later
  | case15 _ other unknown =>
      rw [if_neg other, if_neg unknown]
      rintro ⟨⟩

/-- A character that ends a longer token starts what comes after it. -/
theorem goes_on_ended {token? : Option Token}
    (stepped : endToken? token? character = some (first, next)) (later : next.GoesOn rest) :
    (∃ token, token? = some token) ∧ ∃ pieces, Laid pieces (character :: rest) := by
  cases token? with
  | none => contradiction
  | some token =>
      obtain ⟨found, started, same⟩ := Option.bind_eq_some_iff.1 stepped
      obtain ⟨-, rfl⟩ := Prod.mk.inj (Option.some.inj same)
      exact ⟨⟨token, rfl⟩, goes_on_started started later⟩

theorem word_of_token {word : List Char} {token : Token} (known : wordToken? word = some token) :
    ∃ named, (named, token) ∈ words ∧ named.toList = word := by
  rw [wordToken?] at known
  split at known
  · rename_i same
    exact ⟨"null", by simp [words, ← Option.some.inj known], same.symm⟩
  split at known
  · rename_i same
    exact ⟨"true", by simp [words, ← Option.some.inj known], same.symm⟩
  split at known
  · rename_i same
    exact ⟨"false", by simp [words, ← Option.some.inj known], same.symm⟩
  · contradiction

theorem goes_on_word_finished {read text : List Char} {token : Token} {pieces : List Piece}
    (known : wordToken? read.reverse = some token) (ended : Stops Char.isAlpha text)
    (laid : Laid pieces text) : (Scan.word read).GoesOn text := by
  obtain ⟨word, named, same⟩ := word_of_token known
  exact ⟨word, token, [], text, pieces, rfl, by rw [same, List.append_nil], named, ended, laid⟩

theorem goes_on_numeral_finished {read text : List Char} {token : Token} {pieces : List Piece}
    (known : numeralToken? .content read.reverse = some token)
    (ended : Stops isNumeralChar text) (laid : Laid pieces text) :
    (Scan.numeral read).GoesOn text := by
  obtain ⟨value, read_as, -⟩ := Option.map_eq_some_iff.1 known
  obtain ⟨parts, formed, -⟩ := Option.bind_eq_some_iff.1 read_as
  have spelled := numeral_parts_eq_some_iff.1 formed
  rw [← List.append_nil read.reverse] at spelled
  exact ⟨parts, [], text, pieces, rfl, spelled, ended, laid⟩

theorem string_goes_on_of_finished {read : List Char} {lead? : Option Nat} {value : Nat}
    (finished : finishUnit? .content read lead? value = some next) (later : next.GoesOn rest) :
    StringGoesOn [] rest := by
  cases lead? with
  | some lead =>
      rw [finishUnit?] at finished
      obtain ⟨-, finished⟩ := Option.ite_none_right_eq_some.1 finished
      obtain rfl := Option.some.inj finished
      exact later
  | none =>
      simp only [finishUnit?, reduceCtorEq, if_false] at finished
      split at finished
      · obtain rfl := Option.some.inj finished
        exact later
      · obtain ⟨-, finished⟩ := Option.ite_none_left_eq_some.1 finished
        obtain rfl := Option.some.inj finished
        exact later

theorem escape_goes_on_of_unit {read : List Char} {lead? : Option Nat} (numeric : character = 'u')
    (later : (Scan.unit read lead? 4 0).GoesOn rest) :
    StringGoesOn ['\\'] (character :: rest) := by
  obtain ⟨digits, _, rfl, four, hexadecimal, _, inside, last, pieces, rfl, spelled, laid⟩ := later
  have spelled := Spelled.unit four hexadecimal spelled
  rw [numeric]
  exact ⟨_, 'u' :: (digits ++ inside), last, pieces, by simp, spelled, laid⟩

theorem unit_step (read : List Char) (lead? : Option Nat) (left value : Nat) (character : Char) :
    (Scan.unit read lead? left value).step? .content character =
      (hexDigit? character).bind fun digit =>
        if left ≤ 1 then
          (finishUnit? .content read lead? (value * 16 + digit)).map fun scan => ([], scan)
        else some ([], .unit read lead? (left - 1) (value * 16 + digit)) :=
  rfl

theorem stops_cons {belongs : Char → Bool} (other : ¬ belongs character) :
    Stops belongs (character :: rest) := by
  rintro _ ⟨⟩
  exact Bool.not_eq_true _ ▸ other

theorem goes_on_in_word {read : List Char}
    (stepped : (Scan.word read).step? .content character = some (first, next))
    (later : next.GoesOn rest) : (Scan.word read).GoesOn (character :: rest) := by
  rw [word_step] at stepped
  split at stepped
  · obtain ⟨-, rfl⟩ := Prod.mk.inj (Option.some.inj stepped)
    obtain ⟨word, token, letters, after, pieces, rfl, same, others⟩ := later
    refine ⟨word, token, character :: letters, after, pieces, rfl, ?_, others⟩
    simpa using same
  · rename_i other
    obtain ⟨⟨token, known⟩, pieces, laid⟩ := goes_on_ended stepped later
    exact goes_on_word_finished known (stops_cons other) laid

theorem goes_on_in_numeral {read : List Char}
    (stepped : (Scan.numeral read).step? .content character = some (first, next))
    (later : next.GoesOn rest) : (Scan.numeral read).GoesOn (character :: rest) := by
  rw [numeral_step] at stepped
  split at stepped
  · obtain ⟨-, rfl⟩ := Prod.mk.inj (Option.some.inj stepped)
    obtain ⟨parts, digits, after, pieces, rfl, spelled, others⟩ := later
    refine ⟨parts, character :: digits, after, pieces, rfl, ?_, others⟩
    simpa using spelled
  · rename_i other
    obtain ⟨⟨token, known⟩, pieces, laid⟩ := goes_on_ended stepped later
    exact goes_on_numeral_finished known (stops_cons other) laid

theorem string_goes_on_escaping (escaping : character = '\\')
    (later : StringGoesOn ['\\'] rest) : StringGoesOn [] (character :: rest) := by
  obtain ⟨parts, inside, after, pieces, rfl, spelled, laid⟩ := later
  rw [escaping]
  exact ⟨parts, '\\' :: inside, after, pieces, rfl, spelled, laid⟩

theorem goes_on_in_quotes {read : List Char}
    (stepped : (Scan.quoted read).step? .content character = some (first, next))
    (later : next.GoesOn rest) : StringGoesOn [] (character :: rest) := by
  rw [Scan.step?] at stepped
  split at stepped
  · rename_i closing
    obtain ⟨-, rfl⟩ := Prod.mk.inj (Option.some.inj stepped)
    obtain ⟨pieces, laid⟩ := later
    rw [closing]
    exact ⟨[], [], rest, pieces, rfl, .finish, laid⟩
  rename_i unclosed
  split at stepped
  · rename_i escaping
    obtain ⟨-, rfl⟩ := Prod.mk.inj (Option.some.inj stepped)
    exact string_goes_on_escaping escaping later
  rename_i unescaped
  split at stepped
  · contradiction
  · rename_i uncontrolled
    obtain ⟨-, rfl⟩ := Prod.mk.inj (Option.some.inj stepped)
    obtain ⟨parts, inside, after, pieces, rfl, spelled, laid⟩ := later
    exact ⟨_, character :: inside, after, pieces, rfl,
      .plain (Nat.le_of_not_lt uncontrolled) ⟨unclosed, unescaped⟩ spelled, laid⟩

theorem goes_on_in_escape {read : List Char}
    (stepped : (Scan.escape read).step? .content character = some (first, next))
    (later : next.GoesOn rest) : StringGoesOn ['\\'] (character :: rest) := by
  rw [Scan.step?] at stepped
  split at stepped
  · rename_i numeric
    obtain ⟨-, rfl⟩ := Prod.mk.inj (Option.some.inj stepped)
    exact escape_goes_on_of_unit numeric later
  · obtain ⟨value, means, same⟩ := Option.map_eq_some_iff.1 stepped
    obtain ⟨-, rfl⟩ := Prod.mk.inj same
    obtain ⟨parts, inside, after, pieces, rfl, spelled, laid⟩ := later
    exact ⟨_, character :: inside, after, pieces, rfl, .short means spelled, laid⟩

theorem goes_on_in_unit {read : List Char} {lead? : Option Nat} {left value : Nat}
    (stepped : (Scan.unit read lead? left value).step? .content character = some (first, next))
    (later : next.GoesOn rest) :
    (Scan.unit read lead? left value).GoesOn (character :: rest) := by
  rw [unit_step] at stepped
  obtain ⟨digit, means, stepped⟩ := Option.bind_eq_some_iff.1 stepped
  have hexadecimal : (hexDigit? character).isSome := by rw [means]; rfl
  split at stepped
  · rename_i last
    obtain ⟨_, finished, same⟩ := Option.map_eq_some_iff.1 stepped
    obtain ⟨-, rfl⟩ := Prod.mk.inj same
    refine ⟨[character], rest, rfl, ?_, by simpa using hexadecimal,
      string_goes_on_of_finished finished later⟩
    rw [List.length_singleton, Nat.max_eq_right last]
  · rename_i several
    obtain ⟨-, rfl⟩ := Prod.mk.inj (Option.some.inj stepped)
    obtain ⟨digits, after, rfl, counted, others, goesOn⟩ := later
    refine ⟨character :: digits, after, rfl, ?_, ?_, goesOn⟩
    · rw [List.length_cons, counted]
      omega
    · exact List.forall_mem_cons.2 ⟨hexadecimal, others⟩

/-- If a text goes on as it has to after a character, so it does from that character on. -/
theorem goes_on_stepped {scan : Scan} (stepped : scan.step? .content character = some (first, next))
    (later : next.GoesOn rest) : scan.GoesOn (character :: rest) := by
  cases scan with
  | between => exact goes_on_started stepped later
  | word => exact goes_on_in_word stepped later
  | numeral => exact goes_on_in_numeral stepped later
  | quoted => exact goes_on_in_quotes stepped later
  | escape => exact goes_on_in_escape stepped later
  | unit => exact goes_on_in_unit stepped later
  | paired =>
      rw [Scan.step?] at stepped
      obtain ⟨escaping, stepped⟩ := Option.ite_none_right_eq_some.1 stepped
      obtain ⟨-, rfl⟩ := Prod.mk.inj (Option.some.inj stepped)
      exact string_goes_on_escaping escaping later
  | pairedEscape =>
      rw [Scan.step?] at stepped
      obtain ⟨numeric, stepped⟩ := Option.ite_none_right_eq_some.1 stepped
      obtain ⟨-, rfl⟩ := Prod.mk.inj (Option.some.inj stepped)
      exact escape_goes_on_of_unit numeric later

/-- A text that is scanned goes on as it has to. -/
theorem goes_on_of_scanned {tokens : List Token} (text : List Char) (scan : Scan)
    (scanned : tokensFrom? .content scan text = some tokens) : scan.GoesOn text := by
  induction text generalizing scan tokens with
  | nil =>
      cases scan with
      | between => exact ⟨[], .finish⟩
      | word read =>
          obtain ⟨token, known, -⟩ := Option.map_eq_some_iff.1 scanned
          exact goes_on_word_finished known (by rintro _ ⟨⟩) .finish
      | numeral read =>
          obtain ⟨token, known, -⟩ := Option.map_eq_some_iff.1 scanned
          exact goes_on_numeral_finished known (by rintro _ ⟨⟩) .finish
      | quoted | escape | unit | paired | pairedEscape => contradiction
  | cons character text induction =>
      obtain ⟨⟨first, next⟩, stepped, scanned⟩ := Option.bind_eq_some_iff.1 scanned
      obtain ⟨later, scanned, -⟩ := Option.bind_eq_some_iff.1 scanned
      exact goes_on_stepped stepped (induction next scanned)

/-- Exactly the texts that are laid out as readable pieces are scanned. -/
theorem scan_eq_some_iff {tokens : List Token} {text : List Char} :
    tokensFrom? .content .between text = some tokens ↔
      ∃ pieces, Laid pieces text ∧ pieces.mapM Piece.read? = some tokens := by
  constructor
  · intro scanned
    obtain ⟨pieces, laid⟩ := goes_on_of_scanned text .between scanned
    exact ⟨pieces, laid, by rw [← scan_laid laid, scanned]⟩
  · rintro ⟨pieces, laid, read⟩
    rw [scan_laid laid, read]

end Soundness

end TraceOverhead.Json
