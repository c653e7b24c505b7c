import Mathlib.Data.List.TakeWhile
import TraceOverhead.Text.Blank
/-!
Trimming takes white space off both ends and nothing else: what is left stands in the text between
blanks, and a text with such ends is what is left of it with any blanks around.
-/

namespace TraceOverhead.Text

variable {before body after : List Char}

theorem is_blank_of_is_digit {character : Char} (digit : character.isDigit) :
    isBlank character = false := by
  have range : 48 ≤ character.toNat ∧ character.toNat ≤ 57 := by
    rw [Char.isDigit, Bool.and_eq_true, decide_eq_true_iff, decide_eq_true_iff] at digit
    exact digit
  simp only [isBlank, Bool.or_eq_false_iff, Bool.and_eq_false_iff, decide_eq_false_iff_not]
  omega

theorem drop_blanks_append (blank : ∀ character ∈ before, isBlank character = true)
    (solid : ∀ character ∈ body.head?, isBlank character = false) :
    (before ++ body).dropWhile isBlank = body := by
  rw [List.dropWhile_append_of_pos blank]
  cases body with
  | nil => rfl
  | cons first rest => exact List.dropWhile_cons_of_neg (by simp [solid first rfl])

theorem drop_blank_end_append (blank : ∀ character ∈ after, isBlank character = true)
    (solid : ∀ character ∈ body.getLast?, isBlank character = false) :
    dropBlankEnd (body ++ after) = body := by
  rw [dropBlankEnd, List.reverse_append, drop_blanks_append (by simpa using blank),
    List.reverse_reverse]
  rwa [List.head?_reverse]

/-- Blanks around a text go if the text has none at its ends. -/
theorem trim_around (leading : ∀ character ∈ before, isBlank character = true)
    (trailing : ∀ character ∈ after, isBlank character = true)
    (solid : ∀ character ∈ body, isBlank character = false) :
    trim (String.ofList (before ++ body ++ after)) = String.ofList body := by
  have opening : ∀ character ∈ body.head?, isBlank character = false :=
    fun character first => solid character (List.mem_of_head? first)
  have closing : ∀ character ∈ body.getLast?, isBlank character = false :=
    fun character last => solid character (List.mem_of_getLast? last)
  cases body with
  | nil =>
      have all : ∀ character ∈ before ++ [] ++ after, isBlank character = true := by
        rw [List.append_nil]
        exact List.forall_mem_append.2 ⟨leading, trailing⟩
      rw [trim, String.toList_ofList, List.dropWhile_eq_nil_iff.2 all]
      rfl
  | cons first rest =>
      rw [trim, String.toList_ofList, List.append_assoc, drop_blanks_append leading,
        drop_blank_end_append trailing closing]
      exact opening

theorem trim_line (solid : ∀ character ∈ body, isBlank character = false) :
    trim (String.ofList (body ++ ['\n'])) = String.ofList body :=
  @trim_around [] body ['\n'] (by simp) (List.forall_mem_singleton.2 rfl) solid

/-- Only blanks are taken off. -/
theorem exists_around_trim (text : String) : ∃ before after,
    text.toList = before ++ (trim text).toList ++ after ∧
      (∀ character ∈ before, isBlank character = true) ∧
      ∀ character ∈ after, isBlank character = true := by
  have opening := List.takeWhile_append_dropWhile (p := isBlank) (l := text.toList)
  have closing := List.takeWhile_append_dropWhile (p := isBlank)
    (l := (text.toList.dropWhile isBlank).reverse)
  refine ⟨text.toList.takeWhile isBlank,
    ((text.toList.dropWhile isBlank).reverse.takeWhile isBlank).reverse, ?_, ?_, ?_⟩
  · rw [trim, String.toList_ofList, dropBlankEnd, List.append_assoc, ← List.reverse_append, closing,
      List.reverse_reverse, opening]
  · exact fun character member => List.mem_takeWhile_imp member
  · exact fun character member => List.mem_takeWhile_imp (List.mem_reverse.1 member)

end TraceOverhead.Text
