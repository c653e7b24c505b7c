import TraceOverhead.Dialogue
/-!
The courses that a dialogue can take, whoever answers. A statement about all courses says what a
program asks for, in which order, and with which result, in any surroundings. Main statement: the
courses of a dialogue in two parts are those of its first part followed by those of its second.
-/

namespace TraceOverhead

/-- A request together with the answer that it got. -/
structure Exchange (interface : Interface) where
  request : interface.Request
  answer : interface.Answer request

namespace Dialogue

variable {interface : Interface} {α β : Type}

inductive Course : Dialogue interface α → List (Exchange interface) → α → Prop where
  | done (result : α) : Course (.done result) [] result
  | ask {request : interface.Request} {next : interface.Answer request → Dialogue interface α}
      (answer : interface.Answer request) {exchanges : List (Exchange interface)} {result : α}
      (rest : Course (next answer) exchanges result) :
      Course (.ask request next) (⟨request, answer⟩ :: exchanges) result

theorem course_done_iff {result final : α} {exchanges : List (Exchange interface)} :
    Course (.done result) exchanges final ↔ exchanges = [] ∧ final = result := by
  constructor
  · intro course
    cases course
    exact ⟨rfl, rfl⟩
  · rintro ⟨rfl, rfl⟩
    exact .done _

theorem course_ask_iff {request : interface.Request}
    {next : interface.Answer request → Dialogue interface α}
    {exchanges : List (Exchange interface)} {result : α} :
    Course (.ask request next) exchanges result ↔
      ∃ answer rest, Course (next answer) rest result ∧
        exchanges = ⟨request, answer⟩ :: rest := by
  constructor
  · intro course
    cases course with
    | ask answer rest => exact ⟨answer, _, rest, rfl⟩
  · rintro ⟨answer, rest, course, rfl⟩
    exact .ask answer course

theorem course_bind {dialogue : Dialogue interface α} {continuation : α → Dialogue interface β}
    {first second : List (Exchange interface)} {middle : α} {result : β}
    (before : Course dialogue first middle)
    (after : Course (continuation middle) second result) :
    Course (dialogue >>= continuation) (first ++ second) result := by
  induction before with
  | done _ => exact after
  | ask answer _ induction => exact .ask answer (induction after)

theorem exists_courses_of_course_bind {dialogue : Dialogue interface α}
    {continuation : α → Dialogue interface β} {exchanges : List (Exchange interface)} {result : β}
    (course : Course (dialogue >>= continuation) exchanges result) :
    ∃ first middle second, Course dialogue first middle ∧
      Course (continuation middle) second result ∧ exchanges = first ++ second := by
  induction dialogue generalizing exchanges with
  | done middle => exact ⟨[], middle, exchanges, .done middle, course, rfl⟩
  | ask request next induction =>
    obtain ⟨answer, rest, continued, rfl⟩ := course_ask_iff.1 course
    obtain ⟨first, middle, second, before, after, rfl⟩ := induction answer continued
    exact ⟨⟨request, answer⟩ :: first, middle, second, .ask answer before, after, rfl⟩

theorem course_bind_iff {dialogue : Dialogue interface α}
    {continuation : α → Dialogue interface β} {exchanges : List (Exchange interface)}
    {result : β} :
    Course (dialogue >>= continuation) exchanges result ↔
      ∃ first middle second, Course dialogue first middle ∧
        Course (continuation middle) second result ∧ exchanges = first ++ second := by
  constructor
  · exact exists_courses_of_course_bind
  · rintro ⟨first, middle, second, before, after, rfl⟩
    exact course_bind before after

/-- The answers decide how a dialogue goes on and when it is over. -/
theorem course_prefix_eq {dialogue : Dialogue interface α} {first rest : List (Exchange interface)}
    {result final : α} (short : Course dialogue first result)
    (long : Course dialogue (first ++ rest) final) : rest = [] ∧ final = result := by
  induction short with
  | done => exact course_done_iff.1 long
  | ask answer _ induction =>
    obtain ⟨given, others, continued, same⟩ := course_ask_iff.1 long
    obtain ⟨head, rfl⟩ := List.cons.inj same
    obtain rfl := eq_of_heq (Exchange.mk.inj head).2
    exact induction continued

/-- In whatever is asked, a dialogue that stands at its beginning ends at one place. -/
theorem course_cut_unique {dialogue : Dialogue interface α}
    {first second rest others : List (Exchange interface)} {result final : α}
    (one : Course dialogue first result) (other : Course dialogue second final)
    (same : first ++ rest = second ++ others) : first = second ∧ rest = others ∧ result = final := by
  rcases List.append_eq_append_iff.1 same with ⟨more, rfl, rfl⟩ | ⟨more, rfl, rfl⟩
  · obtain ⟨rfl, rfl⟩ := course_prefix_eq one other
    exact ⟨(List.append_nil _).symm, rfl, rfl⟩
  · obtain ⟨rfl, rfl⟩ := course_prefix_eq other one
    exact ⟨List.append_nil _, rfl, rfl⟩

end Dialogue
end TraceOverhead
