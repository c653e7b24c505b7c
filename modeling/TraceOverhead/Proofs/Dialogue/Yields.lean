import TraceOverhead.Dialogue.Course
/-!
The results that a dialogue can have, whoever answers. Where a statement is about results alone this
is what is left of the courses. Main statement: a dialogue in two parts yields what its second part
yields after something that its first part yields.
-/

namespace TraceOverhead.Dialogue

variable {interface : Interface} {α β : Type}

def Yields (dialogue : Dialogue interface α) (result : α) : Prop :=
  ∃ exchanges, Course dialogue exchanges result

theorem yields_done_iff {value result : α} :
    Yields (.done value : Dialogue interface α) result ↔ result = value := by
  simp [Yields, course_done_iff]

theorem yields_ask_iff {request : interface.Request}
    {next : interface.Answer request → Dialogue interface α} {result : α} :
    Yields (.ask request next) result ↔ ∃ answer, Yields (next answer) result := by
  simp only [Yields, course_ask_iff]
  constructor
  · rintro ⟨exchanges, answer, rest, course, rfl⟩
    exact ⟨answer, rest, course⟩
  · rintro ⟨answer, rest, course⟩
    exact ⟨_, answer, rest, course, rfl⟩

theorem yields_bind_iff {dialogue : Dialogue interface α} {continuation : α → Dialogue interface β}
    {result : β} :
    Yields (dialogue >>= continuation) result ↔
      ∃ middle, Yields dialogue middle ∧ Yields (continuation middle) result := by
  simp only [Yields, course_bind_iff]
  constructor
  · rintro ⟨exchanges, first, middle, second, before, after, rfl⟩
    exact ⟨middle, ⟨first, before⟩, second, after⟩
  · rintro ⟨middle, ⟨first, before⟩, second, after⟩
    exact ⟨first ++ second, first, middle, second, before, after, rfl⟩

/-- What is made of a result without asking further. -/
theorem yields_map_iff {dialogue : Dialogue interface α} {finish : α → β} {result : β} :
    Yields (dialogue >>= fun value => pure (finish value)) result ↔
      ∃ value, Yields dialogue value ∧ result = finish value := by
  rw [yields_bind_iff]
  exact exists_congr fun value => and_congr_right fun _ => yields_done_iff

/-- Surroundings that answer from a state of their own get one of the results. -/
theorem yields_interpret {State : Type}
    (answer : (request : interface.Request) → StateM State (interface.Answer request))
    (state : State) (dialogue : Dialogue interface α) :
    Yields dialogue ((dialogue.interpret answer).run state).1 := by
  induction dialogue generalizing state with
  | done result => exact yields_done_iff.2 rfl
  | ask request next induction =>
      have replied := induction ((answer request).run state).1 ((answer request).run state).2
      exact yields_ask_iff.2 ⟨((answer request).run state).1, replied⟩

end TraceOverhead.Dialogue
