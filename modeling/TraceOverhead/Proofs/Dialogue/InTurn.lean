import TraceOverhead.Proofs.Dialogue.Attempt
/-!
Attempts that go through a list with one request for each item. Either every reply is good or there
is a first bad one, after which nothing more is asked; and the failure is the one of that reply.
-/

namespace TraceOverhead

open Dialogue

variable {interface : Interface} {Item Reply : Type} {ask : Item → Reply → Exchange interface}
  {verdict : Item → Reply → Except Error Unit} {asked : List (Exchange interface)}
  {outcome : Except Error Unit} {item : Item} {items : List Item}

/-- One request after the other, up to the first whose reply is a failure. -/
inductive InTurn (ask : Item → Reply → Exchange interface)
    (verdict : Item → Reply → Except Error Unit) :
    List Item → List (Exchange interface) → Except Error Unit → Prop
  | all (made : List (Item × Reply)) (fine : ∀ turn ∈ made, verdict turn.1 turn.2 = .ok ()) :
      InTurn ask verdict (made.map Prod.fst) (made.map fun turn => ask turn.1 turn.2) (.ok ())
  | cut (made : List (Item × Reply)) (fine : ∀ turn ∈ made, verdict turn.1 turn.2 = .ok ())
      {item : Item} {reply : Reply} {failure : Error}
      (failed : verdict item reply = .error failure) (rest : List Item) :
      InTurn ask verdict (made.map Prod.fst ++ item :: rest)
        (made.map (fun turn => ask turn.1 turn.2) ++ [ask item reply]) (.error failure)

namespace InTurn

theorem nil_iff : InTurn ask verdict [] asked outcome ↔ asked = [] ∧ outcome = .ok () := by
  constructor
  · intro turns
    generalize none : ([] : List Item) = items at turns
    cases turns with
    | all made fine =>
        obtain rfl := List.map_eq_nil_iff.1 none.symm
        exact ⟨rfl, rfl⟩
    | cut => simp at none
  · intro ended
    obtain ⟨rfl, rfl⟩ := ended
    exact .all [] (by simp)

theorem cons_of_failed {reply : Reply} {failure : Error}
    (failed : verdict item reply = .error failure) :
    InTurn ask verdict (item :: items) [ask item reply] (.error failure) :=
  .cut [] (by simp) failed items

theorem cons_of_fine {reply : Reply} (fine : verdict item reply = .ok ())
    (turns : InTurn ask verdict items asked outcome) :
    InTurn ask verdict (item :: items) (ask item reply :: asked) outcome := by
  cases turns with
  | all made others =>
      exact .all ((item, reply) :: made) (List.forall_mem_cons.2 ⟨fine, others⟩)
  | cut made others failed rest =>
      exact .cut ((item, reply) :: made) (List.forall_mem_cons.2 ⟨fine, others⟩) failed rest

theorem cons_cases (turns : InTurn ask verdict (item :: items) asked outcome) :
    (∃ reply failure, verdict item reply = .error failure ∧ asked = [ask item reply] ∧
        outcome = .error failure) ∨
      ∃ reply rest, verdict item reply = .ok () ∧ InTurn ask verdict items rest outcome ∧
        asked = ask item reply :: rest := by
  generalize split : item :: items = all at turns
  cases turns with
  | all made fine =>
      obtain ⟨first, others, rfl, rfl, rfl⟩ := List.map_eq_cons_iff.1 split.symm
      obtain ⟨good, fine⟩ := List.forall_mem_cons.1 fine
      exact .inr ⟨first.2, _, good, .all others fine, rfl⟩
  | cut made fine failed rest =>
      cases made with
      | nil =>
          obtain ⟨rfl, rfl⟩ := List.cons.inj split
          exact .inl ⟨_, _, failed, rfl, rfl⟩
      | cons first others =>
          obtain ⟨rfl, rfl⟩ := List.cons.inj split
          obtain ⟨good, fine⟩ := List.forall_mem_cons.1 fine
          exact .inr ⟨first.2, _, good, .cut others fine failed rest, rfl⟩

/-- The items that were asked about are the first ones, and all of them if nothing failed. -/
theorem exists_asked (turns : InTurn ask verdict items asked outcome) :
    ∃ made : List (Item × Reply), made.map Prod.fst <+: items ∧
      asked = made.map (fun turn => ask turn.1 turn.2) ∧
      (outcome = .ok () → made.map Prod.fst = items) := by
  cases turns with
  | all made fine => exact ⟨made, List.prefix_rfl, rfl, fun _ => rfl⟩
  | @cut made fine item reply failure failed rest =>
      refine ⟨made ++ [(item, reply)], ?_, by simp, by simp⟩
      simp

end InTurn

/-- An attempt that goes through a list takes its items in turn. -/
theorem course_in_turn_iff {step : Item → Attempt interface Unit}
    {steps : List Item → Attempt interface Unit} (finished : steps [] = pure ())
    (continued : ∀ item items, steps (item :: items) = step item >>= fun _ => steps items)
    (single : ∀ item {asked : List (Exchange interface)} {outcome : Except Error Unit},
      Course (step item).outcome asked outcome ↔
        ∃ reply, asked = [ask item reply] ∧ outcome = verdict item reply) :
    Course (steps items).outcome asked outcome ↔ InTurn ask verdict items asked outcome := by
  induction items generalizing asked with
  | nil => rw [finished, course_outcome_pure_iff, InTurn.nil_iff]
  | cons item items induction =>
      rw [continued, course_outcome_bind_iff]
      constructor
      · intro parts
        rcases parts with ⟨failure, failed, rfl⟩ | ⟨first, done, second, made, others, rfl⟩
        · obtain ⟨reply, rfl, told⟩ := (single item).1 failed
          exact .cons_of_failed told.symm
        · obtain ⟨reply, rfl, told⟩ := (single item).1 made
          exact .cons_of_fine told.symm (induction.1 others)
      · intro turns
        rcases turns.cons_cases with
          ⟨reply, failure, failed, rfl, rfl⟩ | ⟨reply, rest, fine, others, rfl⟩
        · exact .inl ⟨failure, (single item).2 ⟨reply, rfl, failed.symm⟩, rfl⟩
        · exact .inr ⟨[ask item reply], (), rest, (single item).2 ⟨reply, rfl, fine.symm⟩,
            induction.2 others, rfl⟩

end TraceOverhead
