import TraceOverhead.Dialogue.Course
import TraceOverhead.Instruments
/-!
The courses of attempts, and of dialogues with the operating system that are held within a
measurement. An attempt in two parts either fails in its first part or goes through both. What is
asked of the operating system within a measurement is asked in the same order and answered alike.
-/

namespace TraceOverhead

open Dialogue

theorem exists_ok_of_bind {α β : Type} {value : Except Error α} {next : α → Except Error β}
    {result : β} (ended : (value >>= next) = .ok result) :
    ∃ reached, value = .ok reached ∧ next reached = .ok result := by
  cases value with
  | error failure => contradiction
  | ok reached => exact ⟨reached, rfl, ended⟩

/-- A last step that asks nothing. -/
theorem course_bind_done_iff {interface : Interface} {α β : Type}
    {dialogue : Dialogue interface α} {finish : α → β} {exchanges : List (Exchange interface)}
    {result : β} :
    Course (dialogue >>= fun value => .done (finish value)) exchanges result ↔
      ∃ value, Course dialogue exchanges value ∧ result = finish value := by
  rw [course_bind_iff]
  constructor
  · intro parts
    rcases parts with ⟨first, value, second, held, finished, rfl⟩
    obtain ⟨rfl, rfl⟩ := course_done_iff.1 finished
    rw [List.append_nil]
    exact ⟨value, held, rfl⟩
  · intro parts
    rcases parts with ⟨value, held, rfl⟩
    exact ⟨exchanges, value, [], held, .done _, by rw [List.append_nil]⟩

theorem course_discard_iff {interface : Interface} {α : Type} {dialogue : Dialogue interface α}
    {exchanges : List (Exchange interface)} {done : Unit} :
    Course (discard dialogue) exchanges done ↔ ∃ value, Course dialogue exchanges value := by
  change Course (dialogue >>= fun _ => .done ()) exchanges done ↔ _
  rw [course_bind_done_iff]
  exact exists_congr fun value => and_iff_left rfl

theorem course_request_iff {interface : Interface} {request : interface.Request}
    {exchanges : List (Exchange interface)} {answer : interface.Answer request} :
    Course (Dialogue.ask request .done) exchanges answer ↔ exchanges = [⟨request, answer⟩] := by
  rw [course_ask_iff]
  constructor
  · intro parts
    rcases parts with ⟨given, rest, finished, rfl⟩
    obtain ⟨rfl, rfl⟩ := course_done_iff.1 finished
    rfl
  · intro same
    exact ⟨answer, [], .done answer, same⟩

theorem course_request_bind_iff {interface : Interface} {β : Type}
    {request : interface.Request} {continuation : interface.Answer request → Dialogue interface β}
    {exchanges : List (Exchange interface)} {result : β} :
    Course (Dialogue.ask request .done >>= continuation) exchanges result ↔
      ∃ answer rest, Course (continuation answer) rest result ∧
        exchanges = ⟨request, answer⟩ :: rest := course_ask_iff

section Attempts

variable {interface : Interface} {α β : Type} {exchanges : List (Exchange interface)}

theorem course_outcome_pure_iff {value : α} {outcome : Except Error α} :
    Course (pure value : Attempt interface α).outcome exchanges outcome ↔
      exchanges = [] ∧ outcome = .ok value := by
  change Course (.done (.ok value)) exchanges outcome ↔ _
  exact course_done_iff

theorem course_outcome_lift_iff {value outcome : Except Error α} :
    Course (liftM value : Attempt interface α).outcome exchanges outcome ↔
      exchanges = [] ∧ outcome = value := by
  change Course (.done value) exchanges outcome ↔ _
  exact course_done_iff

theorem course_outcome_bind_iff {attempt : Attempt interface α}
    {continuation : α → Attempt interface β} {outcome : Except Error β} :
    Course (attempt >>= continuation).outcome exchanges outcome ↔
      (∃ failure, Course attempt.outcome exchanges (.error failure) ∧ outcome = .error failure) ∨
      ∃ first value second, Course attempt.outcome first (.ok value) ∧
        Course (continuation value).outcome second outcome ∧ exchanges = first ++ second := by
  change Course (attempt.outcome >>= ExceptT.bindCont continuation) exchanges outcome ↔ _
  rw [course_bind_iff]
  constructor
  · intro parts
    rcases parts with ⟨first, middle, second, before, after, rfl⟩
    cases middle with
    | error failure =>
        obtain ⟨rfl, rfl⟩ := course_done_iff.1 after
        exact .inl ⟨failure, by rwa [List.append_nil], rfl⟩
    | ok value => exact .inr ⟨first, value, second, before, after, rfl⟩
  · intro parts
    rcases parts with ⟨failure, before, rfl⟩ | ⟨first, value, second, before, after, rfl⟩
    · exact ⟨exchanges, .error failure, [], before, .done _, by simp⟩
    · exact ⟨first, .ok value, second, before, after, rfl⟩

/-- What is made of a value without asking further. -/
theorem course_outcome_bind_lift_iff {attempt : Attempt interface α} {next : α → Except Error β}
    {outcome : Except Error β} :
    Course (attempt >>= fun value => liftM (next value)).outcome exchanges outcome ↔
      ∃ reached, Course attempt.outcome exchanges reached ∧ outcome = reached.bind next := by
  rw [course_outcome_bind_iff]
  constructor
  · intro parts
    rcases parts with ⟨failure, before, rfl⟩ | ⟨first, value, second, before, after, rfl⟩
    · exact ⟨.error failure, before, rfl⟩
    · obtain ⟨rfl, rfl⟩ := course_outcome_lift_iff.1 after
      rw [List.append_nil]
      exact ⟨.ok value, before, rfl⟩
  · intro parts
    obtain ⟨reached, before, rfl⟩ := parts
    cases reached with
    | error failure => exact .inl ⟨failure, before, rfl⟩
    | ok value =>
        exact .inr ⟨exchanges, value, [], before, course_outcome_lift_iff.2 ⟨rfl, rfl⟩,
          (List.append_nil exchanges).symm⟩

theorem Attempt.course_discard_iff {attempt : Attempt interface α} {outcome : Except Error Unit} :
    Course (discard attempt).outcome exchanges outcome ↔
      ∃ ended, Course attempt.outcome exchanges ended ∧ outcome = ended.map fun _ => () := by
  have last : (discard attempt).outcome =
      attempt.outcome >>= fun ended => .done (ended.map fun _ => ()) := by
    refine congrArg (attempt.outcome >>= ·) (funext ?_)
    intro ended
    cases ended <;> rfl
  rw [last, course_bind_done_iff]

end Attempts

/-- A request to the operating system and its answer, as part of a measurement. -/
def Exchange.onHost (exchange : Exchange host) : Exchange instruments :=
  ⟨Instruments.Request.host exchange.request, exchange.answer⟩

/-- What passed between a measurement and the operating system. -/
def hostExchange? : Exchange instruments → Option (Exchange host)
  | ⟨Instruments.Request.host request, answer⟩ => some ⟨request, answer⟩
  | _ => none

def hostExchanges (exchanges : List (Exchange instruments)) : List (Exchange host) :=
  exchanges.filterMap hostExchange?

@[simp] theorem host_exchanges_nil : hostExchanges [] = [] := rfl

@[simp] theorem host_exchanges_append (first second : List (Exchange instruments)) :
    hostExchanges (first ++ second) = hostExchanges first ++ hostExchanges second :=
  List.filterMap_append

@[simp] theorem host_exchanges_map_on_host (asked : List (Exchange host)) :
    hostExchanges (asked.map Exchange.onHost) = asked := by
  induction asked with
  | nil => rfl
  | cons exchange rest induction => exact congrArg (exchange :: ·) induction

theorem course_on_host_iff {α : Type} {dialogue : Dialogue host α}
    {exchanges : List (Exchange instruments)} {result : α} :
    Course (Instruments.onHost dialogue) exchanges result ↔
      ∃ asked, Course dialogue asked result ∧ exchanges = asked.map Exchange.onHost := by
  induction dialogue generalizing exchanges with
  | done value =>
      constructor
      · intro course
        obtain ⟨rfl, rfl⟩ := course_done_iff.1 course
        exact ⟨[], .done _, rfl⟩
      · intro parts
        rcases parts with ⟨asked, course, rfl⟩
        obtain ⟨rfl, rfl⟩ := course_done_iff.1 course
        exact .done _
  | ask request next induction =>
      constructor
      · intro course
        obtain ⟨answer, rest, continued, rfl⟩ := course_ask_iff.1 course
        obtain ⟨asked, answered, rfl⟩ := (induction answer).1 continued
        exact ⟨⟨request, answer⟩ :: asked, course_ask_iff.2 ⟨answer, asked, answered, rfl⟩, rfl⟩
      · intro parts
        rcases parts with ⟨asked, course, rfl⟩
        obtain ⟨answer, rest, continued, rfl⟩ := course_ask_iff.1 course
        have answered : Course (Instruments.onHost (next answer)) _ result :=
          (induction answer).2 ⟨rest, continued, rfl⟩
        exact course_ask_iff.2 ⟨answer, _, answered, rfl⟩

end TraceOverhead
