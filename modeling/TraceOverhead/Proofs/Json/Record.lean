import Mathlib.Data.List.Forall2
import TraceOverhead.Json.Record
/-!
What the readers of records accept. A member is found if its name does not come twice, and a list is
read item by item.
-/

namespace TraceOverhead.Json

variable {α : Type} {members : List (String × Json)} {name : String}

/-- Everything that the members say under a name. -/
def valuesOf (members : List (String × Json)) (name : String) : List Json :=
  (members.filter fun member => member.1 = name).map Prod.snd

theorem member_eq_some_iff {slot : Option Json} :
    member? members name = some slot ↔ valuesOf members name = slot.toList := by
  unfold member? valuesOf
  generalize members.filter (fun member => member.1 = name) = found
  rcases found with _ | ⟨first, _ | ⟨second, others⟩⟩
  · cases slot <;> simp
  · cases slot <;> simp
  · cases slot <;> simp

theorem map_m_eq_some_iff {β : Type} {read : α → Option β} {items : List α} {values : List β} :
    items.mapM read = some values ↔
      List.Forall₂ (fun item value => read item = some value) items values := by
  induction items generalizing values with
  | nil => simp
  | cons item items induction =>
      simp only [List.mapM_cons, Option.bind_eq_bind, Option.bind_eq_some_iff, Option.pure_def,
        Option.some.injEq, induction, List.forall₂_cons_left_iff]
      constructor
      · rintro ⟨value, first, others, rest, rfl⟩
        exact ⟨value, others, first, rest, rfl⟩
      · rintro ⟨value, others, first, rest, rfl⟩
        exact ⟨value, first, others, rest, rfl⟩

theorem exists_map_m_iff {β : Type} {read : α → Option β} {items : List α} :
    (∃ values, items.mapM read = some values) ↔
      ∀ item ∈ items, ∃ value, read item = some value := by
  induction items with
  | nil => simp
  | cons item items induction =>
      simp only [map_m_eq_some_iff, List.forall₂_cons_left_iff, List.forall_mem_cons] at *
      rw [← induction]
      constructor
      · intro read
        obtain ⟨_, value, others, first, rest, rfl⟩ := read
        exact ⟨⟨value, first⟩, others, rest⟩
      · intro read
        obtain ⟨⟨value, first⟩, others, rest⟩ := read
        exact ⟨_, value, others, first, rest, rfl⟩

theorem mem_of_map_m {β : Type} {read : α → Option β} {items : List α} {values : List β}
    (all : items.mapM read = some values) {value : β} :
    value ∈ values ↔ ∃ item ∈ items, read item = some value := by
  have each := map_m_eq_some_iff.1 all
  have same : items.map read = values.map some := by
    rw [← List.forall₂_eq_eq_eq, List.forall₂_map_left_iff, List.forall₂_map_right_iff]
    exact each
  rw [← List.mem_map, same]
  simp

theorem list_eq_some_iff {read : Json → Option α} {document : Json} {values : List α} :
    list? read document = some values ↔
      ∃ items, document = .array items ∧
        List.Forall₂ (fun item value => read item = some value) items values := by
  cases document with
  | array items => simp [list?, map_m_eq_some_iff]
  | null | bool | number | string | object => simp [list?]

end TraceOverhead.Json
