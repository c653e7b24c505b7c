import TraceOverhead.Proofs.Number.Count
import TraceOverhead.Proofs.Pass.Averages
/-!
Averages over any flat views, not only over those of passes. A path is averaged over the views that
hold a number there; one that holds nothing or something else there counts for nothing at this path,
whatever it holds elsewhere. Main statement: there is an average at the paths that hold a number in
some view, it is the mean of these numbers, and views without a number there may be put anywhere
among the others without a change.
-/

namespace TraceOverhead

def Json.heldNumber? : Json → Option Json.Numeral
  | .number value => some value
  | _ => none

/-- The numbers that are held at a path, in the order of the views. -/
def numbersAt (path : String) (views : List FlatMap) : List Json.Numeral :=
  views.filterMap fun entries => entries[path]?.bind Json.heldNumber?

/-- What a view may hold at a path without a number there. -/
inductive NoNumber : Option Json → Prop
  | absent : NoNumber none
  | null : NoNumber (some .null)
  | bool (value : Bool) : NoNumber (some (.bool value))
  | string (value : String) : NoNumber (some (.string value))
  | array (items : List Json) : NoNumber (some (.array items))
  | object (members : List (String × Json)) : NoNumber (some (.object members))

/-- Views with others put among them, anywhere, that have no number at a path. -/
inductive Padded (path : String) : List FlatMap → List FlatMap → Prop
  | none : Padded path [] []
  | kept (entries : FlatMap) {views padded : List FlatMap} (rest : Padded path views padded) :
      Padded path (entries :: views) (entries :: padded)
  | added {entries : FlatMap} {views padded : List FlatMap} (silent : NoNumber entries[path]?)
      (rest : Padded path views padded) : Padded path views (entries :: padded)

section Numbers

variable {path : String} {views padded : List FlatMap}

theorem numeral_eq_some_iff {slot : Option Json} {number : Json.Numeral} :
    slot.bind Json.heldNumber? = some number ↔ slot = some (.number number) := by
  rcases slot with _ | value
  · simp
  · cases value <;> simp [Json.heldNumber?]

theorem numeral_of_no_number {slot : Option Json} (silent : NoNumber slot) :
    slot.bind Json.heldNumber? = none := by
  cases silent <;> rfl

theorem numbers_at_ne_nil_iff :
    numbersAt path views ≠ [] ↔
      ∃ entries ∈ views, ∃ number, entries[path]? = some (.number number) := by
  rw [numbersAt, ne_eq, List.filterMap_eq_nil_iff]
  simp only [not_forall, ← ne_eq, Option.ne_none_iff_exists', numeral_eq_some_iff, exists_prop]

theorem numbers_at_padded (among : Padded path views padded) :
    numbersAt path padded = numbersAt path views := by
  induction among with
  | none => rfl
  | kept entries rest induction =>
      rw [numbersAt, List.filterMap_cons, ← numbersAt, induction, numbersAt, numbersAt,
        List.filterMap_cons]
  | added silent rest induction =>
      rw [numbersAt, List.filterMap_cons, numeral_of_no_number silent]
      exact induction

/-- The average as the model takes it is the mean of the numbers. -/
theorem average_at_eq :
    averageAt? views path = if numbersAt path views = [] then none
      else some (mean ((numbersAt path views).map Json.Numeral.toFloat)) := by
  have heard : occurrences views path = (numbersAt path views).map Json.Numeral.toFloat := by
    rw [occurrences, numbersAt, List.map_filterMap]
    apply List.filterMap_congr
    intro entries _
    rw [FlatMap.number?]
    rcases entries[path]? with _ | value
    · rfl
    · cases value <;> rfl
  rw [averageAt?, heard]
  cases numbersAt path views <;> rfl

theorem mem_aggregate_iff :
    path ∈ aggregate views ↔
      ∃ entries ∈ views, ∃ number, entries[path]? = some (.number number) := by
  rw [Std.TreeMap.mem_iff_isSome_getElem?, get_aggregate, average_at_eq, ← numbers_at_ne_nil_iff]
  split <;> simp_all

end Numbers

/-- What is averaged, by how many it is divided, and what makes no difference. -/
theorem aggregate_means_numbers (views : List FlatMap) :
    (∀ path, path ∈ aggregate views ↔
        ∃ entries ∈ views, ∃ number, entries[path]? = some (.number number)) ∧
      (∀ path average, (aggregate views)[path]? = some average ↔
        numbersAt path views ≠ [] ∧
          average = ((numbersAt path views).map Json.Numeral.toFloat).foldl (· + ·) 0.0 /
            Number.ofNat (numbersAt path views).length) ∧
      (∀ path ∈ aggregate views, 0 < (numbersAt path views).length ∧
        (Number.ofNat (numbersAt path views).length == 0.0) = false) ∧
      (∀ path padded, Padded path views padded →
        (aggregate padded)[path]? = (aggregate views)[path]?) ∧
      ∀ others, views.Perm others → ∀ path, path ∈ aggregate others ↔ path ∈ aggregate views := by
  refine ⟨fun path => mem_aggregate_iff, ?_, ?_, ?_, ?_⟩
  · intro path average
    rw [get_aggregate, average_at_eq]
    split
    · simp_all
    · rename_i some_number
      rw [mean, List.length_map, Option.some.injEq]
      simp only [ne_eq, some_number, not_false_iff, true_and, eq_comm]
  · intro path present
    have some_number := numbers_at_ne_nil_iff.2 (mem_aggregate_iff.1 present)
    have counted := List.length_pos_iff.2 some_number
    exact ⟨counted, Number.of_nat_not_zero counted⟩
  · intro path padded among
    rw [get_aggregate, get_aggregate, average_at_eq, average_at_eq, numbers_at_padded among]
  · intro others shuffled path
    rw [mem_aggregate_iff, mem_aggregate_iff]
    simp only [shuffled.mem_iff]

def singleView (value : Json) : FlatMap := (∅ : FlatMap).insert "x" value

def countedViews : List FlatMap := [singleView (Json.natural 1), singleView (Json.natural 3)]

/-- The same with a text, a null and nothing at all among them. -/
def paddedViews : List FlatMap :=
  [singleView (.string "n/a"), singleView (Json.natural 1), ∅, singleView (Json.natural 3),
    singleView .null]

theorem aggregate_of_padded_views :
    Padded "x" countedViews paddedViews ∧ "x" ∈ aggregate countedViews ∧
      countedViews.Perm countedViews.reverse ∧
      (aggregate paddedViews)["x"]? = (aggregate countedViews)["x"]? ∧
      (Number.ofNat (numbersAt "x" countedViews).length == 0.0) = false ∧
      "x" ∈ aggregate countedViews.reverse := by
  have held : ∀ value, (singleView value)["x"]? = some value := fun value =>
    Std.TreeMap.getElem?_insert_self
  have silent : ∀ value, NoNumber (some value) → NoNumber (singleView value)["x"]? := by
    intro value other
    rw [held]
    exact other
  have among : Padded "x" countedViews paddedViews :=
    .added (silent _ (.string _)) (.kept _ (.added (by rw [Std.TreeMap.getElem?_emptyc]; exact .absent)
      (.kept _ (.added (silent _ .null) .none))))
  have law := aggregate_means_numbers countedViews
  have present : "x" ∈ aggregate countedViews :=
    (law.1 "x").2 ⟨_, List.mem_cons_self, _, held _⟩
  have turned : countedViews.Perm countedViews.reverse := (List.reverse_perm _).symm
  exact ⟨among, present, turned, law.2.2.2.1 "x" _ among, (law.2.2.1 "x" present).2,
    (law.2.2.2.2 _ turned "x").2 present⟩

end TraceOverhead
