import TraceOverhead.Proofs.Flatten.Separable
import TraceOverhead.Proofs.Text.Bytes
/-!
Documents whose objects hold every name once, in the byte order of the names, and the depth-first
order of what they hold. The canonical view of a document is such a document, and one that is in
order is its own canonical view. Main statement: the leaves of a document in order are listed as a
walk comes to them, each trail before all that part from it to a later place or a greater name.
-/

namespace TraceOverhead.Json

open Flatten

def NamePrecedes (first second : String) : Prop := Text.toBytes first < Text.toBytes second

inductive Ordered : Json → Prop
  | scalar (value : Json) (flat : isScalar value) : Ordered value
  | array (items : List Json) (below : ∀ item ∈ items, Ordered item) : Ordered (.array items)
  | object (members : List (String × Json))
      (increasing : members.Pairwise fun first second => NamePrecedes first.1 second.1)
      (below : ∀ member ∈ members, Ordered member.2) : Ordered (.object members)

section Canonical

theorem sort_members_eq (members : List (String × Json)) :
    sortMembers members = (members.foldl insertEntry ∅).toList :=
  Std.TreeMap.Equiv.toList_eq Std.TreeMap.ofList_equiv_foldl

theorem increasing_sort_members (members : List (String × Json)) :
    (sortMembers members).Pairwise fun first second => NamePrecedes first.1 second.1 := by
  have sorted := Std.TreeMap.ordered_keys_toList (t := Std.TreeMap.ofList members compare)
  apply sorted.imp
  intro first second less
  exact Text.compare_eq_lt_iff.1 less

theorem mem_of_mem_sort_members {members : List (String × Json)} {member : String × Json}
    (sorted : member ∈ sortMembers members) : member ∈ members := by
  rw [sort_members_eq] at sorted
  have found := Std.TreeMap.mem_toList_iff_getElem?_eq_some.1 sorted
  obtain ⟨earlier, later, rfl, _⟩ := get_filed_iff.1 found
  simp

mutual

theorem ordered_canonical : (tree : Json) → Ordered tree.canonical
  | .null => .scalar _ rfl
  | .bool _ => .scalar _ rfl
  | .number _ => .scalar _ rfl
  | .string _ => .scalar _ rfl
  | .array items => .array _ (ordered_canonical_items items)
  | .object members => .object _ (increasing_sort_members _) fun member here =>
      ordered_canonical_members members member (mem_of_mem_sort_members here)

theorem ordered_canonical_items : (items : List Json) → ∀ item ∈ canonicalItems items, Ordered item
  | [] => by simp [canonicalItems]
  | item :: items => by
      intro other member
      rw [canonicalItems] at member
      rcases List.mem_cons.1 member with rfl | later
      · exact ordered_canonical item
      · exact ordered_canonical_items items other later

theorem ordered_canonical_members : (members : List (String × Json)) →
    ∀ member ∈ canonicalMembers members, Ordered member.2
  | [] => by simp [canonicalMembers]
  | (name, value) :: members => by
      intro other member
      rw [canonicalMembers] at member
      rcases List.mem_cons.1 member with rfl | later
      · exact ordered_canonical value
      · exact ordered_canonical_members members other later

end

theorem nodup_names_of_increasing {members : List (String × Json)}
    (increasing : members.Pairwise fun first second => NamePrecedes first.1 second.1) :
    (members.map Prod.fst).Nodup := by
  rw [List.Nodup, List.pairwise_map]
  apply increasing.imp
  intro first second precedes same
  rw [NamePrecedes, same] at precedes
  exact List.lt_irrefl _ precedes

theorem sort_members_of_increasing {members : List (String × Json)}
    (increasing : members.Pairwise fun first second => NamePrecedes first.1 second.1) :
    sortMembers members = members := by
  apply List.Perm.eq_of_pairwise _ (increasing_sort_members members) increasing
    (sort_members_perm (nodup_names_of_increasing increasing))
  intro first second _ _ left right
  exact absurd left (List.lt_asymm right)

theorem canonical_eq_of_ordered {tree : Json} (ordered : Ordered tree) : tree.canonical = tree := by
  induction ordered with
  | scalar value flat => exact canonical_scalar flat
  | array items below induction =>
      rw [canonical, canonical_items_eq, List.map_congr_left induction, List.map_id']
  | object members increasing below induction =>
      have kept : members.map (fun member => (member.1, member.2.canonical)) = members := by
        rw [List.map_congr_left fun member here => by rw [induction member here]]
        exact List.map_id' members
      rw [canonical, canonical_members_eq, kept, sort_members_of_increasing increasing]

end Canonical

/-- What is found at the end of a trail. -/
inductive Leads : Json → List Step → Json → Prop
  | here (value : Json) : Leads value [] value
  | member {members : List (String × Json)} {name : String} {value found : Json}
      {trail : List Step} (held : (name, value) ∈ members) (rest : Leads value trail found) :
      Leads (.object members) (.member name :: trail) found
  | item {items : List Json} {index : Nat} {value found : Json} {trail : List Step}
      (held : items[index]? = some value) (rest : Leads value trail found) :
      Leads (.array items) (.item index :: trail) found

/-- A text, a number or a truth value. -/
def isLeafValue : Json → Bool
  | .bool _ | .number _ | .string _ => true
  | .null | .array _ | .object _ => false

def LeafAt (tree : Json) (trail : List Step) (value : Json) : Prop :=
  Leads tree trail value ∧ value.isLeafValue

section Walks

variable {trail : List Step} {value : Json}

theorem mem_leaves_scalar_iff {tree : Json} (flat : isScalar tree) :
    (trail, value) ∈ tree.leaves ↔ LeafAt tree trail value := by
  have here : LeafAt tree trail value ↔ trail = [] ∧ value = tree ∧ tree.isLeafValue := by
    constructor
    · rintro ⟨leads, shown⟩
      cases leads with
      | here => exact ⟨rfl, rfl, shown⟩
      | member | item => contradiction
    · rintro ⟨rfl, rfl, shown⟩
      exact ⟨.here _, shown⟩
  rw [here]
  cases tree with
  | array | object => contradiction
  | null | bool | number | string => simp [leaves, isLeafValue]

theorem leaf_at_array_iff {items : List Json} :
    LeafAt (.array items) trail value ↔
      ∃ item index rest, items[index]? = some item ∧ LeafAt item rest value ∧
        trail = .item index :: rest := by
  constructor
  · rintro ⟨leads, shown⟩
    cases leads with
    | here => contradiction
    | item held rest => exact ⟨_, _, _, held, ⟨rest, shown⟩, rfl⟩
  · rintro ⟨item, index, rest, held, ⟨leads, shown⟩, rfl⟩
    exact ⟨.item held leads, shown⟩

theorem leaf_at_object_iff {members : List (String × Json)} :
    LeafAt (.object members) trail value ↔
      ∃ member ∈ members, ∃ rest, LeafAt member.2 rest value ∧
        trail = .member member.1 :: rest := by
  constructor
  · rintro ⟨leads, shown⟩
    cases leads with
    | here => contradiction
    | member held rest => exact ⟨_, held, _, ⟨rest, shown⟩, rfl⟩
  · rintro ⟨⟨name, below⟩, held, rest, ⟨leads, shown⟩, rfl⟩
    exact ⟨.member held leads, shown⟩

mutual

theorem mem_leaves_iff : (tree : Json) → ∀ trail value,
    (trail, value) ∈ tree.leaves ↔ LeafAt tree trail value
  | .null => fun _ _ => mem_leaves_scalar_iff rfl
  | .bool _ => fun _ _ => mem_leaves_scalar_iff rfl
  | .number _ => fun _ _ => mem_leaves_scalar_iff rfl
  | .string _ => fun _ _ => mem_leaves_scalar_iff rfl
  | .array items => by
      intro trail value
      have below := mem_leaves_of_items items
      simp only [leaves, item_leaves_eq, List.mem_flatMap, List.mem_map, leaf_at_array_iff]
      constructor
      · rintro ⟨⟨item, index⟩, place, ⟨rest, found⟩, here, same⟩
        obtain ⟨rfl, rfl⟩ := Prod.mk.inj same
        have held := List.mem_zipIdx_iff_getElem?.1 place
        exact ⟨item, index, rest, held, (below item (List.mem_of_getElem? held) _ _).1 here, rfl⟩
      · rintro ⟨item, index, rest, held, leaf, rfl⟩
        have here := (below item (List.mem_of_getElem? held) _ _).2 leaf
        exact ⟨(item, index), List.mem_zipIdx_iff_getElem?.2 held, (rest, value), here, rfl⟩
  | .object members => by
      intro trail value
      have below := mem_leaves_of_members members
      simp only [leaves, member_leaves_eq, List.mem_flatMap, List.mem_map, leaf_at_object_iff]
      constructor
      · rintro ⟨member, held, ⟨rest, found⟩, here, same⟩
        obtain ⟨rfl, rfl⟩ := Prod.mk.inj same
        exact ⟨member, held, rest, (below member held _ _).1 here, rfl⟩
      · rintro ⟨member, held, rest, leaf, rfl⟩
        exact ⟨member, held, (rest, value), (below member held _ _).2 leaf, rfl⟩

theorem mem_leaves_of_items : (items : List Json) → ∀ item ∈ items, ∀ trail value,
    (trail, value) ∈ item.leaves ↔ LeafAt item trail value
  | [] => by simp
  | item :: items => by
      intro other member
      rcases List.mem_cons.1 member with same | later
      · rw [same]
        exact mem_leaves_iff item
      · exact mem_leaves_of_items items other later

theorem mem_leaves_of_members : (members : List (String × Json)) → ∀ member ∈ members,
    ∀ trail value, (trail, value) ∈ member.2.leaves ↔ LeafAt member.2 trail value
  | [] => by simp
  | (name, value) :: members => by
      intro other member
      rcases List.mem_cons.1 member with same | later
      · rw [same]
        exact mem_leaves_iff value
      · exact mem_leaves_of_members members other later

end

end Walks

section DepthFirst

/-- The items of an array by their places, the members of an object by the bytes of their names. -/
def Step.Precedes : Step → Step → Prop
  | .item first, .item second => first < second
  | .member first, .member second => NamePrecedes first second
  | _, _ => False

/-- The order in which a depth-first walk comes to the ends of trails. -/
def TrailPrecedes (first second : List Step) : Prop := List.Lex Step.Precedes first second

theorem trail_precedes_asymm {first second : List Step} (precedes : TrailPrecedes first second) :
    ¬ TrailPrecedes second first := by
  apply List.lex_asymm _ precedes
  intro step other less
  cases step <;> cases other
  · exact List.lt_asymm less
  · contradiction
  · contradiction
  · exact Nat.lt_asymm less

/-- The leaves below one step and below a later one. -/
theorem precedes_before (first second : Step) (precedes : first.Precedes second)
    {leaf other : Leaf} {leaves others : List Leaf} (here : leaf ∈ leaves.map first.before)
    (there : other ∈ others.map second.before) : TrailPrecedes leaf.1 other.1 := by
  obtain ⟨inner, _, rfl⟩ := List.mem_map.1 here
  obtain ⟨outer, _, rfl⟩ := List.mem_map.1 there
  exact .rel precedes

theorem increasing_before {leaves : List Leaf} (step : Step)
    (increasing : leaves.Pairwise fun first second => TrailPrecedes first.1 second.1) :
    (leaves.map step.before).Pairwise fun first second => TrailPrecedes first.1 second.1 := by
  rw [List.pairwise_map]
  exact increasing.imp fun precedes => .cons precedes

theorem increasing_leaves {tree : Json} (ordered : Ordered tree) :
    tree.leaves.Pairwise fun first second => TrailPrecedes first.1 second.1 := by
  induction ordered with
  | scalar value flat =>
      cases value with
      | array | object => contradiction
      | null | bool | number | string => simp [leaves]
  | array items below induction =>
      rw [leaves, item_leaves_eq, List.pairwise_flatMap]
      constructor
      · intro place here
        exact increasing_before _ (induction place.1 (List.fst_mem_of_mem_zipIdx here))
      · have places : items.zipIdx.Pairwise fun first second => first.2 < second.2 := by
          rw [← List.pairwise_map (f := Prod.snd) (R := (· < ·)), List.zipIdx_map_snd]
          exact List.pairwise_lt_range'
        apply places.imp
        intro first second less leaf here other there
        exact precedes_before (.item first.2) (.item second.2) less here there
  | object members increasing below induction =>
      rw [leaves, member_leaves_eq, List.pairwise_flatMap]
      constructor
      · intro member here
        exact increasing_before _ (induction member here)
      · apply increasing.imp
        intro first second precedes leaf here other there
        exact precedes_before (.member first.1) (.member second.1) precedes here there

end DepthFirst
end TraceOverhead.Json
