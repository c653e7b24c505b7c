import Mathlib.Data.List.Induction
import Mathlib.Data.List.Nodup
import Std.Data.TreeMap.Lemmas
import TraceOverhead.Flatten
/-!
The leaves of a tree with the trails that lead to them. The flat view of a tree is what is left when
its leaves are filed under the paths of their trails, one after the other. In a tree whose leaves
have paths of their own, which is told from its names alone, the flat view has one entry for every
leaf and no other.
-/

namespace TraceOverhead

namespace Json

inductive Step where
  | member (name : String)
  | item (index : Nat)
  deriving DecidableEq, Repr

abbrev Leaf := List Step × Json

def Step.before (step : Step) (leaf : Leaf) : Leaf := (step :: leaf.1, leaf.2)

mutual

/-- The scalars of a tree that are not null, with what to go through to get there. -/
def leaves : Json → List Leaf
  | .null => []
  | .array items => itemLeaves 0 items
  | .object members => memberLeaves members
  | .bool value => [([], .bool value)]
  | .number value => [([], .number value)]
  | .string value => [([], .string value)]

def itemLeaves (index : Nat) : List Json → List Leaf
  | [] => []
  | item :: items => (leaves item).map (Step.item index).before ++ itemLeaves (index + 1) items

def memberLeaves : List (String × Json) → List Leaf
  | [] => []
  | (name, value) :: members =>
    (leaves value).map (Step.member name).before ++ memberLeaves members

end

theorem member_leaves_eq (members : List (String × Json)) :
    memberLeaves members =
      members.flatMap fun member => member.2.leaves.map (Step.member member.1).before := by
  induction members with
  | nil => rfl
  | cons member members induction =>
      rw [memberLeaves, induction]
      rfl

theorem item_leaves_eq (index : Nat) (items : List Json) :
    itemLeaves index items =
      (items.zipIdx index).flatMap fun place => place.1.leaves.map (Step.item place.2).before := by
  induction items generalizing index with
  | nil => rfl
  | cons item items induction =>
      rw [itemLeaves, induction]
      rfl

end Json

namespace Flatten

def stepPath (style : IndexStyle) (path : String) : Json.Step → String
  | .member name => memberPath path name
  | .item index => itemPath style path index

/-- The path of a trail that sets out from a path. -/
def trailPath (style : IndexStyle) (path : String) (trail : List Json.Step) : String :=
  trail.foldl (stepPath style) path

def leafEntry (style : IndexStyle) (path : String) (leaf : Json.Leaf) : String × Json :=
  (trailPath style path leaf.1, leaf.2)

def insertEntry {Value : Type} (entries : Std.TreeMap String Value) (entry : String × Value) :
    Std.TreeMap String Value := entries.insert entry.1 entry.2

theorem map_leaf_entry_before (style : IndexStyle) (path : String) (step : Json.Step)
    (leaves : List Json.Leaf) :
    (leaves.map step.before).map (leafEntry style path) =
      leaves.map (leafEntry style (stepPath style path step)) := by
  rw [List.map_map]
  rfl

mutual

theorem insert_leaves_eq (style : IndexStyle) (path : String) (entries : FlatMap) :
    (tree : Json) → insertLeaves style path tree entries =
      (tree.leaves.map (leafEntry style path)).foldl insertEntry entries
  | .null => rfl
  | .bool _ => rfl
  | .number _ => rfl
  | .string _ => rfl
  | .array items => insert_items_eq style path entries 0 items
  | .object members => insert_members_eq style path entries members

theorem insert_items_eq (style : IndexStyle) (path : String) (entries : FlatMap) (index : Nat) :
    (items : List Json) → insertItems style path index items entries =
      ((Json.itemLeaves index items).map (leafEntry style path)).foldl insertEntry entries
  | [] => rfl
  | item :: items => by
      rw [insertItems, Json.itemLeaves, List.map_append, List.foldl_append,
        insert_items_eq style path _ (index + 1) items,
        insert_leaves_eq style (itemPath style path index) entries item, map_leaf_entry_before]
      rfl

theorem insert_members_eq (style : IndexStyle) (path : String) (entries : FlatMap) :
    (members : List (String × Json)) → insertMembers style path members entries =
      ((Json.memberLeaves members).map (leafEntry style path)).foldl insertEntry entries
  | [] => rfl
  | (name, value) :: members => by
      rw [insertMembers, Json.memberLeaves, List.map_append, List.foldl_append,
        insert_members_eq style path _ members,
        insert_leaves_eq style (memberPath path name) entries value, map_leaf_entry_before]
      rfl

end

section Filing

variable {Value : Type}

theorem mem_of_get {entries : Std.TreeMap String Value} {key : String} {value : Value}
    (found : entries[key]? = some value) : key ∈ entries := by
  rw [Std.TreeMap.mem_iff_isSome_getElem?, found]
  rfl

theorem not_mem_insert_entry {entries : Std.TreeMap String Value} {entry : String × Value}
    {key : String} (absent : key ∉ entries) (other : entry.1 ≠ key) :
    key ∉ insertEntry entries entry := by
  rw [insertEntry, Std.TreeMap.mem_insert]
  intro present
  rcases present with same | old
  · exact other (Std.LawfulEqOrd.eq_of_compare same)
  · exact absent old

theorem insert_entry_perm {entries : Std.TreeMap String Value} {entry : String × Value}
    (absent : entry.1 ∉ entries) :
    (insertEntry entries entry).toList.Perm (entry :: entries.toList) := by
  have inserted := Std.TreeMap.toList_insert_perm (t := entries) (k := entry.1) (v := entry.2)
  have kept : entries.toList.filter (fun pair => decide ¬(entry.1 == pair.1) = true) =
      entries.toList := by
    apply List.filter_eq_self.2
    intro pair member
    have found := Std.TreeMap.mem_toList_iff_getElem?_eq_some.1 member
    have held := mem_of_get found
    have other : (entry.1 == pair.1) = false := by
      rw [beq_eq_false_iff_ne]
      intro same
      exact absent (same ▸ held)
    simp [other]
  rw [kept] at inserted
  exact inserted

/-- Entries with keys of their own are all kept. -/
theorem filed_perm (pairs : List (String × Value)) (entries : Std.TreeMap String Value)
    (distinct : (pairs.map Prod.fst).Nodup) (absent : ∀ pair ∈ pairs, pair.1 ∉ entries) :
    (pairs.foldl insertEntry entries).toList.Perm (entries.toList ++ pairs) := by
  induction pairs generalizing entries with
  | nil => simp
  | cons pair pairs induction =>
      rw [List.map_cons, List.nodup_cons] at distinct
      have rest := induction (insertEntry entries pair) distinct.2 (by
        intro other member
        apply not_mem_insert_entry (absent other (by simp [member]))
        intro same
        exact distinct.1 (same ▸ List.mem_map_of_mem member))
      have first := insert_entry_perm (absent pair (by simp))
      have joined := rest.trans (first.append_right pairs)
      exact joined.trans List.perm_middle.symm

theorem filed_from_empty_perm {pairs : List (String × Value)}
    (distinct : (pairs.map Prod.fst).Nodup) : (pairs.foldl insertEntry ∅).toList.Perm pairs := by
  have filed := filed_perm pairs ∅ distinct (by simp)
  have nothing : (∅ : Std.TreeMap String Value).toList = [] := by
    rw [← List.isEmpty_iff, Std.TreeMap.isEmpty_toList]
    rfl
  rw [nothing] at filed
  exact filed

/-- Of entries with one key the last is kept. -/
theorem get_filed_iff {pairs : List (String × Value)} {key : String} {value : Value} :
    (pairs.foldl insertEntry ∅)[key]? = some value ↔
      ∃ earlier later, pairs = earlier ++ (key, value) :: later ∧ ∀ pair ∈ later, pair.1 ≠ key := by
  induction pairs using List.reverseRecOn with
  | nil => simp
  | append_singleton pairs pair induction =>
      rw [List.foldl_append, List.foldl_cons, List.foldl_nil, insertEntry,
        Std.TreeMap.getElem?_insert]
      simp only [Std.compare_eq_iff_eq]
      constructor
      · intro found
        split at found
        · rename_i same
          obtain rfl := Option.some.inj found
          exact ⟨pairs, [], by rw [← same], by simp⟩
        · rename_i other
          obtain ⟨earlier, later, rfl, apart⟩ := induction.1 found
          refine ⟨earlier, later ++ [pair], by simp, ?_⟩
          intro last member
          rcases List.mem_append.1 member with before | here
          · exact apart last before
          · rw [List.mem_singleton.1 here]
            exact other
      · intro parts
        obtain ⟨earlier, later, split, apart⟩ := parts
        rcases List.eq_nil_or_concat later with rfl | ⟨later, last, rfl⟩
        · obtain ⟨_, here⟩ := List.append_inj' split rfl
          obtain rfl := (List.cons.inj here).1
          simp
        · rw [List.concat_eq_append, ← List.cons_append, ← List.append_assoc] at split
          obtain ⟨before, here⟩ := List.append_inj' split rfl
          obtain rfl := (List.cons.inj here).1
          rw [if_neg (apart pair (by simp))]
          exact induction.2 ⟨earlier, later, before, fun other member => apart other (by simp [member])⟩

end Filing

end Flatten
end TraceOverhead
