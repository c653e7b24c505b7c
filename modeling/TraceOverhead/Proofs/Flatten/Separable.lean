import Mathlib.Data.List.Nodup
import Mathlib.Data.List.Perm.Basic
import TraceOverhead.Proofs.Flatten.Leaves
import TraceOverhead.Proofs.Number.Text
/-!
Trees whose leaves have paths of their own. Where members lie side by side, either their names hold
no character that a path goes on with, or there is nothing below them; a lone member may have any
name at all.
-/

namespace TraceOverhead.Flatten

/-- Characters that lead on from the name of a member or the place of an item. -/
def isBreak (style : IndexStyle) (character : Char) : Bool :=
  match style with
  | .dotted => character = '.'
  | .bracketed => character = '.' || character = '['

def isUnbroken (style : IndexStyle) (characters : List Char) : Bool :=
  characters.all fun character => !isBreak style character

def isPlain (style : IndexStyle) (name : String) : Bool :=
  name != "" && isUnbroken style name.toList

def isScalar : Json → Bool
  | .array _ | .object _ => false
  | _ => true

inductive Separable (style : IndexStyle) : Json → Prop
  | scalar (value : Json) (flat : isScalar value) : Separable style value
  | array (items : List Json) (below : ∀ item ∈ items, Separable style item) :
      Separable style (.array items)
  | record (members : List (String × Json)) (distinct : (members.map Prod.fst).Nodup)
      (plain : ∀ member ∈ members, isPlain style member.1)
      (below : ∀ member ∈ members, Separable style member.2) : Separable style (.object members)
  | single (name : String) (value : Json) (below : Separable style value) :
      Separable style (.object [(name, value)])
  | table (members : List (String × Json)) (distinct : (members.map Prod.fst).Nodup)
      (flat : ∀ member ∈ members, isScalar member.2) : Separable style (.object members)

variable {style : IndexStyle}

theorem unbroken_iff {characters : List Char} :
    isUnbroken style characters ↔
      ∀ character ∈ characters, isBreak style character = false := by
  simp [isUnbroken]

theorem plain_iff {name : String} :
    isPlain style name ↔ name ≠ "" ∧ isUnbroken style name.toList := by
  simp [isPlain]

theorem separable_record {members : List (String × Json)} (names : List String)
    (named : members.map Prod.fst = names) (distinct : names.Nodup)
    (plain : names.all (isPlain style)) (below : ∀ member ∈ members, Separable style member.2) :
    Separable style (.object members) := by
  subst named
  apply Separable.record members distinct _ below
  intro member here
  exact List.all_eq_true.1 plain member.1 (List.mem_map_of_mem here)

theorem separable_float (value : Float) : Separable style (Json.float value) := by
  apply Separable.scalar
  rw [Json.float]
  split <;> rfl

theorem separable_optional {α : Type} {encode : α → Json}
    (each : ∀ value, Separable style (encode value)) (value : Option α) :
    Separable style (Json.optional encode value) := by
  cases value with
  | none => exact Separable.scalar Json.null rfl
  | some value => exact each value

theorem separable_strings (texts : List String) : Separable style (Json.strings texts) := by
  apply Separable.array
  intro item member
  obtain ⟨text, _, rfl⟩ := List.mem_map.1 member
  exact Separable.scalar (Json.string text) rfl

section Breaks

def Broken (style : IndexStyle) (rest : List Char) : Prop :=
  ∀ character ∈ rest.head?, isBreak style character = true

theorem broken_cons {character : Char} (breaks : isBreak style character) (rest : List Char) :
    Broken style (character :: rest) := by
  intro other first
  rw [← Option.mem_some.1 first]
  exact breaks

theorem take_unbroken {first rest : List Char} (unbroken : isUnbroken style first)
    (broken : Broken style rest) :
    (first ++ rest).takeWhile (fun character => !isBreak style character) = first := by
  have kept : ∀ character ∈ first, (!isBreak style character) = true := by
    intro character member
    rw [unbroken_iff.1 unbroken character member]
    rfl
  have stopped : rest.takeWhile (fun character => !isBreak style character) = [] := by
    cases rest with
    | nil => rfl
    | cons character rest =>
        have breaks := broken character rfl
        simp [breaks]
  rw [List.takeWhile_append_of_pos kept, stopped, List.append_nil]

/-- Where a text first breaks can be told from the text. -/
theorem append_broken_inj {first second rest other : List Char}
    (unbroken : isUnbroken style first) (alike : isUnbroken style second)
    (broken : Broken style rest) (apart : Broken style other)
    (same : first ++ rest = second ++ other) : first = second ∧ rest = other := by
  have taken := take_unbroken unbroken broken
  rw [same, take_unbroken alike apart] at taken
  subst taken
  exact ⟨rfl, List.append_cancel_left same⟩

end Breaks

section Paths

def stepLabel (style : IndexStyle) : Json.Step → String
  | .member name => name
  | .item index => match style with
    | .dotted => Number.decimal index
    | .bracketed => Number.decimal index ++ "]"

def stepBreak (style : IndexStyle) : Json.Step → Char
  | .member _ => '.'
  | .item _ => match style with
    | .dotted => '.'
    | .bracketed => '['

theorem is_break_step_break (step : Json.Step) : isBreak style (stepBreak style step) := by
  cases step <;> cases style <;> rfl

theorem not_is_break_of_is_digit {character : Char} (digit : character.isDigit) :
    isBreak style character = false := by
  cases breaks : isBreak style character with
  | false => rfl
  | true =>
      have named : character = '.' ∨ character = '[' := by
        cases style with
        | dotted => exact .inl (of_decide_eq_true breaks)
        | bracketed => simpa [isBreak] using breaks
      rcases named with rfl | rfl <;> contradiction

theorem plain_item_label (index : Nat) : isPlain style (stepLabel style (.item index)) := by
  have digits : isUnbroken style (Number.decimal index).toList := by
    rw [unbroken_iff]
    intro character member
    exact not_is_break_of_is_digit (Number.is_digit_of_mem_decimal member)
  rw [plain_iff]
  cases style with
  | dotted => exact ⟨Number.decimal_ne_empty index, digits⟩
  | bracketed =>
      constructor
      · simp [stepLabel]
      · rw [stepLabel, String.toList_append, isUnbroken, List.all_append, Bool.and_eq_true]
        exact ⟨digits, rfl⟩

theorem item_label_inj {first second : Nat}
    (same : stepLabel style (.item first) = stepLabel style (.item second)) : first = second := by
  cases style with
  | dotted => exact Number.decimal_inj.1 same
  | bracketed =>
      have shared := congrArg String.toList same
      simp only [stepLabel, String.toList_append, List.append_cancel_right_eq] at shared
      exact Number.decimal_inj.1 (String.toList_inj.1 shared)

theorem step_path_of_ne_empty (style : IndexStyle) {path : String} (nonempty : path ≠ "") (step : Json.Step) :
    (stepPath style path step).toList =
      path.toList ++ stepBreak style step :: (stepLabel style step).toList := by
  cases step with
  | member name => simp [stepPath, memberPath, nonempty, stepBreak, stepLabel]
  | item index => cases style <;> simp [stepPath, itemPath, stepBreak, stepLabel]

theorem trail_path_of_ne_empty (style : IndexStyle) {path : String} (nonempty : path ≠ "") (trail : List Json.Step) :
    ∃ rest, Broken style rest ∧ (trailPath style path trail).toList = path.toList ++ rest := by
  induction trail generalizing path with
  | nil => exact ⟨[], by simp [Broken], by simp [trailPath]⟩
  | cons step trail induction =>
      have stepped := step_path_of_ne_empty style nonempty step
      have further : stepPath style path step ≠ "" := by
        intro empty
        rw [empty] at stepped
        simp at stepped
      obtain ⟨rest, _, reached⟩ := induction further
      refine ⟨stepBreak style step :: (stepLabel style step).toList ++ rest, ?_, ?_⟩
      · exact broken_cons (is_break_step_break step) _
      · rw [stepped, List.append_assoc] at reached
        exact reached

end Paths

section Siblings

def leafPaths (style : IndexStyle) (path : String) (tree : Json) : List String :=
  tree.leaves.map fun leaf => trailPath style path leaf.1

theorem leaf_paths_object (path : String) (members : List (String × Json)) :
    leafPaths style path (.object members) =
      members.flatMap fun member => leafPaths style (memberPath path member.1) member.2 := by
  rw [leafPaths, Json.leaves, Json.member_leaves_eq, List.map_flatMap]
  simp only [List.map_map]
  rfl

theorem leaf_paths_array (path : String) (items : List Json) :
    leafPaths style path (.array items) =
      items.zipIdx.flatMap fun place => leafPaths style (itemPath style path place.2) place.1 := by
  rw [leafPaths, Json.leaves, Json.item_leaves_eq, List.map_flatMap]
  simp only [List.map_map]
  rfl

theorem leaf_paths_scalar {path key : String} {value : Json} (flat : isScalar value)
    (member : key ∈ leafPaths style path value) : key = path := by
  cases value with
  | array => contradiction
  | object => contradiction
  | null => contradiction
  | bool | number | string => exact List.mem_singleton.1 member

theorem nodup_leaf_paths_scalar {path : String} {value : Json} (flat : isScalar value) :
    (leafPaths style path value).Nodup := by
  cases value with
  | array => contradiction
  | object => contradiction
  | null => exact List.nodup_nil
  | bool | number | string => exact List.nodup_singleton _

/-- Below two plain names there is no common path. -/
theorem disjoint_leaf_paths {opening : List Char} {path otherPath first second : String}
    (here : path.toList = opening ++ first.toList)
    (there : otherPath.toList = opening ++ second.toList) (plain : isPlain style first)
    (alike : isPlain style second) (different : first ≠ second) (tree other : Json) :
    (leafPaths style path tree).Disjoint (leafPaths style otherPath other) := by
  have nonempty : path ≠ "" := by
    intro empty
    have nothing : opening = [] ∧ first = "" := by simpa [empty] using here
    exact (plain_iff.1 plain).1 nothing.2
  have elsewhere : otherPath ≠ "" := by
    intro empty
    have nothing : opening = [] ∧ second = "" := by simpa [empty] using there
    exact (plain_iff.1 alike).1 nothing.2
  intro key left right
  obtain ⟨leaf, _, rfl⟩ := List.mem_map.1 left
  obtain ⟨otherLeaf, _, same⟩ := List.mem_map.1 right
  obtain ⟨rest, broken, reached⟩ := trail_path_of_ne_empty style nonempty leaf.1
  obtain ⟨otherRest, apart, arrived⟩ :=
    trail_path_of_ne_empty style elsewhere otherLeaf.1
  rw [same, reached, here, there, List.append_assoc, List.append_assoc,
    List.append_cancel_left_eq] at arrived
  have shared := append_broken_inj (plain_iff.1 plain).2 (plain_iff.1 alike).2 broken apart arrived
  exact different (String.toList_inj.1 shared.1)

end Siblings

section Distinct

def memberOpening (path : String) : List Char := if path.isEmpty then [] else path.toList ++ ['.']

theorem member_path_eq (path name : String) :
    (memberPath path name).toList = memberOpening path ++ name.toList := by
  rw [memberPath, memberOpening]
  split <;> simp

theorem member_path_inj {path first second : String}
    (same : memberPath path first = memberPath path second) : first = second := by
  have shared := congrArg String.toList same
  rw [member_path_eq, member_path_eq, List.append_cancel_left_eq] at shared
  exact String.toList_inj.1 shared

theorem item_path_eq (path : String) (index : Nat) :
    (itemPath style path index).toList =
      path.toList ++ [stepBreak style (.item index)] ++ (stepLabel style (.item index)).toList := by
  cases style <;> simp [itemPath, stepBreak, stepLabel]

theorem nodup_leaf_paths_members {members : List (String × Json)} {path : String}
    (distinct : (members.map Prod.fst).Nodup)
    (each : ∀ member ∈ members, (leafPaths style (memberPath path member.1) member.2).Nodup)
    (apart : ∀ first ∈ members, ∀ second ∈ members, first.1 ≠ second.1 →
      (leafPaths style (memberPath path first.1) first.2).Disjoint
        (leafPaths style (memberPath path second.1) second.2)) :
    (leafPaths style path (.object members)).Nodup := by
  rw [leaf_paths_object, List.nodup_flatMap]
  refine ⟨each, ?_⟩
  have different : members.Pairwise fun first second => first.1 ≠ second.1 :=
    List.pairwise_map.1 distinct
  apply different.imp_of_mem
  intro first second here there unequal
  exact apart first here second there unequal

/-- No two leaves of a separable tree share a path, wherever the tree hangs. -/
theorem nodup_leaf_paths {tree : Json} (separable : Separable style tree) (path : String) :
    (leafPaths style path tree).Nodup := by
  induction separable generalizing path with
  | scalar value flat => exact nodup_leaf_paths_scalar flat
  | array items below induction =>
      rw [leaf_paths_array, List.nodup_flatMap]
      constructor
      · intro place member
        exact induction place.1 (List.fst_mem_of_mem_zipIdx member) _
      · have distinct : items.zipIdx.Pairwise fun first second => first.2 ≠ second.2 := by
          rw [← List.pairwise_map (f := Prod.snd), List.zipIdx_map_snd]
          exact List.nodup_range'
        apply distinct.imp
        intro first second different
        exact disjoint_leaf_paths (item_path_eq path first.2) (item_path_eq path second.2)
          (plain_item_label first.2) (plain_item_label second.2)
          (fun same => different (item_label_inj same)) first.1 second.1
  | record members distinct plain below induction =>
      apply nodup_leaf_paths_members distinct
      · intro member here
        exact induction member here _
      · intro first here second there unequal
        exact disjoint_leaf_paths (member_path_eq path first.1) (member_path_eq path second.1)
          (plain first here) (plain second there) unequal first.2 second.2
  | single name value below induction =>
      -- With no sibling to be confused with, the one name may break wherever it likes.
      rw [leaf_paths_object, List.flatMap_singleton]
      exact induction _
  | table members distinct flat =>
      apply nodup_leaf_paths_members distinct
      · intro member here
        exact nodup_leaf_paths_scalar (flat member here)
      · intro first here second there unequal key left right
        have reached := leaf_paths_scalar (flat first here) left
        have arrived := leaf_paths_scalar (flat second there) right
        exact unequal (member_path_inj (reached.symm.trans arrived))

end Distinct

section Canonical

theorem canonical_items_eq (items : List Json) :
    Json.canonicalItems items = items.map Json.canonical := by
  induction items with
  | nil => rfl
  | cons item items induction => rw [Json.canonicalItems, induction, List.map_cons]

theorem canonical_members_eq (members : List (String × Json)) :
    Json.canonicalMembers members =
      members.map fun member => (member.1, member.2.canonical) := by
  induction members with
  | nil => rfl
  | cons member members induction => rw [Json.canonicalMembers, induction, List.map_cons]

theorem sort_members_perm {members : List (String × Json)}
    (distinct : (members.map Prod.fst).Nodup) : (Json.sortMembers members).Perm members := by
  have sorted : Json.sortMembers members = (members.foldl insertEntry ∅).toList :=
    Std.TreeMap.Equiv.toList_eq Std.TreeMap.ofList_equiv_foldl
  rw [sorted]
  exact filed_from_empty_perm distinct

theorem item_leaves_perm {items : List Json}
    (each : ∀ item ∈ items, item.canonical.leaves.Perm item.leaves) (index : Nat) :
    (Json.itemLeaves index (items.map Json.canonical)).Perm (Json.itemLeaves index items) := by
  induction items generalizing index with
  | nil => exact List.Perm.nil
  | cons item items induction =>
      rw [List.map_cons, Json.itemLeaves, Json.itemLeaves]
      apply List.Perm.append
      · exact (each item (by simp)).map _
      · exact induction (fun other member => each other (by simp [member])) (index + 1)

theorem member_leaves_perm {members : List (String × Json)}
    (distinct : (members.map Prod.fst).Nodup)
    (each : ∀ member ∈ members, member.2.canonical.leaves.Perm member.2.leaves) :
    (Json.object members).canonical.leaves.Perm (Json.object members).leaves := by
  rw [Json.canonical, Json.leaves, Json.leaves, canonical_members_eq]
  have named : ((members.map fun member => (member.1, member.2.canonical)).map Prod.fst).Nodup := by
    rw [List.map_map]
    exact distinct
  have sorted := sort_members_perm named
  rw [Json.member_leaves_eq, Json.member_leaves_eq]
  refine (sorted.flatMap_right _).trans ?_
  rw [List.flatMap_map]
  apply List.Perm.flatMap_left
  intro member here
  exact (each member here).map _

theorem canonical_scalar {value : Json} (flat : isScalar value) : value.canonical = value := by
  cases value with
  | array => contradiction
  | object => contradiction
  | null | bool | number | string => rfl

theorem canonical_leaves_perm {tree : Json} (separable : Separable style tree) :
    tree.canonical.leaves.Perm tree.leaves := by
  induction separable with
  | scalar value flat => rw [canonical_scalar flat]
  | array items below induction =>
      rw [Json.canonical, canonical_items_eq]
      exact item_leaves_perm induction 0
  | record members distinct plain below induction => exact member_leaves_perm distinct induction
  | single name value below induction =>
      exact member_leaves_perm (by simp) (by simpa using induction)
  | table members distinct flat =>
      apply member_leaves_perm distinct
      intro member here
      rw [canonical_scalar (flat member here)]

end Canonical

/-- The flat view of a separable tree has one entry for every leaf and no other. -/
theorem flatten_perm {tree : Json} (separable : Separable style tree) :
    (flatten style tree).toList.Perm (tree.leaves.map (leafEntry style "")) := by
  have leaves := (canonical_leaves_perm separable).map (leafEntry style "")
  have distinct : ((tree.leaves.map (leafEntry style "")).map Prod.fst).Nodup := by
    rw [List.map_map]
    exact nodup_leaf_paths separable ""
  have filed := filed_from_empty_perm ((leaves.map Prod.fst).nodup_iff.2 distinct)
  rw [flatten, insert_leaves_eq]
  exact filed.trans leaves

theorem get_flatten_iff {tree : Json} (separable : Separable style tree) {key : String}
    {value : Json} :
    (flatten style tree)[key]? = some value ↔
      ∃ leaf ∈ tree.leaves, leafEntry style "" leaf = (key, value) := by
  rw [← Std.TreeMap.mem_toList_iff_getElem?_eq_some, (flatten_perm separable).mem_iff,
    List.mem_map]

end TraceOverhead.Flatten
