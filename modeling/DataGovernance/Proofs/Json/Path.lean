import DataGovernance.Proofs.Text.Order
import DataGovernance.Table.Rendering

/-!
# Paths into objects

A path of keys leads from object to object to a value. The leaves of an object are the values that
paths lead to and that are no objects themselves. Where the keys of every object differ, each leaf
has a path of its own, and where they ascend, listing the leaves from the first member to the last,
and those of an inner object in its place, lists their paths in the order of their keys.

Putting the keys into order changes neither which paths lead to a value nor, but for the order of
the keys in it, the value.

Key definitions: `Value.get?`, `Value.Throughout`, `Value.leaves`, `Value.orderedLeaves`.
Key theorems: `Value.mem_leaves_iff`, `Value.pairwise_leaves`, `Value.get?_sortKeys`,
`Value.mem_orderedLeaves_iff`, `Value.pairwise_orderedLeaves`.
-/

namespace DataGovernance.Json.Value

variable {members : List (String × Value)} {path : List String} {key : String} {v w : Value}

/-- The value at a path of keys. -/
def get? : Value → List String → Option Value
  | v, [] => some v
  | object members, key :: path =>
    match members.lookup key with
    | some v => v.get? path
    | none => none
  | _, _ :: _ => none

/-- A condition on the keys of an object, at every level of objects in objects. -/
inductive Throughout (P : List String → Prop) : List (String × Value) → Prop
  | intro {members : List (String × Value)} (keys : P (members.map Prod.fst))
      (inner : ∀ {key inner}, (key, object inner) ∈ members → Throughout P inner) :
      Throughout P members

theorem Throughout.mono {P Q : List String → Prop} (h : Throughout P members)
    (hPQ : ∀ keys, P keys → Q keys) : Throughout Q members := by
  induction h with
  | intro hkeys _ ih => exact ⟨hPQ _ hkeys, ih⟩

theorem get?_object_cons :
    (object members).get? (key :: path) = (members.lookup key).bind (·.get? path) := by
  rw [get?]
  cases members.lookup key <;> rfl

theorem members?_eq_some_iff : v.members? = some members ↔ v = object members := by
  cases v <;> simp [members?]

/-- From what is no object only the empty path leads on. -/
theorem get?_of_not_object (hv : v.members? = none) :
    v.get? path = if path = [] then some v else none := by
  cases path <;> cases v <;> simp_all [get?, members?]

/-! ### Leaves -/

/-- A leaf of an object that stands under a key. -/
def under (key : String) (leaf : List String × Value) : List String × Value :=
  (key :: leaf.1, leaf.2)

/-- The values in an object that are no objects, with their paths. -/
def leaves : List (String × Value) → List (List String × Value)
  | [] => []
  | (key, object inner) :: rest => (leaves inner).map (under key) ++ leaves rest
  | (key, v) :: rest => ([key], v) :: leaves rest

/-- The leaves of an object that a member leads to. -/
def leavesOf (key : String) : Value → List (List String × Value)
  | object inner => (leaves inner).map (under key)
  | v => [([key], v)]

theorem leaves_eq_flatMap (members : List (String × Value)) :
    leaves members = members.flatMap fun m => leavesOf m.1 m.2 := by
  induction members with
  | nil => rw [leaves, List.flatMap_nil]
  | cons m rest ih =>
    obtain ⟨key, v⟩ := m
    rw [List.flatMap_cons, ← ih]
    cases v <;> rw [leaves] <;> simp [leavesOf]

theorem leavesOf_of_not_object (hv : v.members? = none) : leavesOf key v = [([key], v)] := by
  cases v <;> simp_all [leavesOf, members?]

theorem mem_leavesOf_object {inner : List (String × Value)} :
    (key :: path, v) ∈ leavesOf key (object inner) ↔ (path, v) ∈ leaves inner := by
  simp [leavesOf, under]

/-- What a member leads to has the member's key at the front of its path. -/
theorem exists_of_mem_leavesOf {leaf : List String × Value} (h : leaf ∈ leavesOf key v) :
    ∃ path, leaf.1 = key :: path := by
  cases hobject : v.members? with
  | some inner =>
    obtain rfl := members?_eq_some_iff.1 hobject
    obtain ⟨deeper, _, rfl⟩ := List.mem_map.1 h
    exact ⟨deeper.1, rfl⟩
  | none =>
    rw [leavesOf_of_not_object hobject, List.mem_singleton] at h
    exact ⟨[], h ▸ rfl⟩

/-- **The leaves of an object** are what paths lead to and is no object. -/
theorem mem_leaves_iff (h : Throughout List.Nodup members) :
    (path, v) ∈ leaves members ↔ (object members).get? path = some v ∧ v.members? = none := by
  induction h generalizing path with
  | @intro members hkeys _ ih =>
    rw [leaves_eq_flatMap, List.mem_flatMap]
    cases path with
    | nil =>
      -- the empty path leads to the object itself
      refine iff_of_false ?_ ?_
      · rintro ⟨m, _, hleaf⟩
        obtain ⟨path, hpath⟩ := exists_of_mem_leavesOf hleaf
        cases hpath
      · rintro ⟨hself, hv⟩
        cases hself
        cases hv
    | cons key path =>
      have hmember : ∀ w, (key, w) ∈ members →
          ((key :: path, v) ∈ leavesOf key w ↔ w.get? path = some v ∧ v.members? = none) := by
        intro w hw
        cases hobject : w.members? with
        | some inner =>
          obtain rfl := members?_eq_some_iff.1 hobject
          rw [mem_leavesOf_object, ih hw]
        | none =>
          rw [leavesOf_of_not_object hobject, get?_of_not_object hobject, List.mem_singleton]
          grind
      rw [get?_object_cons]
      constructor
      · rintro ⟨⟨k, w⟩, hw, hleaf⟩
        obtain ⟨_, hpath⟩ := exists_of_mem_leavesOf hleaf
        obtain ⟨rfl, _⟩ := List.cons.inj hpath
        rw [(lookup_eq_some_iff_mem hkeys).2 hw, Option.bind_some]
        exact (hmember w hw).1 hleaf
      · rintro ⟨hget, hv⟩
        obtain ⟨w, hlookup, hw⟩ := Option.bind_eq_some_iff.1 hget
        have hmem := mem_of_lookup_eq_some hlookup
        exact ⟨(key, w), hmem, (hmember w hmem).2 ⟨hw, hv⟩⟩

/-- Where keys ascend the paths of the leaves do, too. -/
theorem pairwise_leaves (h : Throughout (List.Pairwise (· < ·)) members) :
    ((leaves members).map Prod.fst).Pairwise (· < ·) := by
  induction h with
  | @intro members hkeys _ ih =>
    rw [leaves_eq_flatMap, List.pairwise_map, List.pairwise_flatMap]
    rw [List.pairwise_map] at hkeys
    constructor
    · rintro ⟨key, v⟩ hm
      cases hobject : v.members? with
      | some inner =>
        obtain rfl := members?_eq_some_iff.1 hobject
        refine List.pairwise_map.2 ((List.pairwise_map.1 (ih hm)).imp fun hlt => ?_)
        exact List.cons_lt_cons_self.2 hlt
      | none =>
        rw [leavesOf_of_not_object hobject]
        exact List.pairwise_singleton _ _
    · refine hkeys.imp fun {m n} hlt x hx y hy => ?_
      obtain ⟨p, hp⟩ := exists_of_mem_leavesOf hx
      obtain ⟨q, hq⟩ := exists_of_mem_leavesOf hy
      rw [hp, hq, List.cons_lt_cons_iff]
      exact .inl hlt

/-- A condition on each key of the objects in an object holds of the keys of its leaves' paths. -/
theorem forall_mem_path {p : String → Prop}
    (h : Throughout (fun keys => ∀ key ∈ keys, p key) members) {leaf : List String × Value}
    (hleaf : leaf ∈ leaves members) : leaf.1 ≠ [] ∧ ∀ key ∈ leaf.1, p key := by
  induction h generalizing leaf with
  | @intro members hkeys _ ih =>
    rw [leaves_eq_flatMap, List.mem_flatMap] at hleaf
    obtain ⟨⟨key, v⟩, hm, hleaf⟩ := hleaf
    have hkey : p key := hkeys key (List.mem_map_of_mem hm)
    cases hobject : v.members? with
    | some inner =>
      obtain rfl := members?_eq_some_iff.1 hobject
      obtain ⟨deeper, hdeeper, rfl⟩ := List.mem_map.1 hleaf
      exact ⟨List.cons_ne_nil _ _, List.forall_mem_cons.2 ⟨hkey, (ih hm hdeeper).2⟩⟩
    | none =>
      rw [leavesOf_of_not_object hobject, List.mem_singleton] at hleaf
      subst hleaf
      exact ⟨List.cons_ne_nil _ _, List.forall_mem_singleton.2 hkey⟩

/-! ### Keys in order -/

theorem sortKeysItems_eq_map (items : List Value) :
    sortKeysItems items = items.map sortKeys := by
  induction items with
  | nil => rw [sortKeysItems, List.map_nil]
  | cons v rest ih => rw [sortKeysItems, List.map_cons, ih]

theorem sortKeysMembers_eq_map (members : List (String × Value)) :
    sortKeysMembers members = members.map fun m => (m.1, m.2.sortKeys) := by
  induction members with
  | nil => rw [sortKeysMembers, List.map_nil]
  | cons m rest ih => rw [sortKeysMembers, List.map_cons, ih]

/-- The members of an object in the order of their keys, and so within their values. -/
def sortedMembers (members : List (String × Value)) : List (String × Value) :=
  sortMembers (sortKeysMembers members)

theorem sortKeys_object : (object members).sortKeys = object (sortedMembers members) := by
  rw [sortKeys, sortedMembers]

theorem members?_sortKeys (v : Value) :
    v.sortKeys.members? = v.members?.map sortedMembers := by
  cases v <;> simp [sortKeys, members?, sortedMembers]

theorem sortedMembers_perm (members : List (String × Value)) :
    (sortedMembers members).Perm (members.map fun m => (m.1, m.2.sortKeys)) := by
  rw [← sortKeysMembers_eq_map]
  exact List.mergeSort_perm _ _

theorem map_fst_sortedMembers (members : List (String × Value)) :
    (sortedMembers members).map Prod.fst = Text.sorted (members.map Prod.fst) := by
  have hkeys : (sortKeysMembers members).map Prod.fst = members.map Prod.fst := by
    rw [sortKeysMembers_eq_map, List.map_map]
    rfl
  rw [sortedMembers, sortMembers, Text.sorted, ← hkeys]
  exact List.map_mergeSort fun _ _ _ _ => rfl

theorem lookup_sortedMembers (h : (members.map Prod.fst).Nodup) (key : String) :
    (sortedMembers members).lookup key = (members.lookup key).map sortKeys := by
  rw [lookup_perm (sortedMembers_perm members) (by rwa [List.map_map]), lookup_map_snd]

/-- Paths lead to the same values when keys are put into order, but for the order in them. -/
theorem get?_sortKeys (h : Throughout List.Nodup members) :
    (object members).sortKeys.get? path = ((object members).get? path).map sortKeys := by
  induction h generalizing path with
  | @intro members hkeys _ ih =>
    cases path with
    | nil => rfl
    | cons key path =>
      rw [sortKeys_object, get?_object_cons, get?_object_cons, lookup_sortedMembers hkeys]
      cases hlookup : members.lookup key with
      | none => rfl
      | some v =>
        rw [Option.map_some, Option.bind_some, Option.bind_some]
        cases hobject : v.members? with
        | some inner =>
          obtain rfl := members?_eq_some_iff.1 hobject
          exact ih (mem_of_lookup_eq_some hlookup)
        | none =>
          have hsorted : v.sortKeys.members? = none := by rw [members?_sortKeys, hobject]; rfl
          rw [get?_of_not_object hobject, get?_of_not_object hsorted]
          split <;> rfl

theorem throughout_sortedMembers {P Q : List String → Prop} (h : Throughout P members)
    (hPQ : ∀ keys, P keys → Q (Text.sorted keys)) : Throughout Q (sortedMembers members) := by
  induction h with
  | @intro members hkeys _ ih =>
    refine ⟨map_fst_sortedMembers members ▸ hPQ _ hkeys, fun {key inner} hmem => ?_⟩
    obtain ⟨⟨k, v⟩, hm, heq⟩ := List.mem_map.1 ((sortedMembers_perm members).mem_iff.1 hmem)
    obtain ⟨rfl, hv⟩ := Prod.mk.inj heq
    have hmembers := members?_sortKeys v
    rw [members?_eq_some_iff.2 hv] at hmembers
    obtain ⟨unsorted, hunsorted, rfl⟩ := Option.map_eq_some_iff.1 hmembers.symm
    exact ih (members?_eq_some_iff.1 hunsorted ▸ hm)

/-! ### Leaves in the order of their paths -/

/-- The leaves of an object in the order of their paths. -/
def orderedLeaves (members : List (String × Value)) : List (List String × Value) :=
  (leaves (sortedMembers members)).map fun leaf =>
    (leaf.1, ((object members).get? leaf.1).getD leaf.2)

theorem mem_leaves_sortedMembers_iff (h : Throughout List.Nodup members) :
    (path, w) ∈ leaves (sortedMembers members) ↔
      ∃ v, ((object members).get? path = some v ∧ v.members? = none) ∧ v.sortKeys = w := by
  have hsorted : Throughout List.Nodup (sortedMembers members) :=
    throughout_sortedMembers h fun keys hkeys => (Text.sorted_perm keys).nodup_iff.2 hkeys
  rw [mem_leaves_iff hsorted, ← sortKeys_object, get?_sortKeys h, Option.map_eq_some_iff]
  constructor
  · rintro ⟨⟨v, hget, rfl⟩, hv⟩
    rw [members?_sortKeys, Option.map_eq_none_iff] at hv
    exact ⟨v, ⟨hget, hv⟩, rfl⟩
  · rintro ⟨v, ⟨hget, hv⟩, rfl⟩
    rw [members?_sortKeys, Option.map_eq_none_iff]
    exact ⟨⟨v, hget, rfl⟩, hv⟩

theorem mem_orderedLeaves_iff (h : Throughout List.Nodup members) :
    (path, v) ∈ orderedLeaves members ↔
      (object members).get? path = some v ∧ v.members? = none := by
  rw [orderedLeaves, List.mem_map]
  constructor
  · rintro ⟨⟨p, w⟩, hleaf, heq⟩
    obtain ⟨u, ⟨hget, hu⟩, -⟩ := (mem_leaves_sortedMembers_iff h).1 hleaf
    rw [hget, Option.getD_some] at heq
    cases heq
    exact ⟨hget, hu⟩
  · intro hv
    refine ⟨(path, v.sortKeys), (mem_leaves_sortedMembers_iff h).2 ⟨v, hv, rfl⟩, ?_⟩
    rw [hv.1, Option.getD_some]

/-- A condition on each key holds of the keys of the paths. -/
theorem forall_mem_orderedLeaves {p : String → Prop} (h : Throughout List.Nodup members)
    (hp : Throughout (fun keys => ∀ key ∈ keys, p key) members) :
    ∀ leaf ∈ orderedLeaves members, leaf.1 ≠ [] ∧ ∀ key ∈ leaf.1, p key :=
  fun _ hleaf => forall_mem_path hp ((mem_leaves_iff h).2 ((mem_orderedLeaves_iff h).1 hleaf))

theorem leaves_sortedMembers (h : Throughout List.Nodup members) :
    leaves (sortedMembers members) =
      (orderedLeaves members).map fun leaf => (leaf.1, leaf.2.sortKeys) := by
  rw [orderedLeaves, List.map_map]
  refine (List.map_id _).symm.trans (List.map_congr_left fun leaf hleaf => ?_)
  obtain ⟨v, ⟨hget, -⟩, hw⟩ := (mem_leaves_sortedMembers_iff h).1 hleaf
  rw [Function.comp_apply, hget, Option.getD_some, hw]
  rfl

theorem pairwise_orderedLeaves (h : Throughout List.Nodup members) :
    ((orderedLeaves members).map Prod.fst).Pairwise (· < ·) := by
  have hpaths := pairwise_leaves (throughout_sortedMembers h fun _ => Text.pairwise_lt_sorted)
  rwa [leaves_sortedMembers h, List.map_map] at hpaths

end DataGovernance.Json.Value
