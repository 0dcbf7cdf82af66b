import DataGovernance.Json.Value

/-!
# Well-formed documents

A document is well formed when its text follows the grammar of JSON to its end. It may still have
literals that stand for nothing: half a surrogate pair in a string, or a number out of range. A
reader passes over just the well-formed documents. To take a document whole is to take each of its
items, or the keys and values of its members, which do not depend on each other.

Key definitions: `Document.WellFormed`, `Document.IsAtom`.
Key theorems: `Document.skip_eq_ok_iff`, `Document.checkItems_eq_ok_iff`,
`Document.checkMembers_eq_ok_iff`.
-/

namespace DataGovernance.Json.Document

/-- What comes of one check and then another. -/
theorem check_seq_eq_ok_iff {ε : Type} {x y : Except ε Unit} :
    (do x; y) = .ok () ↔ x = .ok () ∧ y = .ok () := by
  cases x <;> simp [bind, Except.bind]

/-! ### Grammar -/

/-- Whether a document in a key's place is a string literal. -/
def KeyWellFormed : Document → Prop
  | str _ => True
  | fault (.text _ onSkip) => onSkip = none
  | _ => False

mutual

/-- Whether the text of a document follows the grammar. -/
def WellFormed : Document → Prop
  | list items => ItemsWellFormed items
  | object members => MembersWellFormed members
  | fault (.text _ onSkip) => onSkip = none
  | fault (.number _ onSkip) => onSkip = none
  | fault _ => False
  | _ => True

/-- Whether the items of a list follow the grammar. -/
def ItemsWellFormed : List Document → Prop
  | [] => True
  | d :: rest => d.WellFormed ∧ ItemsWellFormed rest

/-- Whether the members of an object follow the grammar. -/
def MembersWellFormed : List (Document × Document) → Prop
  | [] => True
  | (k, d) :: rest => k.KeyWellFormed ∧ d.WellFormed ∧ MembersWellFormed rest

end

theorem skipKey_eq_ok_iff {k : Document} : k.skipKey = .ok () ↔ k.KeyWellFormed := by
  cases k with
  | fault f =>
    cases f with
    | text e onSkip => cases onSkip <;> simp [skipKey, KeyWellFormed]
    | member e => cases e <;> simp [skipKey, KeyWellFormed]
    | _ => simp [skipKey, KeyWellFormed]
  | _ => simp [skipKey, KeyWellFormed]

mutual

/-- A reader passes over just the well-formed documents. -/
theorem skip_eq_ok_iff : ∀ {d : Document}, d.skip = .ok () ↔ d.WellFormed
  | null => by simp [skip, WellFormed]
  | bool _ => by simp [skip, WellFormed]
  | num _ => by simp [skip, WellFormed]
  | str _ => by simp [skip, WellFormed]
  | list items => by
    rw [skip, WellFormed]
    exact skipItems_eq_ok_iff
  | object members => by
    rw [skip, WellFormed]
    exact skipMembers_eq_ok_iff
  | fault f => by
    cases f with
    | text e onSkip => cases onSkip <;> simp [skip, WellFormed, Fault.skip]
    | number e onSkip => cases onSkip <;> simp [skip, WellFormed, Fault.skip]
    | item e => cases e <;> simp [skip, WellFormed, Fault.skip]
    | _ => simp [skip, WellFormed, Fault.skip]

theorem skipItems_eq_ok_iff : ∀ {items : List Document},
    skipItems items = .ok () ↔ ItemsWellFormed items
  | [] => by simp [skipItems, ItemsWellFormed]
  | d :: rest => by
    rw [skipItems, ItemsWellFormed, check_seq_eq_ok_iff, skip_eq_ok_iff, skipItems_eq_ok_iff]

theorem skipMembers_eq_ok_iff : ∀ {members : List (Document × Document)},
    skipMembers members = .ok () ↔ MembersWellFormed members
  | [] => by simp [skipMembers, MembersWellFormed]
  | (k, d) :: rest => by
    rw [skipMembers, MembersWellFormed, check_seq_eq_ok_iff, check_seq_eq_ok_iff,
      skipKey_eq_ok_iff, skip_eq_ok_iff, skipMembers_eq_ok_iff]

end

/-! ### Documents taken whole -/

/-- Whether a document is null, a truth value or a string. -/
def IsAtom : Document → Prop
  | null | bool _ | str _ => True
  | _ => False

theorem IsAtom.wellFormed {d : Document} (h : d.IsAtom) : d.WellFormed := by
  cases d <;> simp_all [IsAtom, WellFormed]

theorem IsAtom.check {d : Document} (h : d.IsAtom) (depth : Nat) : d.check depth = .ok () := by
  cases d <;> simp_all [IsAtom, Document.check]

variable {depth : Nat}

theorem checkItems_eq_ok_iff {items : List Document} :
    checkItems depth items = .ok () ↔ ∀ d ∈ items, d.check depth = .ok () := by
  induction items with
  | nil => simp [checkItems]
  | cons d rest ih => rw [checkItems, check_seq_eq_ok_iff, ih, List.forall_mem_cons]

/-- A key is one that is a string. -/
theorem key_eq_ok_iff {k : Document} {name : String} : k.key = .ok name ↔ k = str name := by
  unfold key
  split <;> simp_all

theorem checkMembers_eq_ok_iff {members : List (Document × Document)} :
    checkMembers depth members = .ok () ↔
      ∀ m ∈ members, (∃ name, m.1 = str name) ∧ m.2.check depth = .ok () := by
  induction members with
  | nil => simp [checkMembers]
  | cons m rest ih =>
    obtain ⟨k, d⟩ := m
    have hkey : (discard k.key : Except SyntaxError Unit) = .ok () ↔ ∃ name, k = str name := by
      simp only [← key_eq_ok_iff]
      cases k.key <;> simp [discard, Functor.discard, Functor.mapConst, Except.map]
    rw [checkMembers, check_seq_eq_ok_iff, check_seq_eq_ok_iff, ih, hkey, List.forall_mem_cons,
      and_assoc]

theorem check_list_eq_ok_iff {items : List Document} :
    (list items).check depth = .ok () ↔
      depth + 1 ≠ maxDepth ∧ ∀ d ∈ items, d.check (depth + 1) = .ok () := by
  rw [check, ← checkItems_eq_ok_iff]
  split <;> simp_all

theorem check_object_eq_ok_iff {members : List (Document × Document)} :
    (object members).check depth = .ok () ↔
      depth + 1 ≠ maxDepth ∧
        ∀ m ∈ members, (∃ name, m.1 = str name) ∧ m.2.check (depth + 1) = .ok () := by
  rw [check, ← checkMembers_eq_ok_iff]
  split <;> simp_all

theorem mem_ofItems {d : Document} : ∀ {items : List Value}, d ∈ ofItems items →
    ∃ v ∈ items, d = ofValue v
  | v :: items, h => by
    obtain rfl | h := List.mem_cons.1 h
    · exact ⟨v, by simp, rfl⟩
    · obtain ⟨w, hw, hd⟩ := mem_ofItems h
      exact ⟨w, by simp [hw], hd⟩

theorem mem_ofMembers {m : Document × Document} : ∀ {members : List (String × Value)},
    m ∈ ofMembers members →
    ∃ p ∈ members, m = (str p.1, ofValue p.2)
  | p :: members, h => by
    obtain rfl | h := List.mem_cons.1 h
    · exact ⟨p, by simp, rfl⟩
    · obtain ⟨q, hq, hm⟩ := mem_ofMembers h
      exact ⟨q, by simp [hq], hm⟩

end DataGovernance.Json.Document
