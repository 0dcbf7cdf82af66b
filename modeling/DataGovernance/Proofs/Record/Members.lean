import DataGovernance.Proofs.Fallible
import DataGovernance.Proofs.Json.WellFormed
import DataGovernance.Proofs.Record.Lawful
import Mathlib.Data.List.Find
import Mathlib.Data.List.Pairwise

/-!
# The members of a record in any order

Reading the members of a record goes from one to the next with the keys seen so far and a draft. A
member whose key is no field is passed over, and one whose key is a field not seen yet puts its
value into the draft. Fields of an orderly shape can be put in any order, so what comes of all
members does not depend on theirs. A field that has a default may be absent or hold the default, and
of the others each has to be there.

Key definitions: `Shape.Orderly`, `Shape.Takes`.
Key theorems: `Orderly.decodeMembers_perm`, `Orderly.decodeMembers_default`,
`Lawful.decodeMembers_missing`.
-/

namespace DataGovernance.Record

open Json

theorem ofSyntax_eq_ok_iff {α : Type} {x : Except SyntaxError α} {a : α} :
    ofSyntax x = .ok a ↔ x = .ok a := by
  cases x <;> simp [ofSyntax]

namespace Shape

variable {ρ : Type} {shape : Shape ρ} {source : Source}

/-- A lawful shape whose fields are put into a record without disturbing each other. -/
structure Orderly (shape : Shape ρ) : Prop extends shape.Lawful where
  set_get : ∀ f ∈ shape.fields, ∀ r, f.set (f.get r) r = r
  set_comm : shape.fields.Pairwise fun f g => ∀ a b r, f.set a (g.set b r) = g.set b (f.set a r)

theorem mem_of_field? {name : String} {f : Field ρ} (h : shape.field? name = some f) :
    f ∈ shape.fields ∧ f.name = name :=
  ⟨List.mem_of_find?_eq_some h, by simpa using List.find?_some h⟩

theorem field?_eq_none_iff {name : String} :
    shape.field? name = none ↔ name ∉ shape.fields.map Field.name := by
  simp [field?, List.find?_eq_none]

/-- Different fields of an orderly shape are put in either order. -/
theorem Orderly.set_comm_of_ne (h : shape.Orderly) {f g : Field ρ} (hf : f ∈ shape.fields)
    (hg : g ∈ shape.fields) (hne : f.name ≠ g.name) (a : f.α) (b : g.α) (r : ρ) :
    f.set a (g.set b r) = g.set b (f.set a r) := by
  have hsymm : Std.Symm fun f g : Field ρ =>
      ∀ a b r, f.set a (g.set b r) = g.set b (f.set a r) :=
    ⟨fun _ _ hfg a b r => (hfg b a r).symm⟩
  exact h.set_comm.forall hf hg (fun he => hne (congrArg Field.name he)) a b r

/-- A key finds the field that has it. -/
theorem Lawful.field?_of_mem (h : shape.Lawful) {f : Field ρ} (hf : f ∈ shape.fields) :
    shape.field? f.name = some f := by
  obtain ⟨before, after, hfields⟩ := List.append_of_mem hf
  exact h.field?_eq hfields

/-! ### One member after another -/

/-- A member takes the reading from the keys seen and the draft so far to those behind it. -/
inductive Takes (shape : Shape ρ) (source : Source) (seen : List String) (draft : ρ) :
    Document × Document → List String → ρ → Prop
  | passed {name : String} {d : Document} (hname : shape.field? name = none)
      (hd : d.skip = .ok ()) : Takes shape source seen draft (.str name, d) seen draft
  | put {name : String} {d : Document} (f : Field ρ) (a : f.α) (hname : shape.field? name = some f)
      (hnew : name ∉ seen) (hd : f.codec.decode source d = .ok a) :
      Takes shape source seen draft (.str name, d) (name :: seen) (f.set a draft)

variable {seen seen' : List String} {draft draft' r : ρ} {name : String} {d : Document}
  {m : Document × Document} {members rest : List (Document × Document)}

theorem decodeMembers_unknown (hname : shape.field? name = none) :
    shape.decodeMembers source seen draft ((.str name, d) :: rest) =
      ofSyntax d.skip >>= fun _ => shape.decodeMembers source seen draft rest := by
  simp only [decodeMembers, Document.key, ofSyntax, hname, bind, Except.bind]

theorem decodeMembers_known {f : Field ρ} (hname : shape.field? name = some f) :
    shape.decodeMembers source seen draft ((.str name, d) :: rest) =
      if name ∈ seen then .error (.data (.duplicateField name))
      else f.codec.decode source d >>= fun a =>
        shape.decodeMembers source (name :: seen) (f.set a draft) rest := by
  simp only [decodeMembers, Document.key, ofSyntax, hname, List.contains_iff_mem, bind, Except.bind]

/-- Behind a member the reading goes on. -/
theorem Takes.decodeMembers_cons (h : shape.Takes source seen draft m seen' draft')
    (rest : List (Document × Document)) :
    shape.decodeMembers source seen draft (m :: rest) =
      shape.decodeMembers source seen' draft' rest := by
  cases h with
  | passed hname hd =>
    rw [decodeMembers_unknown hname, hd]
    rfl
  | put f a hname hnew hd =>
    rw [decodeMembers_known hname, if_neg hnew, hd]
    rfl

/-- Members are read by taking the first one and going on with the others. -/
theorem decodeMembers_cons_eq_ok_iff :
    shape.decodeMembers source seen draft (m :: rest) = .ok r ↔
      ∃ seen' draft', shape.Takes source seen draft m seen' draft' ∧
        shape.decodeMembers source seen' draft' rest = .ok r := by
  constructor
  · intro h
    obtain ⟨k, d⟩ := m
    obtain ⟨name, hk, -⟩ := bind_eq_ok_iff.1 h
    obtain rfl := Document.key_eq_ok_iff.1 (ofSyntax_eq_ok_iff.1 hk)
    cases hname : shape.field? name with
    | none =>
      rw [decodeMembers_unknown hname] at h
      obtain ⟨⟨⟩, hd, hrest⟩ := bind_eq_ok_iff.1 h
      exact ⟨seen, draft, .passed hname (ofSyntax_eq_ok_iff.1 hd), hrest⟩
    | some f =>
      rw [decodeMembers_known hname] at h
      split at h
      · cases h
      · rename_i hnew
        obtain ⟨a, hd, hrest⟩ := bind_eq_ok_iff.1 h
        exact ⟨_, _, .put f a hname hnew hd, hrest⟩
  · rintro ⟨seen', draft', htakes, hrest⟩
    rwa [htakes.decodeMembers_cons]

/-- Once some members have been read, the reading goes on from where they lead. -/
theorem exists_decodeMembers_append : ∀ {front : List (Document × Document)} {seen : List String}
    {draft : ρ}, shape.decodeMembers source seen draft (front ++ rest) = .ok r →
      ∃ seen' draft', ∀ back, shape.decodeMembers source seen draft (front ++ back) =
        shape.decodeMembers source seen' draft' back
  | [], seen, draft, _ => ⟨seen, draft, fun _ => rfl⟩
  | m :: front, seen, draft, h => by
    obtain ⟨seen₁, draft₁, htakes, hrest⟩ := decodeMembers_cons_eq_ok_iff.1 h
    obtain ⟨seen', draft', hgo⟩ := exists_decodeMembers_append hrest
    refine ⟨seen', draft', fun back => ?_⟩
    rw [List.cons_append, htakes.decodeMembers_cons, hgo]

/-! ### The keys seen -/

/-- A member whose key is no string ends the reading at once. -/
theorem decodeMembers_key_error {k : Document} {e : SyntaxError} (hk : k.key = .error e) :
    shape.decodeMembers source seen draft ((k, d) :: rest) = .error (.json e) := by
  rw [decodeMembers, hk]
  rfl

/-- The keys seen count only for the fields among them. -/
theorem decodeMembers_congr : ∀ {members : List (Document × Document)} {seen seen' : List String}
    {draft : ρ}, (∀ f ∈ shape.fields, f.name ∈ seen ↔ f.name ∈ seen') →
      shape.decodeMembers source seen draft members =
        shape.decodeMembers source seen' draft members
  | [], seen, seen', draft, h => by
    have hfind : shape.fields.find? (fun f => f.needed && !seen.contains f.name) =
        shape.fields.find? (fun f => f.needed && !seen'.contains f.name) :=
      List.find?_congr fun f hf => by simp [h f hf]
    simp only [decodeMembers, hfind]
  | (k, d) :: rest, seen, seen', draft, h => by
    cases hk : k.key with
    | error e => rw [decodeMembers_key_error hk, decodeMembers_key_error hk]
    | ok name =>
      obtain rfl := Document.key_eq_ok_iff.1 hk
      cases hname : shape.field? name with
      | none => rw [decodeMembers_unknown hname, decodeMembers_unknown hname, decodeMembers_congr h]
      | some f =>
        obtain ⟨hf, rfl⟩ := mem_of_field? hname
        have hrest : ∀ g ∈ shape.fields, g.name ∈ f.name :: seen ↔ g.name ∈ f.name :: seen' :=
          fun g hg => by simp [h g hg]
        have ih : ∀ a, shape.decodeMembers source (f.name :: seen) (f.set a draft) rest =
            shape.decodeMembers source (f.name :: seen') (f.set a draft) rest :=
          fun _ => decodeMembers_congr hrest
        simp only [decodeMembers_known hname, h f hf, ih]

/-- The order of the keys seen does not count. -/
theorem decodeMembers_swap (k k' : String) :
    shape.decodeMembers source (k :: k' :: seen) draft members =
      shape.decodeMembers source (k' :: k :: seen) draft members :=
  decodeMembers_congr fun f _ => by simp [or_left_comm]

/-- The key of a field that has been seen does not come again. -/
theorem absent_of_decodeMembers {f : Field ρ} (hf : shape.field? f.name = some f) :
    ∀ {members : List (Document × Document)} {seen : List String} {draft : ρ}, f.name ∈ seen →
      shape.decodeMembers source seen draft members = .ok r →
      Document.str f.name ∉ members.map Prod.fst
  | [], _, _, _, _ => by simp
  | m :: rest, seen, draft, hseen, h => by
    obtain ⟨seen', draft', htakes, hrest⟩ := decodeMembers_cons_eq_ok_iff.1 h
    cases htakes with
    | passed hname hd =>
      have habsent := absent_of_decodeMembers hf hseen hrest
      rw [List.map_cons, List.mem_cons, not_or]
      refine ⟨fun he => ?_, habsent⟩
      cases he
      rw [hf] at hname
      cases hname
    | put g a hname hnew hd =>
      have habsent := absent_of_decodeMembers hf (List.mem_cons_of_mem _ hseen) hrest
      rw [List.map_cons, List.mem_cons, not_or]
      refine ⟨fun he => ?_, habsent⟩
      cases he
      exact hnew hseen

/-! ### Order -/

/-- Two members that are read one after the other can be read the other way around. -/
theorem Orderly.decodeMembers_exchange (h : shape.Orderly) {m n : Document × Document}
    (hok : shape.decodeMembers source seen draft (m :: n :: rest) = .ok r) :
    shape.decodeMembers source seen draft (n :: m :: rest) = .ok r := by
  obtain ⟨seen₁, draft₁, hm, hok⟩ := decodeMembers_cons_eq_ok_iff.1 hok
  obtain ⟨seen₂, draft₂, hn, hok⟩ := decodeMembers_cons_eq_ok_iff.1 hok
  cases hm with
  | passed hname hd =>
    have hm : shape.Takes source seen₂ draft₂ _ seen₂ draft₂ := .passed hname hd
    rwa [hn.decodeMembers_cons, hm.decodeMembers_cons]
  | put f a hname hnew hd =>
    cases hn with
    | passed hname' hd' =>
      have hn : shape.Takes source seen draft _ seen draft := .passed hname' hd'
      have hm : shape.Takes source seen draft _ _ _ := .put f a hname hnew hd
      rwa [hn.decodeMembers_cons, hm.decodeMembers_cons]
    | put g b hname' hnew' hd' =>
      obtain ⟨hf, rfl⟩ := mem_of_field? hname
      obtain ⟨hg, rfl⟩ := mem_of_field? hname'
      simp only [List.mem_cons, not_or] at hnew'
      have hn : shape.Takes source seen draft _ _ _ := .put g b hname' hnew'.2 hd'
      have hm : shape.Takes source (g.name :: seen) (g.set b draft) _ _ _ :=
        .put f a hname (by simpa using ⟨Ne.symm hnew'.1, hnew⟩) hd
      rwa [hn.decodeMembers_cons, hm.decodeMembers_cons, decodeMembers_swap,
        h.set_comm_of_ne hf hg (Ne.symm hnew'.1)]

/-- **Members can be read in any order.** -/
theorem Orderly.decodeMembers_perm (h : shape.Orderly) {members members' : List _}
    (hperm : members.Perm members') : ∀ {seen : List String} {draft : ρ},
      shape.decodeMembers source seen draft members = .ok r →
      shape.decodeMembers source seen draft members' = .ok r := by
  induction hperm with
  | nil => exact id
  | cons m _ ih =>
    intro seen draft hok
    obtain ⟨seen', draft', htakes, hrest⟩ := decodeMembers_cons_eq_ok_iff.1 hok
    exact decodeMembers_cons_eq_ok_iff.2 ⟨seen', draft', htakes, ih hrest⟩
  | swap m n members => exact h.decodeMembers_exchange
  | trans _ _ ih ih' => exact fun hok => ih' (ih hok)

/-! ### Defaults and needed fields -/

/-- Where the key of a field with a default does not come, it does not count whether it has been
seen. -/
theorem Lawful.decodeMembers_absent (h : shape.Lawful) {f : Field ρ} (hf : f ∈ shape.fields)
    (hneeded : f.needed = false) : ∀ {members : List (Document × Document)} {seen : List String}
      {draft : ρ}, Document.str f.name ∉ members.map Prod.fst →
      shape.decodeMembers source (f.name :: seen) draft members =
        shape.decodeMembers source seen draft members
  | [], seen, draft, _ => by
    have hfind : shape.fields.find? (fun g => g.needed && !(f.name :: seen).contains g.name) =
        shape.fields.find? (fun g => g.needed && !seen.contains g.name) := by
      refine List.find?_congr fun g hg => ?_
      by_cases hname : g.name = f.name
      · have hgf := h.field?_of_mem hg
        rw [hname, h.field?_of_mem hf] at hgf
        cases hgf
        simp [hneeded]
      · simp [hname]
    simp only [decodeMembers, hfind]
  | (k, d) :: rest, seen, draft, habsent => by
    simp only [List.map_cons, List.mem_cons, not_or] at habsent
    cases hk : k.key with
    | error e => rw [decodeMembers_key_error hk, decodeMembers_key_error hk]
    | ok name =>
      obtain rfl := Document.key_eq_ok_iff.1 hk
      cases hname : shape.field? name with
      | none =>
        rw [decodeMembers_unknown hname, decodeMembers_unknown hname,
          h.decodeMembers_absent hf hneeded habsent.2]
      | some g =>
        have hne : name ≠ f.name := fun he => habsent.1 (he ▸ rfl)
        have ih : ∀ a, shape.decodeMembers source (name :: f.name :: seen) (g.set a draft) rest =
            shape.decodeMembers source (name :: seen) (g.set a draft) rest := fun a => by
          rw [decodeMembers_swap, h.decodeMembers_absent hf hneeded habsent.2]
        simp only [decodeMembers_known hname, List.mem_cons, hne, false_or, ih]

/-- A first member that holds a field's default may as well be absent. -/
theorem Orderly.decodeMembers_default (h : shape.Orderly) {f : Field ρ}
    (hf : f ∈ shape.fields) (hneeded : f.needed = false) {d : Document}
    (hd : f.codec.decode source d = .ok (f.get draft)) (hnew : f.name ∉ seen)
    (habsent : Document.str f.name ∉ members.map Prod.fst) :
    shape.decodeMembers source seen draft ((.str f.name, d) :: members) =
      shape.decodeMembers source seen draft members := by
  have htakes : shape.Takes source seen draft (.str f.name, d) _ _ :=
    .put f _ (h.field?_of_mem hf) hnew hd
  rw [htakes.decodeMembers_cons, h.set_get f hf, h.decodeMembers_absent hf hneeded habsent]

/-- Where a field without a default has not been seen though all else is there, it is missing. -/
theorem Lawful.decodeMembers_missing (h : shape.Lawful) {f : Field ρ} (hf : f ∈ shape.fields)
    (hneeded : f.needed = true) : ∀ {members : List (Document × Document)} {seen : List String}
      {draft draft' : ρ}, f.name ∉ seen →
      shape.decodeMembers source (f.name :: seen) draft members = .ok r →
      shape.decodeMembers source seen draft' members = .error (.data (.missingField f.name))
  | [], seen, draft, draft', hunseen, hok => by
    obtain ⟨g, hg⟩ : ∃ g, shape.fields.find? (fun g => g.needed && !seen.contains g.name) =
        some g := by
      rw [← Option.isSome_iff_exists, List.find?_isSome]
      exact ⟨f, hf, by simpa [hneeded] using hunseen⟩
    -- the first field that is missing can be no other one
    have hname : g.name = f.name := by
      have hmissing := List.find?_some hg
      rw [decodeMembers] at hok
      split at hok
      · cases hok
      · rename_i hnone
        have hthere := List.find?_eq_none.1 hnone g (List.mem_of_find?_eq_some hg)
        simp_all
    simp only [decodeMembers, hg, hname]
  | m :: rest, seen, draft, draft', hunseen, hok => by
    obtain ⟨seen₁, draft₁, htakes, hrest⟩ := decodeMembers_cons_eq_ok_iff.1 hok
    cases htakes with
    | passed hname hd =>
      have htakes' : shape.Takes source seen draft' _ seen draft' := .passed hname hd
      rw [htakes'.decodeMembers_cons]
      exact h.decodeMembers_missing hf hneeded hunseen hrest
    | put g a hname hnew hd =>
      simp only [List.mem_cons, not_or] at hnew
      have htakes' : shape.Takes source seen draft' _ _ _ := .put g a hname hnew.2 hd
      rw [htakes'.decodeMembers_cons]
      refine h.decodeMembers_missing hf hneeded ?_ (decodeMembers_swap _ _ ▸ hrest)
      simpa using ⟨Ne.symm hnew.1, hunseen⟩

end Shape

end DataGovernance.Record
