import DataGovernance.Proofs.Record.Members
import Mathlib.Logic.Relation

/-!
# Documents altered at a record

A record may hold other records in its members. An alteration of records is made at one of them, be
it the whole document or a record inside. What comes of reading a document that was altered inside
is what comes of reading the altered part: the same record if that is read to the same value as
before, and its error if it is refused.

A record object says the same with its members in another order, with members of no meaning, and
with a default written out or left out. It is incomplete without a member that has no default.

Key definitions: `Shape.Restates`, `Shape.Omits`, `Shape.Within`, `Codec.Turns`.
Key theorems: `Shape.Orderly.turns_restates`, `Shape.Lawful.turns_omits`,
`Shape.Lawful.turns_within`.
-/

namespace DataGovernance.Record

open Json

/-- A way to alter a document. -/
abbrev Alteration := Document → Document → Prop

/-- A way to alter the records of every shape. -/
abbrev RecordAlteration := ∀ ρ : Type, Shape ρ → Alteration

/-! ### What readers answer -/

/-- What becomes of an answer: it stays, unless there is an error instead. -/
def outcome {α : Type} (failure : Option ReadError) (a : α) : Except ReadError α :=
  match failure with
  | none => .ok a
  | some e => .error e

/-- Whether a document is a list or an object. -/
def IsCompound : Document → Prop
  | .list _ | .object _ => True
  | _ => False

/-- Whatever the codec read from a list or object before an alteration, it answers with that after
it, or with the error if there is one. -/
structure Codec.Turns {α : Type} (c : Codec α) (source : Source) (alter : Alteration)
    (failure : Option ReadError) : Prop where
  isCompound : ∀ {d d'}, alter d d' → IsCompound d ∧ IsCompound d'
  decode_eq : ∀ {d d' a}, alter d d' → c.decode source d = .ok a →
    c.decode source d' = outcome failure a

namespace Codec

variable {α : Type} {c : Codec α} {source : Source} {alter : Alteration}
  {failure : Option ReadError}

/-- What keeps an answer keeps it when it is done again and again. -/
theorem Turns.decode_eq_ok (h : c.Turns source alter none) {d d' : Document} {a : α}
    (halter : Relation.ReflTransGen alter d d') (hd : c.decode source d = .ok a) :
    c.decode source d' = .ok a := by
  induction halter with
  | refl => exact hd
  | tail _ hstep ih => exact h.decode_eq hstep ih

/-- An option is altered like the value in it. -/
theorem Turns.option (h : c.Turns source alter failure) :
    (Codec.option c).Turns source alter failure where
  isCompound := h.isCompound
  decode_eq {d d' o} halter hd := by
    have hsome : ∀ {d}, IsCompound d → (Codec.option c).decode source d =
        (c.decode source d).map some := by
      intro d hd
      cases d <;> first | rfl | exact hd.elim
    obtain ⟨hcompound, hcompound'⟩ := h.isCompound halter
    rw [hsome hcompound] at hd
    rw [hsome hcompound']
    cases hread : c.decode source d with
    | error e =>
      rw [hread] at hd
      cases hd
    | ok a =>
      rw [hread] at hd
      cases hd
      rw [h.decode_eq halter hread]
      cases failure <;> rfl

/-- One item of a list is altered. -/
inductive InItem (alter : Alteration) : Alteration
  | intro (front back : List Document) {d d' : Document} (h : alter d d') :
      InItem alter (.list (front ++ d :: back)) (.list (front ++ d' :: back))

theorem Turns.decodeAll_eq (h : c.Turns source alter failure) {d d' : Document}
    (halter : alter d d') {back : List Document} : ∀ {front : List Document} {as : List α},
      decodeAll c source (front ++ d :: back) = .ok as →
      decodeAll c source (front ++ d' :: back) = outcome failure as
  | [], as, hok => by
    obtain ⟨a, hd, hok⟩ := bind_eq_ok_iff.1 hok
    simp only [List.nil_append, decodeAll, h.decode_eq halter hd]
    cases failure with
    | none => exact hok
    | some e => rfl
  | x :: front, as, hok => by
    obtain ⟨a, hx, hok⟩ := bind_eq_ok_iff.1 hok
    obtain ⟨as', hrest, hok⟩ := bind_eq_ok_iff.1 hok
    cases hok
    simp only [List.cons_append, decodeAll, hx, h.decodeAll_eq halter hrest]
    cases failure <;> rfl

/-- A list is altered at one of its items. -/
theorem Turns.list (h : c.Turns source alter failure) :
    (Codec.list c).Turns source (InItem alter) failure where
  isCompound := by
    rintro _ _ ⟨_⟩
    exact ⟨trivial, trivial⟩
  decode_eq := by
    rintro _ _ as ⟨_, _, halter⟩ hok
    exact h.decodeAll_eq halter hok

end Codec

/-- A text is read to a value exactly when its document is and nothing stands behind it. -/
theorem Codec.ofText_eq_ok_iff {α : Type} {c : Codec α} {text : String} {a : α} :
    c.ofText text = .ok a ↔
      c.decode .text (Reading.ofText text).document = .ok a ∧
        (Reading.ofText text).trailing = [] := by
  constructor
  · intro h
    obtain ⟨b, hread, hend⟩ := bind_eq_ok_iff.1 h
    split at hend
    · rename_i hnone
      cases hend
      exact ⟨hread, hnone⟩
    · cases hend
  · rintro ⟨hread, hnone⟩
    simp only [ofText, hread, hnone]
    rfl

/-- A text whose document is refused is refused. -/
theorem Codec.ofText_eq_error {α : Type} {c : Codec α} {text : String} {e : ReadError}
    (h : c.decode .text (Reading.ofText text).document = .error e) : c.ofText text = .error e := by
  simp only [ofText, h]
  rfl

/-! ### Alterations of a record object -/

namespace Shape

variable {ρ : Type} {shape : Shape ρ} {source : Source}

/-- The keys of the fields that have no default. -/
def required (shape : Shape ρ) : List String :=
  (shape.fields.filter Field.needed).map Field.name

/-- An object says the same about a record: its members are reordered, or a member is added whose
key is no field, or a field that may be absent is written out with its default, or is left out
though it holds its default. What is added satisfies a condition. -/
inductive Restates (source : Source) (Added : Document → Prop) (shape : Shape ρ) : Alteration
  | reordered {members members' : List (Document × Document)} (h : members.Perm members') :
      Restates source Added shape (.object members) (.object members')
  | unknownAdded (front back : List (Document × Document)) {name : String} {d : Document}
      (hname : name ∉ shape.fields.map Field.name) (hd : Added d) :
      Restates source Added shape (.object (front ++ back))
        (.object (front ++ (.str name, d) :: back))
  | defaultAdded (front back : List (Document × Document)) {f : Field ρ} {d : Document}
      (hf : f ∈ shape.fields) (hneeded : f.needed = false)
      (habsent : Document.str f.name ∉ (front ++ back).map Prod.fst) (hd : Added d)
      (hdefault : f.codec.decode source d = .ok (f.get shape.blank)) :
      Restates source Added shape (.object (front ++ back))
        (.object (front ++ (.str f.name, d) :: back))
  | defaultDropped (front back : List (Document × Document)) {f : Field ρ} {d : Document}
      (hf : f ∈ shape.fields) (hneeded : f.needed = false)
      (hdefault : f.codec.decode source d = .ok (f.get shape.blank)) :
      Restates source Added shape (.object (front ++ (.str f.name, d) :: back))
        (.object (front ++ back))

/-- A member without a default is left out of a record object. -/
inductive Omits (name : String) (shape : Shape ρ) : Alteration
  | intro (front back : List (Document × Document)) {d : Document} (h : name ∈ shape.required) :
      Omits name shape (.object (front ++ (.str name, d) :: back)) (.object (front ++ back))

/-- A restated record object is read as the same record. -/
theorem Orderly.turns_restates (h : shape.Orderly) {Added : Document → Prop}
    (hadded : ∀ d, Added d → d.skip = .ok ()) :
    shape.codec.Turns source (shape.Restates source Added) none where
  isCompound := by
    rintro _ _ (_ | _ | _ | _) <;> exact ⟨trivial, trivial⟩
  decode_eq := by
    rintro _ _ r halter hok
    -- a member among the others is as good as one before them
    cases halter with
    | reordered hperm => exact h.decodeMembers_perm hperm hok
    | @unknownAdded front back name d hname hd =>
      have hfirst : shape.Takes source [] shape.blank (.str name, d) [] shape.blank :=
        .passed (field?_eq_none_iff.2 hname) (hadded d hd)
      refine h.decodeMembers_perm List.perm_middle.symm ?_
      rw [hfirst.decodeMembers_cons]
      exact hok
    | @defaultAdded front back f d hf hneeded habsent _ hdefault =>
      refine h.decodeMembers_perm List.perm_middle.symm ?_
      rw [h.decodeMembers_default hf hneeded hdefault (by simp) habsent]
      exact hok
    | @defaultDropped front back f d hf hneeded hdefault =>
      have hfirst := h.decodeMembers_perm List.perm_middle hok
      have htakes : shape.Takes source [] shape.blank (.str f.name, d) _ _ :=
        .put f _ (h.field?_of_mem hf) (by simp) hdefault
      have hrest := htakes.decodeMembers_cons (front ++ back) ▸ hfirst
      have habsent := absent_of_decodeMembers (h.field?_of_mem hf) (by simp) hrest
      rw [h.decodeMembers_default hf hneeded hdefault (by simp) habsent] at hfirst
      exact hfirst

/-- A record object without a member that it needs is refused because of this member. -/
theorem Lawful.turns_omits (h : shape.Lawful) {name : String} :
    shape.codec.Turns source (shape.Omits name) (some (.data (.missingField name))) where
  isCompound := by
    rintro _ _ ⟨_⟩
    exact ⟨trivial, trivial⟩
  decode_eq := by
    rintro _ _ r ⟨front, back, hrequired⟩ hok
    obtain ⟨f, hmem, rfl⟩ := List.mem_map.1 hrequired
    obtain ⟨hf, hneeded⟩ := List.mem_filter.1 hmem
    obtain ⟨seen, draft, hgo⟩ := exists_decodeMembers_append hok
    change shape.decodeMembers source [] shape.blank _ = _ at hok
    rw [hgo] at hok
    obtain ⟨seen', draft', htakes, hrest⟩ := decodeMembers_cons_eq_ok_iff.1 hok
    change shape.decodeMembers source [] shape.blank _ = _
    rw [hgo]
    cases htakes with
    | passed hname hd =>
      rw [h.field?_of_mem hf] at hname
      cases hname
    | put g a hname hnew hd =>
      rw [h.field?_of_mem hf] at hname
      cases hname
      exact h.decodeMembers_missing hf hneeded hnew hrest

/-! ### Alterations inside a record -/

/-- A record is altered itself, or inside one of the members that hold records, which come with
their alterations. The record around that member may be an object or a list of its fields. -/
inductive Within (shape : Shape ρ) (alter : RecordAlteration) (inner : List (String × Alteration)) :
    Alteration
  | here {d d' : Document} (h : alter ρ shape d d') : Within shape alter inner d d'
  | member (front back : List (Document × Document)) {name : String} {inside : Alteration}
      {d d' : Document} (hinner : (name, inside) ∈ inner) (h : inside d d') :
      Within shape alter inner (.object (front ++ (.str name, d) :: back))
        (.object (front ++ (.str name, d') :: back))
  | item (front back : List Document) {name : String} {inside : Alteration} {d d' : Document}
      (hinner : (name, inside) ∈ inner)
      (hplace : (shape.fields.map Field.name)[front.length]? = some name) (h : inside d d') :
      Within shape alter inner (.list (front ++ d :: back)) (.list (front ++ d' :: back))

variable {failure : Option ReadError} {inside : Alteration}

theorem decodeMembers_turns {f : Field ρ} {name : String} (hname : shape.field? name = some f)
    (h : f.codec.Turns source inside failure) {d d' : Document} (halter : inside d d')
    {seen : List String} {draft r : ρ} {front back : List (Document × Document)}
    (hok : shape.decodeMembers source seen draft (front ++ (.str name, d) :: back) = .ok r) :
    shape.decodeMembers source seen draft (front ++ (.str name, d') :: back) =
      outcome failure r := by
  obtain ⟨seen₁, draft₁, hgo⟩ := exists_decodeMembers_append hok
  rw [hgo, decodeMembers_known hname] at hok ⊢
  split at hok
  · cases hok
  · rename_i hnew
    obtain ⟨a, hd, hrest⟩ := bind_eq_ok_iff.1 hok
    rw [if_neg hnew, h.decode_eq halter hd]
    cases failure with
    | none => exact hrest
    | some e => rfl

theorem decodeItems_turns {f : Field ρ} (h : f.codec.Turns source inside failure)
    {d d' : Document} (halter : inside d d') {back : List Document} {r : ρ} :
    ∀ {fs : List (Field ρ)} {front : List Document} {i : Nat} {draft : ρ},
      fs[front.length]? = some f →
      shape.decodeItems source i draft fs (front ++ d :: back) = .ok r →
      shape.decodeItems source i draft fs (front ++ d' :: back) = outcome failure r
  | [], front, i, draft, hplace, hok => by simp at hplace
  | g :: fs, [], i, draft, hplace, hok => by
    cases hplace
    obtain ⟨a, hd, hrest⟩ := bind_eq_ok_iff.1 hok
    simp only [List.nil_append, decodeItems, h.decode_eq halter hd]
    cases failure with
    | none => exact hrest
    | some e => rfl
  | g :: fs, x :: front, i, draft, hplace, hok => by
    obtain ⟨a, hx, hrest⟩ := bind_eq_ok_iff.1 hok
    simp only [List.cons_append, decodeItems, hx]
    exact decodeItems_turns h halter (by simpa using hplace) hrest

/-- What comes of an alteration at a record or inside it is what comes of it there. -/
theorem Lawful.turns_within (h : shape.Lawful) {alter : RecordAlteration}
    {inner : List (String × Alteration)} (hhere : shape.codec.Turns source (alter ρ shape) failure)
    (hinner : ∀ p ∈ inner, ∃ f, shape.field? p.1 = some f ∧ f.codec.Turns source p.2 failure) :
    shape.codec.Turns source (shape.Within alter inner) failure where
  isCompound := by
    rintro d d' (hd | _ | _)
    · exact hhere.isCompound hd
    · exact ⟨trivial, trivial⟩
    · exact ⟨trivial, trivial⟩
  decode_eq := by
    rintro _ _ r (hd | ⟨_, _, hmem, hd⟩ | ⟨_, _, hmem, hplace, hd⟩) hok
    · exact hhere.decode_eq hd hok
    · obtain ⟨f, hname, hf⟩ := hinner _ hmem
      exact decodeMembers_turns hname hf hd hok
    · obtain ⟨f, hname, hf⟩ := hinner _ hmem
      rw [List.getElem?_map, Option.map_eq_some_iff] at hplace
      obtain ⟨g, hg, rfl⟩ := hplace
      rw [h.field?_of_mem (List.mem_of_getElem? hg)] at hname
      cases hname
      exact decodeItems_turns hf hd hg hok

end Shape

end DataGovernance.Record
