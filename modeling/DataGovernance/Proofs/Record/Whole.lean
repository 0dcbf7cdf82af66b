import DataGovernance.Proofs.Record.Alteration

/-!
# Records taken whole

A document can be taken whole when it has no fault and is not too deep. What a codec writes goes
only so many levels deep. An alteration leaves a document takeable when what it puts in can be taken
at any depth, as atoms can.

Key definitions: `Codec.Levels`, `Alteration.KeepsWhole`.
Key theorems: `Codec.Levels.shape`, `Shape.keepsWhole_restates`, `Shape.keepsWhole_within`.
-/

namespace DataGovernance.Record

open Json

/-! ### What codecs write -/

namespace Codec

variable {α : Type} {c : Codec α} {n : Nat}

/-- What a codec writes can be taken whole wherever so many levels are left. -/
def Levels (c : Codec α) (n : Nat) : Prop :=
  ∀ a {depth : Nat}, depth + n < Document.maxDepth →
    (Document.ofValue (c.encode a)).check depth = .ok ()

theorem Levels.mono (h : c.Levels n) {n' : Nat} (hn : n ≤ n') : c.Levels n' :=
  fun a _ hdepth => h a (by omega)

theorem levels_text : text.Levels n := fun _ _ _ => rfl

theorem levels_flag : flag.Levels n := fun _ _ _ => rfl

theorem levels_timestamp : timestamp.Levels n := fun _ _ _ => rfl

theorem levels_word (α : Type) [Vocabulary α] : (word α).Levels n := fun _ _ _ => rfl

theorem Levels.option (h : c.Levels n) : (Codec.option c).Levels n
  | none, _, _ => rfl
  | some a, _, hdepth => h a hdepth

theorem Levels.list (h : c.Levels n) : (Codec.list c).Levels (n + 1) := by
  intro as depth hdepth
  refine Document.check_list_eq_ok_iff.2 ⟨by omega, fun d hd => ?_⟩
  obtain ⟨v, hv, rfl⟩ := Document.mem_ofItems hd
  obtain ⟨a, -, rfl⟩ := List.mem_map.1 hv
  exact h a (by omega)

/-- A record goes one level deeper than its fields. -/
theorem Levels.shape {ρ : Type} {shape : Shape ρ} (h : ∀ f ∈ shape.fields, f.codec.Levels n) :
    shape.codec.Levels (n + 1) := by
  intro r depth hdepth
  refine Document.check_object_eq_ok_iff.2 ⟨by omega, fun m hm => ?_⟩
  obtain ⟨p, hp, rfl⟩ := Document.mem_ofMembers hm
  obtain ⟨f, hf, rfl⟩ := List.mem_map.1 hp
  exact ⟨⟨f.name, rfl⟩, h f hf _ (by omega)⟩

end Codec

/-! ### Alterations -/

/-- An alteration leaves a document that can be taken whole one that can be. -/
def Alteration.KeepsWhole (alter : Alteration) : Prop :=
  ∀ ⦃d d' : Document⦄, alter d d' → ∀ ⦃depth : Nat⦄, d.check depth = .ok () →
    d'.check depth = .ok ()

variable {alter : Alteration}

/-- Altering a document again and again leaves it takeable. -/
theorem Alteration.KeepsWhole.many (h : alter.KeepsWhole) {d d' : Document}
    (halter : Relation.ReflTransGen alter d d') {depth : Nat} (hd : d.check depth = .ok ()) :
    d'.check depth = .ok () := by
  induction halter with
  | refl => exact hd
  | tail _ hstep ih => exact h hstep ih

theorem Alteration.KeepsWhole.inItem (h : alter.KeepsWhole) : (Codec.InItem alter).KeepsWhole := by
  rintro _ _ ⟨front, back, halter⟩ depth hd
  simp only [Document.check_list_eq_ok_iff, List.forall_mem_append, List.forall_mem_cons] at hd ⊢
  exact ⟨hd.1, hd.2.1, h halter hd.2.2.1, hd.2.2.2⟩

namespace Shape

variable {ρ : Type} {shape : Shape ρ} {source : Source}

/-- A restated record object can still be taken whole. -/
theorem keepsWhole_restates : (shape.Restates source Document.IsAtom).KeepsWhole := by
  intro d d' halter depth hd
  cases halter with
  | reordered hperm =>
    simp only [Document.check_object_eq_ok_iff] at hd ⊢
    exact ⟨hd.1, fun m hm => hd.2 m (hperm.mem_iff.2 hm)⟩
  | unknownAdded front back _ hatom =>
    simp only [Document.check_object_eq_ok_iff, List.forall_mem_append,
      List.forall_mem_cons] at hd ⊢
    exact ⟨hd.1, hd.2.1, ⟨⟨_, rfl⟩, hatom.check _⟩, hd.2.2⟩
  | defaultAdded front back _ _ _ hatom =>
    simp only [Document.check_object_eq_ok_iff, List.forall_mem_append,
      List.forall_mem_cons] at hd ⊢
    exact ⟨hd.1, hd.2.1, ⟨⟨_, rfl⟩, hatom.check _⟩, hd.2.2⟩
  | defaultDropped front back =>
    simp only [Document.check_object_eq_ok_iff, List.forall_mem_append,
      List.forall_mem_cons] at hd ⊢
    exact ⟨hd.1, hd.2.1, hd.2.2.2⟩

theorem keepsWhole_within {alter : RecordAlteration} {inner : List (String × Alteration)}
    (hhere : (alter ρ shape).KeepsWhole) (hinner : ∀ p ∈ inner, p.2.KeepsWhole) :
    (shape.Within alter inner).KeepsWhole := by
  intro d d' halter depth hd
  cases halter with
  | here h => exact hhere h hd
  | member front back hmem h =>
    simp only [Document.check_object_eq_ok_iff, List.forall_mem_append,
      List.forall_mem_cons] at hd ⊢
    exact ⟨hd.1, hd.2.1, ⟨hd.2.2.1.1, hinner _ hmem h hd.2.2.1.2⟩, hd.2.2.2⟩
  | item front back hmem _ h =>
    simp only [Document.check_list_eq_ok_iff, List.forall_mem_append,
      List.forall_mem_cons] at hd ⊢
    exact ⟨hd.1, hd.2.1, hinner _ hmem h hd.2.2.1, hd.2.2.2⟩

end Shape

end DataGovernance.Record
