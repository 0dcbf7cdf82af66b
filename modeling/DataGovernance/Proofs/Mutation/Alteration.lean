import DataGovernance.Mutation.Format
import DataGovernance.Proofs.Record.Whole
import DataGovernance.Proofs.Snapshot.Alteration

/-!
# Mutation documents that say the same

Reading a mutation is reading a record of its kind that has the type as one more field. So what
holds of the members of a record in any order holds of those of a mutation with its type among them.
Each kind has a form: the record that its members make up, and which of them hold records. What
holds of every form holds of the mutations of every kind.

Key definitions: `Mutation.tagged`, `Mutation.Form`, `Mutation.form`, `Mutation.Restated`.
Key theorems: `Mutation.exists_splitMembers`, `Mutation.lawful_codec`,
`Mutation.ofText_restated`.
-/

namespace DataGovernance

open Json Record Record.Codec Record.Field

namespace Mutation

/-! ### The type as a field -/

/-- The word of a kind. -/
def kindCodec (kind : MutationKind) : Codec Unit where
  encode _ := .str (Vocabulary.word kind)
  decode _ d := do
    let found ← readWord d
    if found = kind then .ok () else .error (mismatch (Vocabulary.word kind) d)

theorem kindCodec_decode_eq_ok_iff {kind : MutationKind} {source : Source} {d : Document}
    {a : Unit} : (kindCodec kind).decode source d = .ok a ↔ readWord d = .ok kind := by
  simp only [kindCodec, bind_eq_ok_iff]
  constructor
  · rintro ⟨found, hfound, h⟩
    split at h
    · rename_i heq
      rw [hfound, heq]
    · cases h
  · intro h
    exact ⟨kind, h, if_pos rfl⟩

theorem lawful_kindCodec (kind : MutationKind) : (kindCodec kind).Lawful where
  faithful source _ := by
    rw [kindCodec_decode_eq_ok_iff]
    simp [kindCodec, Document.ofValue, readWord, ofWord, Vocabulary.ofWord_word]
  inRange _ := trivial

variable {ρ : Type} {shape : Shape ρ} {kind : MutationKind}

/-- The records of a shape with the type in front. -/
def tagged (kind : MutationKind) (shape : Shape ρ) : Shape ρ :=
  { shape with
    fields := needs typeKey (kindCodec kind) (fun _ => ()) (fun _ r => r) :: shape.fields }

theorem orderly_tagged (h : shape.Orderly) (hkey : typeKey ∉ shape.fields.map Field.name) :
    (tagged kind shape).Orderly where
  nodup_names := List.nodup_cons.2 ⟨hkey, h.nodup_names⟩
  lawful_fields := List.forall_mem_cons.2 ⟨lawful_kindCodec kind, h.lawful_fields⟩
  fill_blank := h.fill_blank
  set_get := List.forall_mem_cons.2 ⟨fun _ => rfl, h.set_get⟩
  set_comm := List.pairwise_cons.2 ⟨fun _ _ _ _ _ => rfl, h.set_comm⟩

theorem tagged_field?_type :
    (tagged kind shape).field? typeKey =
      some (needs typeKey (kindCodec kind) (fun _ => ()) (fun _ r => r)) := rfl

theorem tagged_field?_of_ne {name : String} (h : name ≠ typeKey) :
    (tagged kind shape).field? name = shape.field? name :=
  List.find?_cons_of_neg (by simpa [needs] using h.symm)

/-- The type, where none has been found yet. -/
theorem splitMembers_type {d : Document} {rest : List (Document × Document)}
    (h : readWord d = .ok kind) :
    splitMembers none ((.str typeKey, d) :: rest) = splitMembers (some kind) rest := by
  simp [splitMembers, Document.key, ofSyntax, h, bind, Except.bind]

/-- Another member stays where it is. -/
theorem splitMembers_other {name : String} (hne : name ≠ typeKey) {d : Document}
    (hwhole : d.check 1 = .ok ()) {found : Option MutationKind}
    {rest others : List (Document × Document)}
    (h : splitMembers found rest = .ok (kind, others)) :
    splitMembers found ((.str name, d) :: rest) = .ok (kind, (.str name, d) :: others) := by
  simp [splitMembers, Document.key, ofSyntax, hne, hwhole, h, bind, Except.bind]

/-- **A tagged record is read by taking its type out.** Where the members of a tagged record are
read and can be taken whole, the type can be split off, and the others are read as the record. -/
theorem exists_splitMembers (hkey : typeKey ∉ shape.fields.map Field.name) {r : ρ} :
    ∀ {members : List (Document × Document)} {seen : List String} {draft : ρ},
      (tagged kind shape).decodeMembers .whole seen draft members = .ok r →
      (∀ m ∈ members, m.2.check 1 = .ok ()) →
      ∃ others,
        splitMembers (if typeKey ∈ seen then some kind else none) members = .ok (kind, others) ∧
        shape.decodeMembers .whole seen draft others = .ok r
  | [], seen, draft, h, _ => by
    by_cases hseen : typeKey ∈ seen
    · refine ⟨[], by simp [splitMembers, hseen], ?_⟩
      simpa [Shape.decodeMembers, tagged, needs, hseen] using h
    · simp [Shape.decodeMembers, tagged, needs, hseen] at h
  | m :: rest, seen, draft, h, hwhole => by
    obtain ⟨seen', draft', htakes, hrest⟩ := Shape.decodeMembers_cons_eq_ok_iff.1 h
    obtain ⟨hm, hwhole⟩ := List.forall_mem_cons.1 hwhole
    obtain ⟨others, hsplit, hread⟩ := exists_splitMembers hkey hrest hwhole
    cases htakes with
    | @passed name d hname hd =>
      have hne : name ≠ typeKey := by
        rintro rfl
        rw [tagged_field?_type] at hname
        cases hname
      have htakes : shape.Takes .whole seen draft (.str name, d) seen draft :=
        .passed (tagged_field?_of_ne hne ▸ hname) hd
      exact ⟨_, splitMembers_other hne hm hsplit, by rwa [htakes.decodeMembers_cons]⟩
    | @put name d f a hname hnew hd =>
      by_cases hne : name = typeKey
      · subst hne
        rw [tagged_field?_type] at hname
        cases hname
        rw [if_pos (by simp)] at hsplit
        refine ⟨others, ?_, ?_⟩
        · rw [if_neg hnew, splitMembers_type (kindCodec_decode_eq_ok_iff.1 hd), hsplit]
        · -- the type is no field of the record, so it does not count that it has been seen
          rw [← hread]
          refine Shape.decodeMembers_congr fun g hg => ?_
          have hg : g.name ≠ typeKey := fun he => hkey (he ▸ List.mem_map_of_mem hg)
          simp [hg]
      · have htakes : shape.Takes .whole seen draft (.str name, d) (name :: seen) (f.set a draft) :=
          .put f a (tagged_field?_of_ne hne ▸ hname) hnew hd
        simp only [List.mem_cons, Ne.symm hne, false_or] at hsplit
        exact ⟨_, splitMembers_other hne hm hsplit, by rwa [htakes.decodeMembers_cons]⟩

/-! ### Forms -/

/-- What a kind of mutations is made of. -/
structure Form where
  {ρ : Type}
  /-- The members besides the type. -/
  shape : Shape ρ
  /-- The members that hold records, and how these are restated. -/
  inner : List (String × Alteration)
  /-- The mutation that the members make up. -/
  build : ρ → Mutation
  orderly : shape.Orderly
  untyped : typeKey ∉ shape.fields.map Field.name
  levels : ∀ f ∈ shape.fields, f.codec.Levels 4
  turns : ∀ p ∈ inner, ∃ f, shape.field? p.1 = some f ∧ f.codec.Turns .whole p.2 none
  keepsWhole : ∀ p ∈ inner, p.2.KeepsWhole

/-- A form without members that hold records. -/
def Form.flat (shape : Shape ρ) (build : ρ → Mutation) (orderly : shape.Orderly)
    (untyped : typeKey ∉ shape.fields.map Field.name)
    (levels : ∀ f ∈ shape.fields, f.codec.Levels 4) : Form :=
  { shape, build, orderly, untyped, levels, inner := [], turns := by simp, keepsWhole := by simp }

/-- The shape of no members. -/
def nothingShape : Shape Unit := ⟨"unit variant", (), []⟩

theorem orderly_nothingShape : nothingShape.Orderly where
  nodup_names := by simp [nothingShape]
  lawful_fields := by simp [nothingShape]
  fill_blank _ := rfl
  set_get := by simp [nothingShape]
  set_comm := by simp [nothingShape]

/-- A form without members. -/
def Form.nothing (m : Mutation) : Form :=
  .flat nothingShape (fun _ => m) orderly_nothingShape (by simp [nothingShape])
    (by simp [nothingShape])

section Pair

variable {α β : Type} {title key₁ key₂ : String} {blank : α × β} {c₁ : Codec α} {c₂ : Codec β}

theorem pairShape_fields :
    (pairShape title key₁ key₂ blank c₁ c₂).fields =
      [needs key₁ c₁ Prod.fst fun v r => (v, r.2), needs key₂ c₂ Prod.snd fun v r => (r.1, v)] :=
  rfl

theorem orderly_pairShape (hkeys : key₁ ≠ key₂) (h₁ : c₁.Lawful) (h₂ : c₂.Lawful) :
    (pairShape title key₁ key₂ blank c₁ c₂).Orderly where
  nodup_names := by simpa [pairShape_fields, needs] using hkeys
  lawful_fields := by
    simp only [pairShape_fields, List.forall_mem_cons]
    exact ⟨h₁, h₂, by simp⟩
  fill_blank _ := rfl
  set_get := by simp [pairShape_fields, needs]
  set_comm := by simp [pairShape_fields, needs]

theorem levels_pairShape {n : Nat} (h₁ : c₁.Levels n) (h₂ : c₂.Levels n) :
    ∀ f ∈ (pairShape title key₁ key₂ blank c₁ c₂).fields, f.codec.Levels n := by
  simp only [pairShape_fields, List.forall_mem_cons]
  exact ⟨h₁, h₂, by simp⟩

end Pair

theorem orderly_suggestionShape : suggestionShape.Orderly where
  nodup_names := by decide
  lawful_fields := by
    simp only [suggestionShape, List.forall_mem_cons]
    exact ⟨lawful_text, by simp⟩
  fill_blank _ := rfl
  set_get := by simp [suggestionShape, needs]
  set_comm := by simp [suggestionShape]

theorem orderly_submissionShape : submissionShape.Orderly where
  nodup_names := by decide
  lawful_fields := by
    simp only [submissionShape, List.forall_mem_cons]
    exact ⟨lawful_text, Resolution.lawful_shape.codec,
      lawful_timestamp.option neverNull_timestamp, by simp⟩
  fill_blank _ := rfl
  set_get := by simp [submissionShape, needs, allows]
  set_comm := by simp [submissionShape, needs, allows]

/-! ### The form of each kind -/

/-- A record says the same in other words, as one that is taken whole. -/
def restated : RecordAlteration := fun _ shape => shape.Restates .whole Document.IsAtom

theorem turns_restated : restated.Turns .whole none :=
  fun h => h.turns_restates fun _ hatom => Document.skip_eq_ok_iff.2 hatom.wellFormed

theorem keepsWhole_owner : (Owner.within restated).KeepsWhole :=
  Shape.keepsWhole_within Shape.keepsWhole_restates (by simp)

theorem keepsWhole_evidence : (Evidence.within restated).KeepsWhole :=
  Shape.keepsWhole_within Shape.keepsWhole_restates (by simp)

theorem keepsWhole_resolution : (Resolution.within restated).KeepsWhole :=
  Shape.keepsWhole_within Shape.keepsWhole_restates (by simpa using keepsWhole_evidence.inItem)

theorem levels_owner : Owner.shape.codec.Levels 1 := by
  refine Levels.shape ?_
  simp only [Owner.shape, List.forall_mem_cons]
  exact ⟨levels_text, levels_text.option, by simp⟩

theorem levels_evidence : Evidence.shape.codec.Levels 1 := by
  refine Levels.shape ?_
  simp only [Evidence.shape, List.forall_mem_cons]
  exact ⟨levels_text, levels_text.option, by simp⟩

theorem levels_resolution : Resolution.shape.codec.Levels 3 := by
  refine Levels.shape ?_
  simp only [Resolution.shape, List.forall_mem_cons]
  exact ⟨(levels_word ResolutionType).option, levels_text, levels_evidence.list, by simp⟩

/-- The form of the assignments of owners. -/
def ownerForm : Form where
  shape := ownerShape
  inner := [("owner", Owner.within restated)]
  build p := assignOwner p.1 p.2
  orderly := orderly_pairShape (by decide) lawful_text Owner.lawful_shape.codec
  untyped := by decide
  levels := levels_pairShape levels_text (levels_owner.mono (by decide))
  turns := by
    simp only [List.forall_mem_cons]
    exact ⟨⟨_, rfl, Owner.turns_within turns_restated⟩, by simp⟩
  keepsWhole := by simpa using keepsWhole_owner

/-- The form of the submissions. -/
def submissionForm : Form where
  shape := submissionShape
  inner := [("resolution", Resolution.within restated)]
  build p := submitResolution p.1 p.2.1 p.2.2
  orderly := orderly_submissionShape
  untyped := by decide
  levels := by
    simp only [submissionShape, List.forall_mem_cons]
    exact ⟨levels_text, levels_resolution.mono (by decide), levels_timestamp.option, by simp⟩
  turns := by
    simp only [List.forall_mem_cons]
    exact ⟨⟨_, rfl, Resolution.turns_within turns_restated⟩, by simp⟩
  keepsWhole := by simpa using keepsWhole_resolution

/-- What the mutations of a kind are made of. -/
def form : MutationKind → Form
  | .assignOwner => ownerForm
  | .setElementStatus =>
    .flat elementStatusShape (fun p => .setElementStatus p.1 p.2)
      (orderly_pairShape (by decide) lawful_text (lawful_word ElementStatus)) (by decide)
      (levels_pairShape levels_text (levels_word ElementStatus))
  | .approveAllPending => .nothing .approveAllPending
  | .setIssueStatus =>
    .flat issueStatusShape (fun p => .setIssueStatus p.1 p.2)
      (orderly_pairShape (by decide) lawful_text (lawful_word IssueStatus)) (by decide)
      (levels_pairShape levels_text (levels_word IssueStatus))
  | .assignIssue =>
    .flat assigneeShape (fun p => .assignIssue p.1 p.2)
      (orderly_pairShape (by decide) lawful_text lawful_text) (by decide)
      (levels_pairShape levels_text levels_text)
  | .setPriority =>
    .flat priorityShape (fun p => .setPriority p.1 p.2)
      (orderly_pairShape (by decide) lawful_text (lawful_word Priority)) (by decide)
      (levels_pairShape levels_text (levels_word Priority))
  | .acceptSuggestedPriority =>
    .flat suggestionShape .acceptSuggestedPriority orderly_suggestionShape (by decide)
      (List.forall_mem_singleton.2 levels_text)
  | .submitResolution => submissionForm
  | .verifyResolution =>
    .flat verificationShape (fun p => .verifyResolution p.1 p.2)
      (orderly_pairShape (by decide) lawful_text lawful_flag) (by decide)
      (levels_pairShape levels_text levels_flag)
  | .recordAction =>
    .flat actionShape (fun p => .recordAction p.1 p.2)
      (orderly_pairShape (by decide) lawful_text (lawful_word MatchAction)) (by decide)
      (levels_pairShape levels_text (levels_word MatchAction))
  | .acceptSuggestedActions => .nothing .acceptSuggestedActions
  | .linkBusinessTerms =>
    .flat termsShape (fun p => .linkBusinessTerms p.1 p.2)
      (orderly_pairShape (by decide) lawful_text lawful_text.list) (by decide)
      (levels_pairShape levels_text levels_text.list)
  | .deferBusinessTerms =>
    .flat deferralShape (fun p => .deferBusinessTerms p.1 p.2)
      (orderly_pairShape (by decide) lawful_text lawful_text) (by decide)
      (levels_pairShape levels_text levels_text)

/-- A mutation is made of what its members hold. -/
theorem exists_build : ∀ m : Mutation,
    ∃ r, (form m.kind).build r = m ∧ (form m.kind).shape.members r = m.payload
  | assignOwner id owner => ⟨(id, owner), rfl, rfl⟩
  | setElementStatus id status => ⟨(id, status), rfl, rfl⟩
  | approveAllPending => ⟨(), rfl, rfl⟩
  | setIssueStatus id status => ⟨(id, status), rfl, rfl⟩
  | assignIssue id assignee => ⟨(id, assignee), rfl, rfl⟩
  | setPriority id priority => ⟨(id, priority), rfl, rfl⟩
  | acceptSuggestedPriority id => ⟨id, rfl, rfl⟩
  | submitResolution id resolution time => ⟨(id, resolution, time), rfl, rfl⟩
  | verifyResolution id accepted => ⟨(id, accepted), rfl, rfl⟩
  | recordAction id action => ⟨(id, action), rfl, rfl⟩
  | acceptSuggestedActions => ⟨(), rfl, rfl⟩
  | linkBusinessTerms id terms => ⟨(id, terms), rfl, rfl⟩
  | deferBusinessTerms id reason => ⟨(id, reason), rfl, rfl⟩

/-- Members that are read as the record of a kind make up a mutation. -/
theorem decodePayload_eq_ok {members : List (Document × Document)} : ∀ {kind : MutationKind}
    {r : (form kind).ρ}, (form kind).shape.decode .whole (.object members) = .ok r →
      decodePayload (.object members) kind = .ok ((form kind).build r)
  | .approveAllPending, _, _ => rfl
  | .acceptSuggestedActions, _, _ => rfl
  | .assignOwner, _, h => congrArg (Except.map _) h
  | .setElementStatus, _, h => congrArg (Except.map _) h
  | .setIssueStatus, _, h => congrArg (Except.map _) h
  | .assignIssue, _, h => congrArg (Except.map _) h
  | .setPriority, _, h => congrArg (Except.map _) h
  | .acceptSuggestedPriority, _, h => congrArg (Except.map _) h
  | .submitResolution, _, h => congrArg (Except.map _) h
  | .verifyResolution, _, h => congrArg (Except.map _) h
  | .recordAction, _, h => congrArg (Except.map _) h
  | .linkBusinessTerms, _, h => congrArg (Except.map _) h
  | .deferBusinessTerms, _, h => congrArg (Except.map _) h

/-! ### Mutations as tagged records -/

/-- The records of a kind with the type in front. -/
def taggedShape (kind : MutationKind) : Shape (form kind).ρ := tagged kind (form kind).shape

theorem orderly_taggedShape (kind : MutationKind) : (taggedShape kind).Orderly :=
  orderly_tagged (form kind).orderly (form kind).untyped

theorem levels_taggedShape (kind : MutationKind) : (taggedShape kind).codec.Levels 5 :=
  Levels.shape (List.forall_mem_cons.2 ⟨fun _ _ _ => rfl, (form kind).levels⟩)

/-- **An object that is read as a tagged record is read as a mutation.** -/
theorem decode_eq_ok {r : (form kind).ρ} {members : List (Document × Document)}
    (h : (taggedShape kind).decode .whole (.object members) = .ok r)
    (hwhole : (Document.object members).check 0 = .ok ()) :
    decode (.object members) = .ok ((form kind).build r) := by
  obtain ⟨-, hmembers⟩ := Document.check_object_eq_ok_iff.1 hwhole
  obtain ⟨others, hsplit, hread⟩ :=
    exists_splitMembers (form kind).untyped h fun m hm => (hmembers m hm).2
  rw [if_neg (by simp)] at hsplit
  simp only [decode, hsplit]
  exact decodePayload_eq_ok hread

/-- A mutation of a kind says the same in other words. -/
def Restated (kind : MutationKind) : Alteration :=
  (taggedShape kind).Within restated (form kind).inner

theorem turns_restated_kind (kind : MutationKind) :
    (taggedShape kind).codec.Turns .whole (Restated kind) none := by
  have hshape := orderly_taggedShape kind
  refine hshape.toLawful.turns_within (turns_restated hshape) fun p hp => ?_
  obtain ⟨f, hname, hf⟩ := (form kind).turns p hp
  have hne : p.1 ≠ typeKey := by
    rintro he
    obtain ⟨hmem, hkey⟩ := Shape.mem_of_field? hname
    exact (form kind).untyped (List.mem_map.2 ⟨f, hmem, hkey.trans he⟩)
  exact ⟨f, (tagged_field?_of_ne hne).trans hname, hf⟩

theorem keepsWhole_restated (kind : MutationKind) : (Restated kind).KeepsWhole :=
  Shape.keepsWhole_within Shape.keepsWhole_restates (form kind).keepsWhole

/-- An object in other words is an object. -/
theorem exists_object {members : List (Document × Document)} {d : Document}
    (h : Relation.ReflTransGen (Restated kind) (.object members) d) :
    ∃ members', d = .object members' := by
  induction h with
  | refl => exact ⟨members, rfl⟩
  | tail _ hstep ih =>
    obtain ⟨members', rfl⟩ := ih
    obtain (h | _) := hstep
    · cases h <;> exact ⟨_, rfl⟩
    · exact ⟨_, rfl⟩

/-! ### What a mutation writes -/

/-- A mutation is written as the record that it is made of. -/
theorem exists_encode (m : Mutation) :
    ∃ r, (form m.kind).build r = m ∧ m.encode = (taggedShape m.kind).encode r := by
  obtain ⟨r, hbuild, hmembers⟩ := m.exists_build
  exact ⟨r, hbuild, by rw [encode, ← hmembers]; rfl⟩

/-- The type is the only member under its key. -/
theorem filter_type (m : Mutation) :
    ((typeKey, .str (Vocabulary.word m.kind)) :: m.payload).filter (fun p => p.1 = typeKey) =
      [(typeKey, .str (Vocabulary.word m.kind))] := by
  obtain ⟨r, -, hmembers⟩ := m.exists_build
  have hothers : ∀ p ∈ m.payload, ¬p.1 = typeKey := by
    rw [← hmembers]
    rintro p hp he
    obtain ⟨f, hf, rfl⟩ := List.mem_map.1 hp
    exact (form m.kind).untyped (List.mem_map.2 ⟨f, hf, he⟩)
  rw [List.filter_cons_of_pos (by simp), List.filter_eq_nil_iff.2 (by simpa using hothers)]

/-- What a mutation writes in other words is read as the mutation. -/
theorem decode_restated (m : Mutation) {d : Document}
    (h : Relation.ReflTransGen (Restated m.kind) (.ofValue m.encode) d) : decode d = .ok m := by
  obtain ⟨r, hbuild, hencode⟩ := m.exists_encode
  obtain ⟨members, rfl⟩ := exists_object h
  rw [hencode] at h
  have hread : (taggedShape m.kind).decode .whole (.object members) = .ok r :=
    (turns_restated_kind m.kind).decode_eq_ok h
      ((orderly_taggedShape m.kind).codec.faithful .whole r)
  have hwhole : (Document.object members).check 0 = .ok () :=
    (keepsWhole_restated m.kind).many h (levels_taggedShape m.kind r (by decide))
  rw [decode_eq_ok hread hwhole, hbuild]

/-- The codec of mutations is lawful. -/
theorem lawful_codec : codec.Lawful where
  faithful _ m := m.decode_restated .refl
  inRange m := by
    obtain ⟨r, -, hencode⟩ := m.exists_encode
    have hrange : ((taggedShape m.kind).encode r).InRange :=
      (orderly_taggedShape m.kind).codec.inRange r
    rwa [← hencode] at hrange

/-- A mutation is read back from its text in every style whose breaks are blanks. -/
theorem ofText_write (m : Mutation) {style : Style} (hs : style.Blank) :
    ofText (String.ofList (m.encode.write style 0)) = .ok m := by
  have hread := lawful_codec.ofText_write hs m
    (List.forall_mem_nil fun c => Token.isSpace c = true)
  rwa [List.append_nil] at hread

/-- **A mutation is read back from its JSON form, in whatever order.** Its object has one member
under the type's key, which holds the word of its kind. The mutation is read back from the text of
the object in both styles. It is also read from every text whose document comes from the object by
reordering the members of the object or of a record in it, the type included, and by adding members
that hold atoms and whose keys are neither the type's nor that of a field, any number of times. -/
theorem ofText_restated (m : Mutation) :
    (∃ members, m.encode = .object members ∧
      members.filter (fun p => p.1 = typeKey) = [(typeKey, .str (Vocabulary.word m.kind))]) ∧
    ofText m.encode.compact = .ok m ∧
    ofText m.encode.indented = .ok m ∧
    ∀ d, Relation.ReflTransGen (Restated m.kind) (.ofValue m.encode) d →
      decode d = .ok m ∧ ∀ text, Reading.ofText text = ⟨d, []⟩ → ofText text = .ok m := by
  refine ⟨⟨_, rfl, m.filter_type⟩, m.ofText_write Style.blank_compact,
    m.ofText_write Style.blank_indented, fun d h => ⟨m.decode_restated h, fun text htext => ?_⟩⟩
  refine ofText_eq_ok_iff.2 ?_
  rw [htext]
  exact ⟨m.decode_restated h, rfl⟩

/-- An assignment of an owner in other words: each object has a note, and the type comes last. -/
def ownerRestated : Value :=
  .object [("note", .bool true),
    ("owner", .object [("email", .null), ("note", .str "x"), ("name", .str "o")]),
    ("cde_id", .str "e"), ("type", .str "assign_owner")]

theorem restated_owner :
    Relation.ReflTransGen (Restated .assignOwner)
      (.ofValue (assignOwner "e" { name := "o" }).encode) (.ofValue ownerRestated) := by
  have hinner : ("owner", Owner.within restated) ∈ (form .assignOwner).inner :=
    List.mem_singleton.2 rfl
  have hnote : "note" ∉ (taggedShape .assignOwner).fields.map Field.name := by decide
  have hnote' : "note" ∉ Owner.shape.fields.map Field.name := by decide
  have hown : Restated .assignOwner (.ofValue (assignOwner "e" { name := "o" }).encode) _ :=
    .member [_, _] [] hinner
      (.here (.unknownAdded [_] [_] (d := .str "x") hnote' trivial))
  exact (((Relation.ReflTransGen.single hown).tail
    (.member [_, _] [] hinner (.here (.reordered (List.reverse_perm _).symm)))).tail
    (.here (.unknownAdded [_, _, _] [] (d := .bool true) hnote trivial))).tail
    (.here (.reordered (List.reverse_perm _).symm))

theorem ofText_restated_owner :
    ofText ownerRestated.compact = .ok (assignOwner "e" { name := "o" }) := by
  have htext : Reading.ofText ownerRestated.compact = ⟨.ofValue ownerRestated, []⟩ :=
    Reading.ofText_compact (by simp [ownerRestated, Value.InRange, Value.MembersInRange])
  exact ((ofText_restated (assignOwner "e" { name := "o" })).2.2.2 _ restated_owner).2 _ htext

end Mutation

end DataGovernance
