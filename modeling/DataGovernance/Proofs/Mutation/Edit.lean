import DataGovernance.Proofs.Mutation.Effect

/-!
# Mutations as edits of one collection

A mutation is refused before it looks at its collection, or changes the first entity that has an id,
or goes through all entities. Seen as such edits, two mutations can be made in either order for one
of three reasons: they edit different collections, they change entities with different ids, or one
goes through all entities with a change that the other respects.

Key definitions: `Commuting`, `Edit`, `Edit.IsAt`, `Edit.Respects`, `Edit.run`, `Mutation.edit`.
Key theorems: `Edit.IsAt.commuting`, `Edit.Respects.commuting`, `Edit.commuting_run`,
`Edit.commuting_run_of_ne`, `Edit.commuting_run_of_isAt`, `Mutation.run_edit`,
`Mutation.isAt_edit`.
-/

namespace DataGovernance

/-! ### Changes in either order -/

/-- Two changes come to the same in either order, and each of them is made, or refused for the same
reason, whether or not the other goes first. -/
inductive Commuting {β ε : Type} (f g : β → Except ε β) (b : β) : Prop
  | neither (e e' : ε) (hf : f b = .error e) (hg : g b = .error e')
  | left (c : β) (e : ε) (hf : f b = .ok c) (hg : g b = .error e) (hgc : g c = .error e)
  | right (d : β) (e : ε) (hf : f b = .error e) (hg : g b = .ok d) (hfd : f d = .error e)
  | both (c d x : β) (hf : f b = .ok c) (hg : g b = .ok d) (hgc : g c = .ok x) (hfd : f d = .ok x)

namespace Commuting

variable {β ε : Type} {f g : β → Except ε β} {b : β}

theorem symm (h : Commuting f g b) : Commuting g f b := by
  cases h with
  | neither e e' hf hg => exact .neither e' e hg hf
  | left c e hf hg hgc => exact .right c e hg hf hgc
  | right d e hf hg hfd => exact .left d e hg hf hfd
  | both c d x hf hg hgc hfd => exact .both d c x hg hf hfd hgc

/-- What is always refused for one reason is refused for it whatever goes first. -/
theorem of_refused {e : ε} (hf : ∀ b, f b = .error e) : Commuting f g b := by
  cases hg : g b with
  | error e' => exact .neither e e' (hf b) hg
  | ok d => exact .right d e (hf b) hg (hf d)

/-- What is never refused commutes with a change that respects it. -/
theorem of_respects {h : β → β} (hg : ∀ b, g b = .ok (h b)) (hfh : f (h b) = (f b).map h) :
    Commuting f g b := by
  cases hf : f b with
  | error e => exact .right (h b) e hf (hg b) (by rw [hfh, hf]; rfl)
  | ok c => exact .both c (h b) (h c) hf (hg b) (hg c) (by rw [hfh, hf]; rfl)

end Commuting

/-! ### The change of one entity -/

section

variable {α : Type} [Entity α]

theorem changeFirst_cons_of_eq {id : String} {change : α → Except ChangeError α} {a : α}
    (ha : Entity.id a = id) {x : Except ChangeError α} (h : change a = x) (as : List α) :
    changeFirst id change (a :: as) = x.map (· :: as) := by
  rw [changeFirst, if_pos ha, h]

theorem changeFirst_cons_of_ne {id : String} {change : α → Except ChangeError α} {a : α}
    (ha : Entity.id a ≠ id) {as : List α} {x : Except ChangeError (List α)}
    (h : changeFirst id change as = x) :
    changeFirst id change (a :: as) = x.map (a :: ·) := by
  rw [changeFirst, if_neg ha, h]

/-- A change does not touch the id of an entity. -/
def KeepsId (change : α → Except ChangeError α) : Prop :=
  ∀ a b, change a = .ok b → Entity.id b = Entity.id a

variable {id id' : String} {f g : α → Except ChangeError α}

/-- The entity in front has the one id, so the change of the other is made behind it. -/
theorem commuting_cons_of_eq {a : α} (ha : Entity.id a = id) (hne : id ≠ id') (hf : KeepsId f)
    (as : List α) : Commuting (changeFirst id f) (changeFirst id' g) (a :: as) := by
  have ha' : Entity.id a ≠ id' := ha ▸ hne
  cases hfa : f a with
  | error e =>
    have hfas := changeFirst_cons_of_eq ha hfa
    cases hgas : changeFirst id' g as with
    | error e' => exact .neither e e' (hfas as) (changeFirst_cons_of_ne ha' hgas)
    | ok bs => exact .right (a :: bs) e (hfas as) (changeFirst_cons_of_ne ha' hgas) (hfas bs)
  | ok b =>
    have hfas := changeFirst_cons_of_eq ha hfa
    have hb' : Entity.id b ≠ id' := hf a b hfa ▸ ha'
    cases hgas : changeFirst id' g as with
    | error e =>
      exact .left (b :: as) e (hfas as) (changeFirst_cons_of_ne ha' hgas)
        (changeFirst_cons_of_ne hb' hgas)
    | ok bs =>
      exact .both (b :: as) (a :: bs) (b :: bs) (hfas as) (changeFirst_cons_of_ne ha' hgas)
        (changeFirst_cons_of_ne hb' hgas) (hfas bs)

/-- The entity in front has neither id, so both changes are made behind it. -/
theorem commuting_cons_of_ne {a : α} (ha : Entity.id a ≠ id) (ha' : Entity.id a ≠ id')
    {as : List α} (h : Commuting (changeFirst id f) (changeFirst id' g) as) :
    Commuting (changeFirst id f) (changeFirst id' g) (a :: as) := by
  cases h with
  | neither e e' hf hg =>
    exact .neither e e' (changeFirst_cons_of_ne ha hf) (changeFirst_cons_of_ne ha' hg)
  | left bs e hf hg hgb =>
    exact .left (a :: bs) e (changeFirst_cons_of_ne ha hf) (changeFirst_cons_of_ne ha' hg)
      (changeFirst_cons_of_ne ha' hgb)
  | right bs e hf hg hfb =>
    exact .right (a :: bs) e (changeFirst_cons_of_ne ha hf) (changeFirst_cons_of_ne ha' hg)
      (changeFirst_cons_of_ne ha hfb)
  | both bs cs ds hf hg hgb hfc =>
    exact .both (a :: bs) (a :: cs) (a :: ds) (changeFirst_cons_of_ne ha hf)
      (changeFirst_cons_of_ne ha' hg) (changeFirst_cons_of_ne ha' hgb)
      (changeFirst_cons_of_ne ha hfc)

/-- Changes of entities with different ids commute. -/
theorem commuting_changeFirst (hne : id ≠ id') (hf : KeepsId f) (hg : KeepsId g) :
    ∀ as : List α, Commuting (changeFirst id f) (changeFirst id' g) as
  | [] => .neither _ _ rfl rfl
  | a :: as => by
    by_cases ha : Entity.id a = id
    · exact commuting_cons_of_eq ha hne hf as
    · by_cases ha' : Entity.id a = id'
      · exact (commuting_cons_of_eq ha' hne.symm hg as).symm
      · exact commuting_cons_of_ne ha ha' (commuting_changeFirst hne hf hg as)

/-- The first entity with an id is the same one after all have been changed, and it is changed as
before if its change respects the one of all. -/
theorem changeFirst_map {h : α → α} (hid : ∀ a, Entity.id (h a) = Entity.id a)
    (hf : ∀ a, f (h a) = (f a).map h) :
    ∀ as : List α, changeFirst id f (as.map h) = (changeFirst id f as).map (List.map h)
  | [] => rfl
  | a :: as => by
    rw [List.map_cons]
    by_cases ha : Entity.id a = id
    · rw [changeFirst_cons_of_eq ha rfl, changeFirst_cons_of_eq ((hid a).trans ha) (hf a)]
      cases f a <;> rfl
    · have ha' : Entity.id (h a) ≠ id := by rwa [hid a]
      rw [changeFirst_cons_of_ne ha rfl, changeFirst_cons_of_ne ha' (changeFirst_map hid hf as)]
      cases changeFirst id f as <;> rfl

end

/-! ### Edits of a collection -/

/-- What a mutation does to its collection. -/
inductive Edit (α : Type) where
  /-- It is refused whatever the collection holds. -/
  | refused (reason : ChangeError)
  /-- The first entity with an id is changed. -/
  | one (id : String) (change : α → Except ChangeError α)
  /-- Every entity is changed. -/
  | all (change : α → α)

namespace Edit

/-- An edit that is refused under a condition. -/
def refusedIf {α : Type} (condition : Bool) (reason : ChangeError) (e : Edit α) : Edit α :=
  if condition then refused reason else e

/-- An edit can go before or after a change of every entity. -/
def Respects {α : Type} (h : α → α) : Edit α → Prop
  | refused _ => True
  | one _ change => ∀ a, change (h a) = (change a).map h
  | all change => ∀ a, change (h a) = h (change a)

theorem Respects.refusedIf {α : Type} {h : α → α} {e : Edit α} (he : e.Respects h)
    (condition : Bool) (reason : ChangeError) : (e.refusedIf condition reason).Respects h := by
  cases condition with
  | true => trivial
  | false => exact he

variable {α : Type} [Entity α]

/-- Makes an edit. -/
def apply : Edit α → List α → Except ChangeError (List α)
  | refused reason, _ => .error reason
  | one id change, as => changeFirst id change as
  | all change, as => .ok (as.map change)

/-- An edit concerns at most the entity with an id, whose id it leaves. -/
def IsAt (id : String) : Edit α → Prop
  | refused _ => True
  | one id' change => id' = id ∧ KeepsId change
  | all _ => False

theorem IsAt.refusedIf {id : String} {e : Edit α} (he : e.IsAt id) (condition : Bool)
    (reason : ChangeError) : (e.refusedIf condition reason).IsAt id := by
  cases condition with
  | true => trivial
  | false => exact he

/-- Edits of entities with different ids commute. -/
theorem IsAt.commuting {id id' : String} {e e' : Edit α} (he : e.IsAt id) (he' : e'.IsAt id')
    (hne : id ≠ id') (as : List α) : Commuting e.apply e'.apply as := by
  cases e with
  | refused reason => exact .of_refused fun _ => rfl
  | one k f =>
    obtain ⟨rfl, hf⟩ := he
    cases e' with
    | refused reason => exact (Commuting.of_refused fun _ => rfl).symm
    | one k' g =>
      obtain ⟨rfl, hg⟩ := he'
      exact commuting_changeFirst hne hf hg as
    | all h => exact he'.elim
  | all h => exact he.elim

/-- An edit commutes with a change of every entity that it respects. -/
theorem Respects.commuting {h : α → α} (hid : ∀ a, Entity.id (h a) = Entity.id a) {e : Edit α}
    (he : e.Respects h) (as : List α) : Commuting e.apply (all h).apply as := by
  refine .of_respects (h := List.map h) (fun _ => rfl) ?_
  cases e with
  | refused reason => rfl
  | one id f => exact changeFirst_map hid he as
  | all f =>
    have heq : f ∘ h = h ∘ f := funext he
    simp [apply, Except.map, heq]

end Edit

/-! ### Edits of a snapshot -/

/-- The entities of a kind. -/
abbrev EntityKind.Carrier : EntityKind → Type
  | element => Element
  | issue => Issue
  | reconciliationMatch => Match
  | node => Node

instance : (k : EntityKind) → Entity k.Carrier
  | .element => inferInstanceAs (Entity Element)
  | .issue => inferInstanceAs (Entity Issue)
  | .reconciliationMatch => inferInstanceAs (Entity Match)
  | .node => inferInstanceAs (Entity Node)

namespace Snapshot

/-- The collection of the entities of a kind. -/
def entities (s : Snapshot) : (k : EntityKind) → List k.Carrier
  | .element => s.elements
  | .issue => s.issues
  | .reconciliationMatch => s.reconciliation
  | .node => s.lineage.nodes

/-- The same snapshot one version later. -/
def later (s : Snapshot) : Snapshot := { s with version := s.version + 1 }

/-- The snapshot one version later, with another collection of the entities of a kind. -/
def replace (s : Snapshot) : (k : EntityKind) → List k.Carrier → Snapshot
  | .element, es => (s.putElements es).later
  | .issue, is => (s.putIssues is).later
  | .reconciliationMatch, ms => (s.putMatches ms).later
  | .node, ns => (s.putNodes ns).later

variable {k k' : EntityKind}

@[simp] theorem entities_replace (s : Snapshot) (as : List k.Carrier) :
    (s.replace k as).entities k = as := by
  cases k <;> rfl

theorem entities_replace_of_ne (h : k ≠ k') (s : Snapshot) (as : List k.Carrier) :
    (s.replace k as).entities k' = s.entities k' := by
  cases k <;> cases k' <;> first | rfl | exact absurd rfl h

theorem replace_replace (s : Snapshot) (as bs cs : List k.Carrier) :
    (s.replace k as).replace k cs = (s.replace k bs).replace k cs := by
  cases k <;> rfl

theorem replace_comm (h : k ≠ k') (s : Snapshot) (as : List k.Carrier) (bs : List k'.Carrier) :
    (s.replace k as).replace k' bs = (s.replace k' bs).replace k as := by
  cases k <;> cases k' <;> first | rfl | exact absurd rfl h

end Snapshot

namespace Edit

variable {k k' : EntityKind}

/-- Makes an edit in a snapshot. -/
def run (e : Edit k.Carrier) (s : Snapshot) : Except ChangeError Snapshot :=
  (e.apply (s.entities k)).map (s.replace k)

theorem run_of_apply {e : Edit k.Carrier} {s : Snapshot} {x : Except ChangeError (List k.Carrier)}
    (h : e.apply (s.entities k) = x) : e.run s = x.map (s.replace k) := by
  rw [run, h]

theorem run_replace {e : Edit k.Carrier} {as : List k.Carrier}
    {x : Except ChangeError (List k.Carrier)} (h : e.apply as = x) (s : Snapshot) :
    e.run (s.replace k as) = x.map ((s.replace k as).replace k) :=
  run_of_apply (by rwa [Snapshot.entities_replace])

theorem run_replace_of_ne (hk : k ≠ k') {e : Edit k'.Carrier} {s : Snapshot}
    {x : Except ChangeError (List k'.Carrier)} (h : e.apply (s.entities k') = x)
    (as : List k.Carrier) : e.run (s.replace k as) = x.map ((s.replace k as).replace k') :=
  run_of_apply (by rwa [Snapshot.entities_replace_of_ne hk])

/-- Edits that commute on their collection commute on the snapshot. -/
theorem commuting_run {e e' : Edit k.Carrier} {s : Snapshot}
    (h : Commuting e.apply e'.apply (s.entities k)) : Commuting e.run e'.run s := by
  cases h with
  | neither r r' he he' => exact .neither r r' (run_of_apply he) (run_of_apply he')
  | left as r he he' hea =>
    exact .left (s.replace k as) r (run_of_apply he) (run_of_apply he') (run_replace hea s)
  | right bs r he he' heb =>
    exact .right (s.replace k bs) r (run_of_apply he) (run_of_apply he') (run_replace heb s)
  | both as bs cs he he' hea heb =>
    refine .both (s.replace k as) (s.replace k bs) ((s.replace k as).replace k cs)
      (run_of_apply he) (run_of_apply he') (run_replace hea s) ?_
    rw [s.replace_replace as bs]
    exact run_replace heb s

/-- Edits of different collections commute. -/
theorem commuting_run_of_ne (hk : k ≠ k') (e : Edit k.Carrier) (e' : Edit k'.Carrier)
    (s : Snapshot) : Commuting e.run e'.run s := by
  cases he : e.apply (s.entities k) with
  | error r =>
    cases he' : e'.apply (s.entities k') with
    | error r' => exact .neither r r' (run_of_apply he) (run_of_apply he')
    | ok bs =>
      exact .right (s.replace k' bs) r (run_of_apply he) (run_of_apply he')
        (run_replace_of_ne hk.symm he bs)
  | ok as =>
    cases he' : e'.apply (s.entities k') with
    | error r =>
      exact .left (s.replace k as) r (run_of_apply he) (run_of_apply he')
        (run_replace_of_ne hk he' as)
    | ok bs =>
      refine .both (s.replace k as) (s.replace k' bs) ((s.replace k as).replace k' bs)
        (run_of_apply he) (run_of_apply he') (run_replace_of_ne hk he' as) ?_
      rw [Snapshot.replace_comm hk]
      exact run_replace_of_ne hk.symm he bs

/-- Edits of entities with different ids commute, be they in one collection or in two. -/
theorem commuting_run_of_isAt {e : Edit k.Carrier} {e' : Edit k'.Carrier} {id id' : String}
    (he : e.IsAt id) (he' : e'.IsAt id') (hne : id ≠ id') (s : Snapshot) :
    Commuting e.run e'.run s := by
  by_cases hk : k = k'
  · subst hk
    exact commuting_run (he.commuting he' hne (s.entities k))
  · exact commuting_run_of_ne hk e e' s

end Edit

/-! ### The edit that a mutation makes -/

namespace Mutation

/-- The collection that a mutation changes. -/
def collection : Mutation → EntityKind
  | assignOwner _ _ | setElementStatus _ _ | approveAllPending => .element
  | setIssueStatus _ _ | assignIssue _ _ | setPriority _ _ | acceptSuggestedPriority _
  | submitResolution _ _ _ | verifyResolution _ _ => .issue
  | recordAction _ _ | acceptSuggestedActions => .reconciliationMatch
  | linkBusinessTerms _ _ | deferBusinessTerms _ _ => .node

/-- The id of the entity that a mutation addresses, if it addresses only one. -/
def entityId? : Mutation → Option String
  | assignOwner id _ | setElementStatus id _ => some id
  | setIssueStatus id _ | assignIssue id _ | setPriority id _ | acceptSuggestedPriority id
  | submitResolution id _ _ | verifyResolution id _ => some id
  | recordAction id _ => some id
  | linkBusinessTerms id _ | deferBusinessTerms id _ => some id
  | approveAllPending | acceptSuggestedActions => none

/-- A mutation as an edit of its collection. -/
def edit (rules : ResolutionRules) (now : Time.Timestamp) :
    (m : Mutation) → Edit m.collection.Carrier
  | assignOwner id owner =>
    (Edit.one id fun e : Element => .ok { e with owner := some owner }).refusedIf
      (Text.isBlank owner.name) (.blank .ownerName)
  | setElementStatus id status => .one id (Element.putStatus status)
  | approveAllPending => .all Element.approvePending
  | setIssueStatus id status => .one id (Issue.putStatus status)
  | assignIssue id assignee =>
    (Edit.one id fun i : Issue => .ok { i with assignee := some (Text.trimmed assignee) }).refusedIf
      (Text.isBlank assignee) (.blank .assignee)
  | setPriority id priority => .one id fun i : Issue => .ok { i with priority := some priority }
  | acceptSuggestedPriority id => .one id Issue.takeSuggestion
  | submitResolution id resolution time =>
    (Edit.one id (Issue.handOver resolution (time.getD now))).refusedIf
      (!rules.accepts resolution) (.rejectedResolution (rules.problems resolution))
  | verifyResolution id accepted => .one id (Issue.decide accepted)
  | recordAction id action => .one id fun m : Match => .ok { m with actionTaken := some action }
  | acceptSuggestedActions => .all Match.takeSuggestion
  | linkBusinessTerms id terms =>
    (Edit.one id fun n : Node => .ok { n with
      businessTerms := cleanTerms terms
      businessTermsDeferred := false
      deferralReason := none }).refusedIf (cleanTerms terms).isEmpty .noTerms
  | deferBusinessTerms id reason =>
    (Edit.one id fun n : Node => .ok { n with
      businessTermsDeferred := true
      deferralReason := some (Text.trimmed reason) }).refusedIf
      (Text.isBlank reason) (.blank .deferralReason)

end Mutation

/-! ### Mutations perform their edits -/

section

variable {α : Type} [Entity α] (e : Edit α) (as : List α)

theorem apply_refusedIf_isBlank (text : NamedText) (s : String) :
    (e.refusedIf (Text.isBlank s) (.blank text)).apply as =
      (requireText text s >>= fun _ => e.apply as) := by
  unfold requireText Edit.refusedIf
  split <;> rfl

end

theorem apply_submission {rules : ResolutionRules} {now : Time.Timestamp} {id : String}
    {r : Resolution} (is : List Issue) :
    ((Edit.one id (Issue.handOver r now)).refusedIf (!rules.accepts r)
      (.rejectedResolution (rules.problems r))).apply is = submitResolution rules now id r is := by
  unfold submitResolution ResolutionRules.accepts
  cases hr : rules.problems r <;> rfl

theorem apply_linking {id : String} {terms : List String} (ns : List Node) :
    ((Edit.one id fun n : Node => .ok { n with
      businessTerms := cleanTerms terms
      businessTermsDeferred := false
      deferralReason := none }).refusedIf (cleanTerms terms).isEmpty .noTerms).apply ns =
      linkBusinessTerms id terms ns := by
  unfold linkBusinessTerms
  cases cleanTerms terms <;> rfl

theorem later_map_put {α : Type} (put : List α → Snapshot) (x : Except ChangeError (List α)) :
    (put <$> x).map Snapshot.later = x.map fun as => (put as).later := by
  cases x <;> rfl

namespace Mutation

variable {rules : ResolutionRules} {now : Time.Timestamp}

/-- A mutation performs its edit. -/
theorem run_edit (m : Mutation) (s : Snapshot) :
    (m.edit rules now).run s = (m.perform rules now s).map Snapshot.later := by
  cases m with
  | assignOwner id owner =>
    have h := apply_refusedIf_isBlank
      (.one id fun e : Element => .ok { e with owner := some owner }) s.elements
      .ownerName owner.name
    exact (Edit.run_of_apply h).trans (later_map_put _ _).symm
  | setElementStatus id status => exact (later_map_put _ _).symm
  | approveAllPending => rfl
  | setIssueStatus id status => exact (later_map_put _ _).symm
  | assignIssue id assignee =>
    have h := apply_refusedIf_isBlank
      (.one id fun i : Issue => .ok { i with assignee := some (Text.trimmed assignee) }) s.issues
      .assignee assignee
    exact (Edit.run_of_apply h).trans (later_map_put _ _).symm
  | setPriority id priority => exact (later_map_put _ _).symm
  | acceptSuggestedPriority id => exact (later_map_put _ _).symm
  | submitResolution id resolution time =>
    exact (Edit.run_of_apply (apply_submission s.issues)).trans (later_map_put _ _).symm
  | verifyResolution id accepted => exact (later_map_put _ _).symm
  | recordAction id action => exact (later_map_put _ _).symm
  | acceptSuggestedActions => rfl
  | linkBusinessTerms id terms =>
    exact (Edit.run_of_apply (apply_linking s.lineage.nodes)).trans (later_map_put _ _).symm
  | deferBusinessTerms id reason =>
    have h := apply_refusedIf_isBlank
      (.one id fun n : Node => .ok { n with
        businessTermsDeferred := true
        deferralReason := some (Text.trimmed reason) }) s.lineage.nodes .deferralReason reason
    exact (Edit.run_of_apply h).trans (later_map_put _ _).symm

end Mutation

/-! ### Changes keep ids -/

theorem keepsId_ok {α : Type} [Entity α] {f : α → α} (hf : ∀ a, Entity.id (f a) = Entity.id a) :
    KeepsId fun a => .ok (f a) := by
  intro a b h
  cases h
  exact hf a

theorem Element.keepsId_putStatus (status : ElementStatus) :
    KeepsId (Element.putStatus status) := by
  intro e f h
  unfold Element.putStatus at h
  split at h
  · cases h
    rfl
  · cases h

namespace Issue

theorem keepsId_putStatus (status : IssueStatus) : KeepsId (Issue.putStatus status) := by
  intro i j h
  obtain ⟨-, rfl⟩ := putStatus_eq_ok h
  rfl

theorem keepsId_takeSuggestion : KeepsId Issue.takeSuggestion := by
  intro i j h
  unfold Issue.takeSuggestion at h
  cases hp : i.suggestedPriority with
  | none => simp [hp] at h
  | some priority =>
    cases hk : i.putStatus .triaged with
    | error e => simp [hp, hk, Except.map] at h
    | ok k =>
      simp only [hp, hk, Except.map, Except.ok.injEq] at h
      subst h
      exact keepsId_putStatus .triaged i k hk

theorem keepsId_handOver (resolution : Resolution) (now : Time.Timestamp) :
    KeepsId (Issue.handOver resolution now) := by
  intro i j h
  obtain ⟨-, rfl⟩ := handOver_eq_ok h
  rfl

theorem keepsId_decide (accepted : Bool) : KeepsId (Issue.decide accepted) := by
  intro i j h
  unfold Issue.decide at h
  by_cases hs : i.status = .pendingVerification
  · rw [if_pos hs] at h
    cases h
    rfl
  · rw [if_neg hs] at h
    cases h

end Issue

namespace Mutation

variable {rules : ResolutionRules} {now : Time.Timestamp}

/-- A mutation that addresses one entity edits at most the entity with that id. -/
theorem isAt_edit {m : Mutation} {id : String} (h : m.entityId? = some id) :
    (m.edit rules now).IsAt id := by
  cases m with
  | approveAllPending => cases h
  | acceptSuggestedActions => cases h
  | assignOwner k owner =>
    cases h
    refine Edit.IsAt.refusedIf ?_ _ _
    exact ⟨rfl, keepsId_ok fun _ => rfl⟩
  | setElementStatus k status =>
    cases h
    exact ⟨rfl, Element.keepsId_putStatus status⟩
  | setIssueStatus k status =>
    cases h
    exact ⟨rfl, Issue.keepsId_putStatus status⟩
  | assignIssue k assignee =>
    cases h
    refine Edit.IsAt.refusedIf ?_ _ _
    exact ⟨rfl, keepsId_ok fun _ => rfl⟩
  | setPriority k priority =>
    cases h
    exact ⟨rfl, keepsId_ok fun _ => rfl⟩
  | acceptSuggestedPriority k =>
    cases h
    exact ⟨rfl, Issue.keepsId_takeSuggestion⟩
  | submitResolution k resolution time =>
    cases h
    refine Edit.IsAt.refusedIf ?_ _ _
    exact ⟨rfl, Issue.keepsId_handOver resolution (time.getD now)⟩
  | verifyResolution k accepted =>
    cases h
    exact ⟨rfl, Issue.keepsId_decide accepted⟩
  | recordAction k action =>
    cases h
    exact ⟨rfl, keepsId_ok fun _ => rfl⟩
  | linkBusinessTerms k terms =>
    cases h
    refine Edit.IsAt.refusedIf ?_ _ _
    exact ⟨rfl, keepsId_ok fun _ => rfl⟩
  | deferBusinessTerms k reason =>
    cases h
    refine Edit.IsAt.refusedIf ?_ _ _
    exact ⟨rfl, keepsId_ok fun _ => rfl⟩

end Mutation

end DataGovernance
