import DataGovernance.Proofs.Mutation.Edit
import DataGovernance.Proofs.Session.Run
import DataGovernance.Proofs.Text.Clean

/-!
# Why a mutation is refused

A mutation is looked at three times. First by itself: a name, an assignee or a reason must not be
blank, some term must not be, and a resolution has to keep the rules. Then the entity that it
addresses has to be there. Last the entity is asked: a status can only be set where it may follow,
and a hand-over, a verdict or the acceptance of a suggestion only fits some statuses. The first of
these that goes wrong is the reason for the refusal, and nothing else is; the mutations that go
through a whole collection are never refused.

Key definitions: `Mutation.Flawed`, `Mutation.Forbids`, `Mutation.RefusedFor`.
Key theorems: `changeFirst_eq_error_iff`, `Mutation.edit_eq_refused_iff`, `Mutation.edit_eq_one`,
`Mutation.perform_eq_error_iff`, `Session.apply_spec`.
-/

namespace DataGovernance

/-- No term is left exactly when all are blank. -/
theorem cleanTerms_eq_nil_iff {terms : List String} :
    cleanTerms terms = [] ↔ ∀ t ∈ terms, Text.isBlank t = true := by
  simp only [cleanTerms, List.eq_nil_iff_forall_not_mem, List.mem_eraseDups, List.mem_filter,
    List.mem_map, not_and, ← Text.trimmed_eq_empty_iff]
  simp

/-! ### Why an edit is refused -/

theorem map_eq_error_iff {α β ε : Type} {f : α → β} {x : Except ε α} {e : ε} :
    x.map f = .error e ↔ x = .error e := by
  cases x <;> simp [Except.map]

/-- A change of one entity fails because there is none with the id, or because the first one with
the id refuses it. -/
theorem changeFirst_eq_error_iff {α : Type} [Entity α] {id : String}
    {change : α → Except ChangeError α} {c : ChangeError} : ∀ {as : List α},
    changeFirst id change as = .error c ↔
      id ∉ as.map Entity.id ∧ c = .notFound (Entity.kind α) id ∨
        ∃ a, as.find? (fun b => Entity.id b == id) = some a ∧ change a = .error c
  | [] => by simp [changeFirst, eq_comm]
  | b :: as => by
    rw [changeFirst]
    by_cases hb : Entity.id b = id
    · rw [if_pos hb, map_eq_error_iff, List.find?_cons_of_pos (by simpa using hb)]
      simp [hb]
    · rw [if_neg hb, map_eq_error_iff, changeFirst_eq_error_iff,
        List.find?_cons_of_neg (by simpa using hb), List.map_cons, List.mem_cons, not_or]
      simp [Ne.symm hb]

/-! ### Why an entity refuses a change -/

theorem ite_eq_error_iff {α ε : Type} {p : Prop} [Decidable p] {a : α} {e e' : ε} :
    (if p then Except.ok a else .error e') = .error e ↔ ¬p ∧ e = e' := by
  by_cases hp : p <;> simp [hp, eq_comm]

theorem Element.putStatus_eq_error_iff {t : ElementStatus} {e : Element} {c : ChangeError} :
    e.putStatus t = .error c ↔
      e.status ≠ t ∧ t ∉ e.status.next ∧ c = .elementStatus e.id e.status t := by
  rw [Element.putStatus, ite_eq_error_iff, not_or, and_assoc]

/-- The statuses from which an issue can be triaged, the one that it then has included. -/
theorem IssueStatus.not_triageable_iff {t : IssueStatus} :
    t ≠ triaged ∧ triaged ∉ t.next ↔ t ∉ [opened, triaged, escalated] := by
  cases t <;> decide

namespace Issue

variable {i : Issue} {c : ChangeError}

theorem putStatus_eq_error_iff {t : IssueStatus} :
    i.putStatus t = .error c ↔
      i.status ≠ t ∧ t ∉ i.status.next ∧ c = .issueStatus i.id i.status t := by
  rw [putStatus, ite_eq_error_iff, not_or, and_assoc]

/-- A suggestion cannot be accepted if there is none, or else if the issue cannot be triaged. -/
theorem takeSuggestion_eq_error_iff :
    i.takeSuggestion = .error c ↔
      i.suggestedPriority = none ∧ c = .noSuggestedPriority i.id ∨
        i.suggestedPriority ≠ none ∧ i.status ∉ [.opened, .triaged, .escalated] ∧
          c = .issueStatus i.id i.status .triaged := by
  unfold takeSuggestion
  cases hp : i.suggestedPriority with
  | none => simp [eq_comm]
  | some p =>
    rw [map_eq_error_iff, putStatus_eq_error_iff, ← and_assoc, IssueStatus.not_triageable_iff]
    simp

theorem handOver_eq_error_iff {r : Resolution} {now : Time.Timestamp} :
    i.handOver r now = .error c ↔
      i.status ≠ .resolving ∧ c = .issueStatus i.id i.status .pendingVerification := by
  rw [handOver, ite_eq_error_iff]

theorem decide_eq_error_iff {accepted : Bool} :
    i.decide accepted = .error c ↔ i.status ≠ .pendingVerification ∧
      c = .issueStatus i.id i.status (if accepted then .verified else .resolving) := by
  rw [Issue.decide, ite_eq_error_iff]

end Issue

/-! ### Why a mutation is refused -/

namespace Edit

variable {α : Type} {id : String} {change : α → Except ChangeError α} {condition : Bool}
  {reason c : ChangeError}

theorem refusedIf_one_eq_refused_iff :
    (one id change).refusedIf condition reason = .refused c ↔ condition = true ∧ c = reason := by
  cases condition <;> simp [refusedIf, eq_comm]

theorem refusedIf_one_eq_one (h : (one id change).refusedIf condition reason ≠ .refused reason) :
    (one id change).refusedIf condition reason = .one id change := by
  cases condition with
  | true => exact absurd rfl h
  | false => rfl

end Edit

namespace Mutation

/-- What is wrong with a mutation by itself, whichever entity it addresses. -/
inductive Flawed (rules : ResolutionRules) : Mutation → ChangeError → Prop
  | owner (id : String) (o : Owner) (h : Text.isBlank o.name = true) :
    Flawed rules (.assignOwner id o) (.blank .ownerName)
  | assignee (id name : String) (h : Text.isBlank name = true) :
    Flawed rules (.assignIssue id name) (.blank .assignee)
  | resolution (id : String) (r : Resolution) (time : Option Time.Timestamp)
    (h : rules.accepts r = false) :
    Flawed rules (.submitResolution id r time) (.rejectedResolution (rules.problems r))
  | terms (id : String) (terms : List String) (h : ∀ t ∈ terms, Text.isBlank t = true) :
    Flawed rules (.linkBusinessTerms id terms) .noTerms
  | reason (id reason : String) (h : Text.isBlank reason = true) :
    Flawed rules (.deferBusinessTerms id reason) (.blank .deferralReason)

/-- Why the entity that a mutation addresses refuses it. -/
inductive Forbids : (m : Mutation) → m.collection.Carrier → ChangeError → Prop
  | elementStatus (id : String) (t : ElementStatus) (e : Element) (hne : e.status ≠ t)
    (hnext : t ∉ e.status.next) :
    Forbids (.setElementStatus id t) e (.elementStatus e.id e.status t)
  | issueStatus (id : String) (t : IssueStatus) (i : Issue) (hne : i.status ≠ t)
    (hnext : t ∉ i.status.next) :
    Forbids (.setIssueStatus id t) i (.issueStatus i.id i.status t)
  | noSuggestion (id : String) (i : Issue) (hp : i.suggestedPriority = none) :
    Forbids (.acceptSuggestedPriority id) i (.noSuggestedPriority i.id)
  | notTriageable (id : String) (i : Issue) (hp : i.suggestedPriority ≠ none)
    (ht : i.status ∉ [.opened, .triaged, .escalated]) :
    Forbids (.acceptSuggestedPriority id) i (.issueStatus i.id i.status .triaged)
  | notResolving (id : String) (r : Resolution) (time : Option Time.Timestamp) (i : Issue)
    (hi : i.status ≠ .resolving) :
    Forbids (.submitResolution id r time) i (.issueStatus i.id i.status .pendingVerification)
  | notAwaiting (id : String) (accepted : Bool) (i : Issue) (hi : i.status ≠ .pendingVerification) :
    Forbids (.verifyResolution id accepted) i
      (.issueStatus i.id i.status (if accepted then .verified else .resolving))

/-- Why a mutation of a snapshot is refused under rules: for what is wrong with it by itself; if
nothing is, because the entity that it addresses is not there; if that is there, because the entity
refuses it. The first entity with an id is the one that is addressed: in a session that has opened
there is no other. -/
inductive RefusedFor (rules : ResolutionRules) (s : Snapshot) (m : Mutation) : ChangeError → Prop
  | flawed (c : ChangeError) (h : m.Flawed rules c) : RefusedFor rules s m c
  | missing (id : String) (hm : ∀ c, ¬m.Flawed rules c) (hid : m.entityId? = some id)
    (h : id ∉ (s.entities m.collection).map Entity.id) :
    RefusedFor rules s m (.notFound m.collection id)
  | forbidden (id : String) (a : m.collection.Carrier) (c : ChangeError)
    (hm : ∀ c, ¬m.Flawed rules c) (hid : m.entityId? = some id)
    (ha : (s.entities m.collection).find? (fun b => Entity.id b == id) = some a)
    (h : m.Forbids a c) : RefusedFor rules s m c

variable {rules : ResolutionRules} {now : Time.Timestamp} {m : Mutation} {c : ChangeError}

/-- A mutation that is flawed, and no other, is refused whatever its collection holds. -/
theorem edit_eq_refused_iff : m.edit rules now = .refused c ↔ m.Flawed rules c := by
  constructor
  · intro h
    cases m with
    | assignOwner id o =>
      obtain ⟨hb, rfl⟩ := Edit.refusedIf_one_eq_refused_iff.1 h
      exact .owner id o hb
    | assignIssue id name =>
      obtain ⟨hb, rfl⟩ := Edit.refusedIf_one_eq_refused_iff.1 h
      exact .assignee id name hb
    | submitResolution id r time =>
      obtain ⟨hr, rfl⟩ := Edit.refusedIf_one_eq_refused_iff.1 h
      exact .resolution id r time (by simpa using hr)
    | linkBusinessTerms id terms =>
      obtain ⟨ht, rfl⟩ := Edit.refusedIf_one_eq_refused_iff.1 h
      exact .terms id terms (cleanTerms_eq_nil_iff.1 (List.isEmpty_iff.1 ht))
    | deferBusinessTerms id reason =>
      obtain ⟨hb, rfl⟩ := Edit.refusedIf_one_eq_refused_iff.1 h
      exact .reason id reason hb
    | setElementStatus | approveAllPending | setIssueStatus | setPriority | acceptSuggestedPriority
    | verifyResolution | recordAction | acceptSuggestedActions => cases h
  · intro h
    cases h with
    | owner id o hb => exact Edit.refusedIf_one_eq_refused_iff.2 ⟨hb, rfl⟩
    | assignee id name hb => exact Edit.refusedIf_one_eq_refused_iff.2 ⟨hb, rfl⟩
    | resolution id r time hr => exact Edit.refusedIf_one_eq_refused_iff.2 ⟨by simp [hr], rfl⟩
    | terms id terms ht =>
      exact Edit.refusedIf_one_eq_refused_iff.2
        ⟨List.isEmpty_iff.2 (cleanTerms_eq_nil_iff.2 ht), rfl⟩
    | reason id reason hb => exact Edit.refusedIf_one_eq_refused_iff.2 ⟨hb, rfl⟩

/-- A mutation that is not flawed and addresses an entity changes the first one with the id, which
refuses it for the reasons listed. -/
theorem edit_eq_one {id : String} (hid : m.entityId? = some id) (hm : ∀ c, ¬m.Flawed rules c)
    (now : Time.Timestamp) :
    ∃ change, m.edit rules now = .one id change ∧ ∀ a c, change a = .error c ↔ m.Forbids a c := by
  have hedit : ∀ c, m.edit rules now ≠ .refused c := fun c h => hm c (edit_eq_refused_iff.1 h)
  cases m with
  | approveAllPending | acceptSuggestedActions => cases hid
  | assignOwner | assignIssue | linkBusinessTerms | deferBusinessTerms =>
    cases hid
    exact ⟨_, Edit.refusedIf_one_eq_one (hedit _), fun _ _ => ⟨nofun, nofun⟩⟩
  | setPriority | recordAction =>
    cases hid
    exact ⟨_, rfl, fun _ _ => ⟨nofun, nofun⟩⟩
  | setElementStatus _ t =>
    cases hid
    refine ⟨_, rfl, fun e c => Element.putStatus_eq_error_iff.trans ⟨?_, ?_⟩⟩
    · rintro ⟨hne, hnext, rfl⟩
      exact .elementStatus id t e hne hnext
    · intro h
      cases h with
      | elementStatus _ _ _ hne hnext => exact ⟨hne, hnext, rfl⟩
  | setIssueStatus _ t =>
    cases hid
    refine ⟨_, rfl, fun i c => Issue.putStatus_eq_error_iff.trans ⟨?_, ?_⟩⟩
    · rintro ⟨hne, hnext, rfl⟩
      exact .issueStatus id t i hne hnext
    · intro h
      cases h with
      | issueStatus _ _ _ hne hnext => exact ⟨hne, hnext, rfl⟩
  | acceptSuggestedPriority _ =>
    cases hid
    refine ⟨_, rfl, fun i c => Issue.takeSuggestion_eq_error_iff.trans ⟨?_, ?_⟩⟩
    · rintro (⟨hp, rfl⟩ | ⟨hp, ht, rfl⟩)
      · exact .noSuggestion id i hp
      · exact .notTriageable id i hp ht
    · intro h
      cases h with
      | noSuggestion _ _ hp => exact .inl ⟨hp, rfl⟩
      | notTriageable _ _ hp ht => exact .inr ⟨hp, ht, rfl⟩
  | submitResolution _ r time =>
    cases hid
    refine ⟨_, Edit.refusedIf_one_eq_one (hedit _),
      fun i c => Issue.handOver_eq_error_iff.trans ⟨?_, ?_⟩⟩
    · rintro ⟨hi, rfl⟩
      exact .notResolving id r time i hi
    · intro h
      cases h with
      | notResolving _ _ _ _ hi => exact ⟨hi, rfl⟩
  | verifyResolution _ accepted =>
    cases hid
    refine ⟨_, rfl, fun i c => Issue.decide_eq_error_iff.trans ⟨?_, ?_⟩⟩
    · rintro ⟨hi, rfl⟩
      exact .notAwaiting id accepted i hi
    · intro h
      cases h with
      | notAwaiting _ _ _ hi => exact ⟨hi, rfl⟩

/-- A mutation that addresses no entity goes through a whole collection. -/
theorem edit_eq_all (hid : m.entityId? = none) (rules : ResolutionRules) (now : Time.Timestamp) :
    ∃ change, m.edit rules now = .all change := by
  cases m with
  | approveAllPending | acceptSuggestedActions => exact ⟨_, rfl⟩
  | _ => cases hid

theorem kind_carrier (k : EntityKind) : Entity.kind k.Carrier = k := by
  cases k <;> rfl

variable {s : Snapshot}

/-- What is wrong with a flawed mutation by itself is the only reason for its refusal. -/
theorem Flawed.refusedFor_iff {c' : ChangeError} (h : m.Flawed rules c') :
    m.RefusedFor rules s c ↔ c' = c := by
  constructor
  · intro hc
    cases hc with
    | flawed _ hc =>
      have hedit : m.edit rules .epoch = .refused c' := edit_eq_refused_iff.2 h
      rw [edit_eq_refused_iff.2 hc, Edit.refused.injEq] at hedit
      exact hedit.symm
    | missing _ hm => exact absurd h (hm c')
    | forbidden _ _ _ hm => exact absurd h (hm c')
  · rintro rfl
    exact .flawed c' h

/-- A mutation that is not flawed can only be refused on account of the entity that it addresses. -/
theorem refusedFor_iff (hm : ∀ c, ¬m.Flawed rules c) :
    m.RefusedFor rules s c ↔ ∃ id, m.entityId? = some id ∧
      (id ∉ (s.entities m.collection).map Entity.id ∧ c = .notFound m.collection id ∨
        ∃ a, (s.entities m.collection).find? (fun b => Entity.id b == id) = some a ∧
          m.Forbids a c) := by
  constructor
  · intro h
    cases h with
    | flawed _ hc => exact absurd hc (hm c)
    | missing id _ hid hmissing => exact ⟨id, hid, .inl ⟨hmissing, rfl⟩⟩
    | forbidden id a _ _ hid ha hc => exact ⟨id, hid, .inr ⟨a, ha, hc⟩⟩
  · rintro ⟨id, hid, ⟨hmissing, rfl⟩ | ⟨a, ha, hc⟩⟩
    · exact .missing id hm hid hmissing
    · exact .forbidden id a c hm hid ha hc

/-- A mutation is refused for the first thing that is wrong. -/
theorem perform_eq_error_iff (now : Time.Timestamp) :
    m.perform rules now s = .error c ↔ m.RefusedFor rules s c := by
  rw [← map_eq_error_iff (f := Snapshot.later), ← run_edit, Edit.run, map_eq_error_iff]
  by_cases hm : ∃ c', m.Flawed rules c'
  · obtain ⟨c', hc'⟩ := hm
    rw [hc'.refusedFor_iff, edit_eq_refused_iff.2 hc', Edit.apply, Except.error.injEq]
  · rw [not_exists] at hm
    rw [refusedFor_iff hm]
    cases hid : m.entityId? with
    | none =>
      obtain ⟨change, hedit⟩ := edit_eq_all hid rules now
      simp only [hedit, Edit.apply, reduceCtorEq, false_and, exists_false]
    | some id =>
      obtain ⟨change, hedit, hforbids⟩ := edit_eq_one hid hm now
      rw [hedit, Edit.apply, changeFirst_eq_error_iff, kind_carrier]
      simp only [hforbids, Option.some.injEq, exists_eq_left']

end Mutation

namespace Session

theorem apply_eq_error_iff {σ : Session} {m : Mutation} {now : Time.Timestamp} {e : SessionError} :
    σ.apply m now = .error e ↔ ∃ c, e = .change c ∧ m.RefusedFor σ.rules σ.snapshot c := by
  simp only [← Mutation.perform_eq_error_iff now]
  unfold apply
  cases m.perform σ.rules now σ.snapshot <;> simp [eq_comm]

/-- **A mutation is refused exactly for the first thing that is wrong.** It is applied when nothing
is, and then the version is one higher. -/
theorem apply_spec (σ : Session) (m : Mutation) (now : Time.Timestamp) :
    (∀ e, σ.apply m now = .error e ↔ ∃ c, e = .change c ∧ m.RefusedFor σ.rules σ.snapshot c) ∧
      ((∃ τ, σ.apply m now = .ok τ ∧ τ.version = σ.version + 1) ↔
        ∀ c, ¬m.RefusedFor σ.rules σ.snapshot c) := by
  refine ⟨fun e => apply_eq_error_iff, ?_, ?_⟩
  · rintro ⟨τ, hτ, -⟩ c hc
    have herror : σ.apply m now = .error (.change c) := apply_eq_error_iff.2 ⟨c, rfl, hc⟩
    rw [herror] at hτ
    cases hτ
  · intro hnone
    cases hτ : σ.apply m now with
    | error e =>
      obtain ⟨c, -, hc⟩ := apply_eq_error_iff.1 hτ
      exact absurd hc (hnone c)
    | ok τ =>
      obtain ⟨s, hs, rfl⟩ := apply_eq_ok_iff.1 hτ
      exact ⟨_, rfl, congrArg (· + 1) (Mutation.effect_of_perform hs).version_eq⟩

/-- The reason is looked at before the node. -/
example (σ : Session) : σ.apply (.deferBusinessTerms "?" " ") .epoch =
    .error (.change (.blank .deferralReason)) := rfl

end Session

end DataGovernance
