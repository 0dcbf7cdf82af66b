import DataGovernance.Proofs.Mutation.Edit
import DataGovernance.Proofs.Session.Run
import Mathlib.Data.List.Pairwise

/-!
# Independent mutations

Mutations that address different entities can be made in either order: the session is the same in
the end, its version included, and each of them succeeds or is refused for the same reason. The
mutations that go through a whole collection are independent of nearly all others too. Accepting
the suggested actions leaves alone what has been recorded, and a recorded action replaces an
accepted one; approving the pending elements depends on nothing but their statuses.

From two mutations it goes on to batches: a list of mutations of which any two are independent can
be made in any order, and no mutation in it decides whether another one is refused.

Key definitions: `Mutation.Independent`, `Session.outcome`, `Session.applications`.
Key theorems: `Mutation.Independent.commuting_edits`, `Mutation.Independent.commuting_apply`,
`Session.apply_either_order`, `Session.outcome_run`, `Session.run_perm`.
-/

namespace DataGovernance

/-! ### Changes that go through a collection -/

/-- It does not matter whether the owner of an element is put in before or after its approval. -/
theorem respects_approvePending_owner (id : String) (owner : Owner) :
    (Edit.one id fun e : Element => .ok { e with owner := some owner }).Respects
      Element.approvePending := by
  intro e
  by_cases he : e.status = .pending <;> simp [Element.approvePending, he, Except.map]

/-- A recorded action stays when the suggested ones are accepted, and replaces an accepted one. -/
theorem respects_takeSuggestion_action (id : String) (action : MatchAction) :
    (Edit.one id fun m : Match => .ok { m with actionTaken := some action }).Respects
      Match.takeSuggestion :=
  fun _ => rfl

theorem id_approvePending (e : Element) : Entity.id e.approvePending = Entity.id e := by
  unfold Element.approvePending
  split <;> rfl

theorem id_takeSuggestion (m : Match) : Entity.id m.takeSuggestion = Entity.id m := rfl

namespace Mutation

/-- Two mutations do not get in each other's way. -/
inductive Independent : Mutation → Mutation → Prop
  /-- They change different collections. -/
  | collections (m m' : Mutation) (h : m.collection ≠ m'.collection) : Independent m m'
  /-- They address entities with different ids. -/
  | entities (m m' : Mutation) (id id' : String) (h : m.entityId? = some id)
    (h' : m'.entityId? = some id') (hne : id ≠ id') : Independent m m'
  /-- Suggested actions are accepted, whatever else is done. -/
  | suggestions (m : Mutation) : Independent .acceptSuggestedActions m
  /-- Pending elements are approved, and the status of no element is set. -/
  | approvals (m : Mutation) (h : m.kind ≠ .setElementStatus) : Independent .approveAllPending m
  | symm (m m' : Mutation) (h : Independent m m') : Independent m' m

variable {rules : ResolutionRules} {now now' : Time.Timestamp} {m m' : Mutation}

theorem commuting_acceptSuggestedActions (m : Mutation) (s : Snapshot) :
    Commuting (acceptSuggestedActions.edit rules now).run (m.edit rules now').run s := by
  by_cases hm : EntityKind.reconciliationMatch = m.collection
  · cases m with
    | recordAction id action =>
      have hrespects := respects_takeSuggestion_action id action
      exact Edit.commuting_run (hrespects.commuting id_takeSuggestion s.reconciliation).symm
    | acceptSuggestedActions =>
      have hrespects : (Edit.all Match.takeSuggestion).Respects Match.takeSuggestion :=
        fun _ => rfl
      exact Edit.commuting_run (hrespects.commuting id_takeSuggestion s.reconciliation)
    | _ => cases hm
  · exact Edit.commuting_run_of_ne hm _ _ s

theorem commuting_approveAllPending (hm : m.kind ≠ .setElementStatus) (s : Snapshot) :
    Commuting (approveAllPending.edit rules now).run (m.edit rules now').run s := by
  by_cases hc : EntityKind.element = m.collection
  · cases m with
    | assignOwner id owner =>
      have hrespects := (respects_approvePending_owner id owner).refusedIf
        (Text.isBlank owner.name) (.blank .ownerName)
      exact Edit.commuting_run (hrespects.commuting id_approvePending s.elements).symm
    | setElementStatus id status => exact absurd rfl hm
    | approveAllPending =>
      have hrespects : (Edit.all Element.approvePending).Respects Element.approvePending :=
        fun _ => rfl
      exact Edit.commuting_run (hrespects.commuting id_approvePending s.elements)
    | _ => cases hc
  · exact Edit.commuting_run_of_ne hc _ _ s

namespace Independent

/-- The edits of independent mutations commute. -/
theorem commuting_edits (h : m.Independent m') (rules : ResolutionRules)
    (now now' : Time.Timestamp) (s : Snapshot) :
    Commuting (m.edit rules now).run (m'.edit rules now').run s := by
  induction h generalizing now now' with
  | collections m m' h => exact Edit.commuting_run_of_ne h _ _ s
  | entities m m' id id' h h' hne =>
    exact Edit.commuting_run_of_isAt (isAt_edit h) (isAt_edit h') hne s
  | suggestions m => exact commuting_acceptSuggestedActions m s
  | approvals m h => exact commuting_approveAllPending h s
  | symm m m' h ih => exact (ih now' now).symm

end Independent

end Mutation

/-! ### Independent mutations of a session -/

namespace Session

variable {σ : Session} {m : Mutation} {t : Time.Timestamp}

/-- Whether an operation succeeds, or else why it is refused. -/
def outcome (σ : Session) (op : Operation) : Except SessionError Unit :=
  (σ.perform op).map fun _ => ()

/-- A session applies a mutation by its edit. -/
theorem apply_of_run {x : Except ChangeError Snapshot}
    (h : (m.edit σ.rules t).run σ.snapshot = x) :
    σ.apply m t = (x.mapError SessionError.change).map fun s => { σ with snapshot := s } := by
  rw [← h, Mutation.run_edit, apply]
  cases m.perform σ.rules t σ.snapshot <;> rfl

theorem apply_of_run_replaced {s : Snapshot} {x : Except ChangeError Snapshot}
    (h : (m.edit σ.rules t).run s = x) :
    ({ σ with snapshot := s } : Session).apply m t =
      (x.mapError SessionError.change).map fun s => { σ with snapshot := s } :=
  apply_of_run (σ := { σ with snapshot := s }) h

end Session

namespace Mutation

/-- Independent mutations of a session commute. -/
theorem Independent.commuting_apply {m m' : Mutation} (h : m.Independent m') (σ : Session)
    (t t' : Time.Timestamp) : Commuting (fun σ => σ.apply m t) (fun σ => σ.apply m' t') σ := by
  have hedits := h.commuting_edits σ.rules t t' σ.snapshot
  cases hedits with
  | neither e e' hm hm' =>
    exact .neither (.change e) (.change e') (Session.apply_of_run hm) (Session.apply_of_run hm')
  | left s e hm hm' hms =>
    exact .left { σ with snapshot := s } (.change e) (Session.apply_of_run hm)
      (Session.apply_of_run hm') (Session.apply_of_run_replaced hms)
  | right s e hm hm' hms =>
    exact .right { σ with snapshot := s } (.change e) (Session.apply_of_run hm)
      (Session.apply_of_run hm') (Session.apply_of_run_replaced hms)
  | both s s' x hm hm' hms hms' =>
    exact .both { σ with snapshot := s } { σ with snapshot := s' } { σ with snapshot := x }
      (Session.apply_of_run hm) (Session.apply_of_run hm') (Session.apply_of_run_replaced hms)
      (Session.apply_of_run_replaced hms')

namespace IsTimed

variable {m : Mutation}

theorem apply_eq (h : m.IsTimed) (σ : Session) (t u : Time.Timestamp) :
    σ.apply m t = σ.apply m u := by
  unfold Session.apply
  rw [h.perform_eq σ.rules t u]

theorem after_eq (h : m.IsTimed) (σ : Session) (t u : Time.Timestamp) :
    σ.after (.apply m t) = σ.after (.apply m u) := by
  simp only [Session.after, Session.perform, h.apply_eq σ t u]

theorem outcome_eq (h : m.IsTimed) (σ : Session) (t u : Time.Timestamp) :
    σ.outcome (.apply m t) = σ.outcome (.apply m u) := by
  simp only [Session.outcome, Session.perform, h.apply_eq σ t u]

end IsTimed

end Mutation

namespace Session

variable {m m' : Mutation} {t t' : Time.Timestamp}

theorem after_apply_comm {σ : Session}
    (h : Commuting (fun σ => σ.apply m t) (fun σ => σ.apply m' t') σ) :
    (σ.after (.apply m t)).after (.apply m' t') = (σ.after (.apply m' t')).after (.apply m t) := by
  cases h with
  | neither e e' hm hm' => simp only [after, perform, hm, hm']
  | left c e hm hm' hc => simp only [after, perform, hm, hm', hc]
  | right d e hm hm' hd => simp only [after, perform, hm, hm', hd]
  | both c d x hm hm' hc hd => simp only [after, perform, hm, hm', hc, hd]

theorem outcome_after_apply {σ : Session}
    (h : Commuting (fun σ => σ.apply m t) (fun σ => σ.apply m' t') σ) :
    (σ.after (.apply m' t')).outcome (.apply m t) = σ.outcome (.apply m t) := by
  cases h with
  | neither e e' hm hm' => simp only [outcome, after, perform, hm, hm']
  | left c e hm hm' hc => simp only [outcome, after, perform, hm, hm']
  | right d e hm hm' hd => simp only [outcome, after, perform, hm, hm', hd]
  | both c d x hm hm' hc hd => simp only [outcome, after, perform, hm, hm', hd, Except.map]

/-- **Independent mutations can be made in either order.** At whatever times, the session is the
same in the end, and each of the two succeeds or is refused for the same reason whether or not the
other has gone first. -/
theorem apply_either_order (h : m.Independent m') (hm : m.IsTimed) (hm' : m'.IsTimed)
    (σ : Session) (t t' u u' : Time.Timestamp) :
    (σ.after (.apply m t)).after (.apply m' t') = (σ.after (.apply m' u')).after (.apply m u) ∧
      (σ.after (.apply m' u')).outcome (.apply m u) = σ.outcome (.apply m t) ∧
      (σ.after (.apply m t)).outcome (.apply m' t') = σ.outcome (.apply m' u') := by
  have hcomm := h.commuting_apply σ t t'
  rw [hm.after_eq _ u t, hm'.after_eq _ u' t', hm.outcome_eq _ u t, hm'.outcome_eq _ u' t']
  exact ⟨after_apply_comm hcomm, outcome_after_apply hcomm, outcome_after_apply hcomm.symm⟩

/-- A session with a pending element and two issues, of which one is being resolved. -/
def underReview : Session where
  snapshot := {
    elements := [
      { id := "e"
        name := ""
        status := .pending
        overallScore := ⟨90, by decide⟩
        createdAt := .epoch }]
    issues := [
      { id := "i", title := "", severity := .low, status := .resolving, createdAt := .epoch },
      { id := "j", title := "", severity := .low, status := .opened, createdAt := .epoch }] }
  rules := { minDescriptionChars := 0, minEvidence := 0 }

/-- The issue that is being resolved is handed over, with a time of its own. -/
def handingOver : Mutation :=
  .submitResolution "i" { resolutionType := some .systemFix } (some .epoch)

/-- Work on the other issue is to begin, for which it would have to be triaged. -/
def beginning : Mutation := .setIssueStatus "j" .resolving

/-- The second after the epoch. -/
def nextSecond : Time.Timestamp :=
  { Time.Timestamp.epoch with second := 1, second_lt := by decide, leap_last := by decide }

theorem apply_either_order_underReview :
    handingOver.Independent beginning ∧ handingOver.IsTimed ∧ beginning.IsTimed ∧
      (underReview.after (.apply handingOver .epoch)).after (.apply beginning .epoch) =
        (underReview.after (.apply beginning nextSecond)).after (.apply handingOver nextSecond) ∧
      (underReview.after (.apply beginning nextSecond)).outcome (.apply handingOver nextSecond) =
        .ok () ∧
      (underReview.after (.apply handingOver .epoch)).outcome (.apply beginning .epoch) =
        .error (.change (.issueStatus "j" .opened .resolving)) := by
  have hind : handingOver.Independent beginning := .entities _ _ "i" "j" rfl rfl (by decide)
  have htimed : handingOver.IsTimed := rfl
  have htimed' : beginning.IsTimed := trivial
  have hsucceeds : underReview.outcome (.apply handingOver .epoch) = .ok () := by decide
  have hfails : underReview.outcome (.apply beginning nextSecond) =
      .error (.change (.issueStatus "j" .opened .resolving)) := by decide
  obtain ⟨hsame, houtcome, houtcome'⟩ :=
    apply_either_order hind htimed htimed' underReview .epoch .epoch nextSecond nextSecond
  exact ⟨hind, htimed, htimed', hsame, houtcome.trans hsucceeds, houtcome'.trans hfails⟩

/-- A pending element can be rejected before all pending ones are approved, but not after. -/
example :
    (underReview.after (.apply (.setElementStatus "e" .rejected) .epoch)).after
        (.apply .approveAllPending .epoch) ≠
      (underReview.after (.apply .approveAllPending .epoch)).after
        (.apply (.setElementStatus "e" .rejected) .epoch) := by
  decide

/-! ### Runs of independent mutations -/

/-- Mutations with the times at which they are applied, as operations. -/
def applications (ms : List (Mutation × Time.Timestamp)) : List Operation :=
  ms.map fun a => .apply a.1 a.2

/-- Whatever independent mutations have gone before, a mutation succeeds or is refused for the same
reason. -/
theorem outcome_run (σ : Session) :
    ∀ {ms : List (Mutation × Time.Timestamp)}, (∀ a ∈ ms, m.Independent a.1) →
      (σ.run (applications ms)).outcome (.apply m t) = σ.outcome (.apply m t)
  | [], _ => rfl
  | a :: ms, h => by
    simp only [List.forall_mem_cons] at h
    have hfirst := outcome_after_apply (h.1.commuting_apply σ t a.2)
    exact (outcome_run (σ.after (.apply a.1 a.2)) h.2).trans hfirst

theorem run_applications (σ : Session) (ms : List (Mutation × Time.Timestamp)) :
    σ.run (applications ms) = ms.foldl (fun σ a => σ.after (.apply a.1 a.2)) σ :=
  List.foldl_map

/-- **Mutations of which any two are independent can be made in any order.** The session is the same
in the end, and in every order each of them succeeds or is refused as if it were the first one. -/
theorem run_perm {ms ms' : List (Mutation × Time.Timestamp)} (hperm : ms.Perm ms')
    (h : ms.Pairwise fun a b => a.1.Independent b.1) (σ : Session) :
    σ.run (applications ms') = σ.run (applications ms) ∧
      ∀ before a behind, ms' = before ++ a :: behind →
        (σ.run (applications before)).outcome (.apply a.1 a.2) = σ.outcome (.apply a.1 a.2) := by
  have hsymm : Std.Symm fun a b : Mutation × Time.Timestamp => a.1.Independent b.1 :=
    ⟨fun a b hab => .symm a.1 b.1 hab⟩
  constructor
  · rw [run_applications, run_applications]
    refine (hperm.foldl_eq' (fun a ha b hb τ => ?_) σ).symm
    by_cases hab : a = b
    · rw [hab]
    · have hind : a.1.Independent b.1 := h.forall ha hb hab
      exact after_apply_comm (hind.commuting_apply τ a.2 b.2)
  · rintro before a behind rfl
    have hpairs : (before ++ a :: behind).Pairwise fun a b => a.1.Independent b.1 :=
      (hperm.pairwise_iff (hsymm.symm _ _)).1 h
    have hbefore : ∀ b ∈ before, a.1.Independent b.1 := fun b hb =>
      hsymm.symm _ _ ((List.pairwise_append.1 hpairs).2.2 b hb a (.head _))
    exact outcome_run σ hbefore

end Session

end DataGovernance
