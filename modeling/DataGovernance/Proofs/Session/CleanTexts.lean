import DataGovernance.Proofs.Session.WellFormed
import DataGovernance.Proofs.Text.Clean

/-!
# Texts stay clean

Texts come from outside as people write them. A mutation refuses those that are blank and trims the
others before it stores them; only the name of an owner is stored as it is. A node is deferred
exactly when it has a reason for that: linking takes both away and deferring sets both. So a
snapshot whose texts are clean stays so over every run.

Key definitions: `Element.IsClean`, `Issue.IsClean`, `Node.IsClean`, `Snapshot.IsClean`.
Key theorems: `Session.Changes.isClean`, `Session.isClean_run`, `Session.terms_of_apply`,
`Session.texts_stay_clean`.
-/

namespace DataGovernance

/-! ### Clean entities -/

/-- The name of the owner of an element is not blank. -/
def Element.IsClean (e : Element) : Prop := ∀ o, e.owner = some o → Text.isBlank o.name = false

/-- The assignee of an issue is clean. -/
def Issue.IsClean (i : Issue) : Prop := ∀ a, i.assignee = some a → Text.IsClean a

/-- The terms of a node are clean and differ, and it is deferred for a clean reason or not at
all. -/
structure Node.IsClean (n : Node) : Prop where
  terms : ∀ t ∈ n.businessTerms, Text.IsClean t
  distinct : n.businessTerms.Nodup
  deferred : n.businessTermsDeferred = true ↔ ∃ r, n.deferralReason = some r
  reason : ∀ r, n.deferralReason = some r → Text.IsClean r

/-- The texts of a snapshot are clean. -/
structure Snapshot.IsClean (s : Snapshot) : Prop where
  elements : ∀ e ∈ s.elements, e.IsClean
  issues : ∀ i ∈ s.issues, i.IsClean
  nodes : ∀ n ∈ s.lineage.nodes, n.IsClean

theorem ElementChange.isClean {m : Mutation} {e f : Element} (h : ElementChange m e f)
    (he : e.IsClean) : f.IsClean := by
  cases h with
  | owner o e ho =>
    rintro _ ⟨⟩
    exact ho
  | status t e ht => exact he
  | approved e hs => exact he

theorem IssueChange.isClean {rules : ResolutionRules} {now : Time.Timestamp} {m : Mutation}
    {i j : Issue} (h : IssueChange rules now m i j) (hi : i.IsClean) : j.IsClean := by
  cases h with
  | assignee name i hn =>
    rintro _ ⟨⟩
    exact Text.isClean_trimmed hn
  | status | priority | suggestion | handedOver | accepted | sentBack => exact hi

/-- Linking and deferring each write both whether a node is deferred and why. -/
theorem NodeChange.isClean {m : Mutation} {a b : Node} (h : NodeChange m a b) (ha : a.IsClean) :
    b.IsClean := by
  cases h with
  | linked terms a ht =>
    exact {
      terms := fun t ht => isClean_of_mem_cleanTerms ht
      distinct := (listsOnce_cleanTerms terms).nodup
      deferred := by simp
      reason := by simp }
  | deferred reason a hr =>
    exact {
      terms := ha.terms
      distinct := ha.distinct
      deferred := by simp
      reason := by
        rintro _ ⟨⟩
        exact Text.isClean_trimmed hr }

namespace Session

variable {σ τ : Session}

/-! ### Clean snapshots -/

/-- No change of a session makes a clean text unclean. -/
theorem Changes.isClean (h : Changes σ τ) (hσ : σ.snapshot.IsClean) : τ.snapshot.IsClean where
  elements := h.elements.forall_mem (fun _ _ ⟨_, he⟩ => he.isClean) hσ.elements
  issues := h.issues.forall_mem (fun _ _ ⟨_, _, hi⟩ => hi.isClean) hσ.issues
  nodes := h.nodes.forall_mem (fun _ _ ⟨_, hn⟩ => hn.isClean) hσ.nodes

theorem isClean_run (ops : List Operation) (h : σ.snapshot.IsClean) :
    (σ.run ops).snapshot.IsClean :=
  run_induction (P := fun τ => τ.snapshot.IsClean) (fun _ _ _ ht hσ => ht.changes.isClean hσ) ops h

/-- A node that has been linked has the given terms, trimmed and without blank ones, each once. -/
theorem terms_of_apply {id : String} {terms : List String} {now : Time.Timestamp}
    (h : σ.apply (.linkBusinessTerms id terms) now = .ok τ) :
    ∃ n, τ.snapshot.lineage.nodes.find? (fun k => k.id == id) = some n ∧
      n.businessTerms = cleanTerms terms := by
  obtain ⟨s, hs, rfl⟩ := apply_eq_ok_iff.1 h
  obtain ⟨ns, hns, rfl⟩ := map_eq_ok hs
  unfold linkBusinessTerms at hns
  split at hns
  · cases hns
  · obtain ⟨a, b, -, hab, hb⟩ := find?_of_changeFirst (fun a b hab => by cases hab; rfl) hns
    refine ⟨b, hb, ?_⟩
    cases hab
    rfl

/-- **Texts stay clean.** Over every run of a session whose texts are clean they stay so, whatever
texts its mutations bring. After a node has been linked, its terms are those of the given ones that
are not blank, trimmed, in the order in which they first occur. -/
theorem texts_stay_clean (σ : Session) :
    (σ.snapshot.IsClean → ∀ ops, (σ.run ops).snapshot.IsClean) ∧
    ∀ id terms now τ, σ.apply (.linkBusinessTerms id terms) now = .ok τ →
      ∃ n, τ.snapshot.lineage.nodes.find? (fun k => k.id == id) = some n ∧
        Text.ListsOnce (fun t => Text.isBlank t = false) (terms.map Text.trimmed)
          n.businessTerms := by
  refine ⟨fun h ops => isClean_run ops h, fun id terms now τ h => ?_⟩
  obtain ⟨n, hn, hterms⟩ := terms_of_apply h
  exact ⟨n, hn, hterms ▸ listsOnce_cleanTerms terms⟩

/-- Terms as people write them, two of them blank and one of them twice. -/
def writtenTerms : List String := [" exposure\u0085", "", "rating", "\t", "exposure"]

/-- One node is deferred and the other linked; an issue is given to nobody, which is refused. -/
def writtenRun : List Operation := [
  .apply (.deferBusinessTerms "a" "\u3000vendor feed ") .epoch,
  .apply (.assignIssue "i" " ") .epoch,
  .apply (.linkBusinessTerms "b" writtenTerms) .epoch]

theorem texts_stay_clean_joined :
    joined.IsClean ∧ (run ⟨joined, {}⟩ writtenRun).snapshot.IsClean ∧
      ∃ τ, apply ⟨joined, {}⟩ (.linkBusinessTerms "b" writtenTerms) .epoch = .ok τ ∧
        ∃ n, τ.snapshot.lineage.nodes.find? (fun k => k.id == "b") = some n ∧
          Text.ListsOnce (fun t => Text.isBlank t = false) (writtenTerms.map Text.trimmed)
            n.businessTerms := by
  have hclean : joined.IsClean := by
    constructor
    · simp [joined]
    · simp [joined, Issue.IsClean]
    · simp only [joined, List.forall_mem_cons]
      exact ⟨⟨by simp, by simp, by simp, by simp⟩, ⟨by simp, by simp, by simp, by simp⟩,
        List.forall_mem_nil _⟩
  have hlink : apply ⟨joined, {}⟩ (.linkBusinessTerms "b" writtenTerms) .epoch =
      .ok (after ⟨joined, {}⟩ (.apply (.linkBusinessTerms "b" writtenTerms) .epoch)) := by decide
  obtain ⟨hrun, hterms⟩ := texts_stay_clean ⟨joined, {}⟩
  exact ⟨hclean, hrun hclean writtenRun, _, hlink, hterms _ _ _ _ hlink⟩

end Session

end DataGovernance
