import DataGovernance.Proofs.Session.WellFormed
import DataGovernance.Session.Report
import Mathlib.Data.List.Nodup

/-!
# Gates and figures agree

The same facts about a snapshot are told in three ways: a gate lists the entities that hold it
closed, a summary counts the entities of a collection, and a graph counts its nodes and edges. They
agree on every snapshot. What a gate lists are the entities that fail what it asks, in their order;
for seven of the eight gates the dashboard has a figure that tells how many these are. The counters
of a summary split its total, so what is left of a total after a subtraction is a count as well.

Key definitions: `Failing`, `Gate.HeldClosedBy`, `ElementSummary.AddsUpTo`,
`IssueSummary.AddsUpTo`, `MatchSummary.AddsUpTo`, `LineageSummary.AddsUpTo`, `Dashboard.held?`.
Key theorems: `total_countP`, `counter_foldl`, `Gate.heldClosedBy_blockingIds`,
`Gate.length_blockingIds`, `Snapshot.figures_agree`.
-/

namespace DataGovernance

/-! ### Counting -/

section

variable {α κ σ : Type}

theorem total_map_add (f g : κ → Nat) : ∀ ks : List κ,
    total (ks.map fun k => f k + g k) = total (ks.map f) + total (ks.map g)
  | [] => rfl
  | k :: ks => by
    simp only [List.map_cons, total_cons, total_map_add f g ks]
    omega

theorem total_map_ite (p : κ → Bool) : ∀ ks : List κ,
    total (ks.map fun k => if p k then 1 else 0) = ks.countP p
  | [] => rfl
  | k :: ks => by
    rw [List.map_cons, total_cons, total_map_ite p ks, List.countP_cons, Nat.add_comm]

/-- Counted by keys that differ and of which each item has one, the items are all counted. -/
theorem total_countP [DecidableEq κ] {key : α → κ} {ks : List κ} (hks : ks.Nodup) :
    ∀ {as : List α}, (∀ a ∈ as, key a ∈ ks) →
      total (ks.map fun k => as.countP fun a => key a == k) = as.length
  | [], _ => by
    refine total_eq_zero_iff.2 fun n hn => ?_
    obtain ⟨k, -, rfl⟩ := List.mem_map.1 hn
    rfl
  | a :: as, h => by
    rw [List.forall_mem_cons] at h
    have hone : ks.countP (fun k => key a == k) = 1 := by
      have hcount := List.count_eq_one_of_mem hks h.1
      rw [List.count] at hcount
      rw [← hcount]
      exact List.countP_congr fun k _ => by rw [beq_iff_eq, beq_iff_eq, eq_comm]
    simp only [List.countP_cons]
    rw [total_map_add, total_countP hks h.2, total_map_ite, hone, List.length_cons]

/-- The members of a vocabulary are such keys. -/
theorem total_countP_members [Vocabulary κ] [DecidableEq κ] (key : α → κ) (as : List α) :
    total ((Vocabulary.members : List κ).map fun k => as.countP fun a => key a == k) = as.length :=
  total_countP Vocabulary.nodup_words.of_map fun a _ => Vocabulary.mem_members (key a)

/-- A counter that goes up by one at each item that satisfies a condition counts these items. -/
theorem counter_foldl {add : σ → α → σ} (counter : σ → Nat) {p : α → Bool}
    (h : ∀ s a, counter (add s a) = counter s + if p a then 1 else 0) :
    ∀ (as : List α) (s : σ), counter (as.foldl add s) = counter s + as.countP p
  | [], _ => rfl
  | a :: as, s => by
    rw [List.foldl_cons, counter_foldl counter h as, h, List.countP_cons]
    omega

/-- Items that satisfy one of two conditions are counted by the first, and by the second where they
do not satisfy the first. -/
theorem countP_or (p q : α → Bool) : ∀ as : List α,
    as.countP (fun a => p a || q a) = as.countP p + as.countP fun a => !p a && q a
  | [] => rfl
  | a :: as => by
    simp only [List.countP_cons, countP_or p q as]
    cases p a <;> cases q a <;> simp <;> omega

/-- What does not satisfy a condition is what is left besides what does. -/
theorem countP_not (p : α → Bool) (as : List α) :
    as.countP (fun a => !p a) = as.length - as.countP p := by
  have hsplit := List.length_eq_length_filter_add (l := as) p
  rw [← List.countP_eq_length_filter, ← List.countP_eq_length_filter] at hsplit
  omega

theorem length_map_filter {β : Type} (f : α → β) (p : α → Bool) (as : List α) :
    ((as.filter p).map f).length = as.countP p := by
  rw [List.length_map, ← List.countP_eq_length_filter]

end

/-! ### What gates list -/

/-- Going through a list in order, the ids of what does not meet a condition. -/
inductive Failing {α : Type} [Entity α] (Meets : α → Prop) : List α → List String → Prop
  | nil : Failing Meets [] []
  | meets (a : α) {as : List α} {ids : List String} (h : Meets a) (rest : Failing Meets as ids) :
    Failing Meets (a :: as) ids
  | fails (a : α) {as : List α} {ids : List String} (h : ¬Meets a) (rest : Failing Meets as ids) :
    Failing Meets (a :: as) (Entity.id a :: ids)

/-- A filter for what does not meet a condition lists it. -/
theorem failing_filter {α : Type} [Entity α] {Meets : α → Prop} {p : α → Bool}
    (h : ∀ a, p a = true ↔ ¬Meets a) : ∀ as : List α, Failing Meets as ((as.filter p).map Entity.id)
  | [] => .nil
  | a :: as => by
    by_cases ha : p a = true
    · rw [List.filter_cons_of_pos ha]
      exact .fails a ((h a).1 ha) (failing_filter h as)
    · rw [List.filter_cons_of_neg ha]
      exact .meets a (not_not.1 fun hn => ha ((h a).2 hn)) (failing_filter h as)

/-- The ids are those of the entities that fail what a gate asks, in the order of their
collection. -/
def Gate.HeldClosedBy (s : Snapshot) (ids : List String) : Gate → Prop
  | inventoryReview => Failing (fun e : Element => e.status ≠ .pending) s.elements ids
  | ownership => Failing (fun e : Element => ∃ o, e.owner = some o) s.elements ids
  | reconciliationComplete =>
    Failing (fun m : Match => ∃ a, m.actionTaken = some a) s.reconciliation ids
  | triageComplete => Failing (fun i : Issue => i.status ≠ .opened) s.issues ids
  | resolutionComplete => Failing (fun i : Issue => i.status ≠ .resolving) s.issues ids
  | blockingIssues =>
    Failing (fun i : Issue => i.severity = .critical → i.status ∈ [.verified, .closed, .escalated])
      s.issues ids
  | lineageLinking =>
    Failing (fun n : Node => n.businessTerms ≠ [] ∨ n.businessTermsDeferred = true)
      s.lineage.nodes ids
  | lineageApproval =>
    Failing
      (fun e : Element => e.status = .approved →
        ∃ info, e.lineageInfo = some info ∧ info.hasCompleteLineage = true)
      s.elements ids

theorem IssueStatus.isSettled_iff {t : IssueStatus} :
    t.isSettled = true ↔ t ∈ [verified, closed, escalated] := by
  cases t <;> decide

theorem Element.hasCompleteLineage_iff {e : Element} : e.hasCompleteLineage = true ↔
    ∃ info, e.lineageInfo = some info ∧ info.hasCompleteLineage = true := by
  unfold hasCompleteLineage
  cases e.lineageInfo <;> simp

/-- Out of the issues that are to be resolved, those that are being resolved are not handed over. -/
theorem Issue.unresolved_iff {i : Issue} :
    (i.status != .pendingVerification && i.isInResolution) = true ↔ i.status = .resolving := by
  unfold isInResolution
  cases i.status <;> decide

/-- What a gate lists is what holds it closed. -/
theorem Gate.heldClosedBy_blockingIds (s : Snapshot) : ∀ gate : Gate,
    gate.HeldClosedBy s (gate.blockingIds s)
  | inventoryReview => failing_filter (fun e => by simp) _
  | ownership =>
    failing_filter (fun e => by simp [Element.hasOwner, Option.eq_none_iff_forall_ne_some]) _
  | reconciliationComplete =>
    failing_filter (fun m => by simp [Match.isPending, Option.eq_none_iff_forall_ne_some]) _
  | triageComplete => failing_filter (fun i => by simp) _
  | resolutionComplete => by
    rw [blockingIds, unresolved, List.filter_filter]
    exact failing_filter (fun i => by rw [Issue.unresolved_iff, not_not]) _
  | blockingIssues =>
    failing_filter (fun i => by
      rw [Issue.isCriticalUnresolved, ← IssueStatus.isSettled_iff]
      simp) _
  | lineageLinking => failing_filter (fun n => by simp [Node.isLinkedOrDeferred]) _
  | lineageApproval => by
    rw [blockingIds, List.filter_filter]
    refine failing_filter (fun e => ?_) _
    rw [← Element.hasCompleteLineage_iff]
    simp [and_comm]

/-! ### Summaries -/

namespace IssueSummary

/-- The counter of a status. -/
def inStatus (s : IssueSummary) : IssueStatus → Nat
  | .opened => s.opened
  | .triaged => s.triaged
  | .resolving => s.resolving
  | .pendingVerification => s.pendingVerification
  | .verified => s.verified
  | .closed => s.closed
  | .escalated => s.escalated

/-- The counter of a severity. -/
def ofSeverity (s : IssueSummary) : Severity → Nat
  | .critical => s.critical
  | .high => s.high
  | .medium => s.medium
  | .low => s.low

variable (s : IssueSummary) (i : Issue) (t u : IssueStatus) (v w : Severity) (holdsUp : Bool)

@[simp] theorem inStatus_addStatus :
    (s.addStatus u).inStatus t = s.inStatus t + if u == t then 1 else 0 := by
  cases u <;> cases t <;> rfl

@[simp] theorem inStatus_addSeverity : (s.addSeverity v).inStatus t = s.inStatus t := by
  cases v <;> cases t <;> rfl

@[simp] theorem inStatus_addBlocking : (s.addBlocking holdsUp).inStatus t = s.inStatus t := by
  cases holdsUp <;> cases t <;> rfl

@[simp] theorem ofSeverity_addStatus : (s.addStatus t).ofSeverity v = s.ofSeverity v := by
  cases t <;> cases v <;> rfl

@[simp] theorem ofSeverity_addSeverity :
    (s.addSeverity w).ofSeverity v = s.ofSeverity v + if w == v then 1 else 0 := by
  cases w <;> cases v <;> rfl

@[simp] theorem ofSeverity_addBlocking : (s.addBlocking holdsUp).ofSeverity v = s.ofSeverity v := by
  cases holdsUp <;> cases v <;> rfl

@[simp] theorem blocking_addStatus : (s.addStatus t).blocking = s.blocking := by
  cases t <;> rfl

@[simp] theorem blocking_addSeverity : (s.addSeverity v).blocking = s.blocking := by
  cases v <;> rfl

@[simp] theorem blocking_addBlocking :
    (s.addBlocking holdsUp).blocking = s.blocking + if holdsUp then 1 else 0 := by
  cases holdsUp <;> rfl

theorem inStatus_add : (s.add i).inStatus t = s.inStatus t + if i.status == t then 1 else 0 := by
  simp [add]

theorem ofSeverity_add :
    (s.add i).ofSeverity v = s.ofSeverity v + if i.severity == v then 1 else 0 := by
  simp [add]

theorem blocking_add :
    (s.add i).blocking = s.blocking + if i.isCriticalUnresolved then 1 else 0 := by
  simp [add]

variable (issues : List Issue)

/-- The counter of a status counts the issues in it. -/
theorem inStatus_ofList : (ofList issues).inStatus t = issues.countP fun i => i.status == t := by
  rw [ofList, counter_foldl (inStatus · t) fun s i => inStatus_add s i t]
  cases t <;> exact Nat.zero_add _

/-- The counter of a severity counts the issues of it. -/
theorem ofSeverity_ofList :
    (ofList issues).ofSeverity v = issues.countP fun i => i.severity == v := by
  rw [ofList, counter_foldl (ofSeverity · v) fun s i => ofSeverity_add s i v]
  cases v <;> exact Nat.zero_add _

theorem blocking_ofList : (ofList issues).blocking = issues.countP Issue.isCriticalUnresolved := by
  rw [ofList, counter_foldl blocking blocking_add]
  exact Nat.zero_add _

theorem total_ofList : (ofList issues).total = issues.length := by
  have hkept : ∀ s i, (add s i).total = s.total := by
    intro s i
    unfold add addBlocking
    cases i.isCriticalUnresolved <;> cases i.severity <;> cases i.status <;> rfl
  rw [ofList, counter_foldl total (p := fun _ => false) hkept]
  simp

end IssueSummary

/-- A node that is linked or deferred is counted once, also if it is both. -/
theorem LineageSummary.linkedIn_add_deferredIn (nodes : List Node) :
    linkedIn nodes + deferredIn nodes = nodes.countP Node.isLinkedOrDeferred := by
  have hor := countP_or (fun n : Node => !n.businessTerms.isEmpty) Node.businessTermsDeferred nodes
  simp only [Bool.not_not] at hor
  exact hor.symm

/-- Of the nodes that are neither linked nor deferred there are as many as are left. -/
theorem LineageSummary.countP_not_isLinkedOrDeferred (nodes : List Node) :
    nodes.countP (fun n => !n.isLinkedOrDeferred) =
      nodes.length - linkedIn nodes - deferredIn nodes := by
  rw [countP_not, ← linkedIn_add_deferredIn, Nat.sub_sub]

/-! ### Totals -/

/-- A summary of elements tells of so many. -/
structure ElementSummary.AddsUpTo (s : ElementSummary) (n : Nat) : Prop where
  total : s.total = n
  statuses : s.pending + s.approved + s.rejected = n
  owned : s.owned ≤ n

/-- A summary of issues tells of so many. -/
structure IssueSummary.AddsUpTo (s : IssueSummary) (n : Nat) : Prop where
  total : s.total = n
  statuses : s.opened + s.triaged + s.resolving + s.pendingVerification + s.verified + s.closed +
    s.escalated = n
  severities : s.critical + s.high + s.medium + s.low = n

/-- A summary of matches tells of so many. -/
structure MatchSummary.AddsUpTo (s : MatchSummary) (n : Nat) : Prop where
  total : s.total = n
  types : s.exactly + s.partly + s.new + s.missing = n
  /-- What is subtracted from the total to get those that are decided is not more than it. -/
  pending : s.pending ≤ n
  decisions : s.decided + s.pending = n

/-- A summary of a lineage tells of so many nodes. -/
structure LineageSummary.AddsUpTo (s : LineageSummary) (n : Nat) : Prop where
  nodes : s.nodes = n
  types : s.sourceTables + s.transformations + s.stagingTables + s.reportFields = n
  /-- What is subtracted from the total to get those that are not linked is not more than it. -/
  linkedOrDeferred : s.linked + s.deferred ≤ n
  linking : s.linked + s.deferred + s.unlinked = n

theorem ElementSummary.addsUpTo_ofList (elements : List Element) :
    (ofList elements).AddsUpTo elements.length where
  total := rfl
  statuses := by
    have hall := total_countP_members Element.status elements
    change (ofList elements).pending + ((ofList elements).approved +
      ((ofList elements).rejected + 0)) = _ at hall
    omega
  owned := List.countP_le_length

theorem IssueSummary.addsUpTo_ofList (issues : List Issue) :
    (ofList issues).AddsUpTo issues.length where
  total := total_ofList issues
  statuses := by
    have hall := total_countP_members Issue.status issues
    simp only [← inStatus_ofList] at hall
    change (ofList issues).opened + ((ofList issues).triaged + ((ofList issues).resolving +
      ((ofList issues).pendingVerification + ((ofList issues).verified +
        ((ofList issues).closed + ((ofList issues).escalated + 0)))))) = _ at hall
    omega
  severities := by
    have hall := total_countP_members Issue.severity issues
    simp only [← ofSeverity_ofList] at hall
    change (ofList issues).critical + ((ofList issues).high + ((ofList issues).medium +
      ((ofList issues).low + 0))) = _ at hall
    omega

theorem MatchSummary.addsUpTo_ofList (ms : List Match) : (ofList ms).AddsUpTo ms.length where
  total := rfl
  types := by
    have hall := total_countP_members Match.matchType ms
    change (ofList ms).exactly + ((ofList ms).partly + ((ofList ms).new +
      ((ofList ms).missing + 0))) = _ at hall
    omega
  pending := List.countP_le_length
  decisions := Nat.sub_add_cancel List.countP_le_length

theorem LineageSummary.addsUpTo_ofLineage (l : Lineage) :
    (ofLineage l).AddsUpTo l.nodes.length := by
  have hle : linkedIn l.nodes + deferredIn l.nodes ≤ l.nodes.length := by
    rw [linkedIn_add_deferredIn]
    exact List.countP_le_length
  refine ⟨rfl, ?_, hle, ?_⟩
  · have hall := total_countP_members Node.nodeType l.nodes
    change (ofLineage l).sourceTables + ((ofLineage l).transformations +
      ((ofLineage l).stagingTables + ((ofLineage l).reportFields + 0))) = _ at hall
    omega
  · change linkedIn l.nodes + deferredIn l.nodes +
      (l.nodes.length - linkedIn l.nodes - deferredIn l.nodes) = _
    omega

/-! ### Gates and figures -/

/-- The figure of a dashboard that tells how many entities hold a gate closed. There is none for the
approved elements without complete lineage. -/
def Dashboard.held? (d : Dashboard) : Gate → Option Nat
  | .inventoryReview => some d.elements.pending
  | .ownership => some (d.elements.total - d.elements.owned)
  | .reconciliationComplete => some d.reconciliation.pending
  | .triageComplete => some d.issues.opened
  | .resolutionComplete => some d.issues.resolving
  | .blockingIssues => some d.issues.blocking
  | .lineageLinking => some d.lineage.unlinked
  | .lineageApproval => none

/-- The figure of a gate is the length of its list. -/
theorem Gate.length_blockingIds {s : Snapshot} {rules : ResolutionRules} {n : Nat} :
    ∀ {gate : Gate}, (Session.dashboard ⟨s, rules⟩).held? gate = some n →
      (gate.blockingIds s).length = n
  | inventoryReview, h => by
    cases h
    exact length_map_filter Element.id _ _
  | ownership, h => by
    cases h
    exact (length_map_filter Element.id _ _).trans (countP_not Element.hasOwner _)
  | reconciliationComplete, h => by
    cases h
    exact length_map_filter Match.currentId _ _
  | triageComplete, h => by
    cases h
    exact (length_map_filter Issue.id _ _).trans (IssueSummary.inStatus_ofList .opened _).symm
  | resolutionComplete, h => by
    cases h
    rw [blockingIds, unresolved, List.filter_filter, length_map_filter]
    refine Eq.trans ?_ (IssueSummary.inStatus_ofList .resolving s.issues).symm
    exact List.countP_congr fun i _ => by rw [Issue.unresolved_iff, beq_iff_eq]
  | blockingIssues, h => by
    cases h
    exact (length_map_filter Issue.id _ _).trans (IssueSummary.blocking_ofList _).symm
  | lineageLinking, h => by
    cases h
    exact (length_map_filter Node.id _ _).trans (LineageSummary.countP_not_isLinkedOrDeferred _)
  | lineageApproval, h => nomatch h

/-- **Gates, figures and graphs agree on every snapshot.** A gate lists what holds it closed and
passes when there is nothing, and where the dashboard has a figure for it, the figure tells how much
that is. The counters of each summary add up to the number of its entities, and the graph of the
lineage has as many nodes and edges as its summary says. -/
theorem Snapshot.figures_agree (s : Snapshot) (rules : ResolutionRules) :
    (∀ gate : Gate, gate.HeldClosedBy s (gate.report s).blockingIds ∧
      ((gate.report s).passed = true ↔ (gate.report s).blockingIds = []) ∧
      ∀ n, (Session.dashboard ⟨s, rules⟩).held? gate = some n →
        (gate.report s).blockingIds.length = n) ∧
    (Session.dashboard ⟨s, rules⟩).elements.AddsUpTo s.elements.length ∧
    (Session.dashboard ⟨s, rules⟩).issues.AddsUpTo s.issues.length ∧
    (Session.dashboard ⟨s, rules⟩).reconciliation.AddsUpTo s.reconciliation.length ∧
    (Session.dashboard ⟨s, rules⟩).lineage.AddsUpTo s.lineage.nodes.length ∧
    ∀ g, Graph.ofLineage s.lineage = .ok g →
      g.stats.nodeCount = (Session.dashboard ⟨s, rules⟩).lineage.nodes ∧
        g.stats.edgeCount = (Session.dashboard ⟨s, rules⟩).lineage.edges ∧
        g.stats.sourceTables = (Session.dashboard ⟨s, rules⟩).lineage.sourceTables ∧
        g.stats.reportFields = (Session.dashboard ⟨s, rules⟩).lineage.reportFields := by
  refine ⟨fun gate => ⟨gate.heldClosedBy_blockingIds s, List.isEmpty_iff, fun n h =>
    Gate.length_blockingIds h⟩, ElementSummary.addsUpTo_ofList _, IssueSummary.addsUpTo_ofList _,
    MatchSummary.addsUpTo_ofList _, LineageSummary.addsUpTo_ofLineage _, fun g hg => ?_⟩
  have hl : g.toLineage = s.lineage := Graph.toLineage_of_ofLineage hg
  simp only [Graph.stats, hl]
  exact ⟨rfl, rfl, rfl, rfl⟩

/-- One issue holds two gates closed, and of the three nodes one is both linked and deferred. -/
def crowded : Snapshot where
  issues := [
    { id := "i", title := "", severity := .critical, status := .resolving, createdAt := .epoch },
    { id := "k", title := "", severity := .critical, status := .escalated, createdAt := .epoch }]
  lineage := {
    nodes := [
      { id := "a", label := "", nodeType := .sourceTable, businessTerms := ["exposure"]
        businessTermsDeferred := true },
      { id := "b", label := "", nodeType := .reportField, businessTermsDeferred := true },
      { id := "c", label := "", nodeType := .reportField }]
    edges := [⟨"a", "b"⟩, ⟨"a", "c"⟩] }

theorem figures_agree_crowded :
    (Session.dashboard ⟨crowded, {}⟩).held? .resolutionComplete = some 1 ∧
      (Gate.resolutionComplete.report crowded).blockingIds.length = 1 ∧
      (Session.dashboard ⟨crowded, {}⟩).held? .blockingIssues = some 1 ∧
      (Gate.blockingIssues.report crowded).blockingIds.length = 1 ∧
      (Session.dashboard ⟨crowded, {}⟩).held? .lineageLinking = some 1 ∧
      (Gate.lineageLinking.report crowded).blockingIds.length = 1 ∧
      ∃ g, Graph.ofLineage crowded.lineage = .ok g ∧
        g.stats.edgeCount = (Session.dashboard ⟨crowded, {}⟩).lineage.edges := by
  obtain ⟨hgates, -, -, -, -, hgraph⟩ := Snapshot.figures_agree crowded {}
  obtain ⟨g, hg⟩ : ∃ g, Graph.ofLineage crowded.lineage = .ok g := ⟨_, rfl⟩
  exact ⟨rfl, (hgates _).2.2 _ rfl, rfl, (hgates _).2.2 _ rfl, rfl, (hgates _).2.2 _ rfl, g, hg,
    (hgraph g hg).2.1⟩

end DataGovernance
