import DataGovernance.Proofs.Session.WellFormed

/-!
# Every cycle can be completed

From each session that opens, advances and mutations that all succeed lead to the last step. What
there is left to do is counted entity by entity: an owner and a decision for an element, a settled
status for an issue, an action for a match, a deferral for a node. As long as something is left,
some mutation takes one piece of it away; once nothing is left all gates are open, and the cycle
advances to its end. The decision on an element looks at its lineage, which no mutation changes: it
is approved if its lineage is complete and rejected if not. No issue is resolved on the way, so the
rules for resolutions do not matter.

Key definitions: `Snapshot.workLeft`, `Snapshot.HasTask`, `Session.distance`, `Session.performAll`.
Key theorems: `Gate.blockingIds_eq_nil`, `Snapshot.WellFormed.hasTask`, `Session.exists_transition`,
`Session.exists_completion`.
-/

namespace DataGovernance

/-! ### What is left to do -/

/-- The changes of status until an element is decided, and approved only if its lineage is
complete. -/
def ElementStatus.workLeft (complete : Bool) : ElementStatus → Nat
  | pending => 1
  | approved => if complete then 0 else 2
  | rejected => 0

/-- The changes that an element still needs. -/
def Element.workLeft (e : Element) : Nat :=
  (if e.hasOwner then 0 else 1) + e.status.workLeft e.hasCompleteLineage

/-- An issue still needs to be settled. -/
def Issue.workLeft (i : Issue) : Nat := if i.status.isSettled then 0 else 1

/-- A match still needs an action. -/
def Match.workLeft (m : Match) : Nat := if m.isPending then 1 else 0

/-- A node still needs to be deferred. -/
def Node.workLeft (n : Node) : Nat := if n.isLinkedOrDeferred then 0 else 1

theorem Element.workLeft_le (e : Element) : e.workLeft ≤ 3 := by
  unfold workLeft
  cases e.hasOwner <;> cases e.hasCompleteLineage <;> cases e.status <;> decide

theorem Issue.workLeft_le (i : Issue) : i.workLeft ≤ 1 := by
  unfold workLeft
  split <;> decide

theorem Match.workLeft_le (m : Match) : m.workLeft ≤ 1 := by
  unfold workLeft
  split <;> decide

theorem Node.workLeft_le (n : Node) : n.workLeft ≤ 1 := by
  unfold workLeft
  split <;> decide

/-- The changes that the entities of a snapshot still need. -/
def Snapshot.workLeft (s : Snapshot) : Nat :=
  total (s.elements.map Element.workLeft) + total (s.issues.map Issue.workLeft) +
    total (s.reconciliation.map Match.workLeft) + total (s.lineage.nodes.map Node.workLeft)

theorem Element.workLeft_eq_zero_iff {e : Element} : e.workLeft = 0 ↔ e.hasOwner = true ∧
    (e.status = .rejected ∨ e.status = .approved ∧ e.hasCompleteLineage = true) := by
  unfold workLeft
  cases e.status <;> simp [ElementStatus.workLeft]

theorem Issue.workLeft_eq_zero_iff {i : Issue} : i.workLeft = 0 ↔ i.status.isSettled = true := by
  simp [workLeft]

theorem Match.workLeft_eq_zero_iff {m : Match} : m.workLeft = 0 ↔ m.isPending = false := by
  simp [workLeft]

theorem Node.workLeft_eq_zero_iff {n : Node} : n.workLeft = 0 ↔ n.isLinkedOrDeferred = true := by
  simp [workLeft]

theorem Snapshot.workLeft_eq_zero_iff {s : Snapshot} : s.workLeft = 0 ↔
    (∀ e ∈ s.elements, e.workLeft = 0) ∧ (∀ i ∈ s.issues, i.workLeft = 0) ∧
      (∀ m ∈ s.reconciliation, m.workLeft = 0) ∧ ∀ n ∈ s.lineage.nodes, n.workLeft = 0 := by
  simp only [workLeft, Nat.add_eq_zero_iff, total_eq_zero_iff, List.forall_mem_map, and_assoc]

/-- A settled issue holds none of the three gates closed that look at issues. -/
theorem Issue.not_blocking {i : Issue} (h : i.status.isSettled = true) :
    i.status ≠ .opened ∧ i.isInResolution = false ∧ i.isCriticalUnresolved = false := by
  refine ⟨?_, ?_, by simp [isCriticalUnresolved, h]⟩
  · intro ho
    simp [ho, IssueStatus.isSettled] at h
  · unfold isInResolution
    revert h
    cases i.status <;> decide

/-- Once nothing is left to do, every gate is open. -/
theorem Gate.blockingIds_eq_nil {s : Snapshot} (h : s.workLeft = 0) (gate : Gate) :
    gate.blockingIds s = [] := by
  obtain ⟨he, hi, hm, hn⟩ := Snapshot.workLeft_eq_zero_iff.1 h
  simp only [Element.workLeft_eq_zero_iff] at he
  simp only [Issue.workLeft_eq_zero_iff] at hi
  simp only [Match.workLeft_eq_zero_iff] at hm
  simp only [Node.workLeft_eq_zero_iff] at hn
  have hb := fun i hmem => Issue.not_blocking (hi i hmem)
  cases gate with
  | inventoryReview =>
    simp only [blockingIds, List.map_eq_nil_iff, List.filter_eq_nil_iff]
    intro e hmem
    rcases (he e hmem).2 with hs | ⟨hs, -⟩ <;> simp [hs]
  | ownership => simpa [blockingIds] using fun e hmem => (he e hmem).1
  | reconciliationComplete => simpa [blockingIds] using hm
  | triageComplete => simpa [blockingIds] using fun i hmem => (hb i hmem).1
  | resolutionComplete =>
    simp only [blockingIds, unresolved, List.map_eq_nil_iff, List.filter_eq_nil_iff,
      List.mem_filter, and_imp]
    intro i hmem hres
    simp [(hb i hmem).2.1] at hres
  | blockingIssues => simpa [blockingIds, blockers] using fun i hmem => (hb i hmem).2.2
  | lineageLinking => simpa [blockingIds] using hn
  | lineageApproval =>
    simp only [blockingIds, List.map_eq_nil_iff, List.filter_eq_nil_iff, List.mem_filter, and_imp]
    intro e hmem hap
    rcases (he e hmem).2 with hs | ⟨-, hl⟩
    · simp [hs] at hap
    · simp [hl]

/-! ### One piece of work -/

/-- A change that brings one entity a piece forward brings its collection a piece forward. -/
theorem exists_changeFirst {α : Type} [Entity α] {work : α → Nat} {as : List α}
    (hn : (as.map Entity.id).Nodup) {a b : α} (ha : a ∈ as) (change : α → Except ChangeError α)
    (hc : change a = .ok b) (hw : work b + 1 = work a) :
    ∃ bs, changeFirst (Entity.id a) change as = .ok bs ∧
      total (bs.map work) + 1 = total (as.map work) := by
  obtain ⟨front, back, rfl⟩ := List.append_of_mem ha
  have hfront : Entity.id a ∉ front.map Entity.id := by
    rw [List.map_append, List.map_cons, List.nodup_append] at hn
    intro hmem
    exact hn.2.2 _ hmem _ List.mem_cons_self rfl
  refine ⟨front ++ b :: back, ?_, ?_⟩
  · rw [changeFirst_append_cons rfl back hfront, hc]
    rfl
  · simp only [List.map_append, List.map_cons, total_append, total_cons]
    omega

/-- A status that is not yet what the lineage allows comes closer to it by one change. -/
theorem ElementStatus.exists_next {complete : Bool} {t : ElementStatus}
    (hw : 0 < t.workLeft complete) :
    ∃ u ∈ t.next, u.workLeft complete + 1 = t.workLeft complete := by
  cases t with
  | pending =>
    cases complete with
    | true => exact ⟨approved, by decide, rfl⟩
    | false => exact ⟨rejected, by decide, rfl⟩
  | approved =>
    -- an approval can only be taken back, the rejection comes after it
    cases complete with
    | true => simp [workLeft] at hw
    | false => exact ⟨pending, by decide, rfl⟩
  | rejected => simp [workLeft] at hw

/-- An issue that is not settled is settled by one change of its status. -/
theorem Issue.exists_status {i : Issue} (hw : 0 < i.workLeft) :
    ∃ t ∈ i.status.next, ({ i with status := t } : Issue).workLeft + 1 = i.workLeft := by
  cases hs : i.status with
  | opened | triaged | resolving =>
    exact ⟨.escalated, by decide, by simp [workLeft, hs, IssueStatus.isSettled]⟩
  | pendingVerification =>
    exact ⟨.verified, by decide, by simp [workLeft, hs, IssueStatus.isSettled]⟩
  | verified | closed | escalated => simp [workLeft, hs, IssueStatus.isSettled] at hw

/-- A text that is not blank is let through. -/
theorem requireText_bind {α : Type} {text : NamedText} {s : String}
    {next : Unit → Except ChangeError α} (h : Text.isBlank s = false) :
    requireText text s >>= next = next () := by
  rw [requireText, if_neg (by simp [h])]
  rfl

/-- Who becomes the owner of what nobody owns. -/
def steward : Owner := { name := "steward" }

namespace Snapshot

variable {s : Snapshot}

/-- Some mutation succeeds and takes one piece of the work away, whatever the rules and the time. -/
def HasTask (s : Snapshot) : Prop :=
  ∃ m t, (∀ rules now, Mutation.perform rules now s m = .ok t) ∧ t.workLeft + 1 = s.workLeft

theorem WellFormed.hasTask_of_element (hs : s.WellFormed) {e : Element} (he : e ∈ s.elements)
    (hw : 0 < e.workLeft) : s.HasTask := by
  by_cases ho : e.hasOwner = true
  · have hstatus : 0 < e.status.workLeft e.hasCompleteLineage := by
      simpa [Element.workLeft, ho] using hw
    obtain ⟨t, ht, hless⟩ := ElementStatus.exists_next hstatus
    have hput : e.putStatus t = .ok { e with status := t } := if_pos (.inr ht)
    have hone : ({ e with status := t } : Element).workLeft + 1 = e.workLeft := by
      change (if e.hasOwner then 0 else 1) + t.workLeft e.hasCompleteLineage + 1 = _
      rw [Element.workLeft, ← hless, Nat.add_assoc]
    obtain ⟨es, hes, hsum⟩ := exists_changeFirst hs.elements he _ hput hone
    refine ⟨.setElementStatus e.id t, s.putElements es, fun _ _ => ?_, ?_⟩
    · exact congrArg (s.putElements <$> ·) hes
    · simp only [workLeft, putElements]
      omega
  · have hone : ({ e with owner := some steward } : Element).workLeft + 1 = e.workLeft := by
      change 0 + e.status.workLeft e.hasCompleteLineage + 1 = _
      rw [Element.workLeft, if_neg ho]
      omega
    obtain ⟨es, hes, hsum⟩ := exists_changeFirst hs.elements he
      (fun e => .ok { e with owner := some steward }) rfl hone
    refine ⟨.assignOwner e.id steward, s.putElements es, fun _ _ => ?_, ?_⟩
    · have hassign : assignOwner e.id steward s.elements = .ok es :=
        (requireText_bind (by decide)).trans hes
      exact congrArg (s.putElements <$> ·) hassign
    · simp only [workLeft, putElements]
      omega

theorem WellFormed.hasTask_of_issue (hs : s.WellFormed) {i : Issue} (hi : i ∈ s.issues)
    (hw : 0 < i.workLeft) : s.HasTask := by
  obtain ⟨t, ht, hless⟩ := Issue.exists_status hw
  have hput : i.putStatus t = .ok { i with status := t } := if_pos (.inr ht)
  obtain ⟨is, his, hsum⟩ := exists_changeFirst hs.issues hi _ hput hless
  refine ⟨.setIssueStatus i.id t, s.putIssues is, fun _ _ => ?_, ?_⟩
  · exact congrArg (s.putIssues <$> ·) his
  · simp only [workLeft, putIssues]
    omega

theorem WellFormed.hasTask_of_match (hs : s.WellFormed) {m : Match} (hm : m ∈ s.reconciliation)
    (hw : 0 < m.workLeft) : s.HasTask := by
  have hless : ({ m with actionTaken := some .keep } : Match).workLeft + 1 = m.workLeft := by
    have hp : m.isPending = true := by simpa [Match.workLeft, Nat.pos_iff_ne_zero] using hw
    change 0 + 1 = _
    rw [Match.workLeft, if_pos hp]
  obtain ⟨ms, hms, hsum⟩ := exists_changeFirst hs.reconciliation hm
    (fun m => .ok { m with actionTaken := some .keep }) rfl hless
  refine ⟨.recordAction m.currentId .keep, s.putMatches ms, fun _ _ => ?_, ?_⟩
  · exact congrArg (s.putMatches <$> ·) hms
  · simp only [workLeft, putMatches]
    omega

theorem WellFormed.hasTask_of_node (hs : s.WellFormed) {n : Node} (hn : n ∈ s.lineage.nodes)
    (hw : 0 < n.workLeft) : s.HasTask := by
  have hl : n.isLinkedOrDeferred = false := by simpa [Node.workLeft, Nat.pos_iff_ne_zero] using hw
  let deferred (n : Node) : Node := { n with
    businessTermsDeferred := true
    deferralReason := some (Text.trimmed "next cycle") }
  have hdone : (deferred n).isLinkedOrDeferred = true := by
    simp [deferred, Node.isLinkedOrDeferred]
  have hone : (deferred n).workLeft + 1 = n.workLeft := by
    simp [Node.workLeft, hdone, hl]
  obtain ⟨ns, hns, hsum⟩ :=
    exists_changeFirst hs.nodes hn (fun n => .ok (deferred n)) rfl hone
  refine ⟨.deferBusinessTerms n.id "next cycle", s.putNodes ns, fun _ _ => ?_, ?_⟩
  · have hdefer : deferBusinessTerms n.id "next cycle" s.lineage.nodes = .ok ns :=
      (requireText_bind (by decide)).trans hns
    exact congrArg (s.putNodes <$> ·) hdefer
  · simp only [workLeft, putNodes]
    omega

/-- As long as something is left to do, some mutation succeeds and takes a piece of it away. -/
theorem WellFormed.hasTask (hs : s.WellFormed) (hw : 0 < s.workLeft) : s.HasTask := by
  by_contra hnone
  have hzero : s.workLeft = 0 := by
    refine workLeft_eq_zero_iff.2 ⟨fun e he => ?_, fun i hi => ?_, fun m hm => ?_, fun n hn => ?_⟩
    · exact Nat.eq_zero_of_not_pos fun h => hnone (hs.hasTask_of_element he h)
    · exact Nat.eq_zero_of_not_pos fun h => hnone (hs.hasTask_of_issue hi h)
    · exact Nat.eq_zero_of_not_pos fun h => hnone (hs.hasTask_of_match hm h)
    · exact Nat.eq_zero_of_not_pos fun h => hnone (hs.hasTask_of_node hn h)
  omega

end Snapshot

/-! ### The way to the end -/

theorem Step.next?_eq_none_iff {s : Step} : s.next? = none ↔ s = complete := by
  cases s <;> decide

theorem Step.position_le_complete (s : Step) : s.position ≤ complete.position := by
  cases s <;> decide

namespace Session

variable {σ τ : Session}

/-- How far a cycle is from its end: what is left to do, and the steps to go. -/
def distance (σ : Session) : Nat :=
  σ.snapshot.workLeft + (Step.complete.position - σ.step.position)

/-- An operation that moves a cycle on: an advance, or a mutation at a time. -/
def IsForward (now : Time.Timestamp) (op : Operation) : Prop :=
  op = .advance ∨ ∃ m, op = .apply m now

/-- A cycle that is not complete can be brought closer to its end. -/
theorem exists_transition (hσ : σ.snapshot.WellFormed) (hstep : σ.step ≠ .complete)
    (now : Time.Timestamp) :
    ∃ op τ, IsForward now op ∧ Transition σ op τ ∧ τ.distance + 1 = σ.distance := by
  by_cases hw : 0 < σ.snapshot.workLeft
  · obtain ⟨m, t, hm, hless⟩ := hσ.hasTask hw
    refine ⟨.apply m now, _, .inr ⟨m, rfl⟩, .applied m now t (hm _ _), ?_⟩
    have hprogress := (Mutation.effect_of_perform (hm σ.rules now)).progress_eq
    change t.workLeft + (Step.complete.position - t.progress.step.position) + 1 = _
    rw [hprogress, distance, ← hless]
    change _ = t.workLeft + 1 + (Step.complete.position - σ.snapshot.progress.step.position)
    omega
  · cases hn : σ.step.next? with
    | none => exact absurd (Step.next?_eq_none_iff.1 hn) hstep
    | some next =>
      have hopen : ∀ r ∈ σ.exitGate, r.passed = true := by
        intro r hr
        obtain ⟨gate, -, rfl⟩ := Option.map_eq_some_iff.1 hr
        exact List.isEmpty_iff.2 (gate.blockingIds_eq_nil (by omega))
      refine ⟨.advance, _, .inl rfl, .advanced next hn hopen, ?_⟩
      have hpos := Step.position_of_next? hn
      have hle := next.position_le_complete
      change σ.snapshot.workLeft + (Step.complete.position - next.position) + 1 = _
      rw [distance]
      omega

theorem Transition.version_eq {op : Operation} (h : Transition σ op τ) :
    τ.version = σ.version + 1 := by
  cases h with
  | advanced next _ _ => rfl
  | wentBack previous _ => rfl
  | applied m now s hm =>
    exact congrArg (· + 1) (Mutation.effect_of_perform hm).version_eq

/-- The session after operations one after another, of which none may fail. -/
def performAll (σ : Session) (ops : List Operation) : Except SessionError Session :=
  ops.foldlM perform σ

theorem performAll_cons_eq_ok {op : Operation} {ops : List Operation} {υ : Session} :
    σ.performAll (op :: ops) = .ok υ ↔ ∃ τ, Transition σ op τ ∧ τ.performAll ops = .ok υ := by
  rw [performAll, List.foldlM_cons]
  constructor
  · intro h
    cases hp : σ.perform op with
    | error e =>
      rw [hp] at h
      cases h
    | ok τ =>
      rw [hp] at h
      exact ⟨τ, perform_eq_ok_iff.1 hp, h⟩
  · rintro ⟨τ, ht, h⟩
    rw [perform_eq_ok_iff.2 ht]
    exact h

/-- Operations that all succeed raise the version by their number, as far as it fits. -/
theorem version_of_performAll : ∀ {ops : List Operation} {σ τ : Session},
    σ.performAll ops = .ok τ → τ.version.val = (σ.version.val + ops.length) % wordSize
  | [], σ, τ, h => by
    cases h
    exact (Nat.mod_eq_of_lt σ.version.isLt).symm
  | op :: ops, σ, υ, h => by
    obtain ⟨τ, ht, hrest⟩ := performAll_cons_eq_ok.1 h
    have hnext : τ.version.val = (σ.version.val + 1) % wordSize := by
      rw [ht.version_eq]
      exact Fin.val_add _ _
    rw [version_of_performAll hrest, hnext, Nat.mod_add_mod, List.length_cons, Nat.add_assoc,
      Nat.add_comm 1]

/-- From a session whose snapshot is well-formed, at most as many operations as it is far from its
end lead there. -/
theorem exists_performAll (now : Time.Timestamp) {σ : Session} (hσ : σ.snapshot.WellFormed) :
    ∃ ops τ, σ.performAll ops = .ok τ ∧ τ.step = .complete ∧ (∀ op ∈ ops, IsForward now op) ∧
      ops.length ≤ σ.distance := by
  by_cases hstep : σ.step = .complete
  · exact ⟨[], σ, rfl, hstep, by simp, Nat.zero_le _⟩
  · obtain ⟨op, τ, hop, ht, hcloser⟩ := exists_transition hσ hstep now
    obtain ⟨ops, υ, hperform, hend, hops, hlength⟩ :=
      exists_performAll now (hσ.of_sameIds ht.sameIds)
    refine ⟨op :: ops, υ, performAll_cons_eq_ok.2 ⟨τ, ht, hperform⟩, hend, ?_, ?_⟩
    · simpa using ⟨hop, hops⟩
    · rw [List.length_cons]
      omega
termination_by σ.distance

/-- A cycle is at most eleven steps from its end, with three changes for an element and one for
every other entity. -/
theorem distance_le (σ : Session) : σ.distance ≤ 11 + σ.snapshot.elements.length * 3 +
    σ.snapshot.issues.length + σ.snapshot.reconciliation.length +
    σ.snapshot.lineage.nodes.length := by
  have he := total_map_le σ.snapshot.elements Element.workLeft_le
  have hi := total_map_le σ.snapshot.issues Issue.workLeft_le
  have hm := total_map_le σ.snapshot.reconciliation Match.workLeft_le
  have hn := total_map_le σ.snapshot.lineage.nodes Node.workLeft_le
  have hstep : Step.complete.position = 11 := by decide
  rw [distance, Snapshot.workLeft, hstep]
  omega

/-- **There are no dead ends.** From every session that has opened, under whatever rules and at
whatever time, some advances and mutations all succeed one after another and leave the cycle
complete. Their number is bounded by the size of the snapshot, and so long as the version has room
for it each raises the version by one. -/
theorem exists_completion {s : Snapshot} {rules : ResolutionRules} (h : new s rules = .ok σ)
    (now : Time.Timestamp) :
    ∃ ops τ, σ.performAll ops = .ok τ ∧ τ.step = .complete ∧
      (∀ op ∈ ops, op = .advance ∨ ∃ m, op = .apply m now) ∧
      ops.length ≤ 11 + s.elements.length * 3 + s.issues.length + s.reconciliation.length +
        s.lineage.nodes.length ∧
      (s.version.val + ops.length < wordSize → τ.version.val = s.version.val + ops.length) := by
  obtain ⟨hs, rfl⟩ := new_eq_ok_iff.1 h
  obtain ⟨ops, τ, hperform, hend, hops, hlength⟩ :=
    exists_performAll now (σ := ⟨s, rules⟩) hs
  refine ⟨ops, τ, hperform, hend, hops, Nat.le_trans hlength (distance_le _), fun hroom => ?_⟩
  rw [version_of_performAll hperform]
  exact Nat.mod_eq_of_lt hroom

/-- A cycle in which every gate is closed. -/
def unfinished : Snapshot where
  version := 7
  progress := ⟨.inventoryApproval⟩
  elements := [
    { id := "e", name := "", status := .approved, overallScore := .last 255, createdAt := .epoch },
    { id := "f", name := "", status := .pending, overallScore := .last 255, createdAt := .epoch }]
  issues := [
    { id := "i", title := "", severity := .critical, status := .resolving, createdAt := .epoch },
    { id := "j", title := "", severity := .low, status := .opened, createdAt := .epoch }]
  reconciliation := [{ currentId := "e", matchType := .new }]
  lineage := { nodes := [{ id := "a", label := "", nodeType := .sourceTable }] }

/-- Rules that no resolution can keep. -/
def unmeetable : ResolutionRules where
  minDescriptionChars := 18446744073709551615
  minEvidence := 18446744073709551615

theorem exists_completion_unfinished :
    new unfinished unmeetable = .ok ⟨unfinished, unmeetable⟩ ∧
      ∃ ops τ, performAll ⟨unfinished, unmeetable⟩ ops = .ok τ ∧ τ.step = .complete ∧
        (∀ op ∈ ops, op = .advance ∨ ∃ m, op = .apply m .epoch) ∧ ops.length ≤ 21 ∧
        τ.version.val = 7 + ops.length := by
  have hopen : new unfinished unmeetable = .ok ⟨unfinished, unmeetable⟩ := rfl
  obtain ⟨ops, τ, hperform, hend, hops, hlength, hversion⟩ := exists_completion hopen .epoch
  have hlength' : ops.length ≤ 21 := hlength
  have hroom : unfinished.version.val + ops.length < wordSize := by
    change 7 + ops.length < 18446744073709551616
    omega
  exact ⟨hopen, ops, τ, hperform, hend, hops, hlength', hversion hroom⟩

end Session

end DataGovernance
