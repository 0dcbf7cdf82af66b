import DataGovernance.Proofs.Session.StatusHistory

/-!
# Statuses of issues set by hand

A status is set on the issue that is found by an id, if it may follow the one there, and nothing
else of the issue changes. So where every other mutation of an issue keeps a property, an operation
keeps it of all issues exactly when it does not set the status on one that lacks the property with
it.

Key definition: `Session.SetsAgainst`.
Key theorems: `setIssueStatus_eq_ok`, `setIssueStatus_of_find?`, `Session.after_forall_issues_iff`.
-/

namespace DataGovernance

variable {id : String} {t : IssueStatus} {is js : List Issue} {i : Issue}

/-- A status is set on the issue that is found by the id, if it may follow the one there. -/
theorem setIssueStatus_eq_ok (h : setIssueStatus id t is = .ok js) :
    ∃ front i back, is = front ++ i :: back ∧ is.find? (fun j => j.id == id) = some i ∧
      i.status.Follows t ∧ js = front ++ { i with status := t } :: back := by
  obtain ⟨front, i, j, back, rfl, hfront, hid, hput, rfl⟩ := changeFirst_eq_ok h
  obtain ⟨ht, rfl⟩ := putStatus_eq_ok hput
  exact ⟨front, i, back, rfl, find?_append_cons back hfront hid, ht.imp_left Eq.symm, rfl⟩

/-- A status that may follow the one of the issue found by the id is set on it. -/
theorem setIssueStatus_of_find? (hfind : is.find? (fun j => j.id == id) = some i)
    (ht : i.status.Follows t) :
    ∃ js, setIssueStatus id t is = .ok js ∧ { i with status := t } ∈ js := by
  obtain ⟨hid, front, back, rfl, hfront⟩ := List.find?_eq_some_iff_append.1 hfind
  have hid' : i.id = id := by simpa using hid
  have hnot : id ∉ front.map Entity.id := by
    intro hmem
    obtain ⟨j, hj, he⟩ := List.mem_map.1 hmem
    have hne := hfront j hj
    have he' : j.id = id := he
    simp [he'] at hne
  have hput : i.putStatus t = .ok { i with status := t } := by
    unfold Issue.putStatus
    rw [if_pos (ht.imp_left Eq.symm)]
  refine ⟨front ++ { i with status := t } :: back, ?_, by simp⟩
  rw [setIssueStatus, changeFirst_append_cons hid' back hnot, hput]
  rfl

namespace Session

variable {σ τ : Session} {op : Operation} {P : Issue → Prop}

/-- The operation sets a status on an issue that lacks a property with it. -/
def SetsAgainst (σ : Session) (P : Issue → Prop) (t : IssueStatus) (op : Operation) : Prop :=
  ∃ id now i, op = .apply (.setIssueStatus id t) now ∧
    σ.snapshot.issues.find? (fun j => j.id == id) = some i ∧
    i.status.Follows t ∧ ¬P { i with status := t }

theorem SetsAgainst.breaks (h : σ.SetsAgainst P t op) :
    ¬∀ i ∈ (σ.after op).snapshot.issues, P i := by
  obtain ⟨id, now, i, rfl, hfind, ht, hbad⟩ := h
  obtain ⟨js, hset, hmem⟩ := setIssueStatus_of_find? hfind ht
  have hperform : (Mutation.setIssueStatus id t).perform σ.rules now σ.snapshot =
      .ok (σ.snapshot.putIssues js) := by
    simp only [Mutation.perform, hset]
    rfl
  have hafter : σ.perform (.apply (.setIssueStatus id t) now) = .ok _ :=
    perform_eq_ok_iff.2 (.applied _ now _ hperform)
  simp only [after, hafter]
  exact fun hall => hbad (hall _ hmem)

/-- Setting a status keeps a property that the issue has with it. -/
theorem forall_of_setIssueStatus (hσ : ∀ i ∈ σ.snapshot.issues, P i) {now : Time.Timestamp}
    (h : setIssueStatus id t σ.snapshot.issues = .ok is)
    (hn : ¬σ.SetsAgainst P t (.apply (.setIssueStatus id t) now)) : ∀ i ∈ is, P i := by
  obtain ⟨front, i, back, hs, hfind, ht, rfl⟩ := setIssueStatus_eq_ok h
  have hold : ∀ k ∈ front ++ i :: back, P k := hs ▸ hσ
  simp only [List.forall_mem_append, List.forall_mem_cons] at hold ⊢
  refine ⟨hold.1, ?_, hold.2.2⟩
  by_contra hbad
  exact hn ⟨id, now, i, rfl, hfind, ht, hbad⟩

section

variable (hkeep : ∀ {now : Time.Timestamp} {m : Mutation} {i j : Issue},
  IssueChange σ.rules now m i j → (∀ id, m ≠ .setIssueStatus id t) → P i → P j)
include hkeep

theorem Transition.forall_issues (h : Transition σ op τ) (hσ : ∀ i ∈ σ.snapshot.issues, P i)
    (hn : ¬σ.SetsAgainst P t op) : ∀ i ∈ τ.snapshot.issues, P i := by
  cases h with
  | advanced next _ _ => exact hσ
  | wentBack previous _ => exact hσ
  | applied m now s hm =>
    by_cases hset : ∃ id, m = .setIssueStatus id t
    · obtain ⟨id, rfl⟩ := hset
      obtain ⟨is, his, rfl⟩ := map_eq_ok hm
      exact forall_of_setIssueStatus hσ his hn
    · have hnot : ∀ id, m ≠ .setIssueStatus id t := fun id he => hset ⟨id, he⟩
      cases Mutation.effect_of_perform hm with
      | elements es _ => exact hσ
      | issues is his => exact his.forall_mem (fun i j hij => hkeep hij hnot) hσ
      | reconciliation ms _ => exact hσ
      | nodes ns _ => exact hσ

/-- **Where all other mutations keep a property, an operation keeps it of all issues exactly when it
does not set the status against it.** -/
theorem after_forall_issues_iff (hσ : ∀ i ∈ σ.snapshot.issues, P i) (op : Operation) :
    (∀ i ∈ (σ.after op).snapshot.issues, P i) ↔ ¬σ.SetsAgainst P t op := by
  constructor
  · exact fun h hsets => hsets.breaks h
  · intro hn
    rcases after_cases σ op with he | ht
    · rwa [he]
    · exact ht.forall_issues hkeep hσ hn

end

end Session

end DataGovernance
