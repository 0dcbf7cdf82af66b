import DataGovernance.Proofs.Session.WellFormed
import Mathlib.Data.List.Chain

/-!
# Statuses over a run

Six mutations write a status, and three of them do not ask which statuses may follow the one that
is there. Yet each demands of the old status what makes the new one follow it. So the statuses that
an element or an issue has in the states of a run are a path along the edges of its machine, and
what no path does, no run does: an issue that is closed stays closed, none is opened again, none is
closed without having waited for verification and having been verified, and a rejected element is
not approved before it is pending again.

Key definitions: `ElementStatus.Follows`, `IssueStatus.Follows`, `Session.states`,
`ElementStatus.IsHistory`, `IssueStatus.IsHistory`.
Key theorems: `exists_between`, `Session.exists_history`, `Session.run_statuses`.
-/

namespace DataGovernance

/-! ### Paths through a machine -/

section

variable {β : Type} {R : β → β → Prop}

/-- A path that leaves a set takes the only way out before it gets anywhere else. -/
theorem exists_between {S : β → Prop} {c : β} (hout : ∀ x y, R x y → S x → S y ∨ y = c) {b : β}
    (hb : ¬S b) (hbc : b ≠ c) : ∀ {a : β} {mid back : List β},
      (a :: (mid ++ b :: back)).IsChain R → S a → ∃ mid₁ mid₂, mid = mid₁ ++ c :: mid₂
  | a, [], back, h, ha => by
    rw [List.nil_append, List.isChain_cons_cons] at h
    rcases hout a b h.1 ha with hs | hc
    · exact absurd hs hb
    · exact absurd hc hbc
  | a, x :: mid, back, h, ha => by
    rw [List.cons_append, List.isChain_cons_cons] at h
    rcases hout a x h.1 ha with hx | rfl
    · obtain ⟨mid₁, mid₂, rfl⟩ := exists_between hout hb hbc h.2 hx
      exact ⟨x :: mid₁, mid₂, rfl⟩
    · exact ⟨[], mid, rfl⟩

end

/-- A status of an element stays or is followed by one that may come next. -/
def ElementStatus.Follows (t u : ElementStatus) : Prop := u = t ∨ u ∈ t.next

instance (t u : ElementStatus) : Decidable (t.Follows u) :=
  inferInstanceAs (Decidable (u = t ∨ u ∈ t.next))

/-- How the status of an element may go. -/
structure ElementStatus.IsHistory (path : List ElementStatus) : Prop where
  steps : path.IsChain Follows
  /-- Between a rejection and an approval the element is pending. -/
  reviewedAgain : ∀ front mid back,
    path = front ++ .rejected :: (mid ++ .approved :: back) → .pending ∈ mid

/-- All an element's history needs is that each status follows the one before. -/
theorem ElementStatus.isHistory_of_isChain {path : List ElementStatus}
    (h : path.IsChain Follows) : IsHistory path where
  steps := h
  reviewedAgain := by
    rintro front mid back rfl
    have hout : ∀ t u : ElementStatus, Follows t u → t = rejected → u = rejected ∨ u = pending := by
      rintro t u htu rfl
      revert htu
      cases u <;> decide
    obtain ⟨mid₁, mid₂, rfl⟩ :=
      exists_between hout (by decide : approved ≠ rejected) (by decide) h.right_of_append rfl
    simp

namespace IssueStatus

/-- A status of an issue stays or is followed by one that may come next. -/
def Follows (t u : IssueStatus) : Prop := u = t ∨ u ∈ t.next

instance (t u : IssueStatus) : Decidable (t.Follows u) :=
  inferInstanceAs (Decidable (u = t ∨ u ∈ t.next))

/-- An issue in this state has not been handed over yet. -/
def IsAtWork (t : IssueStatus) : Prop := t ∈ [opened, triaged, resolving, escalated]

instance (t : IssueStatus) : Decidable t.IsAtWork :=
  inferInstanceAs (Decidable (t ∈ [opened, triaged, resolving, escalated]))

/-- How the status of an issue may go. -/
structure IsHistory (path : List IssueStatus) : Prop where
  steps : path.IsChain Follows
  /-- Nothing follows the end. -/
  closed : ∀ front back, path = front ++ closed :: back → ∀ t ∈ back, t = closed
  /-- Nothing leads back to the beginning. -/
  opened : ∀ front back, path = front ++ opened :: back → ∀ t ∈ front, t = opened
  /-- Between being worked on and being closed the issue waits for verification and then is
  verified. -/
  verified : ∀ front t mid back, path = front ++ t :: (mid ++ .closed :: back) → t.IsAtWork →
    List.Sublist [pendingVerification, verified] mid

theorem Follows.of_closed {t u : IssueStatus} (h : Follows t u) (ht : t = closed) : u = closed := by
  subst ht
  revert h
  cases u <;> decide

theorem Follows.of_opened {t u : IssueStatus} (h : Follows t u) (hu : u = opened) : t = opened := by
  subst hu
  revert h
  cases t <;> decide

/-- Work on an issue ends with the hand-over. -/
theorem Follows.of_isAtWork {t u : IssueStatus} (h : Follows t u) (ht : t.IsAtWork) :
    u.IsAtWork ∨ u = pendingVerification := by
  revert h ht
  cases t <;> cases u <;> decide

/-- An issue that has been handed over is verified or goes back to work. -/
theorem Follows.of_isAtWork_or {t u : IssueStatus} (h : Follows t u)
    (ht : t.IsAtWork ∨ t = pendingVerification) :
    (u.IsAtWork ∨ u = pendingVerification) ∨ u = verified := by
  revert h ht
  cases t <;> cases u <;> decide

theorem sublist_of_isChain {t : IssueStatus} {mid back : List IssueStatus}
    (h : (t :: (mid ++ closed :: back)).IsChain Follows) (ht : t.IsAtWork) :
    List.Sublist [pendingVerification, verified] mid := by
  obtain ⟨mid₁, mid₂, rfl⟩ :=
    exists_between (fun _ _ => Follows.of_isAtWork) (by decide : ¬closed.IsAtWork) (by decide) h ht
  -- the second way out is looked for behind the first
  rw [List.append_assoc, List.cons_append, ← List.cons_append] at h
  obtain ⟨mid₃, mid₄, rfl⟩ :=
    exists_between (S := fun t => t.IsAtWork ∨ t = pendingVerification)
      (fun _ _ => Follows.of_isAtWork_or) (by decide) (by decide) h.right_of_append (.inr rfl)
  simp

/-- All an issue's history needs is that each status follows the one before. -/
theorem isHistory_of_isChain {path : List IssueStatus} (h : path.IsChain Follows) :
    IsHistory path where
  steps := h
  closed := by
    rintro front back rfl
    exact h.right_of_append.cons_induction (· = .closed) back (fun _ _ => Follows.of_closed) rfl
  opened := by
    rintro front back rfl
    exact (List.isChain_split.1 h).1.backwards_concat_induction (· = .opened) front
      (fun _ _ => Follows.of_opened) rfl
  verified := by
    rintro front t mid back rfl ht
    exact sublist_of_isChain h.right_of_append ht

end IssueStatus

/-! ### Statuses in a snapshot -/

/-- The status of the element with an id. -/
def Snapshot.elementStatus? (s : Snapshot) (id : String) : Option ElementStatus :=
  (s.elements.find? fun e => e.id == id).map Element.status

/-- The status of the issue with an id. -/
def Snapshot.issueStatus? (s : Snapshot) (id : String) : Option IssueStatus :=
  (s.issues.find? fun i => i.id == id).map Issue.status

/-- Where keys differ, what is found by a key is what has it. -/
theorem find?_key {α : Type} {key : α → String} : ∀ {as : List α}, (as.map key).Nodup →
    ∀ {a : α}, a ∈ as → (as.find? fun b => key b == key a) = some a
  | [], _, _, ha => absurd ha List.not_mem_nil
  | b :: as, hn, a, ha => by
    rw [List.map_cons, List.nodup_cons] at hn
    rcases List.mem_cons.1 ha with rfl | ha
    · exact List.find?_cons_of_pos (by simp)
    · have hne : key b ≠ key a := fun he => hn.1 (he ▸ List.mem_map_of_mem ha)
      rw [List.find?_cons_of_neg (by simpa using hne), find?_key hn.2 ha]

theorem ElementChange.follows {m : Mutation} {e f : Element} (h : ElementChange m e f) :
    e.status.Follows f.status := by
  cases h with
  | owner o e ho => exact .inl rfl
  | status t e ht => exact ht.imp Eq.symm id
  | approved e he => exact .inr (by simp [he, ElementStatus.next])

theorem IssueChange.follows {rules : ResolutionRules} {now : Time.Timestamp} {m : Mutation}
    {i j : Issue} (h : IssueChange rules now m i j) : i.status.Follows j.status := by
  cases h with
  | status t i ht => exact ht.imp Eq.symm id
  | assignee name i hn => exact .inl rfl
  | priority p i => exact .inl rfl
  | suggestion p i hp ht => exact ht.imp Eq.symm id
  | handedOver r time i hr hi => exact .inr (by simp [hi, IssueStatus.next])
  | accepted i hi => exact .inr (by simp [hi, IssueStatus.next])
  | sentBack i hi => exact .inr (by simp [hi, IssueStatus.next])

/-- What is found in an altered collection has the status that was found before, or one that
follows it. -/
theorem Altered.rel_status {α β : Type} {change : α → α → Prop} {R : β → β → Prop}
    {key : α → String} {status : α → β} (hkey : ∀ a b, change a b → key b = key a)
    (hrefl : ∀ t, R t t) (hstatus : ∀ a b, change a b → R (status a) (status b)) (k : String)
    {as bs : List α} (h : Altered change as bs) :
    Option.Rel R ((as.find? fun a => key a == k).map status)
      ((bs.find? fun b => key b == k).map status) := by
  have hrel := h.rel_find? hkey k
  generalize as.find? _ = x at hrel
  generalize bs.find? _ = y at hrel
  cases hrel with
  | none => exact .none
  | some hab =>
    rcases hab with rfl | hab
    · exact .some (hrefl _)
    · exact .some (hstatus _ _ hab)

namespace Session

variable {σ τ : Session}

theorem Changes.elementStatus (h : Changes σ τ) (id : String) :
    Option.Rel ElementStatus.Follows (σ.snapshot.elementStatus? id)
      (τ.snapshot.elementStatus? id) :=
  h.elements.rel_status (fun _ _ ⟨_, he⟩ => he.id_eq) (fun _ => .inl rfl)
    (fun _ _ ⟨_, he⟩ => he.follows) id

theorem Changes.issueStatus (h : Changes σ τ) (id : String) :
    Option.Rel IssueStatus.Follows (σ.snapshot.issueStatus? id) (τ.snapshot.issueStatus? id) :=
  h.issues.rel_status (fun _ _ ⟨_, _, hi⟩ => hi.id_eq) (fun _ => .inl rfl)
    (fun _ _ ⟨_, _, hi⟩ => hi.follows) id

/-! ### Statuses over a run -/

/-- The states of a run, the first and the last included. -/
def states (σ : Session) (ops : List Operation) : List Session := ops.scanl after σ

@[simp] theorem states_nil (σ : Session) : σ.states [] = [σ] := List.scanl_nil

@[simp] theorem states_cons (σ : Session) (op : Operation) (ops : List Operation) :
    σ.states (op :: ops) = σ :: (σ.after op).states ops := List.scanl_cons

/-- What every transition takes to something related is found in every state of a run, and related
from each state to the next. -/
theorem exists_history {β : Type} {R : β → β → Prop} {f : Session → Option β}
    (hrefl : ∀ b, R b b) (hf : ∀ σ op τ, Transition σ op τ → Option.Rel R (f σ) (f τ)) :
    ∀ (ops : List Operation) {σ : Session} {b : β}, f σ = some b →
      ∃ later, (σ.states ops).map f = (b :: later).map some ∧ (b :: later).IsChain R
  | [], σ, b, h => ⟨[], by simp [h], .singleton b⟩
  | op :: ops, σ, b, h => by
    have hnext : ∃ c, f (σ.after op) = some c ∧ R b c := by
      rcases after_cases σ op with he | ht
      · exact ⟨b, by rw [he, h], hrefl b⟩
      · have hrel := hf σ op _ ht
        rw [h] at hrel
        generalize f (σ.after op) = y at hrel
        cases hrel with
        | some hbc => exact ⟨_, rfl, hbc⟩
    obtain ⟨c, hc, hbc⟩ := hnext
    obtain ⟨later, hmap, hchain⟩ := exists_history hrefl hf ops hc
    exact ⟨c :: later, by simp [h, hmap], .cons_cons hbc hchain⟩

/-- **Statuses move along the edges of their machines.** Over every run of a session that has opened
on a snapshot, each element and each issue of that snapshot has a status in every state, the first
being the one it opened with, and these statuses are a history that its machine allows. -/
theorem run_statuses {s : Snapshot} {rules : ResolutionRules} (h : new s rules = .ok σ)
    (ops : List Operation) :
    (∀ e ∈ s.elements, ∃ later,
      (σ.states ops).map (fun τ => τ.snapshot.elementStatus? e.id) =
          (e.status :: later).map some ∧
        ElementStatus.IsHistory (e.status :: later)) ∧
    (∀ i ∈ s.issues, ∃ later,
      (σ.states ops).map (fun τ => τ.snapshot.issueStatus? i.id) = (i.status :: later).map some ∧
        IssueStatus.IsHistory (i.status :: later)) := by
  obtain ⟨hs, rfl⟩ := new_eq_ok_iff.1 h
  constructor
  · intro e he
    have hstart : (⟨s, rules⟩ : Session).snapshot.elementStatus? e.id = some e.status := by
      rw [Snapshot.elementStatus?, find?_key hs.elements he, Option.map_some]
    obtain ⟨later, hmap, hchain⟩ :=
      exists_history (f := fun τ => τ.snapshot.elementStatus? e.id) (fun _ => .inl rfl)
        (fun _ _ _ ht => ht.changes.elementStatus e.id) ops hstart
    exact ⟨later, hmap, ElementStatus.isHistory_of_isChain hchain⟩
  · intro i hi
    have hstart : (⟨s, rules⟩ : Session).snapshot.issueStatus? i.id = some i.status := by
      rw [Snapshot.issueStatus?, find?_key hs.issues hi, Option.map_some]
    obtain ⟨later, hmap, hchain⟩ :=
      exists_history (f := fun τ => τ.snapshot.issueStatus? i.id) (fun _ => .inl rfl)
        (fun _ _ _ ht => ht.changes.issueStatus i.id) ops hstart
    exact ⟨later, hmap, IssueStatus.isHistory_of_isChain hchain⟩

/-- An element that has been rejected. -/
def rejectedElement : Element where
  id := "e"
  name := ""
  status := .rejected
  overallScore := .last 255
  createdAt := .epoch

/-- An issue that is being resolved. -/
def resolvingIssue : Issue where
  id := "i"
  title := ""
  severity := .critical
  status := .resolving
  createdAt := .epoch

/-- Both, in one snapshot. -/
def reworked : Snapshot := { elements := [rejectedElement], issues := [resolvingIssue] }

/-- The issue is closed and the element approved, after one attempt each that is refused. -/
def reworkedRun : List Operation := [
  .apply (.setIssueStatus "i" .closed) .epoch,
  .apply (.setIssueStatus "i" .pendingVerification) .epoch,
  .apply (.verifyResolution "i" true) .epoch,
  .apply (.setIssueStatus "i" .closed) .epoch,
  .apply (.setElementStatus "e" .approved) .epoch,
  .apply (.setElementStatus "e" .pending) .epoch,
  .apply .approveAllPending .epoch]

theorem run_statuses_reworked :
    new reworked {} = .ok ⟨reworked, {}⟩ ∧
      (rejectedElement ∈ reworked.elements ∧ ∃ later,
        (states ⟨reworked, {}⟩ reworkedRun).map (fun τ => τ.snapshot.elementStatus? "e") =
            (.rejected :: later).map some ∧
          ElementStatus.IsHistory (.rejected :: later)) ∧
      (resolvingIssue ∈ reworked.issues ∧ ∃ later,
        (states ⟨reworked, {}⟩ reworkedRun).map (fun τ => τ.snapshot.issueStatus? "i") =
            (.resolving :: later).map some ∧
          IssueStatus.IsHistory (.resolving :: later)) := by
  have hopen : new reworked {} = .ok ⟨reworked, {}⟩ := rfl
  have he : rejectedElement ∈ reworked.elements := by simp [reworked]
  have hi : resolvingIssue ∈ reworked.issues := by simp [reworked]
  have hstatuses := run_statuses hopen reworkedRun
  exact ⟨hopen, ⟨he, hstatuses.1 _ he⟩, hi, hstatuses.2 _ hi⟩

end Session

end DataGovernance
