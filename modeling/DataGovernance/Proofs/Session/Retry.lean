import DataGovernance.Proofs.Session.Accepted
import DataGovernance.Proofs.Session.Independence
import DataGovernance.Proofs.Session.Refusal
import Mathlib.Logic.Function.Iterate

/-!
# Mutations that are made again

Whoever does not know whether a mutation has been applied may apply it once more. A submission and a
verdict need an issue in one status and leave it in another, so the second time they are refused.
Every other mutation leaves its collection as it is the second time: a status that is there may be
set again, a stored text is trimmed already, terms are stored as they were before, and of what goes
through a whole collection there is nothing left to do. So only the version counts how often the
mutation has been made.

Key definitions: `Settling`, `Edit.Settles`, `Mutation.IsOneShot`.
Key theorems: `changeFirst_again`, `Edit.Settles.run_again`, `Mutation.settles_edit`,
`Session.apply_again`, `Session.exists_issue_of_apply`, `Session.run_again`,
`Session.retries_harmless`.
-/

namespace DataGovernance

/-! ### Edits that are made again -/

section

variable {α : Type}

/-- A change leaves alone what it has made. -/
def Settling (change : α → Except ChangeError α) : Prop :=
  ∀ a b, change a = .ok b → change b = .ok b

theorem settling_ok {f : α → α} (hf : ∀ a, f (f a) = f a) : Settling fun a => .ok (f a) := by
  intro a b h
  cases h
  exact congrArg Except.ok (hf a)

variable [Entity α] {id : String} {change : α → Except ChangeError α}

/-- Made again, such a change of the first entity with an id leaves the collection alone. -/
theorem changeFirst_again (hid : KeepsId change) (hagain : Settling change) {as bs : List α}
    (h : changeFirst id change as = .ok bs) : changeFirst id change bs = .ok bs := by
  obtain ⟨front, a, b, back, rfl, hfront, ha, hab, rfl⟩ := changeFirst_eq_ok h
  rw [changeFirst_append_cons ((hid a b hab).trans ha) back hfront, hagain a b hab]
  rfl

end

namespace Edit

variable {α : Type} [Entity α]

/-- An edit leaves alone what it has made. -/
def Settles : Edit α → Prop
  | refused _ => True
  | one _ change => KeepsId change ∧ Settling change
  | all change => ∀ a, change (change a) = change a

theorem Settles.refusedIf {e : Edit α} (he : e.Settles) (condition : Bool) (reason : ChangeError) :
    (e.refusedIf condition reason).Settles := by
  cases condition with
  | true => trivial
  | false => exact he

/-- Made again, such an edit leaves the collection alone. -/
theorem Settles.apply_again {e : Edit α} (he : e.Settles) {as bs : List α}
    (h : e.apply as = .ok bs) : e.apply bs = .ok bs := by
  cases e with
  | refused reason => cases h
  | one id change => exact changeFirst_again he.1 he.2 h
  | all change =>
    cases h
    have hmap : (as.map change).map change = as.map change := by
      rw [List.map_map]
      exact List.map_congr_left fun a _ => he a
    exact congrArg Except.ok hmap

/-- Made again in a snapshot, such an edit leaves all but the version alone. -/
theorem Settles.run_again {k : EntityKind} {e : Edit k.Carrier} (he : e.Settles) {s t : Snapshot}
    (h : e.run s = .ok t) : e.run t = .ok t.later := by
  cases hbs : e.apply (s.entities k) with
  | error c =>
    rw [run_of_apply hbs] at h
    cases h
  | ok bs =>
    rw [run_of_apply hbs] at h
    cases h
    have htwice : (s.replace k bs).replace k bs = (s.replace k bs).later := by
      cases k <;> rfl
    rw [run_replace (he.apply_again hbs) s]
    exact congrArg Except.ok htwice

end Edit

/-! ### Changes that are made again -/

namespace Element

theorem settling_putStatus (t : ElementStatus) : Settling (Element.putStatus t) := by
  intro e f h
  unfold Element.putStatus at h
  split at h
  · cases h
    exact if_pos (.inl rfl)
  · cases h

theorem approvePending_approvePending (e : Element) :
    e.approvePending.approvePending = e.approvePending := by
  by_cases he : e.status = .pending <;> simp [approvePending, he]

end Element

theorem Match.takeSuggestion_takeSuggestion (m : Match) :
    m.takeSuggestion.takeSuggestion = m.takeSuggestion := by
  unfold takeSuggestion
  cases m.actionTaken <;> simp

namespace Issue

theorem settling_putStatus (t : IssueStatus) : Settling (Issue.putStatus t) := by
  intro i j h
  obtain ⟨-, rfl⟩ := putStatus_eq_ok h
  exact if_pos (.inl rfl)

/-- An issue whose suggested priority has been taken is triaged, so that it can be taken again. -/
theorem settling_takeSuggestion : Settling Issue.takeSuggestion := by
  intro i j h
  unfold takeSuggestion at h
  cases hp : i.suggestedPriority with
  | none => simp [hp] at h
  | some p =>
    cases hk : i.putStatus .triaged with
    | error c => simp [hp, hk, Except.map] at h
    | ok k =>
      obtain ⟨-, rfl⟩ := putStatus_eq_ok hk
      simp only [hp, hk, Except.map, Except.ok.injEq] at h
      subst h
      simp [takeSuggestion, putStatus, Except.map]

theorem status_of_decide {accepted : Bool} {i j : Issue} (h : i.decide accepted = .ok j) :
    j.status = if accepted then .verified else .resolving := by
  unfold Issue.decide at h
  by_cases hi : i.status = .pendingVerification
  · rw [if_pos hi] at h
    cases h
    rfl
  · rw [if_neg hi] at h
    cases h

end Issue

/-! ### Mutations that are made again -/

namespace Mutation

/-- A mutation that needs an issue in one status and leaves it in another: a submission or a
verdict. -/
def IsOneShot (m : Mutation) : Prop := m.kind = .submitResolution ∨ m.kind = .verifyResolution

variable {m : Mutation}

/-- Every other mutation leaves alone what it has made. -/
theorem settles_edit (hm : ¬m.IsOneShot) (rules : ResolutionRules) (now : Time.Timestamp) :
    (m.edit rules now).Settles := by
  cases m with
  | submitResolution => exact absurd (.inl rfl) hm
  | verifyResolution => exact absurd (.inr rfl) hm
  | approveAllPending => exact Element.approvePending_approvePending
  | acceptSuggestedActions => exact Match.takeSuggestion_takeSuggestion
  | setElementStatus id t => exact ⟨Element.keepsId_putStatus t, Element.settling_putStatus t⟩
  | setIssueStatus id t => exact ⟨Issue.keepsId_putStatus t, Issue.settling_putStatus t⟩
  | acceptSuggestedPriority id =>
    exact ⟨Issue.keepsId_takeSuggestion, Issue.settling_takeSuggestion⟩
  | setPriority | recordAction => exact ⟨keepsId_ok fun _ => rfl, settling_ok fun _ => rfl⟩
  | assignOwner | assignIssue | linkBusinessTerms | deferBusinessTerms =>
    refine Edit.Settles.refusedIf ?_ _ _
    exact ⟨keepsId_ok fun _ => rfl, settling_ok fun _ => rfl⟩

/-- Every other mutation does the same at any time. -/
theorem isTimed_of_not_isOneShot (hm : ¬m.IsOneShot) : m.IsTimed := by
  cases m with
  | submitResolution => exact absurd (.inl rfl) hm
  | _ => trivial

end Mutation

namespace Session

variable {σ τ : Session} {m : Mutation} {now : Time.Timestamp}

/-- A mutation that is applied makes its edit. -/
theorem run_edit_of_apply (h : σ.apply m now = .ok τ) :
    (m.edit σ.rules now).run σ.snapshot = .ok τ.snapshot ∧ τ.rules = σ.rules := by
  obtain ⟨s, hs, rfl⟩ := apply_eq_ok_iff.1 h
  rw [Mutation.run_edit, hs]
  exact ⟨rfl, rfl⟩

/-- Any mutation but a submission or a verdict is applied again, with nothing but the version to
show for it. -/
theorem apply_again (hm : ¬m.IsOneShot) (h : σ.apply m now = .ok τ) (later : Time.Timestamp) :
    τ.apply m later = .ok { τ with snapshot := τ.snapshot.later } := by
  rw [(Mutation.isTimed_of_not_isOneShot hm).apply_eq σ now later] at h
  obtain ⟨hrun, hrules⟩ := run_edit_of_apply h
  have hagain := (Mutation.settles_edit hm σ.rules later).run_again hrun
  rw [← hrules] at hagain
  exact apply_of_run hagain

/-- A mutation that has been applied is not wrong by itself. -/
theorem not_flawed_of_apply (h : σ.apply m now = .ok τ) (c : ChangeError) :
    ¬m.Flawed τ.rules c := by
  intro hc
  obtain ⟨-, hrules⟩ := run_edit_of_apply h
  rw [hrules] at hc
  rw [apply_eq_error_iff.2 ⟨c, rfl, .flawed c hc⟩] at h
  cases h

/-- The issue that a submission or a verdict has moved cannot be moved so again. -/
theorem exists_issue_of_apply (hm : m.IsOneShot) (h : σ.apply m now = .ok τ) :
    ∃ i : Issue, τ.snapshot.issues.find? (fun j => j.id == i.id) = some i ∧
      m.entityId? = some i.id ∧
      m.RefusedFor τ.rules τ.snapshot (.issueStatus i.id i.status i.status) := by
  have hsound := not_flawed_of_apply h
  obtain ⟨s, hs, rfl⟩ := apply_eq_ok_iff.1 h
  cases m with
  | submitResolution id r time =>
    obtain ⟨is, his, rfl⟩ := map_eq_ok hs
    unfold submitResolution at his
    split at his
    · obtain ⟨i, j, -, hij, hj⟩ := find?_of_changeFirst (Issue.keepsId_handOver r _) his
      have hid : Entity.id j = id := by simpa using List.find?_some hj
      obtain ⟨-, rfl⟩ := handOver_eq_ok hij
      subst hid
      exact ⟨_, hj, rfl, .forbidden _ _ _ hsound rfl hj (.notResolving _ r time _ nofun)⟩
    · cases his
  | verifyResolution id accepted =>
    obtain ⟨is, his, rfl⟩ := map_eq_ok hs
    obtain ⟨i, j, -, hij, hj⟩ := find?_of_changeFirst (Issue.keepsId_decide accepted) his
    have hid : Entity.id j = id := by simpa using List.find?_some hj
    have hstatus := Issue.status_of_decide hij
    have hne : j.status ≠ .pendingVerification := by
      rw [hstatus]
      cases accepted <;> decide
    subst hid
    refine ⟨j, hj, rfl, ?_⟩
    nth_rewrite 2 [hstatus]
    exact .forbidden _ _ _ hsound rfl hj (.notAwaiting _ accepted j hne)
  | _ => rcases hm with hm | hm <;> cases hm

/-- However often a mutation is made that is always refused, the session stays as it is. -/
theorem run_refused {e : SessionError} (h : ∀ t, τ.apply m t = .error e) :
    ∀ times : List Time.Timestamp, τ.run (times.map (.apply m)) = τ
  | [] => rfl
  | t :: times => by
    have hstays : τ.after (.apply m t) = τ := after_of_error (h t)
    rw [List.map_cons, run_cons, hstays]
    exact run_refused h times

/-- However often any mutation but a submission or a verdict is made, only the version tells. -/
theorem run_again (hm : ¬m.IsOneShot) :
    ∀ (times : List Time.Timestamp) {σ τ : Session} {now : Time.Timestamp},
      σ.apply m now = .ok τ → τ.run (times.map (.apply m)) = { τ with
        snapshot := Snapshot.later^[times.length] τ.snapshot }
  | [], _, _, _, _ => rfl
  | t :: times, σ, τ, now, h => by
    have hagain := apply_again hm h t
    have hafter : τ.after (.apply m t) = { τ with snapshot := τ.snapshot.later } :=
      after_of_ok hagain
    rw [List.map_cons, run_cons, hafter, run_again hm times hagain]
    rfl

/-- **A mutation can safely be made again.** After a mutation has been applied, a submission or a
verdict is refused whenever it is made again, because the issue already is in the status in which it
would be left, and the session stays as it is however often that is tried. Every other mutation is
applied again each time, and however often it is, all is as after the first time but for the
version, which counts. -/
theorem retries_harmless (h : σ.apply m now = .ok τ) (times : List Time.Timestamp) :
    (m.IsOneShot → (∃ i : Issue, m.entityId? = some i.id ∧
        τ.snapshot.issues.find? (fun j => j.id == i.id) = some i ∧
        ∀ later, τ.apply m later = .error (.change (.issueStatus i.id i.status i.status))) ∧
      τ.run (times.map (.apply m)) = τ) ∧
    (¬m.IsOneShot → (∀ later, τ.apply m later = .ok { τ with
        snapshot := { τ.snapshot with version := τ.version + 1 } }) ∧
      τ.run (times.map (.apply m)) = { τ with
        snapshot := Snapshot.later^[times.length] τ.snapshot }) := by
  constructor
  · intro hm
    obtain ⟨i, hi, hid, hrefused⟩ := exists_issue_of_apply hm h
    have herror : ∀ later,
        τ.apply m later = .error (.change (.issueStatus i.id i.status i.status)) :=
      fun later => apply_eq_error_iff.2 ⟨_, rfl, hrefused⟩
    exact ⟨⟨i, hid, hi, herror⟩, run_refused herror times⟩
  · exact fun hm => ⟨apply_again hm h, run_again hm times h⟩

/-- A node is linked to two terms, of which one is given twice with blanks at one end. -/
def linkingExposure : Mutation :=
  .linkBusinessTerms "b" ["\u3000Exposure", "Rating", " ", "Exposure "]

theorem retries_harmless_linking :
    ¬linkingExposure.IsOneShot ∧ handingOver.IsOneShot ∧
      (∃ τ, apply ⟨joined, {}⟩ linkingExposure .epoch = .ok τ ∧
        τ.snapshot.lineage.nodes.map Node.businessTerms = [[], ["Exposure", "Rating"]] ∧
        τ.run [.apply linkingExposure .epoch, .apply linkingExposure nextSecond] = { τ with
          snapshot := τ.snapshot.later.later }) ∧
      ∃ τ, ∃ i : Issue, underReview.apply handingOver .epoch = .ok τ ∧ i.id = "i" ∧
        τ.apply handingOver nextSecond = .error (.change (.issueStatus i.id i.status i.status)) ∧
        τ.run [.apply handingOver .epoch, .apply handingOver nextSecond] = τ := by
  have hlinking : ¬linkingExposure.IsOneShot := by
    rintro (h | h) <;> cases h
  have hover : handingOver.IsOneShot := .inl rfl
  obtain ⟨τ, hτ, hterms⟩ : ∃ τ, apply ⟨joined, {}⟩ linkingExposure .epoch = .ok τ ∧
      τ.snapshot.lineage.nodes.map Node.businessTerms = [[], ["Exposure", "Rating"]] :=
    ⟨_, rfl, by decide⟩
  obtain ⟨υ, hυ⟩ : ∃ υ, underReview.apply handingOver .epoch = .ok υ := ⟨_, rfl⟩
  have htwice := (retries_harmless hτ [.epoch, nextSecond]).2 hlinking
  obtain ⟨⟨i, hid, -, hrefused⟩, hstays⟩ := (retries_harmless hυ [.epoch, nextSecond]).1 hover
  exact ⟨hlinking, hover, ⟨τ, hτ, hterms, htwice.2⟩, υ, i, hυ, (Option.some.inj hid).symm,
    hrefused nextSecond, hstays⟩

end Session

end DataGovernance
