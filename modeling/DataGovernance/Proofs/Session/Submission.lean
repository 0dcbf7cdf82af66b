import DataGovernance.Proofs.Session.HandOver
import DataGovernance.Proofs.Session.Refusal
import DataGovernance.Proofs.Session.StatusHistory

/-!
# Submissions follow the form check

Whoever fills in a resolution can have it checked before it is submitted, and the issue that has
been handed over with it can be checked later. The three agree: as long as an issue is being
resolved, a resolution can be submitted exactly when it passes the check, and one that cannot is
refused with the problems that the check names. No operation takes a resolution away, and only
another one that passes takes its place, so what has been accepted passes every later check.

Key definitions: `Session.IsAccepted`.
Key theorems: `ResolutionRules.accepts_iff`, `Session.apply_of_accepts`,
`Session.apply_of_not_accepts`, `Session.isAccepted_run`, `Session.submission_follows_check`.
-/

namespace DataGovernance

/-- The rules ask for a type, for a description that is long enough without the blanks around it,
and for enough evidence. -/
theorem ResolutionRules.accepts_iff {rules : ResolutionRules} {r : Resolution} :
    rules.accepts r = true ↔ r.resolutionType ≠ none ∧
      rules.minDescriptionChars.val ≤ (Text.trimmed r.description).length ∧
        rules.minEvidence.val ≤ r.evidence.length := by
  simp only [accepts, problems, List.isEmpty_iff, List.append_eq_nil_iff, Text.trimmed,
    String.length_ofList]
  simp [and_assoc]

/-- No change of an issue takes away a resolution that keeps the rules. -/
theorem IssueChange.hasValidResolution {rules : ResolutionRules} {now : Time.Timestamp}
    {m : Mutation} {i j : Issue} (h : IssueChange rules now m i j)
    (hi : i.HasValidResolution rules) : j.HasValidResolution rules := by
  cases h with
  | handedOver r time i hr his => exact ⟨r, rfl, hr⟩
  | status | assignee | priority | suggestion | accepted | sentBack => exact hi

namespace Session

variable {σ τ : Session} {r : Resolution}

/-! ### Submitting -/

/-- A resolution that keeps the rules can be submitted for an issue that is being resolved. -/
theorem apply_of_accepts {i : Issue}
    (hfind : σ.snapshot.issues.find? (fun j => j.id == i.id) = some i) (hi : i.status = .resolving)
    (hr : σ.rules.accepts r = true) (time : Option Time.Timestamp) (now : Time.Timestamp) :
    ∃ τ, σ.apply (.submitResolution i.id r time) now = .ok τ := by
  cases hτ : σ.apply (.submitResolution i.id r time) now with
  | ok τ => exact ⟨τ, rfl⟩
  | error e =>
    exfalso
    obtain ⟨c, -, hc⟩ := apply_eq_error_iff.1 hτ
    cases hc with
    | flawed c h =>
      cases h with
      | resolution id r time h => simp [hr] at h
    | missing id hm hid h =>
      cases hid
      exact h (List.mem_map_of_mem (List.mem_of_find?_eq_some hfind))
    | forbidden id a c hm hid ha h =>
      cases hid
      cases h with
      | notResolving id r time a hne =>
        have hsame : some i = some a := hfind.symm.trans ha
        cases hsame
        exact hne hi

/-- A resolution that does not keep the rules is refused with its problems. -/
theorem apply_of_not_accepts (hr : σ.rules.accepts r = false) (id : String)
    (time : Option Time.Timestamp) (now : Time.Timestamp) :
    σ.apply (.submitResolution id r time) now =
      .error (.change (.rejectedResolution (σ.rules.problems r))) :=
  apply_eq_error_iff.2 ⟨_, rfl, .flawed _ (.resolution id r time hr)⟩

/-! ### What has been accepted -/

/-- The issue with an id has a resolution that keeps the rules. -/
def IsAccepted (σ : Session) (id : String) : Prop :=
  ∃ i, σ.snapshot.issues.find? (fun j => j.id == id) = some i ∧ i.HasValidResolution σ.rules

/-- A submission that succeeds leaves the issue with a resolution that keeps the rules. -/
theorem isAccepted_of_apply {id : String} {time : Option Time.Timestamp} {now : Time.Timestamp}
    (h : σ.apply (.submitResolution id r time) now = .ok τ) : τ.IsAccepted id := by
  obtain ⟨s, hs, rfl⟩ := apply_eq_ok_iff.1 h
  obtain ⟨is, his, rfl⟩ := map_eq_ok hs
  unfold submitResolution at his
  split at his
  · rename_i hr
    obtain ⟨i, j, -, hij, hj⟩ := find?_of_changeFirst (Issue.keepsId_handOver r _) his
    obtain ⟨-, rfl⟩ := handOver_eq_ok hij
    exact ⟨_, hj, r, rfl, by simp [ResolutionRules.accepts, hr]⟩
  · cases his

theorem Transition.isAccepted {op : Operation} (h : Transition σ op τ) {id : String}
    (hσ : σ.IsAccepted id) : τ.IsAccepted id := by
  obtain ⟨i, hi, hvalid⟩ := hσ
  obtain ⟨j, hj, hij⟩ := h.changes.issues.find?_eq_some (fun _ _ ⟨_, _, hij⟩ => hij.id_eq) hi
  refine ⟨j, hj, ?_⟩
  rw [h.rules_eq]
  rcases hij with rfl | ⟨now, m, hij⟩
  · exact hvalid
  · exact hij.hasValidResolution hvalid

theorem isAccepted_run {id : String} (h : σ.IsAccepted id) (ops : List Operation) :
    (σ.run ops).IsAccepted id :=
  run_induction (P := fun τ => τ.IsAccepted id) (fun _ _ _ ht hσ => ht.isAccepted hσ) ops h

/-- What has been accepted passes the check. -/
theorem IsAccepted.checkResolution {id : String} (h : σ.IsAccepted id) :
    ∃ check, σ.checkResolution id = .ok check ∧ check.passed = true := by
  obtain ⟨i, hi, r, hr, hvalid⟩ := h
  refine ⟨σ.rules.check r, ?_, hvalid⟩
  simp only [Session.checkResolution, hi, hr, Option.getD_some]

/-- **Submissions follow the form check, and what has been accepted stays so.** In every state that
a session reaches, a resolution can be submitted for an issue that is being resolved exactly when it
passes the check; else it is refused with the problems that the check names. The check asks for a
type, a description of enough characters between the blanks around it, and enough evidence. Once a
submission has succeeded, the check of that issue passes in every later state, whatever operations
follow. -/
theorem submission_follows_check {s : Snapshot} {rules : ResolutionRules}
    (h : new s rules = .ok σ) (ops : List Operation) :
    (∀ i ∈ (σ.run ops).snapshot.issues, i.status = .resolving → ∀ r time now,
      ((∃ τ, (σ.run ops).apply (.submitResolution i.id r time) now = .ok τ) ↔
        (rules.check r).passed = true) ∧
      ((rules.check r).passed = false → ∃ c,
        (σ.run ops).apply (.submitResolution i.id r time) now = .error (.change c) ∧
          c = .rejectedResolution (rules.check r).problems ∧
          c.message = "Validation error: " ++
            String.intercalate "; " ((rules.check r).problems.map Problem.message))) ∧
    (∀ r, (rules.check r).passed = true ↔ r.resolutionType ≠ none ∧
      rules.minDescriptionChars.val ≤ (Text.trimmed r.description).length ∧
        rules.minEvidence.val ≤ r.evidence.length) ∧
    ∀ id r time now τ, (σ.run ops).apply (.submitResolution id r time) now = .ok τ → ∀ more,
      ∃ check, (τ.run more).checkResolution id = .ok check ∧ check.passed = true := by
  obtain ⟨hs, rfl⟩ := new_eq_ok_iff.1 h
  have hwf := hs.of_sameIds (sameIds_run ⟨s, rules⟩ ops)
  have hrules : (run ⟨s, rules⟩ ops).rules = rules := run_rules _ _
  refine ⟨fun i hi hstatus r time now => ?_, fun r => ResolutionRules.accepts_iff,
    fun id r time now τ hτ more => (isAccepted_run (isAccepted_of_apply hτ) more).checkResolution⟩
  have hrefused : (rules.check r).passed = false →
      (run ⟨s, rules⟩ ops).apply (.submitResolution i.id r time) now =
        .error (.change (.rejectedResolution (rules.check r).problems)) := by
    intro hr
    have happly := apply_of_not_accepts (σ := run ⟨s, rules⟩ ops) (hrules ▸ hr) i.id time now
    rwa [hrules] at happly
  refine ⟨⟨?_, fun hr => ?_⟩, fun hr => ⟨_, hrefused hr, rfl, rfl⟩⟩
  · rintro ⟨τ, hτ⟩
    by_contra hr
    rw [hrefused (by simpa using hr)] at hτ
    cases hτ
  · have haccepts : (run ⟨s, rules⟩ ops).rules.accepts r = true := by rwa [hrules]
    exact apply_of_accepts (find?_key hwf.issues hi) hstatus haccepts time now

/-- Rules that ask for six characters and one piece of evidence. -/
def shortRules : ResolutionRules := { minDescriptionChars := 6, minEvidence := 1 }

/-- The description has six characters between blanks, two of them not in ASCII. -/
def patched : Resolution where
  resolutionType := some .systemFix
  description := "\u3000naïve🙂 "
  evidence := [{ name := "report.pdf" }]

/-- The verifier sends the issue back, and it is escalated. -/
def patchedRun : List Operation :=
  [.apply (.verifyResolution "i" false) .epoch, .apply (.setIssueStatus "i" .escalated) .epoch]

theorem submission_follows_check_unresolved :
    new unresolved.snapshot shortRules = .ok ⟨unresolved.snapshot, shortRules⟩ ∧
      (shortRules.check patched).passed = true ∧
      (∃ τ, apply ⟨unresolved.snapshot, shortRules⟩ (.submitResolution "i" patched none) .epoch =
          .ok τ ∧
        ∃ check, (τ.run patchedRun).checkResolution "i" = .ok check ∧ check.passed = true) ∧
      (shortRules.check {}).passed = false ∧
      ∃ c, apply ⟨unresolved.snapshot, shortRules⟩ (.submitResolution "i" {} none) .epoch =
          .error (.change c) ∧
        c = .rejectedResolution [.noType, .shortDescription 6 0, .littleEvidence 1 0] := by
  have hopen : new unresolved.snapshot shortRules = .ok ⟨unresolved.snapshot, shortRules⟩ := rfl
  have hpassed : (shortRules.check patched).passed = true := by decide
  have hrejected : (shortRules.check {}).passed = false := by decide
  obtain ⟨hsubmit, -, hlasts⟩ := submission_follows_check hopen []
  have hissue := hsubmit _ List.mem_cons_self rfl
  obtain ⟨τ, hτ⟩ := (hissue patched none .epoch).1.2 hpassed
  obtain ⟨c, hc, hproblems, -⟩ := (hissue {} none .epoch).2 hrejected
  exact ⟨hopen, hpassed, ⟨τ, hτ, hlasts _ _ _ _ τ hτ patchedRun⟩, hrejected, c, hc, hproblems⟩

end Session

end DataGovernance
