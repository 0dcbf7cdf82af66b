import DataGovernance.Mutation.Basic
import DataGovernance.Proofs.Fallible
import Mathlib.Data.List.Forall2

/-!
# What a mutation does

Said once, so that no later proof looks into the mutations again. `ElementChange`, `IssueChange`,
`MatchChange` and `NodeChange` list what each mutation makes of an entity that it addresses, with
the conditions under which it does. A mutation that succeeds replaces one collection, in which every
entity is either the one it was or changed in one of these ways, and leaves the rest of the snapshot
alone.

Key definitions: `ElementChange`, `IssueChange`, `MatchChange`, `NodeChange`, `Altered`,
`Mutation.Effect`, `Mutation.IsTimed`.
Key theorems: `changeFirst_eq_ok`, `find?_of_changeFirst`, `Mutation.effect_of_perform`,
`Mutation.IsTimed.perform_eq`.
-/

namespace DataGovernance

/-! ### Changes of single entities -/

/-- What a mutation makes of an element. -/
inductive ElementChange : Mutation → Element → Element → Prop
  | owner (o : Owner) (e : Element) (ho : Text.isBlank o.name = false) :
    ElementChange (.assignOwner e.id o) e { e with owner := some o }
  | status (t : ElementStatus) (e : Element) (ht : e.status = t ∨ t ∈ e.status.next) :
    ElementChange (.setElementStatus e.id t) e { e with status := t }
  | approved (e : Element) (he : e.status = .pending) :
    ElementChange .approveAllPending e { e with status := .approved }

/-- What a mutation makes of an issue under rules and at a time. -/
inductive IssueChange (rules : ResolutionRules) (now : Time.Timestamp) :
    Mutation → Issue → Issue → Prop
  | status (t : IssueStatus) (i : Issue) (ht : i.status = t ∨ t ∈ i.status.next) :
    IssueChange rules now (.setIssueStatus i.id t) i { i with status := t }
  | assignee (name : String) (i : Issue) (hn : Text.isBlank name = false) :
    IssueChange rules now (.assignIssue i.id name) i { i with assignee := some (Text.trimmed name) }
  | priority (p : Priority) (i : Issue) :
    IssueChange rules now (.setPriority i.id p) i { i with priority := some p }
  | suggestion (p : Priority) (i : Issue) (hp : i.suggestedPriority = some p)
    (ht : i.status = .triaged ∨ .triaged ∈ i.status.next) :
    IssueChange rules now (.acceptSuggestedPriority i.id) i
      { i with status := .triaged, priority := some p }
  | handedOver (r : Resolution) (time : Option Time.Timestamp) (i : Issue)
    (hr : rules.accepts r = true) (hi : i.status = .resolving) :
    IssueChange rules now (.submitResolution i.id r time) i
      { i with
        status := .pendingVerification
        resolution := some r
        resolvedAt := some (time.getD now) }
  | accepted (i : Issue) (hi : i.status = .pendingVerification) :
    IssueChange rules now (.verifyResolution i.id true) i { i with status := .verified }
  | sentBack (i : Issue) (hi : i.status = .pendingVerification) :
    IssueChange rules now (.verifyResolution i.id false) i
      { i with status := .resolving, resolvedAt := none }

/-- What a mutation makes of a match. -/
inductive MatchChange : Mutation → Match → Match → Prop
  | action (a : MatchAction) (m : Match) :
    MatchChange (.recordAction m.currentId a) m { m with actionTaken := some a }
  | suggestion (m : Match) (hm : m.actionTaken = none) :
    MatchChange .acceptSuggestedActions m { m with actionTaken := m.suggestedAction }

/-- What a mutation makes of a node. -/
inductive NodeChange : Mutation → Node → Node → Prop
  | linked (terms : List String) (n : Node) (ht : cleanTerms terms ≠ []) :
    NodeChange (.linkBusinessTerms n.id terms) n
      { n with
        businessTerms := cleanTerms terms
        businessTermsDeferred := false
        deferralReason := none }
  | deferred (reason : String) (n : Node) (hr : Text.isBlank reason = false) :
    NodeChange (.deferBusinessTerms n.id reason) n
      { n with businessTermsDeferred := true, deferralReason := some (Text.trimmed reason) }

/-- In the second list every entity is the one of the first list in its place, or what a change
makes of it. -/
def Altered {α : Type} (change : α → α → Prop) (as bs : List α) : Prop :=
  List.Forall₂ (fun a b => b = a ∨ change a b) as bs

namespace Altered

variable {α β : Type} {change : α → α → Prop}

/-- What a change keeps, a collection keeps in every place. -/
theorem map_eq {f : α → β} (h : ∀ a b, change a b → f b = f a) :
    ∀ {as bs : List α}, Altered change as bs → bs.map f = as.map f
  | [], _, .nil => rfl
  | a :: as, b :: bs, .cons hab hrest => by
    have hb : f b = f a := by
      rcases hab with rfl | hab
      · rfl
      · exact h a b hab
    simp [hb, map_eq h hrest]

/-- What held of every entity and is kept by a change holds of every entity. -/
theorem forall_mem {P : α → Prop} (h : ∀ a b, change a b → P a → P b) :
    ∀ {as bs : List α}, Altered change as bs → (∀ a ∈ as, P a) → ∀ b ∈ bs, P b
  | [], _, .nil, _ => by simp
  | a :: as, b :: bs, .cons hab hrest, hP => by
    simp only [List.forall_mem_cons] at hP ⊢
    refine ⟨?_, forall_mem h hrest hP.2⟩
    rcases hab with rfl | hab
    · exact hP.1
    · exact h a b hab hP.1

theorem refl : ∀ as : List α, Altered change as as
  | [] => .nil
  | _ :: as => .cons (.inl rfl) (refl as)

theorem append {as bs : List α} (h : Altered change as bs) :
    ∀ front : List α, Altered change (front ++ as) (front ++ bs)
  | [] => h
  | _ :: front => .cons (.inl rfl) (append h front)

/-- A collection that is altered in one way is altered in every way that comprises it. -/
theorem mono {change' : α → α → Prop} (h : ∀ a b, change a b → change' a b) {as bs : List α}
    (hab : Altered change as bs) : Altered change' as bs :=
  List.Forall₂.imp (fun a b => Or.imp_right (h a b)) hab

/-- Going through a whole collection alters it where an entity does not stay the same. -/
theorem of_map {f : α → α} (h : ∀ a, f a = a ∨ change a (f a)) :
    ∀ as : List α, Altered change as (as.map f)
  | [] => .nil
  | a :: as => .cons (h a) (of_map h as)

/-- When a change keeps keys, the first entity with a key stays the same or is changed. -/
theorem rel_find? {key : α → String} (hkey : ∀ a b, change a b → key b = key a) (k : String) :
    ∀ {as bs : List α}, Altered change as bs →
      Option.Rel (fun a b => b = a ∨ change a b) (as.find? fun a => key a == k)
        (bs.find? fun b => key b == k)
  | [], _, .nil => .none
  | a :: as, b :: bs, .cons hab hrest => by
    have hb : key b = key a := by
      rcases hab with rfl | hab
      · rfl
      · exact hkey a b hab
    by_cases ha : key a = k
    · rw [List.find?_cons_of_pos (by simpa using ha),
        List.find?_cons_of_pos (by simpa [hb] using ha)]
      exact .some hab
    · rw [List.find?_cons_of_neg (by simpa using ha),
        List.find?_cons_of_neg (by simpa [hb] using ha)]
      exact rel_find? hkey k hrest

/-- When a change keeps keys, what was found by a key is still found, the same or changed. -/
theorem find?_eq_some {key : α → String} (hkey : ∀ a b, change a b → key b = key a) {k : String}
    {as bs : List α} (h : Altered change as bs) {a : α}
    (ha : as.find? (fun c => key c == k) = some a) :
    ∃ b, bs.find? (fun c => key c == k) = some b ∧ (b = a ∨ change a b) := by
  have hrel := h.rel_find? hkey k
  rw [ha] at hrel
  generalize bs.find? _ = y at hrel
  cases hrel with
  | some hab => exact ⟨_, rfl, hab⟩

/-- When a change keeps keys and lets nothing new through a filter, no key joins those that the
filter lets through. -/
theorem filter_map_sublist {p : α → Bool} {key : α → String}
    (hkey : ∀ a b, change a b → key b = key a) (hp : ∀ a b, change a b → p b = true → p a = true) :
    ∀ {as bs : List α}, Altered change as bs →
      List.Sublist ((bs.filter p).map key) ((as.filter p).map key)
  | [], _, .nil => .refl _
  | a :: as, b :: bs, .cons hab hrest => by
    have hb : key b = key a ∧ (p b = true → p a = true) := by
      rcases hab with rfl | hab
      · exact ⟨rfl, id⟩
      · exact ⟨hkey a b hab, hp a b hab⟩
    have ih := filter_map_sublist hkey hp hrest
    by_cases hpb : p b = true
    · rw [List.filter_cons_of_pos hpb, List.filter_cons_of_pos (hb.2 hpb), List.map_cons,
        List.map_cons, hb.1]
      exact ih.cons_cons _
    · rw [List.filter_cons_of_neg hpb]
      exact ih.trans ((List.sublist_cons_self a as).filter p |>.map key)

end Altered

/-! ### The change of one entity of a collection -/

/-- What is found by a key is the first entity that has it. -/
theorem find?_append_cons {α : Type} {key : α → String} {k : String} {front : List α} {a : α}
    (back : List α) (hf : k ∉ front.map key) (ha : key a = k) :
    (front ++ a :: back).find? (fun b => key b == k) = some a := by
  have hnone : front.find? (fun b => key b == k) = none := by
    rw [List.find?_eq_none]
    intro b hb he
    exact hf (List.mem_map.2 ⟨b, hb, by simpa using he⟩)
  rw [List.find?_append, hnone, Option.none_or, List.find?_cons_of_pos (by simpa using ha)]

section

variable {α : Type} [Entity α] {id : String} {change : α → Except ChangeError α}

/-- A change succeeds by changing the first entity that has the id. -/
theorem changeFirst_eq_ok : ∀ {as bs : List α}, changeFirst id change as = .ok bs →
    ∃ front a b back, as = front ++ a :: back ∧ id ∉ front.map Entity.id ∧ Entity.id a = id ∧
      change a = .ok b ∧ bs = front ++ b :: back
  | [], bs, h => by simp [changeFirst] at h
  | a :: as, bs, h => by
    unfold changeFirst at h
    split at h
    · rename_i hid
      cases hc : change a with
      | error e => simp [hc, Except.map] at h
      | ok b =>
        simp only [hc, Except.map, Except.ok.injEq] at h
        exact ⟨[], a, b, as, rfl, by simp, hid, hc, h.symm⟩
    · rename_i hid
      cases hr : changeFirst id change as with
      | error e => simp [hr, Except.map] at h
      | ok cs =>
        simp only [hr, Except.map, Except.ok.injEq] at h
        obtain ⟨front, x, y, back, rfl, hf, hx, hy, rfl⟩ := changeFirst_eq_ok hr
        refine ⟨a :: front, x, y, back, rfl, ?_, hx, hy, h.symm⟩
        simp only [List.map_cons, List.mem_cons, not_or]
        exact ⟨fun he => hid he.symm, hf⟩

/-- The first entity that has the id is the one that is changed. -/
theorem changeFirst_append_cons {a : α} (ha : Entity.id a = id) (back : List α) :
    ∀ {front : List α}, id ∉ front.map Entity.id →
      changeFirst id change (front ++ a :: back) = (change a).map fun b => front ++ b :: back
  | [], _ => by simp [changeFirst, ha]
  | c :: front, h => by
    simp only [List.map_cons, List.mem_cons, not_or] at h
    rw [List.cons_append, changeFirst, if_neg (Ne.symm h.1), changeFirst_append_cons ha back h.2]
    cases change a <;> rfl

/-- A change that keeps ids succeeds on what is found by the id, and what it makes of that is found
by the id afterwards. -/
theorem find?_of_changeFirst (keeps : ∀ a b, change a = .ok b → Entity.id b = Entity.id a)
    {as bs : List α} (h : changeFirst id change as = .ok bs) :
    ∃ a b, as.find? (fun c => Entity.id c == id) = some a ∧ change a = .ok b ∧
      bs.find? (fun c => Entity.id c == id) = some b := by
  obtain ⟨front, a, b, back, rfl, hf, ha, hab, rfl⟩ := changeFirst_eq_ok h
  exact ⟨a, b, find?_append_cons back hf ha, hab,
    find?_append_cons back hf ((keeps a b hab).trans ha)⟩

/-- A change of one entity alters the collection in one place. -/
theorem altered_of_changeFirst {R : α → α → Prop}
    (h : ∀ a b, Entity.id a = id → change a = .ok b → R a b) {as bs : List α}
    (hc : changeFirst id change as = .ok bs) : Altered R as bs := by
  obtain ⟨front, a, b, back, rfl, -, ha, hab, rfl⟩ := changeFirst_eq_ok hc
  exact Altered.append (.cons (.inr (h a b ha hab)) (Altered.refl back)) front

end

/-! ### The change of a snapshot -/

namespace Mutation

/-- What a mutation makes of a snapshot: one collection is altered, the rest stays. -/
inductive Effect (rules : ResolutionRules) (now : Time.Timestamp) (m : Mutation) (s : Snapshot) :
    Snapshot → Prop
  | elements (es : List Element) (h : Altered (ElementChange m) s.elements es) :
    Effect rules now m s (s.putElements es)
  | issues (is : List Issue) (h : Altered (IssueChange rules now m) s.issues is) :
    Effect rules now m s (s.putIssues is)
  | reconciliation (ms : List Match) (h : Altered (MatchChange m) s.reconciliation ms) :
    Effect rules now m s (s.putMatches ms)
  | nodes (ns : List Node) (h : Altered (NodeChange m) s.lineage.nodes ns) :
    Effect rules now m s (s.putNodes ns)

end Mutation

variable {rules : ResolutionRules} {now : Time.Timestamp} {id : String}

/-- A required text is not blank once it has been let through. -/
theorem requireText_bind_eq_ok {α : Type} {text : NamedText} {s : String}
    {next : Unit → Except ChangeError α} {a : α} (h : requireText text s >>= next = .ok a) :
    Text.isBlank s = false ∧ next () = .ok a := by
  unfold requireText at h
  split at h
  · simp [bind, Except.bind] at h
  · rename_i hb
    exact ⟨by simpa using hb, h⟩

theorem altered_of_assignOwner {o : Owner} {es fs : List Element}
    (h : assignOwner id o es = .ok fs) : Altered (ElementChange (.assignOwner id o)) es fs := by
  obtain ⟨ho, h⟩ := requireText_bind_eq_ok h
  refine altered_of_changeFirst (fun e f he hf => ?_) h
  obtain rfl : e.id = id := he
  cases hf
  exact .owner o e ho

theorem altered_of_setElementStatus {t : ElementStatus} {es fs : List Element}
    (h : setElementStatus id t es = .ok fs) :
    Altered (ElementChange (.setElementStatus id t)) es fs := by
  refine altered_of_changeFirst (fun e f he hf => ?_) h
  obtain rfl : e.id = id := he
  unfold Element.putStatus at hf
  split at hf
  · cases hf
    exact .status t e ‹_›
  · cases hf

theorem altered_approveAllPending (es : List Element) :
    Altered (ElementChange .approveAllPending) es (approveAllPending es) := by
  refine .of_map (fun e => ?_) es
  unfold Element.approvePending
  split
  · exact .inr (.approved e ‹_›)
  · exact .inl rfl

theorem putStatus_eq_ok {t : IssueStatus} {i j : Issue} (h : i.putStatus t = .ok j) :
    (i.status = t ∨ t ∈ i.status.next) ∧ j = { i with status := t } := by
  unfold Issue.putStatus at h
  split at h
  · cases h
    exact ⟨‹_›, rfl⟩
  · cases h

theorem altered_of_setIssueStatus {t : IssueStatus} {is js : List Issue}
    (h : setIssueStatus id t is = .ok js) :
    Altered (IssueChange rules now (.setIssueStatus id t)) is js := by
  refine altered_of_changeFirst (fun i j hi hj => ?_) h
  obtain rfl : i.id = id := hi
  obtain ⟨ht, rfl⟩ := putStatus_eq_ok hj
  exact .status t i ht

theorem altered_of_assignIssue {name : String} {is js : List Issue}
    (h : assignIssue id name is = .ok js) :
    Altered (IssueChange rules now (.assignIssue id name)) is js := by
  obtain ⟨hn, h⟩ := requireText_bind_eq_ok h
  refine altered_of_changeFirst (fun i j hi hj => ?_) h
  obtain rfl : i.id = id := hi
  cases hj
  exact .assignee name i hn

theorem altered_of_setPriority {p : Priority} {is js : List Issue}
    (h : setPriority id p is = .ok js) :
    Altered (IssueChange rules now (.setPriority id p)) is js := by
  refine altered_of_changeFirst (fun i j hi hj => ?_) h
  obtain rfl : i.id = id := hi
  cases hj
  exact .priority p i

theorem altered_of_acceptSuggestedPriority {is js : List Issue}
    (h : acceptSuggestedPriority id is = .ok js) :
    Altered (IssueChange rules now (.acceptSuggestedPriority id)) is js := by
  refine altered_of_changeFirst (fun i j hi hj => ?_) h
  obtain rfl : i.id = id := hi
  unfold Issue.takeSuggestion at hj
  split at hj
  · cases hj
  · rename_i p hp
    cases hs : i.putStatus .triaged with
    | error e => simp [hs, Except.map] at hj
    | ok k =>
      obtain ⟨ht, rfl⟩ := putStatus_eq_ok hs
      simp only [hs, Except.map, Except.ok.injEq] at hj
      exact hj ▸ .suggestion p i hp ht

theorem handOver_eq_ok {r : Resolution} {i j : Issue} (h : i.handOver r now = .ok j) :
    i.status = .resolving ∧ j = { i with
      status := .pendingVerification, resolution := some r, resolvedAt := some now } := by
  unfold Issue.handOver at h
  split at h
  · cases h
    exact ⟨‹_›, rfl⟩
  · cases h

theorem altered_of_submitResolution {r : Resolution} {time : Option Time.Timestamp}
    {is js : List Issue} (h : submitResolution rules (time.getD now) id r is = .ok js) :
    Altered (IssueChange rules now (.submitResolution id r time)) is js := by
  unfold submitResolution at h
  split at h
  · rename_i hr
    refine altered_of_changeFirst (fun i j hi hj => ?_) h
    obtain rfl : i.id = id := hi
    obtain ⟨hi, rfl⟩ := handOver_eq_ok hj
    exact .handedOver r time i (by simp [ResolutionRules.accepts, hr]) hi
  · cases h

theorem altered_of_verifyResolution {accepted : Bool} {is js : List Issue}
    (h : verifyResolution id accepted is = .ok js) :
    Altered (IssueChange rules now (.verifyResolution id accepted)) is js := by
  refine altered_of_changeFirst (fun i j hi hj => ?_) h
  obtain rfl : i.id = id := hi
  unfold Issue.decide at hj
  by_cases hs : i.status = .pendingVerification
  · rw [if_pos hs] at hj
    cases hj
    cases accepted with
    | true => exact .accepted i hs
    | false => exact .sentBack i hs
  · rw [if_neg hs] at hj
    cases hj

theorem altered_of_recordAction {a : MatchAction} {ms ns : List Match}
    (h : recordAction id a ms = .ok ns) : Altered (MatchChange (.recordAction id a)) ms ns := by
  refine altered_of_changeFirst (fun m n hm hn => ?_) h
  obtain rfl : m.currentId = id := hm
  cases hn
  exact .action a m

theorem altered_acceptSuggestedActions (ms : List Match) :
    Altered (MatchChange .acceptSuggestedActions) ms (acceptSuggestedActions ms) := by
  refine .of_map (fun m => ?_) ms
  unfold Match.takeSuggestion
  cases ha : m.actionTaken with
  | some a => exact .inl (by rw [Option.some_or, ← ha])
  | none => exact .inr (.suggestion m ha)

theorem altered_of_linkBusinessTerms {terms : List String} {ns ks : List Node}
    (h : linkBusinessTerms id terms ns = .ok ks) :
    Altered (NodeChange (.linkBusinessTerms id terms)) ns ks := by
  unfold linkBusinessTerms at h
  split at h
  · cases h
  · rename_i ht
    refine altered_of_changeFirst (fun n k hn hk => ?_) h
    obtain rfl : n.id = id := hn
    cases hk
    exact .linked terms n ht

theorem altered_of_deferBusinessTerms {reason : String} {ns ks : List Node}
    (h : deferBusinessTerms id reason ns = .ok ks) :
    Altered (NodeChange (.deferBusinessTerms id reason)) ns ks := by
  obtain ⟨hr, h⟩ := requireText_bind_eq_ok h
  refine altered_of_changeFirst (fun n k hn hk => ?_) h
  obtain rfl : n.id = id := hn
  cases hk
  exact .deferred reason n hr

/-- **A mutation alters one collection.** In it every entity is the one it was or is changed as the
mutation may change it; everything else is as before. -/
theorem Mutation.effect_of_perform {m : Mutation} {s t : Snapshot}
    (h : m.perform rules now s = .ok t) : m.Effect rules now s t := by
  cases m with
  | assignOwner id o =>
    obtain ⟨es, hes, rfl⟩ := map_eq_ok h
    exact .elements es (altered_of_assignOwner hes)
  | setElementStatus id status =>
    obtain ⟨es, hes, rfl⟩ := map_eq_ok h
    exact .elements es (altered_of_setElementStatus hes)
  | approveAllPending =>
    cases h
    exact .elements _ (altered_approveAllPending s.elements)
  | setIssueStatus id status =>
    obtain ⟨is, his, rfl⟩ := map_eq_ok h
    exact .issues is (altered_of_setIssueStatus his)
  | assignIssue id assignee =>
    obtain ⟨is, his, rfl⟩ := map_eq_ok h
    exact .issues is (altered_of_assignIssue his)
  | setPriority id priority =>
    obtain ⟨is, his, rfl⟩ := map_eq_ok h
    exact .issues is (altered_of_setPriority his)
  | acceptSuggestedPriority id =>
    obtain ⟨is, his, rfl⟩ := map_eq_ok h
    exact .issues is (altered_of_acceptSuggestedPriority his)
  | submitResolution id resolution time =>
    obtain ⟨is, his, rfl⟩ := map_eq_ok h
    exact .issues is (altered_of_submitResolution his)
  | verifyResolution id accepted =>
    obtain ⟨is, his, rfl⟩ := map_eq_ok h
    exact .issues is (altered_of_verifyResolution his)
  | recordAction id action =>
    obtain ⟨ms, hms, rfl⟩ := map_eq_ok h
    exact .reconciliation ms (altered_of_recordAction hms)
  | acceptSuggestedActions =>
    cases h
    exact .reconciliation _ (altered_acceptSuggestedActions s.reconciliation)
  | linkBusinessTerms id terms =>
    obtain ⟨ns, hns, rfl⟩ := map_eq_ok h
    exact .nodes ns (altered_of_linkBusinessTerms hns)
  | deferBusinessTerms id reason =>
    obtain ⟨ns, hns, rfl⟩ := map_eq_ok h
    exact .nodes ns (altered_of_deferBusinessTerms hns)

namespace Mutation.Effect

variable {m : Mutation} {s t : Snapshot}

theorem progress_eq (h : m.Effect rules now s t) : t.progress = s.progress := by
  cases h <;> rfl

theorem version_eq (h : m.Effect rules now s t) : t.version = s.version := by
  cases h <;> rfl

end Mutation.Effect

/-! ### The time of a mutation -/

/-- A mutation that does not ask for the time at which it is applied. -/
def Mutation.IsTimed : Mutation → Prop
  | submitResolution _ _ time => time.isSome
  | _ => True

/-- A mutation with a time of its own does the same at any time. -/
theorem Mutation.IsTimed.perform_eq {m : Mutation} (h : m.IsTimed) (rules : ResolutionRules)
    (now now' : Time.Timestamp) (s : Snapshot) :
    m.perform rules now s = m.perform rules now' s := by
  cases m with
  | submitResolution id resolution time =>
    obtain ⟨t, rfl⟩ := Option.isSome_iff_exists.1 h
    rfl
  | _ => rfl

end DataGovernance
