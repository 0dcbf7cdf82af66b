import DataGovernance.Command.Run
import DataGovernance.Proofs.Command.Configuration
import DataGovernance.Proofs.Command.Orders
import DataGovernance.Proofs.Command.Printed
import DataGovernance.Proofs.Mutation.Alteration
import DataGovernance.Proofs.Session.WellFormed
import DataGovernance.Proofs.Snapshot.RoundTrip

/-!
# Processes refine a session in memory

Orders can be carried out by a session in memory, or by processes, of which each opens the file that
the one before it has left, carries out one order and writes the file anew. Both come to the same:
the file always holds the snapshot of the session, and a process succeeds exactly when the session
does and then reports its version and its step. The relation that carries the proof,
`Surroundings.Opens`, says that the file opens as the session; a saved snapshot opens again because
it is read back from its text and stays well-formed.

Key definitions: `Order.operation`, `Errand`, `Session.obeyAll`, `Surroundings.process`,
`Surroundings.obeyAll`, `Order.Reports`, `Surroundings.Opens`, `Surroundings.Follows`.
Key theorems: `Surroundings.reports_shown`, `Surroundings.process_accepted`,
`Surroundings.process_refused`, `Surroundings.Opens.obeyAll`, `Surroundings.follows_obeyAll`.
-/

namespace DataGovernance

open Json

/-! ### Orders in memory -/

namespace Order

/-- A mutation that an order applies does not ask for the time. -/
def IsTimed : Order → Prop
  | apply mutation => ∀ m, Mutation.ofText mutation = .ok m → m.IsTimed
  | _ => True

/-- The operation that an order stands for at a time, if its mutation can be read. -/
def operation (now : Time.Timestamp) : Order → Except Record.ReadError Operation
  | advance => .ok .advance
  | back => .ok .back
  | apply mutation => (Mutation.ofText mutation).map fun m => .apply m now

end Order

/-- The answer to an operation that took a session to another one. -/
def Operation.answer (before after : Session) (write : Bool) : Operation → Answer
  | advance => .ofStep before after write
  | back => .ofStep before after write
  | apply m _ => .ofMutation m.kind after write

/-- The error of a command whose operation a session refuses. -/
def Operation.refusal : Operation → SessionError → CommandError
  | advance => .refused
  | back => .refused
  | apply m _ => .rejected m.kind

/-- An order, with the times at which a process and a session in memory carry it out. -/
structure Errand where
  order : Order
  processTime : Time.Timestamp
  sessionTime : Time.Timestamp

namespace Errand

/-- An errand whose mutation neither looks like an option nor asks for the time. -/
structure IsSound (e : Errand) : Prop where
  plain : e.order.IsPlain
  timed : e.order.IsTimed

/-- In memory an errand takes a session to another one by an operation. -/
def Takes (e : Errand) (op : Operation) (σ τ : Session) : Prop :=
  e.order.operation e.sessionTime = .ok op ∧ σ.perform op = .ok τ

end Errand

namespace Session

/-- The session after an errand, which is the same one if the errand fails. -/
def obey (σ : Session) (e : Errand) : Session :=
  match e.order.operation e.sessionTime with
  | .ok op => σ.after op
  | .error _ => σ

/-- The session after errands one after another. -/
def obeyAll (σ : Session) (errands : List Errand) : Session := errands.foldl obey σ

theorem obey_of_takes {σ τ : Session} {e : Errand} {op : Operation} (h : e.Takes op σ τ) :
    σ.obey e = τ := by
  simp only [obey, h.1, after, h.2]

theorem obey_of_not_takes {σ : Session} {e : Errand} (h : ¬∃ op τ, e.Takes op σ τ) :
    σ.obey e = σ := by
  unfold obey after
  split
  · rename_i op hop
    split
    · rename_i τ hτ
      exact absurd ⟨op, τ, hop, hτ⟩ h
    · rfl
  · rfl

end Session

/-- An order that does not ask for the time stands for alike operations at any two times. -/
theorem Order.IsTimed.operation_eq_ok {order : Order} (h : order.IsTimed) {now : Time.Timestamp}
    (now' : Time.Timestamp) {op : Operation} (hop : order.operation now = .ok op) :
    ∃ op', order.operation now' = .ok op' ∧ (∀ σ : Session, σ.perform op' = σ.perform op) ∧
      ∀ before after write, op'.answer before after write = op.answer before after write := by
  cases order with
  | advance | back => exact ⟨op, hop, fun _ => rfl, fun _ _ _ => rfl⟩
  | apply mutation =>
    cases hm : Mutation.ofText mutation with
    | error e => simp [operation, hm, Except.map] at hop
    | ok m =>
      simp only [operation, hm, Except.map, Except.ok.injEq] at hop ⊢
      subst hop
      refine ⟨.apply m now', rfl, fun σ => ?_, fun _ _ _ => rfl⟩
      simp only [Session.perform, Session.apply, (h m hm).perform_eq σ.rules now' now]

/-- An output reports a session for an order: its version, and its step if the order was to move to
another one. -/
structure Order.Reports (order : Order) (format : OutputFormat) (τ : Session) (output : String) :
    Prop where
  version : format.Tells output "version" τ.version.val.repr (.num (.int τ.version.val))
  step : (∀ mutation, order ≠ .apply mutation) →
    format.Tells output "to" (Vocabulary.word τ.step) (.str (Vocabulary.word τ.step))

/-! ### Orders carried out by processes -/

namespace Surroundings

/-- The surroundings that a process leaves. -/
def left (w : Surroundings) (o : Outcome) : Surroundings :=
  match o.written with
  | none => w
  | some (file, text) => w.saved file text

/-- What comes of a process that carries out an errand on a file, with the option for writing or
without it. -/
def process (w : Surroundings) (file : String) (e : Errand) (write : Bool) : Outcome :=
  { w with now := e.processTime }.run (e.order.arguments file write)

/-- The surroundings after errands, each carried out by a process that writes the file. -/
def obeyAll (w : Surroundings) (file : String) (errands : List Errand) : Surroundings :=
  errands.foldl (fun w e => w.left (w.process file e true)) w

/-- What a process prints for an answer. -/
def shown (w : Surroundings) (settings : Settings) (a : Answer) : String :=
  settings.format.render (w.tableStyle false) a.value ++ "\n"

/-- A file opens as a session under settings, and they do not come from it. -/
structure Opens (w : Surroundings) (settings : Settings) (file : String) (σ : Session) : Prop where
  nonempty : file ≠ ""
  plain : IsPlain file
  apart : w.Apart file
  loads : Settings.load w.sources = .ok settings
  opens : w.openSession settings.resolution file = .ok σ

variable {w : Surroundings} {settings : Settings} {file : String} {σ τ : Session} {e : Errand}
  {op : Operation}

theorem leastWidth_le_limit (w : Surroundings) (quiet : Bool) :
    ∀ n ∈ (w.tableStyle quiet).limit, leastWidth ≤ n := fun _ hn =>
  of_decide_eq_true (Option.filter_eq_some_iff.1 hn).2

/-- What is printed for an answer reports the session that the operation led to. -/
theorem reports_shown {now : Time.Timestamp} (hop : e.order.operation now = .ok op)
    (w : Surroundings) (settings : Settings) (write : Bool) :
    e.order.Reports settings.format τ (w.shown settings (op.answer σ τ write)) := by
  have hstyle := w.leastWidth_le_limit false
  cases horder : e.order with
  | advance | back =>
    rw [horder] at hop
    cases hop
    exact ⟨Answer.tells_version_ofStep hstyle _ σ τ write,
      fun _ => Answer.tells_step_ofStep hstyle _ σ τ write⟩
  | apply mutation =>
    rw [horder] at hop
    obtain ⟨m, -, rfl⟩ := map_eq_ok hop
    exact ⟨Answer.tells_version_ofMutation hstyle _ τ m.kind write,
      fun h => absurd rfl (h mutation)⟩

/-- A command that changes the cycle reads its operation, performs it and answers. -/
theorem answer_order {rules : ResolutionRules} (h : w.openSession rules file = .ok σ)
    (order : Order) (write : Bool) : w.answer rules (order.command file write) = do
      let op ← (order.operation w.now).mapError .invalidMutation
      let τ ← (σ.perform op).mapError op.refusal
      return op.answer σ τ write := by
  cases order with
  | advance | back =>
    simp only [Order.command, answer, h]
    rfl
  | apply mutation =>
    simp only [Order.command, answer, h, Order.operation]
    cases Mutation.ofText mutation <;> rfl

/-- A process succeeds with an errand that the session accepts, and writes what comes of it. -/
theorem process_accepted (h : w.Opens settings file σ) (he : e.IsSound) (ht : e.Takes op σ τ)
    (write : Bool) :
    w.process file e write = {
      exitCode := 0
      output := w.shown settings (op.answer σ τ write)
      written := if write then some (file, τ.snapshot.toText ++ "\n") else none } := by
  obtain ⟨op', hop, hperform, hanswer⟩ := he.timed.operation_eq_ok e.processTime ht.1
  -- neither the settings nor the session depend on the time of the process
  have hload : Settings.load (Surroundings.sources { w with now := e.processTime }) =
      .ok settings := h.loads
  have hopen : Surroundings.openSession { w with now := e.processTime } settings.resolution file =
      .ok σ := h.opens
  have hfile : (e.order.command file write).file? = some file := by cases e.order <;> rfl
  have hsaved : (op.answer σ τ write).saved = if write then some τ.snapshot else none := by
    cases op <;> rfl
  simp only [process, run, Order.ofArguments_arguments h.nonempty h.plain he.plain write, perform,
    hload, answer_order hopen, hop, hperform, ht.2, hanswer, Except.mapError, bind, Except.bind,
    pure, Except.pure, Outcome.ofAnswer, hfile, hsaved]
  cases write <;> rfl

/-- A process fails with an errand that the session refuses, and writes nothing. -/
theorem process_refused (h : w.Opens settings file σ) (he : e.IsSound)
    (hn : ¬∃ op τ, e.Takes op σ τ) :
    ∃ errors, ∀ write, w.process file e write = { exitCode := 1, errors } := by
  have hload : Settings.load (Surroundings.sources { w with now := e.processTime }) =
      .ok settings := h.loads
  have hopen : Surroundings.openSession { w with now := e.processTime } settings.resolution file =
      .ok σ := h.opens
  have herror : ∃ cause, ∀ write, Surroundings.answer { w with now := e.processTime }
      settings.resolution (e.order.command file write) = .error cause := by
    simp only [answer_order hopen]
    cases hop : e.order.operation e.processTime with
    | error cause => exact ⟨.invalidMutation cause, fun _ => rfl⟩
    | ok op =>
      -- what the process would perform, the session would perform at its own time
      obtain ⟨op', hop', hperform, -⟩ := he.timed.operation_eq_ok e.sessionTime hop
      cases hτ : σ.perform op with
      | error cause =>
        refine ⟨op.refusal cause, fun _ => ?_⟩
        simp [hτ, Except.mapError, bind, Except.bind]
      | ok τ => exact absurd ⟨op', τ, hop', (hperform σ).trans hτ⟩ hn
  obtain ⟨cause, hcause⟩ := herror
  refine ⟨cause.line, fun write => ?_⟩
  simp only [process, run, Order.ofArguments_arguments h.nonempty h.plain he.plain write, perform,
    hload, hcause write, Except.mapError, bind, Except.bind]

/-! ### The simulation -/

theorem openSession_eq_ok_iff {rules : ResolutionRules} : w.openSession rules file = .ok σ ↔
    (∃ text, w.files file = .ok text ∧ Snapshot.ofText text = .ok σ.snapshot) ∧
      σ.snapshot.WellFormed ∧ σ.rules = rules := by
  simp only [openSession, bind_eq_ok_iff, mapError_eq_ok_iff, Session.new_eq_ok_iff]
  constructor
  · rintro ⟨text, hfile, snapshot, hread, hwf, rfl⟩
    exact ⟨⟨text, hfile, hread⟩, hwf, rfl⟩
  · rintro ⟨⟨text, hfile, hread⟩, hwf, rfl⟩
    exact ⟨text, hfile, σ.snapshot, hread, hwf, rfl⟩

/-- A file opens as the session whose snapshot has been saved to it. -/
theorem Opens.saved (h : w.Opens settings file σ) (ht : Session.Transition σ op τ) :
    (w.saved file (τ.snapshot.toText ++ "\n")).Opens settings file τ := by
  obtain ⟨-, hwf, hrules⟩ := openSession_eq_ok_iff.1 h.opens
  -- the configuration lies elsewhere, the text is read back, and no operation touches an id
  refine ⟨h.nonempty, h.plain, h.apart.saved _, ?_, openSession_eq_ok_iff.2 ⟨?_, ?_, ?_⟩⟩
  · rw [sources_saved h.apart]
    exact h.loads
  · exact ⟨_, files_saved w file _, τ.snapshot.ofText_toText_newline⟩
  · exact hwf.of_sameIds ht.sameIds
  · rw [ht.rules_eq, hrules]

/-- What a process leaves opens as what the session in memory has become. -/
theorem Opens.left (h : w.Opens settings file σ) (he : e.IsSound) :
    (w.left (w.process file e true)).Opens settings file (σ.obey e) := by
  by_cases ht : ∃ op τ, e.Takes op σ τ
  · obtain ⟨op, τ, ht⟩ := ht
    rw [process_accepted h he ht true, Session.obey_of_takes ht]
    exact h.saved (Session.perform_eq_ok_iff.1 ht.2)
  · obtain ⟨errors, herrors⟩ := process_refused h he ht
    rw [herrors, Session.obey_of_not_takes ht]
    exact h

/-- After any errands the file opens as the session in memory. -/
theorem Opens.obeyAll : ∀ {errands : List Errand} {w : Surroundings} {σ : Session},
    w.Opens settings file σ → (∀ e ∈ errands, e.IsSound) →
      (w.obeyAll file errands).Opens settings file (σ.obeyAll errands)
  | [], _, _, h, _ => h
  | e :: errands, _, _, h, hs => by
    simp only [List.forall_mem_cons] at hs
    have hrest := Opens.obeyAll (h.left hs.1) hs.2
    exact hrest

/-- A process carries out an errand on a file as a session in memory does. -/
structure Follows (w : Surroundings) (settings : Settings) (file : String) (σ : Session)
    (e : Errand) : Prop where
  /-- The file holds the snapshot of the session. -/
  holds : ∃ text, w.files file = .ok text ∧ Snapshot.ofText text = .ok σ.snapshot
  /-- The process succeeds exactly when the session does. -/
  exitCode_eq_zero_iff : (w.process file e true).exitCode = 0 ↔ ∃ op τ, e.Takes op σ τ
  /-- If it succeeds it answers for the session, whose version and step it reports, and saves its
  snapshot. -/
  accepted : ∀ op τ, e.Takes op σ τ →
    (w.process file e true).output = w.shown settings (op.answer σ τ true) ∧
      e.order.Reports settings.format τ (w.process file e true).output ∧
      w.left (w.process file e true) = w.saved file (τ.snapshot.toText ++ "\n")
  /-- If it fails it leaves everything as it was. -/
  refused : (w.process file e true).exitCode ≠ 0 → w.left (w.process file e true) = w
  /-- Without the option for writing it comes to the same and reports the same session, but writes
  nothing. -/
  dry : (w.process file e false).exitCode = (w.process file e true).exitCode ∧
    (w.process file e false).errors = (w.process file e true).errors ∧
    w.left (w.process file e false) = w ∧
    ∀ op τ, e.Takes op σ τ →
      (w.process file e false).output = w.shown settings (op.answer σ τ false) ∧
        e.order.Reports settings.format τ (w.process file e false).output

/-- A process on a file that opens as a session does what the session does. -/
theorem Opens.follows (h : w.Opens settings file σ) (he : e.IsSound) :
    w.Follows settings file σ e := by
  have hholds := (openSession_eq_ok_iff.1 h.opens).1
  by_cases ht : ∃ op τ, e.Takes op σ τ
  · obtain ⟨op, τ, ht⟩ := ht
    have hwrite := process_accepted h he ht true
    have hdry := process_accepted h he ht false
    refine ⟨hholds, ?_, ?_, ?_, ?_⟩
    · rw [hwrite]
      exact ⟨fun _ => ⟨op, τ, ht⟩, fun _ => rfl⟩
    · intro op' τ' ht'
      rw [process_accepted h he ht' true]
      exact ⟨rfl, reports_shown ht'.1 w settings true, rfl⟩
    · rw [hwrite]
      exact fun hne => absurd rfl hne
    · refine ⟨by rw [hwrite, hdry], by rw [hwrite, hdry], by rw [hdry]; rfl, ?_⟩
      intro op' τ' ht'
      rw [process_accepted h he ht' false]
      exact ⟨rfl, reports_shown ht'.1 w settings false⟩
  · obtain ⟨errors, herrors⟩ := process_refused h he ht
    refine ⟨hholds, ?_, fun op τ ht' => absurd ⟨op, τ, ht'⟩ ht, ?_, ?_⟩
    · rw [herrors]
      exact ⟨fun hzero => absurd hzero Nat.one_ne_zero, fun ht' => absurd ht' ht⟩
    · rw [herrors]
      exact fun _ => rfl
    · rw [herrors, herrors]
      exact ⟨rfl, rfl, rfl, fun op τ ht' => absurd ⟨op, τ, ht'⟩ ht⟩

/-- **Processes refine a session in memory.** Whatever errands have been carried out on a file that
opens as a session, it holds the snapshot that the session has after them, and the process that
carries out the next one does what the session does. -/
theorem follows_obeyAll (h : w.Opens settings file σ) {errands : List Errand}
    (hs : ∀ d ∈ errands, d.IsSound) (he : e.IsSound) :
    (w.obeyAll file errands).Follows settings file (σ.obeyAll errands) e :=
  (h.obeyAll hs).follows he

/-! ### A cycle on file -/

end Surroundings

/-- An errand that applies a mutation, given in its compact form. -/
def Errand.applying (m : Mutation) (processTime sessionTime : Time.Timestamp) : Errand where
  order := .apply m.encode.compact
  processTime
  sessionTime

theorem Errand.operation_applying (m : Mutation) (t u now : Time.Timestamp) :
    (applying m t u).order.operation now = .ok (.apply m now) := by
  rw [applying, Order.operation, Value.compact, m.ofText_write Style.blank_compact]
  rfl

theorem Mutation.IsTimed.isSound_applying {m : Mutation} (hm : m.IsTimed) (t u : Time.Timestamp) :
    (Errand.applying m t u).IsSound where
  plain h := by
    -- the text of an object begins with a brace
    have hbrace : m.encode.compact.toList.head? = some '\x7b' := by
      rw [Value.compact, String.toList_ofList]
      rfl
    rw [hbrace] at h
    cases h
  timed m' hm' := by
    rw [Value.compact, m.ofText_write Style.blank_compact] at hm'
    cases hm'
    exact hm

theorem Session.obey_applying (σ : Session) (m : Mutation) (t u : Time.Timestamp) :
    σ.obey (.applying m t u) = σ.after (.apply m u) := by
  rw [obey, Errand.operation_applying]
  rfl

/-- A cycle with an element that is pending and an issue. -/
def started : Session where
  snapshot := {
    cycleId := "2026-q1"
    elements := [
      { id := "net-sales"
        name := "Net sales"
        status := .pending
        overallScore := ⟨87, by decide⟩
        createdAt := .epoch }]
    issues := [
      { id := "late-feed"
        title := "Late feed"
        severity := .low
        status := .opened
        createdAt := .epoch }] }
  rules := {}

/-- Nine hours into the first day. -/
def morning : Time.Timestamp :=
  { Time.Timestamp.epoch with second := 32400, second_lt := by decide, leap_last := by decide }

/-- The cycle is held up at its second step until the element is approved. In the end an owner is
named for an element that there is not. -/
def firstErrands : List Errand := [
  ⟨.advance, .epoch, morning⟩,
  ⟨.advance, .epoch, morning⟩,
  .applying .approveAllPending .epoch morning,
  ⟨.advance, morning, morning⟩,
  .applying (.assignOwner "gross-sales" { name := "Ada" }) morning .epoch]

/-- An owner is named for the element that there is. -/
def ownerErrand : Errand := .applying (.assignOwner "net-sales" { name := "Ada" }) morning .epoch

theorem isSound_firstErrands : ∀ e ∈ firstErrands, e.IsSound := by
  have hsteps : ∀ t u, (⟨.advance, t, u⟩ : Errand).IsSound := fun _ _ => ⟨trivial, trivial⟩
  have happrove : Mutation.IsTimed .approveAllPending := trivial
  have hassign : Mutation.IsTimed (.assignOwner "gross-sales" { name := "Ada" }) := trivial
  simp only [firstErrands, List.forall_mem_cons]
  exact ⟨hsteps _ _, hsteps _ _, happrove.isSound_applying _ _, hsteps _ _,
    hassign.isSound_applying _ _, List.forall_mem_nil _⟩

theorem obeyAll_firstErrands : started.obeyAll firstErrands =
    { started with snapshot := { started.snapshot with
        version := 3
        progress := ⟨.ownershipAssignment⟩
        elements := started.snapshot.elements.map Element.approvePending } } := by
  simp only [firstErrands, Session.obeyAll, List.foldl_cons, List.foldl_nil, Session.obey_applying]
  decide +kernel

namespace Surroundings

/-- The directory of a user who has set nothing. -/
def desk : Surroundings where
  files _ := .error .absent
  home := some "/u"
  directory := "/work"

/-- The directory with the file of the cycle in it. -/
def deskWithCycle : Surroundings := desk.saved "cycle.json" (started.snapshot.toText ++ "\n")

theorem opens_deskWithCycle : deskWithCycle.Opens {} "cycle.json" started := by
  have hapart : desk.Apart "cycle.json" := by
    unfold Apart
    decide +kernel
  have hwf : started.snapshot.WellFormed := ⟨by decide, by decide, by decide, by decide, by decide⟩
  have hloads : Settings.load desk.sources = .ok {} := rfl
  refine ⟨by decide, fun h => absurd h (by decide), hapart.saved _, ?_,
    openSession_eq_ok_iff.2 ⟨⟨_, files_saved desk _ _, ?_⟩, hwf, rfl⟩⟩
  · rw [deskWithCycle, sources_saved hapart]
    exact hloads
  · exact Snapshot.ofText_toText_newline _

/-- Three of the five errands have been carried out and two have been refused when the owner is
named. -/
theorem follows_obeyAll_deskWithCycle :
    deskWithCycle.Opens {} "cycle.json" started ∧ (∀ e ∈ firstErrands, e.IsSound) ∧
      ownerErrand.IsSound ∧ (started.obeyAll firstErrands).version = 3 ∧
      let w := deskWithCycle.obeyAll "cycle.json" firstErrands
      w.Follows {} "cycle.json" (started.obeyAll firstErrands) ownerErrand ∧
        (w.process "cycle.json" ownerErrand true).exitCode = 0 := by
  have hassign : Mutation.IsTimed (.assignOwner "net-sales" { name := "Ada" }) := trivial
  have howner : ownerErrand.IsSound := hassign.isSound_applying _ _
  have hfollows := follows_obeyAll opens_deskWithCycle isSound_firstErrands howner
  refine ⟨opens_deskWithCycle, isSound_firstErrands, howner, ?_, hfollows, ?_⟩
  · rw [obeyAll_firstErrands]
    rfl
  · rw [hfollows.exitCode_eq_zero_iff, obeyAll_firstErrands]
    exact ⟨_, _, Errand.operation_applying _ _ _ _, rfl⟩

end Surroundings

end DataGovernance
