import DataGovernance.Gate
import DataGovernance.Lineage.Impact
import DataGovernance.Mutation.Basic

/-!
# Sessions

A session drives one cycle: it holds a snapshot and the rules for resolutions. It opens only on a
snapshot whose entities have different ids and whose lineage is a graph. From then on the cycle
moves forward when the gate of its step is open, moves back freely, and takes mutations; each such
operation raises the version by one, and one that fails changes nothing.

Key definitions: `Session`, `Session.new`, `Operation`, `Session.perform`, `Session.after`.
-/

namespace DataGovernance

/-- Why a session does not open or refuses an operation. -/
inductive SessionError where
  | blocked (step : Step) (report : GateReport)
  | complete
  | atFirst
  | change (cause : ChangeError)
  | lineage (cause : LineageError)
  deriving DecidableEq, Repr

/-- The wording of a session error. -/
def SessionError.message : SessionError → String
  | blocked step report => "cannot leave " ++ Vocabulary.word step ++ ": " ++ report.message
  | complete => "workflow cycle is already complete"
  | atFirst => "already at the first step"
  | change cause => cause.message
  | lineage cause => "invalid lineage graph: " ++ cause.message

/-- Fails when two entities have the same id. -/
def checkIds {α : Type} [Entity α] (as : List α) : Except ChangeError Unit :=
  match Text.firstRepeated? [] (as.map Entity.id) with
  | some id => .error (.duplicateId (Entity.kind α) id)
  | none => .ok ()

/-- Fails when two elements, issues or matches have the same id. -/
def Snapshot.checkIds (s : Snapshot) : Except ChangeError Unit := do
  DataGovernance.checkIds s.elements
  DataGovernance.checkIds s.issues
  DataGovernance.checkIds s.reconciliation

/-- A cycle that is being worked on. -/
structure Session where
  snapshot : Snapshot
  rules : ResolutionRules
  deriving DecidableEq, Repr

/-- An operation that can change a cycle. -/
inductive Operation where
  | advance
  | back
  /-- Applies a mutation at a time. -/
  | apply (mutation : Mutation) (now : Time.Timestamp)
  deriving DecidableEq, Repr

namespace Session

/-- Opens a session. -/
def new (snapshot : Snapshot) (rules : ResolutionRules) : Except SessionError Session :=
  match snapshot.checkIds with
  | .error e => .error (.change e)
  | .ok _ =>
    match Graph.ofLineage snapshot.lineage with
    | .error e => .error (.lineage e)
    | .ok _ => .ok ⟨snapshot, rules⟩

/-- The step of the cycle. -/
def step (σ : Session) : Step := σ.snapshot.progress.step

/-- The version of the snapshot. -/
def version (σ : Session) : Count := σ.snapshot.version

/-! ### Operations -/

/-- The report of the gate of the current step. -/
def exitGate (σ : Session) : Option GateReport :=
  (Gate.guarding σ.step).map fun gate => gate.report σ.snapshot

/-- The session at another step, one version later. -/
def moveTo (σ : Session) (step : Step) : Session :=
  { σ with snapshot := { σ.snapshot with version := σ.version + 1, progress := ⟨step⟩ } }

/-- Moves to the next step if the gate of the current step is open. -/
def advance (σ : Session) : Except SessionError Session :=
  match σ.step.next? with
  | none => .error .complete
  | some next =>
    match σ.exitGate with
    | none => .ok (σ.moveTo next)
    | some report => if report.passed then .ok (σ.moveTo next) else .error (.blocked σ.step report)

/-- Moves to the previous step. -/
def back (σ : Session) : Except SessionError Session :=
  match σ.step.previous? with
  | none => .error .atFirst
  | some previous => .ok (σ.moveTo previous)

/-- Applies a mutation at a time. -/
def apply (σ : Session) (m : Mutation) (now : Time.Timestamp) : Except SessionError Session :=
  match m.perform σ.rules now σ.snapshot with
  | .error e => .error (.change e)
  | .ok s => .ok { σ with snapshot := { s with version := s.version + 1 } }

/-- Performs an operation. -/
def perform (σ : Session) : Operation → Except SessionError Session
  | .advance => σ.advance
  | .back => σ.back
  | .apply m now => σ.apply m now

/-- The session after an operation, which is the same one if the operation fails. -/
def after (σ : Session) (op : Operation) : Session :=
  match σ.perform op with
  | .ok τ => τ
  | .error _ => σ

/-! ### Questions -/

/-- Checks the resolution of an issue; an issue without one has an empty resolution. -/
def checkResolution (σ : Session) (id : String) : Except SessionError FormCheck :=
  match σ.snapshot.issues.find? fun i => i.id == id with
  | none => .error (.change (.notFound .issue id))
  | some i => .ok (σ.rules.check (i.resolution.getD {}))

/-- The reports of all gates. -/
def gateReports (σ : Session) : List GateReport :=
  Vocabulary.members.map fun gate : Gate => gate.report σ.snapshot

/-- The lineage as a graph. -/
def graph (σ : Session) : Except LineageError Graph := Graph.ofLineage σ.snapshot.lineage

/-- The impact of a change to a node. -/
def impact (σ : Session) (id : String) : Except LineageError Impact := do
  let g ← σ.graph
  g.impact id

end Session

end DataGovernance
