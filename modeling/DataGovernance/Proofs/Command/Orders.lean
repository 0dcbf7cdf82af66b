import DataGovernance.Command.Arguments

/-!
# Orders on the command line

An order tells the program to change a snapshot file: to advance the cycle, to go back, or to apply
the mutation that a text stands for. On the command line it is given by its name, its values and
perhaps the option for writing, and it is read back as the command that it stands for as long as no
value looks like an option.

Key definitions: `IsPlain`, `Order`, `Order.arguments`, `Order.command`.
Key theorems: `Order.ofArguments_arguments`.
-/

namespace DataGovernance

/-- An argument that does not look like an option. A hyphen alone is none. -/
def IsPlain (a : String) : Prop := a.toList.head? = some '-' → a = "-"

/-- An order to change a snapshot file. -/
inductive Order where
  | advance
  | back
  /-- Applies the mutation that a text stands for. -/
  | apply (mutation : String)
  deriving DecidableEq, Repr

namespace Order

/-- The name of the command that an order is given with. -/
def name : Order → CommandName
  | advance => .advance
  | back => .back
  | apply _ => .apply

/-- The values that an order is given with. -/
def values (file : String) : Order → List String
  | advance => [file]
  | back => [file]
  | apply mutation => [file, mutation]

/-- The arguments of an order on a file. -/
def arguments (order : Order) (file : String) (write : Bool) : List String :=
  Vocabulary.word order.name :: order.values file ++ if write then ["--write"] else []

/-- The command that an order on a file stands for. -/
def command (file : String) (write : Bool) : Order → Command
  | advance => .advance file write
  | back => .back file write
  | apply mutation => .apply file mutation write

/-- The text of a mutation must not look like an option. -/
def IsPlain : Order → Prop
  | apply mutation => DataGovernance.IsPlain mutation
  | _ => True

theorem ownSwitches_name (order : Order) : order.name.ownSwitches = [.write] := by
  cases order <;> rfl

end Order

/-! ### Reading values and the option for writing -/

namespace Level

theorem read_value {l : Level} (hl : l.hasNames = false) {g : Given} (hg : g.waiting = none)
    {a : String} (ha : IsPlain a) (rest : List String) :
    l.read false g (a :: rest) = (do l.read false (← l.readValue g a) rest) := by
  by_cases hm : a = "-"
  · subst hm
    simp [read, hg]
  · have hhead : ∀ cs, a.toList ≠ '-' :: cs := fun cs hcs => hm (ha (by simp [hcs]))
    rw [read]
    simp only [Bool.false_eq_true, if_false, hg, hl, Bool.false_and]
    split <;> simp_all

/-- A value is put behind the values before it as long as there is room for it. -/
theorem read_plain {name : CommandName} {vs : List String} (hlen : vs.length < name.values.length)
    {a : String} (ha : IsPlain a) (hne : vs = [] → a ≠ "") (rest : List String) :
    (behind name).read false { values := vs } (a :: rest) =
      (behind name).read false { values := vs ++ [a] } rest := by
  have hroom : ¬((behind name).arity ≤ vs.length ∨ (vs = [] ∧ a = "")) := by
    rintro (hfull | ⟨hnil, hempty⟩)
    · exact Nat.not_le.2 hlen hfull
    · exact hne hnil hempty
  rw [read_value rfl rfl ha, readValue]
  simp only [Given.judge, bind, Except.bind, if_neg hroom]

theorem read_write {name : CommandName} (h : name.ownSwitches = [.write]) (vs : List String) :
    (behind name).read false { values := vs } ["--write"] =
      .ok ({ values := vs, write := true }, none) := by
  have hswitches : (behind name).switches = [.write, .format, .quiet, .verbose, .help] := by
    simp [behind, CommandName.switches, h, Switch.shared]
  simp [read, readName, hswitches]
  rfl

end Level

/-! ### Orders -/

theorem Invocation.ofArguments_name (name : CommandName) (rest : List String) :
    ofArguments (Vocabulary.word name :: rest) = ofCommand {} name rest := by
  cases name <;> rfl

namespace Order

theorem read_values {order : Order} {file : String} (hne : file ≠ "")
    (hfile : DataGovernance.IsPlain file) (ho : order.IsPlain) (rest : List String) :
    (Level.behind order.name).read false {} (order.values file ++ rest) =
      (Level.behind order.name).read false { values := order.values file } rest := by
  cases order with
  | advance => exact Level.read_plain (by decide) hfile (fun _ => hne) rest
  | back => exact Level.read_plain (by decide) hfile (fun _ => hne) rest
  | apply mutation =>
    have hfirst : (Level.behind .apply).read false {} (file :: mutation :: rest) =
        (Level.behind .apply).read false { values := [file] } (mutation :: rest) :=
      Level.read_plain (by decide) hfile (fun _ => hne) (mutation :: rest)
    exact hfirst.trans (Level.read_plain (by simp [CommandName.values]) ho (by simp) rest)

/-- **An order is read back from its arguments.** -/
theorem ofArguments_arguments {order : Order} {file : String} (hne : file ≠ "")
    (hfile : DataGovernance.IsPlain file) (ho : order.IsPlain) (write : Bool) :
    Invocation.ofArguments (order.arguments file write) =
      .run { command := order.command file write } := by
  have hread := read_values hne hfile ho (if write then ["--write"] else [])
  rw [arguments, List.cons_append, Invocation.ofArguments_name, Invocation.ofCommand, hread]
  cases write with
  | true =>
    simp only [if_true, Level.read_write order.ownSwitches_name]
    cases order <;> rfl
  | false => cases order <;> rfl

example : Invocation.ofArguments ["apply", "cycle.json", "\x7b\x7d", "--write"] =
    .run { command := .apply "cycle.json" "\x7b\x7d" true } :=
  rfl

end Order

end DataGovernance
