import DataGovernance.Text.Digits
import DataGovernance.Text.Quoted

/-!
# Data of the settings

A source of settings gives a table: named data, which may be tables in turn. Sources are laid over
each other: tables are merged name by name, and of anything else the upper one stands. The names of
a table are in code point order.

Key definitions: `Datum`, `Datum.put`, `Datum.overlay`, `Datum.get?`.
Key theorem: `Datum.same_iff`.
-/

namespace DataGovernance

/-- What a source of settings can hold. -/
inductive Datum where
  | flag (b : Bool)
  /-- A whole number of a source that writes signs. -/
  | signed (i : Int)
  /-- A whole number of a source that writes none. -/
  | unsigned (n : Nat)
  /-- A number with a fraction, as it is shown. -/
  | fraction (shown : String)
  | text (s : String)
  | list (items : List Datum)
  | table (entries : List (String × Datum))
  deriving Repr, Inhabited

namespace Datum

/-! ### Equality -/

mutual

/-- Whether two data are the same. -/
def same : Datum → Datum → Bool
  | flag a, flag b => a == b
  | signed i, signed j => i == j
  | unsigned m, unsigned n => m == n
  | fraction s, fraction t => s == t
  | text s, text t => s == t
  | list as, list bs => sameItems as bs
  | table as, table bs => sameEntries as bs
  | _, _ => false

/-- Whether two lists have the same items. -/
def sameItems : List Datum → List Datum → Bool
  | [], [] => true
  | a :: as, b :: bs => same a b && sameItems as bs
  | _, _ => false

/-- Whether two tables have the same entries. -/
def sameEntries : List (String × Datum) → List (String × Datum) → Bool
  | [], [] => true
  | (m, a) :: as, (n, b) :: bs => m == n && same a b && sameEntries as bs
  | _, _ => false

end

mutual

theorem same_iff : ∀ {a b : Datum}, same a b = true ↔ a = b
  | list as, b => by
    have hitems := @sameItems_iff as
    cases b <;> simp [same, hitems]
  | table as, b => by
    have hentries := @sameEntries_iff as
    cases b <;> simp [same, hentries]
  | flag _, b => by cases b <;> simp [same]
  | signed _, b => by cases b <;> simp [same]
  | unsigned _, b => by cases b <;> simp [same]
  | fraction _, b => by cases b <;> simp [same]
  | text _, b => by cases b <;> simp [same]

theorem sameItems_iff : ∀ {as bs : List Datum}, sameItems as bs = true ↔ as = bs
  | [], bs => by cases bs <;> simp [sameItems]
  | a :: as, [] => by simp [sameItems]
  | a :: as, b :: bs => by
    rw [sameItems, Bool.and_eq_true, same_iff, sameItems_iff, List.cons.injEq]

theorem sameEntries_iff :
    ∀ {as bs : List (String × Datum)}, sameEntries as bs = true ↔ as = bs
  | [], bs => by cases bs <;> simp [sameEntries]
  | a :: as, [] => by simp [sameEntries]
  | (m, a) :: as, (n, b) :: bs => by
    rw [sameEntries, Bool.and_eq_true, Bool.and_eq_true, beq_iff_eq, same_iff, sameEntries_iff,
      List.cons.injEq, Prod.mk.injEq]

end

instance : DecidableEq Datum := fun _ _ => decidable_of_iff _ same_iff

/-! ### Tables over tables -/

/-- Puts a datum under a name in the entries of a table, in the place of an earlier one. -/
def put (name : String) (d : Datum) : List (String × Datum) → List (String × Datum)
  | [] => [(name, d)]
  | (n, e) :: rest =>
    if name < n then (name, d) :: (n, e) :: rest
    else if name = n then (name, d) :: rest
    else (n, e) :: put name d rest

mutual

/-- A datum laid over another one. -/
def overlay (low : Datum) : Datum → Datum
  | table high =>
    match low with
    | table entries => table (overlayEntries entries high)
    | _ => table high
  | high => high

/-- The entries of a table laid over those of another one. -/
def overlayEntries (low : List (String × Datum)) : List (String × Datum) → List (String × Datum)
  | [] => low
  | (name, d) :: rest =>
    let d := match low.lookup name with
      | some e => overlay e d
      | none => d
    overlayEntries (put name d low) rest

end

/-! ### Parts -/

/-- The datum at a path of names. The items of a list are named by their places, from zero. -/
def get? : Datum → List String → Option Datum
  | d, [] => some d
  | table entries, name :: path =>
    match entries.lookup name with
    | some d => d.get? path
    | none => none
  | list items, name :: path =>
    match items[Text.value name.toList]? with
    | some d => if name.toList.all Char.isDigit then d.get? path else none
    | none => none
  | _, _ :: _ => none

/-- A datum below a path of names. -/
def nest (path : List String) (d : Datum) : Datum :=
  path.foldr (fun name d => table [(name, d)]) d

/-- The wording for a datum that was found in the place of another one. -/
def message : Datum → String
  | flag true => "bool true"
  | flag false => "bool false"
  | signed i => "signed int `" ++ String.ofList (Text.integer i) ++ "`"
  | unsigned n => "unsigned int `" ++ String.ofList (Text.digits n) ++ "`"
  | fraction shown => "float `" ++ shown ++ "`"
  | text s => "string " ++ Text.quote s
  | list _ => "sequence"
  | table _ => "map"

end Datum

end DataGovernance
