import DataGovernance.Count
import DataGovernance.Issue
import DataGovernance.Text.Blank
import DataGovernance.Text.Digits

/-!
# The form check of a resolution

A resolution has to name its type, describe what was done at some length, and come with some
evidence. The length counts characters, blanks around the description left out.

Key definitions: `ResolutionRules`, `Problem`, `ResolutionRules.problems`,
`ResolutionRules.accepts`.
-/

namespace DataGovernance

/-- What a resolution has to have. -/
structure ResolutionRules where
  minDescriptionChars : Count := 50
  minEvidence : Count := 1
  deriving DecidableEq, Repr

/-- What a resolution can lack. -/
inductive Problem where
  | noType
  | shortDescription (least found : Nat)
  | littleEvidence (least found : Nat)
  deriving DecidableEq, Repr

/-- The wording of a problem. -/
def Problem.message : Problem → String
  | noType => "resolution type is required"
  | shortDescription least found =>
    "description must be at least " ++ String.ofList (Text.digits least) ++ " characters (got " ++
      String.ofList (Text.digits found) ++ ")"
  | littleEvidence least found =>
    "at least " ++ String.ofList (Text.digits least) ++ " evidence attachment(s) required (got " ++
      String.ofList (Text.digits found) ++ ")"

namespace ResolutionRules

/-- The problems of a resolution: type, description and evidence, in this order. -/
def problems (rules : ResolutionRules) (r : Resolution) : List Problem :=
  let chars := (Text.trim r.description.toList).length
  (if r.resolutionType.isNone then [.noType] else []) ++
    (if chars < rules.minDescriptionChars.val then
      [.shortDescription rules.minDescriptionChars.val chars] else []) ++
    (if r.evidence.length < rules.minEvidence.val then
      [.littleEvidence rules.minEvidence.val r.evidence.length] else [])

/-- Whether a resolution has no problem. -/
def accepts (rules : ResolutionRules) (r : Resolution) : Bool := (rules.problems r).isEmpty

end ResolutionRules

end DataGovernance
