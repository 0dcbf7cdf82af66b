import DataGovernance.Change.Entity

/-!
# Changes of lineage nodes

Key definitions: `cleanTerms`, `linkBusinessTerms`, `deferBusinessTerms`.
-/

namespace DataGovernance

/-- Terms without blanks around them, without blank ones and each only once. -/
def cleanTerms (terms : List String) : List String :=
  ((terms.map Text.trimmed).filter fun s => s ≠ "").eraseDups

/-- Links a node to business terms, of which at least one must not be blank. An earlier deferral
ends. -/
def linkBusinessTerms (id : String) (terms : List String) (nodes : List Node) :
    Except ChangeError (List Node) :=
  match cleanTerms terms with
  | [] => .error .noTerms
  | cleaned =>
    changeFirst id
      (fun n => .ok { n with
        businessTerms := cleaned
        businessTermsDeferred := false
        deferralReason := none })
      nodes

/-- Defers the linking of a node for a reason, which is stored without blanks around it. -/
def deferBusinessTerms (id reason : String) (nodes : List Node) :
    Except ChangeError (List Node) := do
  requireText .deferralReason reason
  changeFirst id
    (fun n => .ok { n with
      businessTermsDeferred := true
      deferralReason := some (Text.trimmed reason) })
    nodes

end DataGovernance
