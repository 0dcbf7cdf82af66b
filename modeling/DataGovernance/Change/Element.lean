import DataGovernance.Change.Entity

/-!
# Changes of elements

Key definitions: `assignOwner`, `setElementStatus`, `approveAllPending`.
-/

namespace DataGovernance

/-- Makes someone the owner of an element. The owner's name must not be blank. -/
def assignOwner (id : String) (owner : Owner) (elements : List Element) :
    Except ChangeError (List Element) := do
  requireText .ownerName owner.name
  changeFirst id (fun e => .ok { e with owner := some owner }) elements

/-- Puts an element into the status it has or one that may follow it. -/
def Element.putStatus (status : ElementStatus) (e : Element) : Except ChangeError Element :=
  if e.status = status ∨ status ∈ e.status.next then .ok { e with status }
  else .error (.elementStatus e.id e.status status)

/-- Puts an element into another status. -/
def setElementStatus (id : String) (status : ElementStatus) (elements : List Element) :
    Except ChangeError (List Element) :=
  changeFirst id (Element.putStatus status) elements

/-- Approves an element that is pending. -/
def Element.approvePending (e : Element) : Element :=
  if e.status = .pending then { e with status := .approved } else e

/-- Approves all elements that are pending. -/
def approveAllPending (elements : List Element) : List Element :=
  elements.map Element.approvePending

end DataGovernance
