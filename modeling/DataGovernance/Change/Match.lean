import DataGovernance.Change.Entity

/-!
# Changes of matches

Key definitions: `recordAction`, `acceptSuggestedActions`.
-/

namespace DataGovernance

/-- Records the action taken on a match. -/
def recordAction (id : String) (action : MatchAction) (ms : List Match) :
    Except ChangeError (List Match) :=
  changeFirst id (fun m => .ok { m with actionTaken := some action }) ms

/-- Takes the suggested action unless another one has been taken. -/
def Match.takeSuggestion (m : Match) : Match :=
  { m with actionTaken := m.actionTaken.or m.suggestedAction }

/-- Takes the suggested action on every match that is pending and has one. -/
def acceptSuggestedActions (ms : List Match) : List Match := ms.map Match.takeSuggestion

end DataGovernance
