/-!
# Lines

A text is cut into lines behind each line end, which stays at the end of its line.

Key definitions: `cutBehind`.
-/

namespace DataGovernance.Text

variable {α : Type} [DecidableEq α]

/-- Cuts a list behind each occurrence of an element. -/
def cutBehind (a : α) : List α → List (List α)
  | [] => []
  | b :: rest =>
    if b = a then [b] :: cutBehind a rest
    else match cutBehind a rest with
      | piece :: pieces => (b :: piece) :: pieces
      | [] => [[b]]

end DataGovernance.Text
