import DataGovernance.Text.Blank

/-!
# Closed vocabularies

Statuses, kinds and levels are closed lists of words. A vocabulary lists its members in order and
gives each a word of its own, so a word names at most one member (`ofWord?_word`). People may write
a word with blanks around it, in any case and with hyphens; `plain` undoes that.

Key definitions: `Vocabulary`, `ofWord?`, `words`, `plain`, `ofLenientWord`,
`UnknownWord`.
-/

namespace DataGovernance

/-- A closed list of members, each with a word of its own. -/
class Vocabulary (α : Type) where
  /-- The members in order. -/
  members : List α
  /-- The word of a member. -/
  word : α → String
  mem_members : ∀ a, a ∈ members
  nodup_words : (members.map word).Nodup

namespace Vocabulary

variable {α : Type} [Vocabulary α]

/-- The words of the members in order. -/
def words (α : Type) [Vocabulary α] : List String := (members : List α).map word

/-- The member that a word names. -/
def ofWord? (s : String) : Option α := members.find? fun a => word a == s

/-- A word that names no member. -/
structure UnknownWord where
  found : String
  known : List String
  deriving DecidableEq, Repr

/-- The member that a word names, or the word and the ones that could have stood there. -/
def ofWord (s : String) : Except UnknownWord α :=
  match ofWord? s with
  | some a => .ok a
  | none => .error ⟨s, words α⟩

/-- The position of a member. -/
def rank [BEq α] (a : α) : Nat := members.idxOf a

theorem ofWord?_word (a : α) : ofWord? (word a) = some a := by
  have key : ∀ l : List α, (l.map word).Nodup → a ∈ l →
      l.find? (fun b => word b == word a) = some a := by
    intro l
    induction l with
    | nil => simp
    | cons b l ih =>
      intro hn hm
      simp only [List.map_cons, List.nodup_cons] at hn
      rcases List.mem_cons.1 hm with rfl | hm
      · simp
      · have hb : ¬word b = word a := fun hb => hn.1 (hb ▸ List.mem_map_of_mem hm)
        rw [List.find?_cons_of_neg (by simpa using hb), ih hn.2 hm]
  exact key members nodup_words (mem_members a)

theorem ofWord_word (a : α) : ofWord (word a) = .ok a := by
  simp [ofWord, ofWord?_word]

end Vocabulary

/-- Words between backquotes, as alternatives. -/
def alternatives : List String → String
  | [] => "there are no variants"
  | [a] => "expected `" ++ a ++ "`"
  | [a, b] => "expected `" ++ a ++ "` or `" ++ b ++ "`"
  | ws => "expected one of " ++ String.intercalate ", " (ws.map fun w => "`" ++ w ++ "`")

/-- The wording for a word that names no member. -/
def Vocabulary.UnknownWord.message (e : UnknownWord) : String :=
  "unknown variant `" ++ e.found ++ "`, " ++ alternatives e.known

/-- A word as people may write it: without blanks around it, in lower case as far as English
letters go, and with underscores for hyphens. -/
def plain (s : String) : String :=
  String.ofList ((Text.trim s.toList).map fun c => if c = '-' then '_' else c.toLower)

/-- The member that a word names, however people write it. -/
def ofLenientWord {α : Type} [Vocabulary α] (s : String) : Except Vocabulary.UnknownWord α :=
  Vocabulary.ofWord (plain s)

/-- The wording for a word that names no member, in the place of a named field. -/
def lenientMessage (field s : String) (e : Vocabulary.UnknownWord) : String :=
  "invalid " ++ field ++ " '" ++ s ++ "': " ++ e.message

end DataGovernance
