import DataGovernance.Json.Reader
import DataGovernance.Proofs.Json.Scan

/-!
# Written values are read back

Reading the tokens of a value in a value's place hands the value's document to the list or object
that waits for it. So a written value is read back as its document, also when blanks follow it.

Key theorems: `ofTokens_tokens`, `Reading.ofText_write`, `Reading.ofText_compact`.
-/

namespace DataGovernance.Json

open Value

/-! ### Tokens of a value -/

/-- A value does not begin with the end of a list. -/
theorem Value.tokens_eq_cons (v : Value) : ∃ t ts, v.tokens = t :: ts ∧ t ≠ .closeList := by
  cases v with
  | list items => cases items <;> simp [tokens]
  | object members => cases members <;> simp [tokens]
  | _ => simp [tokens]

namespace Reading

/-- The first value of a list is read as one for which the list waits. -/
theorem ofTokens_listStart (v : Value) (waiting : List Waiting) (ts : List Token) :
    ofTokens .listStart waiting (v.tokens ++ ts) =
      ofTokens .value (.item [] :: waiting) (v.tokens ++ ts) := by
  obtain ⟨t, ts', htokens, ht⟩ := v.tokens_eq_cons
  rw [htokens]
  cases t <;> first | exact absurd rfl ht | rfl

/-- A value behind a comma is read as one for which the list waits. -/
theorem ofTokens_nextItem (v : Value) (done : List Document) (waiting : List Waiting)
    (ts : List Token) :
    ofTokens (.nextItem done) waiting (v.tokens ++ ts) =
      ofTokens .value (.item done :: waiting) (v.tokens ++ ts) := by
  obtain ⟨t, ts', htokens, ht⟩ := v.tokens_eq_cons
  rw [htokens]
  cases t <;> first | exact absurd rfl ht | rfl

theorem ofTokens_openList (waiting : List Waiting) (ts : List Token) :
    ofTokens .value waiting (.openList :: ts) = ofTokens .listStart waiting ts :=
  rfl

theorem ofTokens_firstKey (k : String) (waiting : List Waiting) (ts : List Token) :
    ofTokens .value waiting (.openObject :: .scalar (.str k) :: .colon :: ts) =
      ofTokens .value (.member [] (.str k) :: waiting) ts :=
  rfl

theorem ofTokens_nextKey (k : String) (done : List (Document × Document))
    (waiting : List Waiting) (ts : List Token) :
    ofTokens (.afterMember done) waiting (.comma :: .scalar (.str k) :: .colon :: ts) =
      ofTokens .value (.member done (.str k) :: waiting) ts :=
  rfl

mutual

/-- The tokens of a value hand its document to what waits for it. -/
theorem ofTokens_tokens (ts : List Token) : ∀ (v : Value) (waiting : List Waiting),
    ofTokens .value waiting (v.tokens ++ ts) =
      ofTokens (settle (.ofValue v) waiting).1 (settle (.ofValue v) waiting).2 ts
  | null, _ => rfl
  | .bool _, _ => rfl
  | int _, _ => rfl
  | real _, _ => rfl
  | str _, _ => rfl
  | list [], _ => rfl
  | list (v :: items), waiting => by
    simp only [tokens, List.cons_append, List.append_assoc, List.nil_append, ofTokens_openList]
    rw [ofTokens_listStart, ofTokens_tokens _ v, settle, ofTokens_itemTokens ts items]
    rfl
  | object [], _ => rfl
  | object ((k, v) :: members), waiting => by
    simp only [tokens, List.cons_append, List.append_assoc, List.nil_append, ofTokens_firstKey]
    rw [ofTokens_tokens _ v, settle, ofTokens_memberTokens ts members]
    rfl

/-- The items behind the ones that are done are read up to the end of their list. -/
theorem ofTokens_itemTokens (ts : List Token) :
    ∀ (items : List Value) (done : List Document) (waiting : List Waiting),
      ofTokens (.afterItem done) waiting (itemTokens items ++ .closeList :: ts) =
        ofTokens (settle (.list (done.reverse ++ Document.ofItems items)) waiting).1
          (settle (.list (done.reverse ++ Document.ofItems items)) waiting).2 ts
  | [], done, waiting => by
    rw [Document.ofItems, List.append_nil]
    rfl
  | v :: items, done, waiting => by
    have hcomma : ∀ ts', ofTokens (.afterItem done) waiting (.comma :: ts') =
      ofTokens (.nextItem done) waiting ts' := fun _ => rfl
    simp only [itemTokens, List.cons_append, List.append_assoc, hcomma]
    rw [ofTokens_nextItem, ofTokens_tokens _ v, settle, ofTokens_itemTokens ts items]
    simp [Document.ofItems]

/-- The members behind the ones that are done are read up to the end of their object. -/
theorem ofTokens_memberTokens (ts : List Token) :
    ∀ (members : List (String × Value)) (done : List (Document × Document))
      (waiting : List Waiting),
      ofTokens (.afterMember done) waiting (memberTokens members ++ .closeObject :: ts) =
        ofTokens (settle (.object (done.reverse ++ Document.ofMembers members)) waiting).1
          (settle (.object (done.reverse ++ Document.ofMembers members)) waiting).2 ts
  | [], done, waiting => by
    rw [Document.ofMembers, List.append_nil]
    rfl
  | (k, v) :: members, done, waiting => by
    simp only [memberTokens, List.cons_append, List.append_assoc, ofTokens_nextKey]
    rw [ofTokens_tokens _ v, settle, ofTokens_memberTokens ts members]
    simp [Document.ofMembers]

end

/-! ### Texts -/

/-- **A written value is read back as its document**, with nothing but blanks behind it. -/
theorem ofText_write {style : Style} (hs : style.Blank) (depth : Nat) {v : Value} (h : v.InRange)
    {blanks : List Char} (hb : ∀ c ∈ blanks, Token.isSpace c = true) :
    ofText (String.ofList (v.write style depth ++ blanks)) = ⟨.ofValue v, []⟩ := by
  have hend : EndsNumber blanks := by
    have hnil : EndsNumber [] := by simp [EndsNumber]
    simpa using hnil.append_spaces hb
  have hscan : Token.scan blanks = [] := by
    have := Token.scan_spaces hb []
    rwa [List.append_nil, Token.scan_nil] at this
  rw [ofText, String.toList_ofList, scan_write hs depth hend v h, hscan,
    ofTokens_tokens]
  rfl

/-- So is the text of a value on one line. -/
theorem ofText_compact {v : Value} (h : v.InRange) : ofText v.compact = ⟨.ofValue v, []⟩ := by
  have hread := ofText_write Style.blank_compact 0 h
    (List.forall_mem_nil fun c => Token.isSpace c = true)
  rwa [List.append_nil] at hread

end Reading

end DataGovernance.Json
