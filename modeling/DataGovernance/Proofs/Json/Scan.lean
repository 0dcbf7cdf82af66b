import DataGovernance.Json.Token
import DataGovernance.Json.Value
import Mathlib.Tactic.SplitIfs

/-!
# Written values are scanned into their tokens

The tokens of a value are its brackets, commas, colons and scalars in order. Scanning a written
value gives these tokens, in every style whose breaks are blanks, and goes on behind the value, if
its numbers are whole and have 64 bits. A number has to end where it was written, so what follows
must not go on with it.

Key definitions: `Value.tokens`, `Value.InRange`, `Style.Blank`, `EndsNumber`.
Key theorems: `readText_flatMap_escapeChar`, `scan_integer`, `scan_write`.
-/

namespace DataGovernance.Json

open Text

/-! ### String literals -/

theorem hexUnit?_hexChar : ∀ n < 0x20,
    hexUnit? '0' '0' (hexChar (n / 16)) (hexChar n) = some n := by
  decide

/-- A string literal goes on behind an escape with what the escape stands for. -/
theorem readText_escape {c : Char} {cs rest : List Char} (h : readEscape cs = .ok (c, rest)) :
    readText ('\\' :: cs) = (readText rest).map fun p => (c :: p.1, p.2) := by
  rw [readText]
  split
  · rename_i e he
    simp [h] at he
  · rename_i c' tail he
    rw [h] at he
    cases he
    rfl

theorem readText_plain {c : Char} (hq : c ≠ '"') (hb : c ≠ '\\') (hc : 0x20 ≤ c.toNat)
    (cs : List Char) : readText (c :: cs) = (readText cs).map fun p => (c :: p.1, p.2) := by
  rw [readText.eq_def]
  split
  · rename_i heq
    cases heq
  · rename_i heq
    exact absurd (List.cons.inj heq).1 hq
  · rename_i heq
    exact absurd (List.cons.inj heq).1 hb
  · rename_i heq
    cases heq
    rw [if_neg (by omega)]

theorem readEscape_unit {c : Char} (hc : c.toNat < 0x20) (cs : List Char) :
    readEscape ('u' :: '0' :: '0' :: hexChar (c.toNat / 16) :: hexChar c.toNat :: cs) =
      .ok (c, cs) := by
  have hunit := hexUnit?_hexChar c.toNat hc
  simp only [readEscape, readCodePoint, readUnit, hunit]
  rw [if_neg (by omega), if_pos (by omega), Char.ofNat_toNat]

/-- A character is read back from the way it stands inside a string literal. -/
theorem readText_escapeChar (c : Char) (cs : List Char) :
    readText (escapeChar c ++ cs) = (readText cs).map fun p => (c :: p.1, p.2) := by
  unfold escapeChar
  split_ifs with hq hb hlt h8 h9 h10 h12 h13
  · obtain rfl : c = '"' := by simpa using hq
    exact readText_escape rfl
  · obtain rfl : c = '\\' := by simpa using hb
    exact readText_escape rfl
  · obtain rfl : c = '\x08' := by simpa using h8
    exact readText_escape rfl
  · obtain rfl : c = '\t' := by simpa using h9
    exact readText_escape rfl
  · obtain rfl : c = '\n' := by simpa using h10
    exact readText_escape rfl
  · obtain rfl : c = '\x0C' := by simpa using h12
    exact readText_escape rfl
  · obtain rfl : c = '\r' := by simpa using h13
    exact readText_escape rfl
  · exact readText_escape (readEscape_unit hlt cs)
  · exact readText_plain (by simpa using hq) (by simpa using hb) (by omega) cs

/-- A string literal is read back to behind its closing quote. -/
theorem readText_flatMap_escapeChar (rest : List Char) : ∀ cs : List Char,
    readText (cs.flatMap escapeChar ++ '"' :: rest) = .ok (cs, rest)
  | [] => by
    rw [List.flatMap_nil, List.nil_append, readText]
  | c :: cs => by
    rw [List.flatMap_cons, List.append_assoc, readText_escapeChar,
      readText_flatMap_escapeChar rest cs]
    rfl

theorem scanText_writeText (s : String) (rest : List Char) :
    scanText (s.toList.flatMap escapeChar ++ '"' :: rest) = (.str s, rest) := by
  simp [scanText, readText_flatMap_escapeChar]

/-! ### Numbers -/

/-- What follows a number does not go on with it. -/
def EndsNumber (cs : List Char) : Prop :=
  ∀ c ∈ cs.head?, c.isDigit = false ∧ c ≠ '.' ∧ c ≠ 'e' ∧ c ≠ 'E'

theorem EndsNumber.takeWhile {cs : List Char} (h : EndsNumber cs) :
    cs.takeWhile Char.isDigit = [] := by
  cases cs with
  | nil => rfl
  | cons c cs => simp [(h c rfl).1]

theorem EndsNumber.dropWhile {cs : List Char} (h : EndsNumber cs) :
    cs.dropWhile Char.isDigit = cs := by
  cases cs with
  | nil => rfl
  | cons c cs => simp [(h c rfl).1]

/-- A number of several digits does not begin with zero. -/
theorem digits_ne_zero_cons {n : Nat} {c : Char} {cs : List Char} : digits n ≠ '0' :: c :: cs := by
  intro h
  rcases Nat.eq_zero_or_pos n with rfl | hn
  · simp [digits] at h
  · exact head?_digits hn (by rw [h]; rfl)

/-- The digits of a number are scanned as a whole number that ends with them. -/
theorem scanUnsigned_digits (negative : Bool) (n : Nat) {rest : List Char}
    (h : EndsNumber rest) :
    scanUnsigned negative (digits n ++ rest) = (whole negative (digits n), rest) := by
  have hdig : ∀ c ∈ digits n, c.isDigit = true := fun c hc => isDigit_of_mem_digits hc
  have htake : (digits n ++ rest).takeWhile Char.isDigit = digits n := by
    rw [List.takeWhile_append_of_pos hdig, h.takeWhile, List.append_nil]
  have hdrop : (digits n ++ rest).dropWhile Char.isDigit = rest := by
    rw [List.dropWhile_append_of_pos hdig, h.dropWhile]
  unfold scanUnsigned
  rw [htake, hdrop]
  split
  · rename_i hnil
    exact absurd hnil (digits_ne_nil n)
  · rename_i hzero
    exact absurd hzero digits_ne_zero_cons
  · split
    · exact absurd rfl (h '.' rfl).2.1
    · exact absurd rfl (h 'e' rfl).2.2.1
    · exact absurd rfl (h 'E' rfl).2.2.2
    · rfl

theorem whole_digits {n : Nat} (h : n < wordSize) : whole false (digits n) = .num (.int n) := by
  simp [whole, Number.ofWhole, value_digits, h]

theorem whole_negative_digits {n : Nat} (h0 : 0 < n) (h : n ≤ signedSize) :
    whole true (digits n) = .num (.int (-n)) := by
  simp [whole, Number.ofWhole, value_digits, h0, h]

namespace Token

/-! ### Single tokens -/

/-- The token that a text without blanks before it begins with, and the text behind that token. -/
def first (c : Char) (cs : List Char) : Token × List Char :=
  match c with
  | '[' => (openList, cs)
  | ']' => (closeList, cs)
  | '\x7b' => (openObject, cs)
  | '\x7d' => (closeObject, cs)
  | ',' => (comma, cs)
  | ':' => (colon, cs)
  | '"' => ((scanText cs).map scalar id)
  | 'n' => (matchWord .null .null ['u', 'l', 'l'] cs).map scalar id
  | 't' => (matchWord (.bool true) .flag ['r', 'u', 'e'] cs).map scalar id
  | 'f' => (matchWord (.bool false) .flag ['a', 'l', 's', 'e'] cs).map scalar id
  | '-' => (scanUnsigned true cs).map scalar id
  | c =>
    if c.isDigit then (scanUnsigned false (c :: cs)).map scalar id
    else (scalar (.fault .stray), [])

theorem scan_nil : scan [] = [] := by
  rw [scan.eq_def]

/-- Scanning takes one token after another. -/
theorem scan_cons (c : Char) (cs : List Char) :
    scan (c :: cs) = if isSpace c then scan cs else (first c cs).1 :: scan (first c cs).2 := by
  rw [scan.eq_def]
  by_cases hs : isSpace c = true
  · simp only [if_pos hs]
  · simp only [if_neg hs]
    split <;> try rfl
    -- what begins no other token is a digit or stray
    rw [first]
    · by_cases hd : c.isDigit = true
      · simp only [dif_pos hd, if_pos hd]
        rfl
      · simp only [dif_neg hd, if_neg hd, scan_nil]
    all_goals assumption

theorem scan_space {c : Char} (h : isSpace c = true) (cs : List Char) :
    scan (c :: cs) = scan cs := by
  rw [scan_cons, if_pos h]

/-- Blanks between tokens are passed over. -/
theorem scan_spaces {blanks : List Char} (h : ∀ c ∈ blanks, isSpace c = true) (cs : List Char) :
    scan (blanks ++ cs) = scan cs := by
  induction blanks with
  | nil => rfl
  | cons c blanks ih =>
    simp only [List.forall_mem_cons] at h
    rw [List.cons_append, scan_space h.1, ih h.2]

theorem scan_openList (cs : List Char) : scan ('[' :: cs) = openList :: scan cs :=
  scan_cons '[' cs

theorem scan_closeList (cs : List Char) : scan (']' :: cs) = closeList :: scan cs :=
  scan_cons ']' cs

theorem scan_openObject (cs : List Char) : scan ('\x7b' :: cs) = openObject :: scan cs :=
  scan_cons '\x7b' cs

theorem scan_closeObject (cs : List Char) : scan ('\x7d' :: cs) = closeObject :: scan cs :=
  scan_cons '\x7d' cs

theorem scan_comma (cs : List Char) : scan (',' :: cs) = comma :: scan cs :=
  scan_cons ',' cs

theorem scan_colon (cs : List Char) : scan (':' :: cs) = colon :: scan cs :=
  scan_cons ':' cs

theorem scan_null (cs : List Char) :
    scan ('n' :: 'u' :: 'l' :: 'l' :: cs) = scalar .null :: scan cs :=
  scan_cons 'n' _

theorem scan_true (cs : List Char) :
    scan ('t' :: 'r' :: 'u' :: 'e' :: cs) = scalar (.bool true) :: scan cs :=
  scan_cons 't' _

theorem scan_false (cs : List Char) :
    scan ('f' :: 'a' :: 'l' :: 's' :: 'e' :: cs) = scalar (.bool false) :: scan cs :=
  scan_cons 'f' _

theorem scan_quote (cs : List Char) :
    scan ('"' :: cs) = scalar (scanText cs).1 :: scan (scanText cs).2 :=
  scan_cons '"' cs

theorem scan_minus (cs : List Char) :
    scan ('-' :: cs) = scalar (scanUnsigned true cs).1 :: scan (scanUnsigned true cs).2 :=
  scan_cons '-' cs

theorem isSpace_of_isDigit {c : Char} (h : c.isDigit = true) : isSpace c = false := by
  cases hs : isSpace c with
  | false => rfl
  | true =>
    simp only [isSpace, Bool.or_eq_true, beq_iff_eq] at hs
    rcases hs with ((rfl | rfl) | rfl) | rfl <;> cases h

theorem scan_digit {c : Char} (h : c.isDigit = true) (cs : List Char) :
    scan (c :: cs) =
      scalar (scanUnsigned false (c :: cs)).1 :: scan (scanUnsigned false (c :: cs)).2 := by
  have hfirst : first c cs = (scanUnsigned false (c :: cs)).map scalar id := by
    unfold first
    -- no bracket, comma, colon or beginning of another scalar is a digit
    split <;> first | cases h | exact if_pos h
  rw [scan_cons, isSpace_of_isDigit h, hfirst]
  rfl

/-- A written text is scanned as itself. -/
theorem scan_writeText (s : String) (cs : List Char) :
    scan (writeText s ++ cs) = scalar (.str s) :: scan cs := by
  have hcs : writeText s ++ cs = '"' :: (s.toList.flatMap escapeChar ++ '"' :: cs) := by
    simp [writeText]
  rw [hcs, scan_quote, scanText_writeText]

theorem scan_digits (n : Nat) {cs : List Char} (h : EndsNumber cs) :
    scan (digits n ++ cs) = scalar (whole false (digits n)) :: scan cs := by
  have hscan := scanUnsigned_digits false n h
  cases hd : digits n with
  | nil => exact absurd hd (digits_ne_nil n)
  | cons c ds =>
    have hc : c.isDigit = true := isDigit_of_mem_digits (by rw [hd]; simp)
    rw [hd, List.cons_append] at hscan
    rw [List.cons_append, scan_digit hc, hscan]

/-- A whole number of 64 bits is scanned as itself. -/
theorem scan_integer {i : Int} (hl : -(signedSize : Int) ≤ i) (hu : i < wordSize)
    {cs : List Char} (h : EndsNumber cs) :
    scan (integer i ++ cs) = scalar (.num (.int i)) :: scan cs := by
  cases i with
  | ofNat n =>
    have hn : n < wordSize := Int.ofNat_lt.1 hu
    rw [integer, scan_digits n h, whole_digits hn]
    rfl
  | negSucc n =>
    have hn : n + 1 ≤ signedSize := by
      simp only [Int.negSucc_eq] at hl
      omega
    rw [integer, List.cons_append, scan_minus, scanUnsigned_digits true (n + 1) h,
      whole_negative_digits (by omega) hn]
    rfl

end Token

/-! ### Values -/

namespace Value

mutual

/-- The tokens of a value. -/
def tokens : Value → List Token
  | null => [.scalar .null]
  | bool b => [.scalar (.bool b)]
  | int i => [.scalar (.num (.int i))]
  | real d => [.scalar (.num (.real d))]
  | str s => [.scalar (.str s)]
  | list [] => [.openList, .closeList]
  | list (v :: rest) => .openList :: tokens v ++ itemTokens rest ++ [.closeList]
  | object [] => [.openObject, .closeObject]
  | object ((k, v) :: rest) =>
    .openObject :: .scalar (.str k) :: .colon :: tokens v ++ memberTokens rest ++ [.closeObject]

/-- The tokens of the items behind the first one. -/
def itemTokens : List Value → List Token
  | [] => []
  | v :: rest => .comma :: tokens v ++ itemTokens rest

/-- The tokens of the members behind the first one. -/
def memberTokens : List (String × Value) → List Token
  | [] => []
  | (k, v) :: rest => .comma :: .scalar (.str k) :: .colon :: tokens v ++ memberTokens rest

end

mutual

/-- Every number in a value is whole and has 64 bits. A decimal is not among them: the digits it is
written with need not be the ones it has. -/
def InRange : Value → Prop
  | int i => -(signedSize : Int) ≤ i ∧ i < wordSize
  | real _ => False
  | list items => ItemsInRange items
  | object members => MembersInRange members
  | _ => True

/-- Every number in the items of a list is whole and has 64 bits. -/
def ItemsInRange : List Value → Prop
  | [] => True
  | v :: rest => InRange v ∧ ItemsInRange rest

/-- Every number in the members of an object is whole and has 64 bits. -/
def MembersInRange : List (String × Value) → Prop
  | [] => True
  | (_, v) :: rest => InRange v ∧ MembersInRange rest

end

end Value

/-- What a style puts between tokens is blank. -/
structure Style.Blank (style : Style) : Prop where
  lineBreak : ∀ depth, ∀ c ∈ style.lineBreak depth, Token.isSpace c = true
  afterColon : ∀ c ∈ style.afterColon, Token.isSpace c = true

theorem Style.blank_compact : Style.compact.Blank := ⟨by simp [compact], by simp [compact]⟩

theorem Style.blank_indented : Style.indented.Blank where
  lineBreak depth c hc := by
    rcases List.mem_cons.1 hc with rfl | hc
    · rfl
    · rw [List.eq_of_mem_replicate hc]
      rfl
  afterColon := by simp [indented, Token.isSpace]

theorem endsNumber_cons {c : Char} (h : c.isDigit = false ∧ c ≠ '.' ∧ c ≠ 'e' ∧ c ≠ 'E')
    (cs : List Char) : EndsNumber (c :: cs) := by
  rintro d ⟨rfl⟩
  exact h

/-- Blanks end a number if what comes behind them does. -/
theorem EndsNumber.append_spaces {cs : List Char} (h : EndsNumber cs) {blanks : List Char}
    (hb : ∀ c ∈ blanks, Token.isSpace c = true) : EndsNumber (blanks ++ cs) := by
  cases blanks with
  | nil => exact h
  | cons c blanks =>
    have hc := hb c (by simp)
    simp only [Token.isSpace, Bool.or_eq_true, beq_iff_eq] at hc
    refine endsNumber_cons ?_ _
    rcases hc with ((rfl | rfl) | rfl) | rfl <;> decide

namespace Value

variable {style : Style}

theorem endsNumber_writeItems (depth : Nat) {rest : List Char} (h : EndsNumber rest) :
    ∀ items, EndsNumber (writeItems style depth items ++ rest)
  | [] => h
  | v :: items => by
    rw [writeItems]
    exact endsNumber_cons (by decide) _

theorem endsNumber_writeMembers (depth : Nat) {rest : List Char} (h : EndsNumber rest) :
    ∀ members, EndsNumber (writeMembers style depth members ++ rest)
  | [] => h
  | (k, v) :: members => by
    rw [writeMembers]
    exact endsNumber_cons (by decide) _

open Token

mutual

/-- **A written value is scanned into its tokens**, and the scanning goes on behind it. -/
theorem scan_write (hs : style.Blank) (depth : Nat) {rest : List Char} (hrest : EndsNumber rest) :
    ∀ v : Value, v.InRange → scan (v.write style depth ++ rest) = v.tokens ++ scan rest
  | null, _ => scan_null rest
  | bool true, _ => scan_true rest
  | bool false, _ => scan_false rest
  | int i, h => scan_integer h.1 h.2 hrest
  | real _, h => h.elim
  | str s, _ => scan_writeText s rest
  | list [], _ => by
    simp only [write, tokens, List.cons_append, List.nil_append, scan_openList, scan_closeList]
  | list (v :: items), h => by
    -- the closing bracket ends a number that stands right before it
    have hclose : EndsNumber (style.lineBreak depth ++ ']' :: rest) :=
      (endsNumber_cons (by decide) rest).append_spaces (hs.lineBreak depth)
    have hitems : EndsNumber (writeItems style (depth + 1) items ++ _) :=
      endsNumber_writeItems (depth + 1) hclose items
    simp only [write, tokens, List.cons_append, List.append_assoc, List.nil_append, scan_openList]
    rw [scan_spaces (hs.lineBreak (depth + 1)), scan_write hs (depth + 1) hitems v h.1,
      scan_writeItems hs (depth + 1) hclose items h.2, scan_spaces (hs.lineBreak depth),
      scan_closeList]
  | object [], _ => by
    simp only [write, tokens, List.cons_append, List.nil_append, scan_openObject, scan_closeObject]
  | object ((k, v) :: members), h => by
    have hclose : EndsNumber (style.lineBreak depth ++ '\x7d' :: rest) :=
      (endsNumber_cons (by decide) rest).append_spaces (hs.lineBreak depth)
    have hmembers : EndsNumber (writeMembers style (depth + 1) members ++ _) :=
      endsNumber_writeMembers (depth + 1) hclose members
    simp only [write, tokens, List.cons_append, List.append_assoc, List.nil_append,
      scan_openObject]
    rw [scan_spaces (hs.lineBreak (depth + 1)), scan_writeText, scan_colon,
      scan_spaces hs.afterColon, scan_write hs (depth + 1) hmembers v h.1,
      scan_writeMembers hs (depth + 1) hclose members h.2, scan_spaces (hs.lineBreak depth),
      scan_closeObject]

theorem scan_writeItems (hs : style.Blank) (depth : Nat) {rest : List Char}
    (hrest : EndsNumber rest) :
    ∀ items : List Value, ItemsInRange items →
      scan (writeItems style depth items ++ rest) = itemTokens items ++ scan rest
  | [], _ => rfl
  | v :: items, h => by
    simp only [writeItems, itemTokens, List.cons_append, List.append_assoc, scan_comma]
    rw [scan_spaces (hs.lineBreak depth),
      scan_write hs depth (endsNumber_writeItems depth hrest items) v h.1,
      scan_writeItems hs depth hrest items h.2]

theorem scan_writeMembers (hs : style.Blank) (depth : Nat) {rest : List Char}
    (hrest : EndsNumber rest) :
    ∀ members : List (String × Value), MembersInRange members →
      scan (writeMembers style depth members ++ rest) = memberTokens members ++ scan rest
  | [], _ => rfl
  | (k, v) :: members, h => by
    simp only [writeMembers, memberTokens, List.cons_append, List.append_assoc, scan_comma]
    rw [scan_spaces (hs.lineBreak depth), scan_writeText, scan_colon, scan_spaces hs.afterColon,
      scan_write hs depth (endsNumber_writeMembers depth hrest members) v h.1,
      scan_writeMembers hs depth hrest members h.2]

end

end Value

end DataGovernance.Json
