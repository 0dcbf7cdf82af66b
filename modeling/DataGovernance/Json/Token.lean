import DataGovernance.Json.Document
import DataGovernance.Text.Bytes

/-!
# Tokens of a JSON text

`Token.scan` cuts a text into brackets, commas, colons and scalars. Space, tab, line feed and
carriage return may stand between tokens. The tokens end with the text, or with the first literal
whose end cannot be found: that one is a scalar with a fault.

Key definitions: `Token`, `readText`, `skipText`, `scanUnsigned`, `Token.scan`.
-/

namespace DataGovernance.Json

open Text

/-- A bracket, a comma, a colon or a scalar. -/
inductive Token where
  | openList
  | closeList
  | openObject
  | closeObject
  | comma
  | colon
  | scalar (d : Document)
  deriving Repr

/-! ### String literals -/

/-- The unit that four hexadecimal digits stand for. -/
def hexUnit? (a b c d : Char) : Option Nat := do
  let a ← hexDigit? a
  let b ← hexDigit? b
  let c ← hexDigit? c
  let d ← hexDigit? d
  some (a * 0x1000 + b * 0x100 + c * 0x10 + d)

/-- Reads four hexadecimal digits. A text of fewer than four bytes has ended too early. -/
def readUnit : List Char → Except SyntaxError (Nat × List Char)
  | a :: b :: c :: d :: rest =>
    match hexUnit? a b c d with
    | some n => .ok (n, rest)
    | none => .error .invalidEscape
  | cs => .error (if byteSize cs < 4 then .eofString else .invalidEscape)

/-- The character that a letter after a backslash stands for. -/
def escapedChar? (c : Char) : Option Char :=
  match c with
  | '"' => some '"'
  | '\\' => some '\\'
  | '/' => some '/'
  | 'b' => some '\x08'
  | 'f' => some '\x0C'
  | 'n' => some '\n'
  | 'r' => some '\r'
  | 't' => some '\t'
  | _ => none

/-- Reads the character that a hexadecimal escape stands for, after its `u`: a unit outside the
surrogates, or a leading surrogate followed by the escape of a trailing one. -/
def readCodePoint (cs : List Char) : Except SyntaxError (Char × List Char) :=
  match readUnit cs with
  | .error e => .error e
  | .ok (high, rest) =>
    if 0xDC00 ≤ high ∧ high ≤ 0xDFFF then .error .loneSurrogate
    else if high < 0xD800 ∨ 0xDBFF < high then .ok (Char.ofNat high, rest)
    else match rest with
      | [] => .error .eofString
      | '\\' :: [] => .error .eofString
      | '\\' :: 'u' :: rest =>
        match readUnit rest with
        | .error e => .error e
        | .ok (low, rest) =>
          if low < 0xDC00 ∨ 0xDFFF < low then .error .loneSurrogate
          else .ok (Char.ofNat ((high - 0xD800) * 0x400 + (low - 0xDC00) + 0x10000), rest)
      | _ => .error .unpairedSurrogate

/-- Reads an escape, after its backslash. -/
def readEscape : List Char → Except SyntaxError (Char × List Char)
  | [] => .error .eofString
  | 'u' :: rest => readCodePoint rest
  | c :: rest =>
    match escapedChar? c with
    | some c => .ok (c, rest)
    | none => .error .invalidEscape

/-- Passes over an escape, after its backslash. -/
def skipEscape : List Char → Except SyntaxError (List Char)
  | [] => .error .eofString
  | 'u' :: rest => (readUnit rest).map (·.2)
  | c :: rest =>
    match escapedChar? c with
    | some _ => .ok rest
    | none => .error .invalidEscape

theorem readUnit_length {cs rest : List Char} {n : Nat} (h : readUnit cs = .ok (n, rest)) :
    rest.length < cs.length := by
  unfold readUnit at h
  split at h
  · split at h
    · simp only [Except.ok.injEq, Prod.mk.injEq] at h
      obtain ⟨-, rfl⟩ := h
      simp; omega
    · simp at h
  · simp at h

theorem readCodePoint_length {cs rest : List Char} {c : Char}
    (h : readCodePoint cs = .ok (c, rest)) : rest.length < cs.length := by
  unfold readCodePoint at h
  split at h
  · simp at h
  · rename_i high mid hu
    have hmid := readUnit_length hu
    split at h
    · simp at h
    · split at h
      · simp only [Except.ok.injEq, Prod.mk.injEq] at h
        obtain ⟨-, rfl⟩ := h
        exact hmid
      · split at h
        · simp at h
        · simp at h
        · split at h
          · simp at h
          · rename_i low tail hl
            have htail := readUnit_length hl
            split at h
            · simp at h
            · simp only [Except.ok.injEq, Prod.mk.injEq] at h
              obtain ⟨-, rfl⟩ := h
              simp only [List.length_cons] at hmid
              omega
        · simp at h

theorem readEscape_length {cs rest : List Char} {c : Char} (h : readEscape cs = .ok (c, rest)) :
    rest.length < cs.length := by
  unfold readEscape at h
  split at h
  · simp at h
  · have := readCodePoint_length h
    simp only [List.length_cons]; omega
  · split at h
    · simp only [Except.ok.injEq, Prod.mk.injEq] at h
      obtain ⟨-, rfl⟩ := h
      simp
    · simp at h

theorem skipEscape_length {cs rest : List Char} (h : skipEscape cs = .ok rest) :
    rest.length < cs.length := by
  unfold skipEscape at h
  split at h
  · simp at h
  · rename_i tail
    cases hu : readUnit tail with
    | error e => simp [hu, Except.map] at h
    | ok p =>
      have := readUnit_length (show readUnit tail = .ok (p.1, p.2) from hu)
      simp only [hu, Except.map, Except.ok.injEq] at h
      subst h
      simp only [List.length_cons]; omega
  · split at h
    · simp only [Except.ok.injEq] at h
      subst h
      simp
    · simp at h

/-- Reads a string literal, after its opening quote, to behind its closing one. -/
def readText (cs : List Char) : Except SyntaxError (List Char × List Char) :=
  match cs with
  | [] => .error .eofString
  | '"' :: rest => .ok ([], rest)
  | '\\' :: rest =>
    match h : readEscape rest with
    | .error e => .error e
    | .ok (c, tail) =>
      have := readEscape_length h
      (readText tail).map fun (text, after) => (c :: text, after)
  | c :: rest =>
    if c.toNat < 0x20 then .error .controlCharacter
    else (readText rest).map fun (text, after) => (c :: text, after)
termination_by cs.length
decreasing_by all_goals simp only [List.length_cons]; omega

/-- Passes over a string literal, after its opening quote, to behind its closing one. -/
def skipText (cs : List Char) : Except SyntaxError (List Char) :=
  match cs with
  | [] => .error .eofString
  | '"' :: rest => .ok rest
  | '\\' :: rest =>
    match h : skipEscape rest with
    | .error e => .error e
    | .ok tail =>
      have := skipEscape_length h
      skipText tail
  | c :: rest => if c.toNat < 0x20 then .error .controlCharacter else skipText rest
termination_by cs.length
decreasing_by all_goals simp only [List.length_cons]; omega

theorem readText_length (cs : List Char) {text rest : List Char}
    (h : readText cs = .ok (text, rest)) : rest.length < cs.length := by
  fun_induction readText cs generalizing text rest with
  | case1 => simp at h
  | case2 rest' => simp_all
  | case3 => simp_all
  | case4 rest' c tail he hlen ih =>
    cases hr : readText tail with
    | error e => simp [hr, Except.map] at h
    | ok p =>
      have := ih (show readText tail = .ok (p.1, p.2) from hr)
      simp only [hr, Except.map, Except.ok.injEq, Prod.mk.injEq] at h
      obtain ⟨-, rfl⟩ := h
      simp only [List.length_cons]; omega
  | case5 => simp at h
  | case6 c rest' _ _ _ ih =>
    cases hr : readText rest' with
    | error e => simp [hr, Except.map] at h
    | ok p =>
      have := ih (show readText rest' = .ok (p.1, p.2) from hr)
      simp only [hr, Except.map, Except.ok.injEq, Prod.mk.injEq] at h
      obtain ⟨-, rfl⟩ := h
      simp only [List.length_cons]; omega

theorem skipText_length (cs : List Char) {rest : List Char} (h : skipText cs = .ok rest) :
    rest.length < cs.length := by
  fun_induction skipText cs generalizing rest with
  | case1 => simp at h
  | case2 rest' => simp_all
  | case3 => simp_all
  | case4 rest' tail he hlen ih =>
    have := ih h
    simp only [List.length_cons]; omega
  | case5 => simp at h
  | case6 c rest' _ _ _ ih =>
    have := ih h
    simp only [List.length_cons]; omega

/-- Scans a string literal, after its opening quote. -/
def scanText (cs : List Char) : Document × List Char :=
  match readText cs, skipText cs with
  | .ok (text, rest), _ => (.str (String.ofList text), rest)
  | .error e, .ok rest => (.fault (.text e none), rest)
  | .error e, .error e' => (.fault (.text e (some e')), [])

theorem scanText_length (cs : List Char) : (scanText cs).2.length ≤ cs.length := by
  unfold scanText
  split
  · rename_i h; exact Nat.le_of_lt (readText_length cs h)
  · rename_i h; exact Nat.le_of_lt (skipText_length cs h)
  · simp

/-! ### Number literals -/

/-- A number that goes wrong here: the reader of the value reports an early end of the text as
such, while one that passes over the number does not tell it apart. -/
def brokenNumber : List Char → Document × List Char
  | [] => (.fault (.number .eofValue (some .invalidNumber)), [])
  | _ => (.fault (.number .invalidNumber (some .invalidNumber)), [])

/-- The document of a decimal, which can be passed over even when it is out of range. -/
def decimal (d : Decimal) : Document :=
  match d.toBinary64? with
  | some _ => .num (.real d)
  | none => .fault (.number .numberOutOfRange none)

/-- The document of a literal without fraction and exponent. -/
def whole (negative : Bool) (ds : List Char) : Document :=
  match Number.ofWhole negative ds with
  | .int i => .num (.int i)
  | .real d => decimal d

/-- Scans the digits of an exponent. -/
def scanExponent (negative : Bool) (ds fraction : List Char) (minus : Bool) (cs : List Char) :
    Document × List Char :=
  match cs.takeWhile Char.isDigit with
  | [] => brokenNumber cs
  | es =>
    let e : Int := Text.value es
    (decimal (.ofDigits negative ds fraction (if minus then -e else e)), cs.dropWhile Char.isDigit)

/-- Scans the sign and the digits of an exponent, after its letter. -/
def scanSignedExponent (negative : Bool) (ds fraction : List Char) :
    List Char → Document × List Char
  | '+' :: cs => scanExponent negative ds fraction false cs
  | '-' :: cs => scanExponent negative ds fraction true cs
  | cs => scanExponent negative ds fraction false cs

/-- Scans a fraction and what follows it, after the point. -/
def scanFraction (negative : Bool) (ds cs : List Char) : Document × List Char :=
  match cs.takeWhile Char.isDigit with
  | [] => brokenNumber cs
  | fraction =>
    match cs.dropWhile Char.isDigit with
    | 'e' :: rest => scanSignedExponent negative ds fraction rest
    | 'E' :: rest => scanSignedExponent negative ds fraction rest
    | rest => (decimal (.ofDigits negative ds fraction 0), rest)

/-- Scans the digits of a number and what follows them. A number of several digits does not begin
with zero. -/
def scanUnsigned (negative : Bool) (cs : List Char) : Document × List Char :=
  match cs.takeWhile Char.isDigit with
  | [] => brokenNumber cs
  | '0' :: _ :: _ => (.fault (.number .invalidNumber (some .invalidNumber)), [])
  | ds =>
    match cs.dropWhile Char.isDigit with
    | '.' :: rest => scanFraction negative ds rest
    | 'e' :: rest => scanSignedExponent negative ds [] rest
    | 'E' :: rest => scanSignedExponent negative ds [] rest
    | rest => (whole negative ds, rest)

theorem brokenNumber_length (cs : List Char) : (brokenNumber cs).2.length ≤ cs.length := by
  cases cs <;> simp [brokenNumber]

theorem length_dropWhile_le (p : Char → Bool) : ∀ cs : List Char,
    (cs.dropWhile p).length ≤ cs.length
  | [] => by simp
  | c :: cs => by
    simp only [List.dropWhile_cons]
    split
    · have := length_dropWhile_le p cs
      simp only [List.length_cons]; omega
    · simp

theorem scanExponent_length (n : Bool) (ds fs : List Char) (m : Bool) (cs : List Char) :
    (scanExponent n ds fs m cs).2.length ≤ cs.length := by
  unfold scanExponent
  split
  · exact brokenNumber_length cs
  · exact length_dropWhile_le _ cs

theorem scanSignedExponent_length (n : Bool) (ds fs cs : List Char) :
    (scanSignedExponent n ds fs cs).2.length ≤ cs.length := by
  unfold scanSignedExponent
  split
  · rename_i rest
    have := scanExponent_length n ds fs false rest
    simp only [List.length_cons]; omega
  · rename_i rest
    have := scanExponent_length n ds fs true rest
    simp only [List.length_cons]; omega
  · exact scanExponent_length n ds fs false _

theorem scanFraction_length (n : Bool) (ds cs : List Char) :
    (scanFraction n ds cs).2.length ≤ cs.length := by
  unfold scanFraction
  split
  · exact brokenNumber_length cs
  · have hd := length_dropWhile_le Char.isDigit cs
    split
    · rename_i rest h
      have := scanSignedExponent_length n ds (cs.takeWhile Char.isDigit) rest
      rw [h] at hd; simp only [List.length_cons] at hd; omega
    · rename_i rest h
      have := scanSignedExponent_length n ds (cs.takeWhile Char.isDigit) rest
      rw [h] at hd; simp only [List.length_cons] at hd; omega
    · exact hd

/-- Behind its digits a number takes only what belongs to it. -/
theorem scanUnsigned_length_dropWhile (n : Bool) {cs : List Char}
    (hcs : cs.takeWhile Char.isDigit ≠ []) :
    (scanUnsigned n cs).2.length ≤ (cs.dropWhile Char.isDigit).length := by
  unfold scanUnsigned
  split
  · contradiction
  · simp
  · split
    · rename_i rest h
      have := scanFraction_length n (cs.takeWhile Char.isDigit) rest
      rw [h]; simp only [List.length_cons]; omega
    · rename_i rest h
      have := scanSignedExponent_length n (cs.takeWhile Char.isDigit) [] rest
      rw [h]; simp only [List.length_cons]; omega
    · rename_i rest h
      have := scanSignedExponent_length n (cs.takeWhile Char.isDigit) [] rest
      rw [h]; simp only [List.length_cons]; omega
    · exact Nat.le_refl _

theorem scanUnsigned_length (n : Bool) (cs : List Char) :
    (scanUnsigned n cs).2.length ≤ cs.length := by
  by_cases h : cs.takeWhile Char.isDigit = []
  · simp only [scanUnsigned, h]
    exact brokenNumber_length cs
  · exact Nat.le_trans (scanUnsigned_length_dropWhile n h) (length_dropWhile_le _ cs)

theorem scanUnsigned_length_cons (n : Bool) {c : Char} (cs : List Char) (hc : c.isDigit) :
    (scanUnsigned n (c :: cs)).2.length ≤ cs.length := by
  have hd : (c :: cs).takeWhile Char.isDigit ≠ [] := by simp [hc]
  have h := scanUnsigned_length_dropWhile n hd
  simp only [List.dropWhile_cons, hc, if_true] at h
  exact Nat.le_trans h (length_dropWhile_le _ cs)

/-! ### Words -/

/-- Matches the rest of the word for a document, which goes wrong as a fault of a kind. -/
def matchWord (d : Document) (wrong : SyntaxError → Fault) :
    List Char → List Char → Document × List Char
  | [], cs => (d, cs)
  | _ :: _, [] => (.fault (wrong .eofValue), [])
  | w :: ws, c :: cs =>
    if w = c then matchWord d wrong ws cs else (.fault (wrong .expectedWord), [])

theorem matchWord_length (d : Document) (wrong : SyntaxError → Fault) : ∀ ws cs : List Char,
    (matchWord d wrong ws cs).2.length ≤ cs.length
  | [], cs => by simp [matchWord]
  | _ :: _, [] => by simp [matchWord]
  | w :: ws, c :: cs => by
    unfold matchWord
    split
    · have := matchWord_length d wrong ws cs
      simp only [List.length_cons]; omega
    · simp

/-! ### Tokens -/

namespace Token

/-- The blanks between tokens. -/
def isSpace (c : Char) : Bool := c == ' ' || c == '\n' || c == '\t' || c == '\r'

/-- Cuts a text into tokens. -/
def scan (cs : List Char) : List Token :=
  match cs with
  | [] => []
  | c :: rest =>
    if isSpace c then scan rest
    else match c with
      | '[' => openList :: scan rest
      | ']' => closeList :: scan rest
      | '\x7b' => openObject :: scan rest
      | '\x7d' => closeObject :: scan rest
      | ',' => comma :: scan rest
      | ':' => colon :: scan rest
      | '"' =>
        have := scanText_length rest
        scalar (scanText rest).1 :: scan (scanText rest).2
      | 'n' =>
        have := matchWord_length .null .null ['u', 'l', 'l'] rest
        scalar (matchWord .null .null ['u', 'l', 'l'] rest).1 ::
          scan (matchWord .null .null ['u', 'l', 'l'] rest).2
      | 't' =>
        have := matchWord_length (.bool true) .flag ['r', 'u', 'e'] rest
        scalar (matchWord (.bool true) .flag ['r', 'u', 'e'] rest).1 ::
          scan (matchWord (.bool true) .flag ['r', 'u', 'e'] rest).2
      | 'f' =>
        have := matchWord_length (.bool false) .flag ['a', 'l', 's', 'e'] rest
        scalar (matchWord (.bool false) .flag ['a', 'l', 's', 'e'] rest).1 ::
          scan (matchWord (.bool false) .flag ['a', 'l', 's', 'e'] rest).2
      | '-' =>
        have := scanUnsigned_length true rest
        scalar (scanUnsigned true rest).1 :: scan (scanUnsigned true rest).2
      | c =>
        if h : c.isDigit then
          have := scanUnsigned_length_cons false rest h
          scalar (scanUnsigned false (c :: rest)).1 :: scan (scanUnsigned false (c :: rest)).2
        else [scalar (.fault .stray)]
termination_by cs.length
decreasing_by all_goals simp only [List.length_cons]; omega

end Token

end DataGovernance.Json
