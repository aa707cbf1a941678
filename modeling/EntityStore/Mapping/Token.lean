import EntityStore.Text.Digits
import EntityStore.Text.Identifier

/-!
# Tokens in attributes

The values of attributes are written as tokens: texts between double quotes, with escapes or raw, and whole numbers
in decimal, hexadecimal, octal or binary digits.  Underscores in a number do not count.  An identifier right after a
text or a number belongs to the token but says nothing about its value.
-/

namespace EntityStore.Token

/-- The character of the number in one to six hexadecimal digits, unless the number is that of no character.  After
the first digit, underscores do not count. -/
def readChar? (t : Text) : Option Char := do
  let digits := t.filter (· != '_')
  let n ← if t.head? = some '_' ∨ 6 < digits.length then none else Text.readHex? digits
  if n.isValidChar then some (Char.ofNat n) else none

/-- What follows blanks and line breaks.  A carriage return is part of a line break; alone it is not allowed. -/
def skipBlanks? : Text → Option Text
  | '\r' :: '\n' :: rest => skipBlanks? rest
  | '\r' :: _ => none
  | ' ' :: rest | '\t' :: rest | '\n' :: rest => skipBlanks? rest
  | rest => some rest

theorem length_le_of_skipBlanks? {t after : Text} (h : skipBlanks? t = some after) : after.length ≤ t.length := by
  fun_induction skipBlanks? t <;> grind

/-- What an escape stands for, and what follows it.  The backslash was taken; before the end of a line it hides the
line break and the blanks after it. -/
def readEscape? : Text → Option (Text × Text)
  | 'n' :: rest => some (['\n'], rest)
  | 'r' :: rest => some (['\r'], rest)
  | 't' :: rest => some (['\t'], rest)
  | '0' :: rest => some (['\x00'], rest)
  | '\\' :: rest => some (['\\'], rest)
  | '\'' :: rest => some (['\''], rest)
  | '"' :: rest => some (['"'], rest)
  | 'x' :: high :: low :: rest => do
    let n ← Text.readHex? [high, low]
    if n < 0x80 then some ([Char.ofNat n], rest) else none
  | 'u' :: '\x7b' :: rest => do
    let (digits, after) ← Text.splitFirst? ['\x7d'] rest
    let c ← readChar? digits
    some ([c], after)
  | '\r' :: '\n' :: rest => (skipBlanks? rest).map fun after => ([], after)
  | '\n' :: rest => (skipBlanks? rest).map fun after => ([], after)
  | _ => none

theorem length_lt_of_readEscape? {t decoded after : Text} (h : readEscape? t = some (decoded, after)) :
    after.length < t.length := by
  fun_cases readEscape? t
  case case8 high low rest =>
    obtain ⟨n, -, h⟩ := Option.bind_eq_some_iff.mp h
    grind
  case case9 rest =>
    obtain ⟨⟨digits, tail⟩, hsplit, h⟩ := Option.bind_eq_some_iff.mp h
    obtain ⟨c, -, h⟩ := Option.bind_eq_some_iff.mp h
    have := congrArg List.length (Text.eq_append_of_splitFirst? hsplit)
    grind
  case case10 rest =>
    obtain ⟨tail, hskip, h⟩ := Option.map_eq_some_iff.mp h
    have := length_le_of_skipBlanks? hskip
    grind
  case case11 rest =>
    obtain ⟨tail, hskip, h⟩ := Option.map_eq_some_iff.mp h
    have := length_le_of_skipBlanks? hskip
    grind
  all_goals simp [readEscape?] at h <;> grind

/-- Whether the text after a token belongs to it: there is none, or it is an identifier. -/
def isSuffix (t : Text) : Bool :=
  t.isEmpty || t.isIdentifier

/-- Reads the content of a text up to the quote that closes it; only a suffix may follow.  A line break that is
written as two characters counts as one. -/
def readContent? (t : Text) : Option Text :=
  match t with
  | [] => none
  | '"' :: rest => if isSuffix rest then some [] else none
  | '\\' :: rest =>
    match _h : readEscape? rest with
    | none => none
    | some (decoded, after) => (readContent? after).map (decoded ++ ·)
  | '\r' :: '\n' :: rest => (readContent? rest).map ('\n' :: ·)
  | '\r' :: _ => none
  | c :: rest => (readContent? rest).map (c :: ·)
  termination_by t.length
  decreasing_by
    · have := length_lt_of_readEscape? _h
      simp only [List.length_cons]
      omega
    · simp only [List.length_cons]
      omega
    · simp only [List.length_cons]
      omega

/-- Whether every carriage return is followed by a line feed. -/
def hasWholeBreaks : Text → Bool
  | '\r' :: '\n' :: rest => hasWholeBreaks rest
  | '\r' :: _ => false
  | _ :: rest => hasWholeBreaks rest
  | [] => true

/-- The most marks that a raw text may have before its quote. -/
def maxRawMarks : Nat := 255

/-- Reads a text token. -/
def readText? (token : Text) : Option Text :=
  match token with
  | '"' :: rest => readContent? rest
  | 'r' :: rest =>
    let hashes := rest.takeWhile (· == '#')
    match rest.dropWhile (· == '#') with
    | '"' :: body =>
      match Text.splitFirst? ('"' :: hashes) body with
      | some (content, suffix) =>
        if isSuffix suffix && hasWholeBreaks content && decide (hashes.length ≤ maxRawMarks) then some content
        else none
      | none => none
    | _ => none
  | _ => none

/-- The value of a digit in a base, if it is one. -/
def digitValue? (base : Nat) (c : Char) : Option Nat :=
  if c.isDigit then some (c.toNat - '0'.toNat)
  else if 10 < base then (Text.hexDigitValue? c).map Fin.val
  else none

/-- Whether decimal digits go on with an exponent, which makes them a fractional number: after the letter stand
digits and underscores, at least one digit among them, and then nothing or an identifier. -/
def isExponent : Text → Bool
  | [] => false
  | c :: rest =>
    let isPart (c : Char) := c.isDigit || c == '_'
    (c == 'e' || c == 'E') && (rest.takeWhile isPart).any Char.isDigit && isSuffix (rest.dropWhile isPart)

/-- Reads the digits of a number in a base, with the number so far if there was a digit, up to the suffix. -/
def readDigits? (base : Nat) (soFar? : Option Nat) : Text → Option Nat
  | [] => soFar?
  | c :: rest =>
    match digitValue? base c with
    | some d => if d < base then readDigits? base (some (soFar?.getD 0 * base + d)) rest else none
    | none =>
      if c = '_' then readDigits? base soFar? rest
      else if base = 10 ∧ isExponent (c :: rest) then none
      else if isSuffix (c :: rest) then soFar?
      else none

/-- The base that the start of a number names, and the digits after it. -/
def baseOf? : Text → Option (Nat × Text)
  | '0' :: 'x' :: digits => some (16, digits)
  | '0' :: 'o' :: digits => some (8, digits)
  | '0' :: 'b' :: digits => some (2, digits)
  | _ => none

/-- Reads a whole number token of 64 bits. -/
def readNumber? (token : Text) : Option Nat :=
  let n? := match baseOf? token with
    | some (base, digits) => readDigits? base none digits
    | none => if token.head?.any Char.isDigit then readDigits? 10 none token else none
  n?.filter (· < UInt64.size)

/-- Whether what starts as a text, or as a number that names its base, is one. -/
def isToken (source : Text) : Bool :=
  let opensText : Bool := match source with
    | '"' :: _ => true
    | 'r' :: rest => (rest.dropWhile (· == '#')).head? == some '"'
    | _ => false
  if opensText then (readText? source).isSome
  else (baseOf? source).all fun (base, digits) => (readDigits? base none digits).isSome

end EntityStore.Token
