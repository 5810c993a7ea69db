import TriggerScript.Json5.Characters

/-!
# Tokens of JSON5

A text is cut into tokens; blanks and comments between them are dropped. What an escape stands for
is not decided here: a token keeps the parts that it is written with.
-/

namespace TriggerScript.Json5

inductive Part where
  | char (c : Char)
  /-- A character after a backslash. -/
  | escaped (c : Char)
  /-- An escape by two or four digits to base sixteen. -/
  | code (digits : List Char)
  deriving DecidableEq

inductive Token where
  | openBrace
  | closeBrace
  | openBracket
  | closeBracket
  | colon
  | comma
  | string (parts : List Part)
  | word (parts : List Part)
  | number (text : List Char)
  deriving DecidableEq

/-! ## Strings and words -/

/-- The number of characters before the quote that ends a string. -/
def contentLength? (quote : Char) : List Char → Option Nat
  | '\\' :: _ :: rest => (contentLength? quote rest).map (· + 2)
  | c :: rest => if c = quote then some 0 else (contentLength? quote rest).map (· + 1)
  | [] => none

/-- The parts of a text between quotes. A line can be continued after a backslash; only `0` among
the digits can be escaped. -/
def parts? : List Char → Option (List Part)
  | [] => some []
  | '\\' :: '\r' :: '\n' :: rest => parts? rest
  | '\\' :: 'x' :: a :: b :: rest =>
    if [a, b].all isHexDigit then (parts? rest).map (.code [a, b] :: ·) else none
  | '\\' :: 'u' :: a :: b :: c :: d :: rest =>
    if [a, b, c, d].all isHexDigit then (parts? rest).map (.code [a, b, c, d] :: ·) else none
  | '\\' :: c :: rest =>
    if isLineTerminator c then parts? rest
    else if c = 'x' || c = 'u' || isDigit c && c ≠ '0' then none
    else (parts? rest).map (.escaped c :: ·)
  | c :: rest => if c = '\\' || isLineTerminator c then none else (parts? rest).map (.char c :: ·)

def wordLength : List Char → Nat
  | '\\' :: 'u' :: a :: b :: c :: d :: rest =>
    if [a, b, c, d].all isHexDigit then wordLength rest + 6 else 0
  | c :: rest => if continuesWord c then wordLength rest + 1 else 0
  | [] => 0

/-- A word begins with a letter, a dollar sign, a low line or an escape. -/
def startsWord : List Char → Bool
  | '\\' :: _ => true
  | c :: _ => beginsWord c
  | [] => false

/-! ## Numbers -/

def digitCount (chars : List Char) : Nat := (chars.takeWhile isDigit).length

def exponentLength : List Char → Nat
  | e :: rest =>
    if e = 'e' || e = 'E' then
      let sign := match rest with
        | c :: _ => if c = '+' || c = '-' then 1 else 0
        | [] => 0
      let digits := digitCount (rest.drop sign)
      if digits = 0 then 0 else 1 + sign + digits
    else 0
  | [] => 0

/-- The length of what follows the whole part: a point and digits, an exponent. -/
def tailLength (chars : List Char) : Nat :=
  let fraction := match chars with
    | '.' :: rest => 1 + digitCount rest
    | _ => 0
  fraction + exponentLength (chars.drop fraction)

/-- The length of a number without a sign. A whole part that begins with zero is zero. -/
def unsignedLength? (chars : List Char) : Option Nat :=
  match chars with
  | '0' :: x :: rest =>
    let digits := (rest.takeWhile isHexDigit).length
    if (x = 'x' || x = 'X') && 0 < digits then some (2 + digits)
    else some (1 + tailLength (x :: rest))
  | '.' :: rest =>
    let digits := digitCount rest
    if digits = 0 then none else some (1 + digits + exponentLength (rest.drop digits))
  | c :: rest =>
    if c = '0' then some 1
    else if isDigit c then
      let digits := 1 + digitCount rest
      some (digits + tailLength (chars.drop digits))
    else if chars.take 8 = "Infinity".toList then some 8
    else if chars.take 3 = "NaN".toList then some 3
    else none
  | [] => none

def numberLength? (chars : List Char) : Option Nat :=
  match chars with
  | c :: rest =>
    if c = '+' || c = '-' then (unsignedLength? rest).map (· + 1) else unsignedLength? chars
  | [] => none

/-! ## Texts -/

/-- The number of characters up to the end of a block comment, the end included. -/
def commentLength? : List Char → Option Nat
  | '*' :: '/' :: _ => some 2
  | _ :: rest => (commentLength? rest).map (· + 1)
  | [] => none

def punctuation? (c : Char) : Option Token :=
  if c = '\x7b' then some .openBrace
  else if c = '\x7d' then some .closeBrace
  else if c = '[' then some .openBracket
  else if c = ']' then some .closeBracket
  else if c = ':' then some .colon
  else if c = ',' then some .comma
  else none

/-- A token or a stretch without one, and the number of characters it takes after the first. -/
def lexeme? (c : Char) (rest : List Char) : Option (Option Token × Nat) :=
  if isSpace c then some (none, 0)
  else if c = '/' then
    match rest with
    | '/' :: comment => some (none, 1 + (comment.takeWhile fun c => !isLineTerminator c).length)
    | '*' :: comment => (commentLength? comment).map fun n => (none, 1 + n)
    | _ => none
  else if c = '\x22' || c = '\x27' then
    (contentLength? c rest).bind fun n =>
      (parts? (rest.take n)).map fun parts => (some (.string parts), n + 1)
  else if startsWord (c :: rest) then
    let n := wordLength (c :: rest)
    if n = 0 then none
    else (parts? ((c :: rest).take n)).map fun parts => (some (.word parts), n - 1)
  else
    match punctuation? c with
    | some token => some (some token, 0)
    | none => (numberLength? (c :: rest)).map fun n =>
      (some (.number ((c :: rest).take n)), n - 1)

/-- The tokens of a text, or nothing when some of it belongs to none. -/
def tokens? (chars : List Char) : Option (List Token) :=
  match chars with
  | [] => some []
  | c :: rest =>
    match lexeme? c rest with
    | none => none
    | some (none, n) => tokens? (rest.drop n)
    | some (some token, n) => (tokens? (rest.drop n)).map (token :: ·)
termination_by chars.length
decreasing_by all_goals simp only [List.length_drop, List.length_cons]; omega

end TriggerScript.Json5
