/-!
# Reading the pieces of JSON

Readers for the smallest pieces of a JSON text: blanks, words, string literals
and numerals. A reader takes the text from where it stands and returns what it
read with the text that follows.

A text can fail in three ways: it breaks the grammar, it holds a value of
another kind than the one asked for, or it ends too early. The first fault met
from left to right is the one reported.

## Main definitions

* `Json.Fault` — the three ways.
* `Json.readString` — a string literal with its escapes resolved.
* `Json.skipString` — a string literal of which only the grammar is looked at.
* `Json.scanNumeral`, `Json.Numeral.value` — a numeral and the number it means.
-/

namespace Relay.Json

/-- The ways in which a JSON text can fail. -/
inductive Fault where
  /-- The text breaks the grammar, or a number is too large. -/
  | malformed
  /-- A value is of another kind than the one asked for. -/
  | mismatch
  /-- The text ends too early. -/
  | truncated
  deriving DecidableEq

/-- A reader takes a text and returns what it read with the text that follows. -/
abbrev Reader (α : Type) := List Char → Except Fault (α × List Char)

/-! ### Blanks and words -/

/-- The characters that may stand between the pieces of a JSON text. -/
def isSpace (c : Char) : Bool :=
  c == ' ' || c == '\n' || c == '\t' || c == '\r'

/-- The text from its first character that is no blank. -/
def skipSpaces (cs : List Char) : List Char := cs.dropWhile isSpace

/-- The text after a word that must stand at its start. -/
def expectWord : List Char → List Char → Except Fault (List Char)
  | [], rest => .ok rest
  | _ :: _, [] => .error .truncated
  | c :: word, d :: rest => if c = d then expectWord word rest else .error .malformed

/-- The text after a colon that must follow. -/
def expectColon (cs : List Char) : Except Fault (List Char) :=
  match skipSpaces cs with
  | [] => .error .truncated
  | c :: rest => if c = ':' then .ok rest else .error .malformed

/-! ### String literals -/

/-- The value of a hexadecimal digit in either case. -/
def hexDigit? (c : Char) : Option Nat :=
  if c.isDigit then some (c.toNat - '0'.toNat)
  else if 'a' ≤ c && c ≤ 'f' then some (c.toNat - 'a'.toNat + 10)
  else if 'A' ≤ c && c ≤ 'F' then some (c.toNat - 'A'.toNat + 10)
  else none

/-- The value of four hexadecimal digits. -/
def hexQuad? (a b c d : Char) : Option Nat := do
  let w ← hexDigit? a
  let x ← hexDigit? b
  let y ← hexDigit? c
  let z ← hexDigit? d
  return ((w * 16 + x) * 16 + y) * 16 + z

/-- The character that a letter after a backslash stands for. -/
def simpleEscape? (c : Char) : Option Char :=
  if c = '"' then some '"'
  else if c = '\\' then some '\\'
  else if c = '/' then some '/'
  else if c = 'b' then some '\x08'
  else if c = 'f' then some '\x0c'
  else if c = 'n' then some '\n'
  else if c = 'r' then some '\r'
  else if c = 't' then some '\t'
  else none

/-- The number is the first half of a pair that stands for one character. -/
def isHighHalf (n : Nat) : Bool := 0xD800 ≤ n && n ≤ 0xDBFF

/-- The number is the second half of a pair that stands for one character. -/
def isLowHalf (n : Nat) : Bool := 0xDC00 ≤ n && n ≤ 0xDFFF

/-- The character that a pair of halves stands for. -/
def pairChar (high low : Nat) : Char :=
  Char.ofNat ((high - 0xD800) * 0x400 + (low - 0xDC00) + 0x10000)

/-- What is wrong with a text that does not go on with four hexadecimal digits.
It ends too early if there are not even four bytes. -/
def quadFault (cs : List Char) : Fault :=
  if (cs.foldl (fun n c => n + c.utf8Size) 0) < 4 then .truncated else .malformed

/-- What is wrong with a text that does not go on with the second half of a pair. -/
def pairFault : List Char → Fault
  | [] => .truncated
  | c :: rest =>
    if c = '\\' then
      match rest with
      | [] => .truncated
      | d :: tail => if d = 'u' then quadFault tail else .malformed
    else .malformed

/-- A character in front of what was read. -/
def pushChar (c : Char) : Except Fault (List Char × List Char) →
    Except Fault (List Char × List Char)
  | .error e => .error e
  | .ok (cs, rest) => .ok (c :: cs, rest)

/-- The characters of a string literal whose opening quote has been read, with
the text after its closing quote. -/
def readChars : List Char → Except Fault (List Char × List Char)
  | [] => .error .truncated
  | '"' :: rest => .ok ([], rest)
  | '\\' :: 'u' :: a :: b :: c :: d :: rest =>
    match hexQuad? a b c d with
    | none => .error .malformed
    | some n =>
      if isLowHalf n then .error .malformed
      else if isHighHalf n then
        match rest with
        | '\\' :: 'u' :: e :: f :: g :: h :: tail =>
          match hexQuad? e f g h with
          | none => .error .malformed
          | some m =>
            if isLowHalf m then pushChar (pairChar n m) (readChars tail)
            else .error .malformed
        | other => .error (pairFault other)
      else pushChar (Char.ofNat n) (readChars rest)
  | '\\' :: 'u' :: rest => .error (quadFault rest)
  | '\\' :: c :: rest =>
    match simpleEscape? c with
    | none => .error .malformed
    | some d => pushChar d (readChars rest)
  | ['\\'] => .error .truncated
  | c :: rest => if c.toNat < 0x20 then .error .malformed else pushChar c (readChars rest)

/-- The string of a literal whose opening quote has been read. -/
def readString : Reader String := fun cs =>
  match readChars cs with
  | .error e => .error e
  | .ok (chars, rest) => .ok (String.ofList chars, rest)

/-- The text after a string literal whose opening quote has been read. Escapes
must have their form, but a half of a pair may stand alone. -/
def skipString : List Char → Except Fault (List Char)
  | [] => .error .truncated
  | '"' :: rest => .ok rest
  | '\\' :: 'u' :: a :: b :: c :: d :: rest =>
    if (hexQuad? a b c d).isSome then skipString rest else .error .malformed
  | '\\' :: 'u' :: rest => .error (quadFault rest)
  | '\\' :: c :: rest => if (simpleEscape? c).isSome then skipString rest else .error .malformed
  | ['\\'] => .error .truncated
  | c :: rest => if c.toNat < 0x20 then .error .malformed else skipString rest

/-! ### Numerals -/

/-- A numeral, taken apart. -/
structure Numeral where
  /-- It starts with a minus sign. -/
  negative : Bool
  /-- The digits in front of the point. -/
  whole : List Char
  /-- The digits after the point, if there is one. -/
  fraction : Option (List Char)
  /-- The exponent's minus sign and digits, if there is one. -/
  exponent : Option (Bool × List Char)
  deriving DecidableEq

/-- One digit or more; `atEnd` is the fault of a text that ends instead. -/
def scanDigits (atEnd : Fault) : Reader (List Char)
  | [] => .error atEnd
  | c :: rest =>
    if c.isDigit then .ok (c :: rest.takeWhile Char.isDigit, rest.dropWhile Char.isDigit)
    else .error .malformed

/-- The digits in front of the point: a zero stands alone. -/
def scanWhole (atEnd : Fault) : Reader (List Char)
  | [] => .error atEnd
  | c :: rest =>
    if c = '0' then
      match rest with
      | d :: _ => if d.isDigit then .error .malformed else .ok (['0'], rest)
      | [] => .ok (['0'], [])
    else scanDigits atEnd (c :: rest)

/-- A point with its digits, if there is one. -/
def scanFraction (atEnd : Fault) : Reader (Option (List Char))
  | '.' :: rest =>
    match scanDigits atEnd rest with
    | .error e => .error e
    | .ok (digits, rest) => .ok (some digits, rest)
  | cs => .ok (none, cs)

/-- A sign, if there is one: whether it is a minus sign. -/
def scanSign : List Char → Bool × List Char
  | '+' :: rest => (false, rest)
  | '-' :: rest => (true, rest)
  | cs => (false, cs)

/-- An exponent, if there is one. -/
def scanExponent (atEnd : Fault) : Reader (Option (Bool × List Char))
  | [] => .ok (none, [])
  | c :: rest =>
    if c = 'e' || c = 'E' then
      let (negative, rest) := scanSign rest
      match scanDigits atEnd rest with
      | .error e => .error e
      | .ok (digits, rest) => .ok (some (negative, digits), rest)
    else .ok (none, c :: rest)

/-- A numeral. `atEnd` is the fault of a text that ends where a digit must stand. -/
def scanNumeral (atEnd : Fault) : Reader Numeral := fun cs => do
  let (negative, cs) := match cs with
    | '-' :: rest => (true, rest)
    | cs => (false, cs)
  let (whole, cs) ← scanWhole atEnd cs
  let (fraction, cs) ← scanFraction atEnd cs
  let (exponent, cs) ← scanExponent atEnd cs
  return (⟨negative, whole, fraction, exponent⟩, cs)

/-- The number that a numeral means. -/
inductive Number where
  /-- An integer of 64 bits, signed or not. -/
  | int (i : Int)
  /-- Any other number, rounded. -/
  | float (x : Float)

/-- The value of digits taken one by one for as long as it fits in 64 bits: the
value, the number of digits taken and the number of digits left. -/
def absorbDigits (value taken : Nat) : List Char → Nat × Nat × Nat
  | [] => (value, taken, 0)
  | c :: rest =>
    let next := value * 10 + (c.toNat - '0'.toNat)
    if next < 0x10000000000000000 then absorbDigits next (taken + 1) rest
    else (value, taken, rest.length + 1)

/-- The double nearest to a power of ten. -/
def powerOfTen (n : Nat) : Float := Float.ofScientific 1 false n

/-- The double divided by the power of ten, in steps of at most 308 places. -/
def scaleDown (x : Float) (places : Nat) : Nat → Float
  | 0 => x
  | steps + 1 =>
    if places ≤ 308 then x / powerOfTen places
    else if x == 0 then x
    else scaleDown (x / powerOfTen 308) (places - 308) steps

/-- The double `factor · 10 ^ exponent`, with the factor rounded first and
scaled afterwards; a result that is not finite is refused. -/
def scale? (factor : Nat) (exponent : Int) : Option Float :=
  let x := (UInt64.ofNat factor).toFloat
  if exponent < 0 then some (scaleDown x exponent.natAbs (exponent.natAbs / 308 + 1))
  else if 308 < exponent then if x == 0 then some x else none
  else
    let y := x * powerOfTen exponent.toNat
    if y.isInf then none else some y

namespace Numeral

/-- The numeral has neither fraction nor exponent. -/
def isPlain (n : Numeral) : Bool := n.fraction.isNone && n.exponent.isNone

/-- The power of ten that the exponent asks for. -/
def shift (n : Numeral) : Int :=
  match n.exponent with
  | none => 0
  | some (true, digits) => -(Nat.ofDigitChars 10 digits 0 : Int)
  | some (false, digits) => Nat.ofDigitChars 10 digits 0

/-- The double that the numeral means. Digits beyond 64 bits count only as
places. -/
def float? (n : Numeral) : Option Float :=
  let (whole, _, dropped) := absorbDigits 0 0 n.whole
  let (factor, places, _) := absorbDigits whole 0 (n.fraction.getD [])
  (scale? factor ((dropped : Int) - places + n.shift)).map fun x => if n.negative then -x else x

/-- The number that the numeral means. A plain numeral that fits in 64 bits, as
a signed number if it is negative, means an integer, save for a negative zero. -/
def value (n : Numeral) : Except Fault Number :=
  let magnitude := Nat.ofDigitChars 10 n.whole 0
  if n.isPlain && !n.negative && magnitude < 0x10000000000000000 then .ok (.int magnitude)
  else if n.isPlain && n.negative && 0 < magnitude && magnitude ≤ 0x8000000000000000 then
    .ok (.int (-(magnitude : Int)))
  else
    match n.float? with
    | some x => .ok (.float x)
    | none => .error .malformed

end Numeral

/-- A number. -/
def readNumber : Reader Number := fun cs => do
  let (numeral, rest) ← scanNumeral .truncated cs
  let number ← numeral.value
  return (number, rest)

end Relay.Json
