import Relay.Json.Scan

/-!
# Passing over JSON values

A value that nobody asks for is passed over. It may nest to any depth; of its
strings and numerals only the grammar is looked at, and a numeral that breaks
off breaks the grammar.

## Main definitions

* `Json.Bracket` — a list or an object that is open.
* `Json.skipFrom` — goes on inside the open brackets until all are closed.
* `Json.skipValue` — the text after a value.
-/

namespace Relay.Json

/-- What an open bracket encloses. -/
inductive Bracket where
  | list
  | object
  deriving DecidableEq

/-- The character that closes a bracket. -/
def Bracket.closing : Bracket → Char
  | .list => ']'
  | .object => '\x7d'

/-- The bracket that a character opens. -/
def Bracket.ofOpening? (c : Char) : Option Bracket :=
  if c = '[' then some .list else if c = '\x7b' then some .object else none

/-- The text after a value without brackets. -/
def skipScalar : List Char → Except Fault (List Char)
  | [] => .error .truncated
  | c :: rest =>
    if c = 'n' then expectWord ['u', 'l', 'l'] rest
    else if c = 't' then expectWord ['r', 'u', 'e'] rest
    else if c = 'f' then expectWord ['a', 'l', 's', 'e'] rest
    else if c = '"' then skipString rest
    else if c = '-' || c.isDigit then
      match scanNumeral .malformed (c :: rest) with
      | .error e => .error e
      | .ok (_, rest) => .ok rest
    else .error .malformed

/-- The text where the next value inside a bracket starts: in an object a name
and a colon come first. -/
def skipName (cs : List Char) : Bracket → Except Fault (List Char)
  | .list => .ok cs
  | .object =>
    match skipSpaces cs with
    | [] => .error .truncated
    | c :: rest =>
      if c = '"' then
        match skipString rest with
        | .error e => .error e
        | .ok rest => expectColon rest
      else .error .malformed

/-- Goes on inside the open brackets, the innermost first, until all are closed:
`after` tells whether a value has just ended or one must start. -/
def skipFrom : Nat → Bool → List Bracket → List Char → Except Fault (List Char)
  | 0, _, _, _ => .error .malformed
  | _ + 1, true, [], cs => .ok cs
  | steps + 1, true, bracket :: outer, cs =>
    match skipSpaces cs with
    | [] => .error .truncated
    | c :: rest =>
      if c = ',' then
        match skipName rest bracket with
        | .error e => .error e
        | .ok rest => skipFrom steps false (bracket :: outer) rest
      else if c = bracket.closing then skipFrom steps true outer rest
      else .error .malformed
  | steps + 1, false, outer, cs =>
    match skipSpaces cs with
    | [] => .error .truncated
    | c :: rest =>
      match Bracket.ofOpening? c with
      | none =>
        match skipScalar (c :: rest) with
        | .error e => .error e
        | .ok rest => skipFrom steps true outer rest
      | some bracket =>
        match skipSpaces rest with
        | [] => .error .truncated
        | d :: tail =>
          if d = bracket.closing then skipFrom steps true outer tail
          else
            match skipName (d :: tail) bracket with
            | .error e => .error e
            | .ok rest => skipFrom steps false (bracket :: outer) rest

/-- The text after a value. Every step passes over a character, so there are no
more steps than characters, and one to finish. -/
def skipValue (cs : List Char) : Except Fault (List Char) :=
  skipFrom (cs.length + 1) false [] cs

end Relay.Json
