import Relay.Files.Tree
import Relay.Text.Blank

/-!
# The terminal

A human who sits at the terminal is prompted and answers with a line. A line
ends with a line feed or where the input ends; after the end of the input every
answer is empty. All line feeds and carriage returns at the end of a line are
left out of the answer.

## Main definitions

* `Prompt` — the two prompts.
* `Terminal` — the input that is left and the prompts shown so far.
* `Terminal.ask` — shows a prompt and takes a line.
-/

namespace Relay

/-- What a human is asked for. -/
inductive Prompt where
  /-- An answer that the agents of a parallel stage work on. -/
  | response
  /-- The task that goes on to the next stage. -/
  | nextTask
  deriving DecidableEq

/-- The prompt as it is shown. -/
def Prompt.text : Prompt → String
  | .response => "Enter your response: "
  | .nextTask => "Enter the next task: "

/-- The bytes of the first line with its line feed, and the bytes after it. -/
def takeLine : List UInt8 → List UInt8 × List UInt8
  | [] => ([], [])
  | b :: rest =>
    if b = 10 then ([b], rest)
    else
      let (line, after) := takeLine rest
      (b :: line, after)

/-- Taking a line loses no byte. -/
theorem takeLine_append (bytes : List UInt8) :
    (takeLine bytes).1 ++ (takeLine bytes).2 = bytes := by
  induction bytes with
  | nil => rfl
  | cons b rest ih =>
    rw [takeLine]
    split
    · rfl
    · exact congrArg (b :: ·) ih

/-- The characters that may end a line. -/
def isLineEnd (c : Char) : Bool := c == '\r' || c == '\n'

/-- The answer that a line of bytes gives, if it is UTF-8. -/
def answerOfLine (line : List UInt8) : Except IoError String :=
  match String.fromUTF8? ⟨line.toArray⟩ with
  | none => .error .notUtf8
  | some text => .ok (String.ofList (Text.dropTrailing isLineEnd text.toList))

/-- The terminal. -/
structure Terminal where
  /-- The bytes not yet read. -/
  input : List UInt8
  /-- The prompts shown, the earliest first. -/
  prompts : List Prompt

namespace Terminal

/-- A terminal on which nothing has been shown. -/
def ofInput (input : List UInt8) : Terminal := ⟨input, []⟩

/-- Shows a prompt and takes a line. A line that is not UTF-8 is taken as well. -/
def ask (t : Terminal) (prompt : Prompt) : Except IoError String × Terminal :=
  let (line, rest) := takeLine t.input
  (answerOfLine line, ⟨rest, t.prompts ++ [prompt]⟩)

/-- Everything shown so far. -/
def shown (t : Terminal) : String := String.join (t.prompts.map Prompt.text)

end Terminal

end Relay
