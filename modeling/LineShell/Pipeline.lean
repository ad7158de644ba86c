import LineShell.Token.Machine
import LineShell.Variable.Basic

/-!
# From words to commands

The words of a line are tokens.  References to variables in them are expanded,
bars divide them into commands, and bindings at the front of a command are told
from its name and its arguments.
-/

namespace LineShell

/-!
## References to variables

A dollar sign that is neither escaped nor verbatim refers to the variable
whose name follows it.  The name is the longest run of bare name characters;
a boundary ends it, so a quotation cannot lengthen it.  The value takes the
place of the reference as plain text and is not looked at again.

The scan goes over a token once and keeps the name that is being read.
-/

namespace Glyph

/-- Whether a glyph begins a reference. -/
def opensReference (g : Glyph) : Bool :=
  g.char == '$' && !g.escaped && g.role != .verbatim

/-- Whether a glyph belongs to the name that is being read. -/
def continuesName (g : Glyph) : Bool := isNameChar g.char && g.isBare

end Glyph

/-- A token that is being expanded. -/
structure Expansion where
  /-- What has been expanded. -/
  output : Array Glyph
  /-- The name read so far, inside a reference. -/
  name : Option String

namespace Expansion

/-- Puts the value of a variable in place of its reference. -/
def splice (vs : Variables) (out : Array Glyph) (name : String) :
    Array Glyph :=
  out ++ ((vs.value name).toList.map Glyph.plain)

/-- Takes the next glyph. -/
def step (vs : Variables) (e : Expansion) (g : Glyph) : Expansion :=
  match e.name with
  | some n =>
    if g.continuesName then { e with name := some (n.push g.char) }
    else
      let out := splice vs e.output n
      if g.opensReference then ⟨out, some ""⟩ else ⟨out.push g, none⟩
  | none =>
    if g.opensReference then { e with name := some "" }
    else { e with output := e.output.push g }

/-- Ends the token, and with it a reference that is still open. -/
def finish (vs : Variables) (e : Expansion) : Token :=
  match e.name with
  | some n => (splice vs e.output n).toList
  | none => e.output.toList

end Expansion

/-- Puts the values of variables in place of the references of a token. -/
def Token.expand (vs : Variables) (t : Token) : Token :=
  (t.foldl (Expansion.step vs) ⟨#[], none⟩).finish vs

/-!
## Commands and pipelines

A command is a list of words.  The words at its front that are bindings
belong to its scope; the first other word names the command, and every word
after that is an argument, whatever it looks like.

Tokens make a pipeline: each bar ends a command.  Nothing need follow the last
bar, while a bar with nothing before it ends an empty command.
-/

/-- A command: its bindings, its name and its arguments. -/
structure Command where
  bindings : List Binding
  words : List String
  deriving DecidableEq, Repr

namespace Command

/-- The command without words. -/
def empty : Command := ⟨[], []⟩

/-- The longest row of bindings at the front of some words, and the rest. -/
def splitBindings : List String → List Binding × List String
  | [] => ([], [])
  | w :: rest =>
    match Binding.parse? w with
    | some b =>
      let (bs, ws) := splitBindings rest
      (b :: bs, ws)
    | none => ([], w :: rest)

/-- The command that some words make. -/
def ofWords (ws : List String) : Command :=
  let (bs, rest) := splitBindings ws
  ⟨bs, rest⟩

/-- The name of a command, empty where it has bindings only. -/
def name (c : Command) : String := c.words.headD ""

/-- The words after the name. -/
def args (c : Command) : List String := c.words.tail

end Command

/-- Commands connected by bars, first to run first. -/
abbrev Pipeline := List Command

namespace Pipeline

/-- Groups tokens into commands.  `words` are those of the command that is
being read, last one first. -/
def group (words : List String) : List Token → Pipeline
  | [] => if words.isEmpty then [] else [.ofWords words.reverse]
  | t :: rest =>
    if t.isBar then .ofWords words.reverse :: group [] rest
    else group (t.render :: words) rest

/-- The pipeline that some tokens make. -/
def ofTokens (ts : List Token) : Pipeline := group [] ts

end Pipeline

end LineShell
