import LineShell.Script.Tree

/-!
# Tokens of a script

Blanks and signs divide the words of a script.  Quotes, backslashes and
dollar signs are resolved here, so a word comes out as its pieces.  The
reading goes over the text once and keeps what it is in the middle of.
-/

namespace LineShell.Script

/-- A token of a script. -/
inductive Token where
  | word (w : Word)
  /-- A sign that divides words, the line break among them. -/
  | sign (c : Char)
  /-- The sign that sends a stream elsewhere. -/
  | redirect (stream : Nat)

/-- A token and its line. -/
abbrev Placed := Token × Nat

/-- What a reading is in the middle of.  The flag says whether that is inside
double quotes. -/
inductive Mode where
  | bare
  | single
  | double
  | comment
  | escape (quoted : Bool)
  | dollar (quoted : Bool)
  | name (t : Text) (quoted : Bool)
  | brace (t : Text) (quoted : Bool)
  deriving DecidableEq

/-- A reading of a script.  Pieces and tokens come last one first. -/
structure Reading where
  mode : Mode
  word : Option Word
  found : List Placed
  line : Nat

/-- Whether a name can begin with a character. -/
def beginsName (c : Char) : Bool := c.isAlpha || c = '_'

/-- Whether a name can go on with a character. -/
def continuesName (c : Char) : Bool := c.isAlphanum || c = '_'

/-- The parameter of a name in braces. -/
def Parameter.ofName (t : Text) : Parameter :=
  if t = ['@'] || t = ['*'] then .all
  else if t = ['#'] then .count
  else if t = ['$'] then .process
  else if t = ['?'] then .status
  else if t.all Char.isDigit then .argument ((String.ofList t).toNat?.getD 0)
  else .variable t

namespace Reading

/-- The reading before any text. -/
def start : Reading := ⟨.bare, none, [], 1⟩

/-- Adds a piece to the word, which begins with it if need be. -/
def add (r : Reading) (p : Piece) : Reading :=
  { r with word := some (p :: r.word.getD []) }

/-- Adds a token. -/
def emit (r : Reading) (t : Token) : Reading :=
  { r with found := (t, r.line) :: r.found }

/-- Ends the word. -/
def finish (r : Reading) : Reading :=
  match r.word with
  | some ps => { r.emit (.word ps.reverse) with word := none }
  | none => r

/-- Goes back to what surrounds a reference or an escape. -/
def back (r : Reading) (quoted : Bool) : Reading :=
  { r with mode := if quoted then .double else .bare }

/-- Reads a character outside of quotes. -/
def bare (r : Reading) (c : Char) : Reading :=
  if c = '\'' then { r.add (.text [] true) with mode := .single }
  else if c = '"' then { r.add (.text [] true) with mode := .double }
  else if c = '\\' then { r with mode := .escape false }
  else if c = '$' then { r with mode := .dollar false }
  else if c = '#' && r.word.isNone then { r with mode := .comment }
  else if c = ' ' || c = '\t' then r.finish
  else if c = '\n' then
    let r := r.finish.emit (.sign '\n')
    { r with line := r.line + 1 }
  else if c = '>' then
    match r.word with
    | some [.text [d] false] =>
      if d.isDigit then
        { r with word := none }.emit (.redirect (d.toNat - 48))
      else r.finish.emit (.redirect 1)
    | _ => r.finish.emit (.redirect 1)
  else if [';', '&', '|', '(', ')', '<'].contains c then r.finish.emit (.sign c)
  else r.add (.text [c] false)

/-- Reads a character inside double quotes. -/
def double (r : Reading) (c : Char) : Reading :=
  if c = '"' then { r with mode := .bare }
  else if c = '\\' then { r with mode := .escape true }
  else if c = '$' then { r with mode := .dollar true }
  else r.add (.text [c] true)

/-- Reads a character where a reference or an escape has ended. -/
def afterwards (r : Reading) (quoted : Bool) (c : Char) : Reading :=
  if quoted then (r.back quoted).double c else (r.back quoted).bare c

/-- Reads a character after a dollar sign. -/
def dollar (r : Reading) (quoted : Bool) (c : Char) : Reading :=
  if beginsName c then { r with mode := .name [c] quoted }
  else if c = '\x7b' then { r with mode := .brace [] quoted }
  else if c.isDigit || ['@', '*', '#', '$', '?'].contains c then
    (r.back quoted).add (.value (.ofName [c]) quoted)
  else (r.add (.text ['$'] quoted)).afterwards quoted c

/-- Reads a character after a backslash. -/
def escape (r : Reading) (quoted : Bool) (c : Char) : Reading :=
  let r := r.back quoted
  if c = '\n' then { r with line := r.line + 1 }
  else if quoted && !(['$', '"', '\\', '\x60'].contains c) then
    r.add (.text ['\\', c] true)
  else r.add (.text [c] true)

/-- Reads a character. -/
def step (r : Reading) (c : Char) : Reading :=
  match r.mode with
  | .bare => r.bare c
  | .double => r.double c
  | .single =>
    if c = '\'' then { r with mode := .bare } else r.add (.text [c] true)
  | .comment => if c = '\n' then r.afterwards false c else r
  | .escape quoted => r.escape quoted c
  | .dollar quoted => r.dollar quoted c
  | .name t quoted =>
    if continuesName c then { r with mode := .name (t ++ [c]) quoted }
    else (r.add (.value (.variable t) quoted)).afterwards quoted c
  | .brace t quoted =>
    if c = '\x7d' then (r.back quoted).add (.value (.ofName t) quoted)
    else { r with mode := .brace (t ++ [c]) quoted }

/-- The tokens of a reading that ends here, or its line if a quotation is
still open. -/
def close (r : Reading) : Except Nat (List Placed) :=
  match r.mode with
  | .bare | .comment => .ok r.finish.found.reverse
  | .dollar false => .ok (r.add (.text ['$'] false)).finish.found.reverse
  | .name t false => .ok (r.add (.value (.variable t) false)).finish.found.reverse
  | .escape false => .ok (r.add (.text ['\\'] false)).finish.found.reverse
  | _ => .error r.line

end Reading

/-- The tokens of a text. -/
def tokens (t : Text) : Except Nat (List Placed) :=
  (t.foldl Reading.step .start).close

end LineShell.Script
