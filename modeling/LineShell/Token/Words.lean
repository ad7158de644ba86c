import LineShell.Token.Machine
import LineShell.Text.Basic

/-!
# Reading shell words

Blanks divide words.  A backslash protects the next character, and together
with a line break it vanishes.  Single quotes protect everything between them;
double quotes leave backslashes and dollar signs active.  A bare bar is a
token of its own, whether or not blanks surround it.

Text comes in chunks.  It is complete where no word, quotation or escape is
still open, which is the case right after a blank or a bar.
-/

namespace LineShell.Words

/-- Where the reader stands. -/
inductive State where
  /-- Between words. -/
  | between
  | word
  | single
  | double
  /-- Right after a backslash. -/
  | escape
  /-- At a bar. -/
  | bar
  deriving DecidableEq, Repr

open Control in
/-- What each state does with a character. -/
def rule : State → Char → Control State Unit
  | .between, c =>
    if c = '|' then do push .bar; reread
    else if isBlank c then pure ()
    else do beginToken; push .word; reread
  | .word, c =>
    if c = '\\' then push .escape
    else if c = '\'' then do append .boundary; push .single
    else if c = '"' then do append .boundary; push .double
    else if c = '|' then do finishToken; pop; push .bar; reread
    else if isBlank c then do finishToken; pop; reread
    else append (.plain c)
  | .single, c =>
    if c = '\'' then do append .boundary; pop
    else append (.quoted c)
  | .double, c =>
    if c = '\\' then push .escape
    else if c = '"' then do append .boundary; pop
    else append (.plain c)
  | .escape, c =>
    if c = '\n' then pop
    else do append (.escape c); pop
  | .bar, c => do beginToken; append (.plain c); finishToken; pop

/-- The grammar of shell words. -/
def grammar : Grammar State := ⟨.between, rule⟩

/-- At most this many states read one character. -/
def turns : Nat := 2

/-- Whether a text is complete. -/
inductive Status where
  | done
  | waiting
  deriving DecidableEq, Repr

/-- A reader of words between two chunks. -/
abbrev Reader := Scan State

/-- The reader before any text. -/
def Reader.start : Reader := Scan.start .between

/-- Reads the characters of a chunk. -/
def Reader.feed (r : Reader) (cs : List Char) : Except Misuse Unit × Reader :=
  (grammar.feed turns cs r).getD (.ok (), r)

/-- Whether the text so far is complete. -/
def Reader.status (r : Reader) : Status :=
  if r.atZero then .done else .waiting

/-- Reads one whole text. -/
def read (text : String) : Except Misuse (Status × List Token) :=
  match Reader.start.feed text.toList with
  | (.ok (), r) => .ok (r.status, r.tokens)
  | (.error e, _) => .error e

end LineShell.Words
