import LineShell.Pattern.Automaton
import LineShell.Text.Basic
import LineShell.Utility.Basic

/-!
# Printing the lines that match

Lines are searched one by one.  A line that matches is printed, and so are the
lines after it, as many as asked for.  Where such trailing lines are asked
for, a line of two hyphens stands between stretches that do not touch.  The
search ends at the first line that is not text.

Files are searched independently of each other.  One that cannot be searched
to its end is reported and does not keep others from being searched.
-/

namespace LineShell.Utility.Grep

def form : Options.Form where
  about := "print lines matching a pattern"
  flags := [
    ⟨"word-regexp", some 'w', .none,
      "match only whole words (using non-word characters as boundaries)"⟩,
    ⟨"ignore-case", some 'i', .none, "ignore case distinctions"⟩,
    ⟨"after-context", some 'A', .count,
      "print NUM lines of trailing context after matching lines"⟩]
  operands := [
    ⟨"pattern", .one, "the pattern to search for (a regular expression)"⟩,
    ⟨"files", .rest, "files to search. If none provided, reads from stdin."⟩]

/-! ## Selection -/

/-- How lines are selected. -/
structure Criteria where
  isMatch : Matcher
  /-- How many lines after a match are printed. -/
  after : Nat
  /-- What is put before each line, with a colon. -/
  label : Option String

/-- A search that has read some lines. -/
structure Search where
  /-- The number of the next line. -/
  index : Nat
  /-- How many lines are still to be printed because of the last match. -/
  left : Nat
  /-- The number of the last line that was printed. -/
  printed : Option Nat
  matched : Bool
  output : Array UInt8

namespace Search

/-- The search before any line. -/
def start : Search := ⟨0, 0, none, false, #[]⟩

/-- What is put before a line: the hyphens after a gap, and the label. -/
def lead (s : Search) (c : Criteria) : Bytes :=
  (if c.after > 0 && s.printed.any (fun p => s.index > p + 1) then bytesOf "--\n"
    else []) ++
  (match c.label with
    | some l => bytesOf (l ++ ":")
    | none => [])

/-- Reads a line with its text. -/
def step (c : Criteria) (s : Search) (line : Bytes) (text : List Char) :
    Search :=
  let isMatch := c.isMatch text
  let shown := isMatch || s.left > 0
  { index := s.index + 1
    left := if isMatch then c.after else s.left - 1
    printed := if shown then some s.index else s.printed
    matched := s.matched || isMatch
    output :=
      if shown then
        s.output ++ s.lead c ++ line ++ (if Lines.hasBreak line then ([] : Bytes) else [10])
      else s.output }

/-- Reads lines up to the first that is not text. -/
def run (c : Criteria) (s : Search) : List Bytes → Search × Option Fault
  | [] => (s, none)
  | line :: rest =>
    match Lines.text? line with
    | some text => run c (s.step c line text) rest
    | none => (s, some .notUtf8)

end Search

/-- The lines of a source that are complete before it fails, or all lines. -/
def sourceLines (s : Source) : List Bytes :=
  let lines := Lines.split s.bytes
  match s.fault with
  | none => lines
  | some _ => lines.filter Lines.hasBreak

/-- Searches a source: what is printed, and whether there was a match. -/
def search (c : Criteria) (s : Source) : Bytes × Except Fault Bool :=
  match Search.run c .start (sourceLines s) with
  | (r, some f) => (r.output.toList, .error f)
  | (r, none) =>
    (r.output.toList,
      match s.fault with
      | none => .ok r.matched
      | some f => .error f)

/-- How many bytes a search reads: all of them, unless it meets a line that is
not text.  Then it has fetched the blocks up to the end of that line. -/
def taken (s : Source) : Nat :=
  let rest := (sourceLines s).dropWhile fun line => (Lines.text? line).isSome
  min s.bytes.length (fetched (s.bytes.length - rest.tail.flatten.length))

/-- Searches a source and prints. -/
def searchTo (c : Criteria) (s : Source) (st : Stage) : Except Fault Bool × Stage :=
  match search c s with
  | (out, r) =>
    match st.write out with
    | (.error f, st) => (.error f, st)
    | (.ok (), st) => (r, st)

/-! ## The utility -/

/-- The text of the pattern to search for.  A whole word has a word boundary
on both sides. -/
def patternText (c : Options.Choice) : String :=
  let text := c.operands.headD ""
  if c.has "word-regexp" then "\\b(" ++ text ++ ")\\b" else text

/-- How many lines after a match are asked for. -/
def afterContext (c : Options.Choice) : Nat :=
  match c.value? "after-context" with
  | none => 0
  | some v => (Numeral.natural Numeral.countLimit v).toOption.getD 0

/-- Searches the file of a name. -/
def searchFile (isMatch : Matcher) (after : Nat) (name : String) (st : Stage) :
    Except Fault Bool × Stage :=
  match st.openFile name with
  | .error f => (.error f, st)
  | .ok node =>
    match node.content with
    | .error f => (.error f, st)
    | .ok bs => searchTo ⟨isMatch, after, some name⟩ (.ofBytes bs) st

/-- Searches files one after the other.  The flags say whether one has failed
and whether there was a match. -/
def searchAll (isMatch : Matcher) (after : Nat) :
    List String → Bool → Bool → Stage → Outcome Status
  | [], failed, matched, st =>
    (.ok (if failed then 2 else if matched then 0 else 1), st)
  | name :: rest, failed, matched, st =>
    match searchFile isMatch after name st with
    | (.ok m, st) => searchAll isMatch after rest failed (matched || m) st
    | (.error f, st) =>
      searchAll isMatch after rest true matched
        (st.complain ("grep: " ++ name ++ ": " ++ f.message ++ "\n"))

/-- Searches files with a matcher, or the input where none is named. -/
def searchWith (isMatch : Matcher) (c : Options.Choice) (st : Stage) :
    Outcome Status :=
  match c.operands.tail with
  | [] =>
    match searchTo ⟨isMatch, afterContext c, none⟩ st.input
        (st.advance (taken st.input)) with
    | (.ok m, st) => (.ok (if m then 0 else 1), st)
    | (.error f, st) => (.error (.stream f), st)
  | files => searchAll isMatch (afterContext c) files false false st

/-- Searches for a pattern. -/
def body (c : Options.Choice) (st : Stage) : Outcome Status :=
  let text := patternText c
  match Pattern.compile text (c.has "ignore-case") with
  | .ok isMatch => searchWith isMatch c st
  | .error why => (.error (.pattern text why), st)

end LineShell.Utility.Grep
