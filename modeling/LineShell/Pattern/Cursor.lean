import LineShell.Pattern.Tree
import LineShell.Text.Basic

/-!
# Reading a pattern character by character

A cursor stands before a character of a pattern or at its end.  In verbose
mode blanks and comments between the parts of a pattern are passed over.
-/

namespace LineShell.Pattern

/-- Where the reading of a pattern stands. -/
structure Cursor where
  rest : List Char
  place : Place
  verbose : Bool
  /-- The names given to groups so far. -/
  names : List (String × Span)

/-- Reading a part of a pattern. -/
abbrev Read (α : Type) := StateT Cursor (Except Fault) α

namespace Read

/-- Refuses the pattern because of a stretch of it. -/
def refuse {α : Type} (kind : FaultKind) (span : Span) : Read α :=
  throw ⟨kind, span⟩

/-- The place of the cursor. -/
def place : Read Place := return (← get).place

/-- The stretch from a place to the cursor. -/
def since (start : Place) : Read Span := return ⟨start, ← place⟩

/-- The empty stretch at the cursor. -/
def here : Read Span := return .at (← place)

/-- The character before which the cursor stands. -/
def peek? : Read (Option Char) := return (← get).rest.head?

/-- The character after that one. -/
def peekNext? : Read (Option Char) := return (← get).rest[1]?

def atEnd : Read Bool := return (← get).rest.isEmpty

/-- The stretch of the character before which the cursor stands. -/
def charSpan : Read Span := do
  let c ← get
  return ⟨c.place, c.rest.head?.elim c.place c.place.after⟩

/-- Passes one character.  Says whether another one follows. -/
def bump : Read Bool := do
  let c ← get
  match c.rest with
  | [] => return false
  | x :: rest =>
    set { c with rest, place := c.place.after x }
    return !rest.isEmpty

/-- Passes blanks, and comments up to the end of their line. -/
def skip (inComment : Bool) : List Char → Place → List Char × Place
  | [], p => ([], p)
  | c :: rest, p =>
    if inComment then skip (c != '\n') rest (p.after c)
    else if isBlank c then skip false rest (p.after c)
    else if c = '#' then skip true rest (p.after c)
    else (c :: rest, p)

/-- Passes blanks and comments in verbose mode. -/
def skipBlanks : Read Unit := do
  let c ← get
  if c.verbose then
    let (rest, place) := skip false c.rest c.place
    set { c with rest, place }

/-- Passes one character and what may be skipped after it.  Says whether
another one follows. -/
def bumpBlanks : Read Bool := do
  if ← bump then
    skipBlanks
    return !(← atEnd)
  else return false

/-- The first of some characters that is neither blank nor, before any other
has been seen, the sign that begins a comment. -/
def firstVisible? (inComment : Bool) : List Char → Option Char
  | [] => none
  | c :: rest =>
    if isBlank c then firstVisible? inComment rest
    else if c = '#' && !inComment then firstVisible? true rest
    else some c

/-- Looks past the current character.  In verbose mode blanks and one comment
sign are looked over, but not the text of a comment; if nothing follows them,
the next character counts whatever it is. -/
def peekNextBlanks? : Read (Option Char) := do
  let c ← get
  match c.rest with
  | [] => return none
  | _ :: rest =>
    if c.verbose then return (firstVisible? false rest).or rest.head?
    else return rest.head?

/-- Passes a text if it comes next. -/
def bumpIf (text : String) : Read Bool := do
  let c ← get
  if text.toList.isPrefixOf c.rest then
    set { c with
      rest := c.rest.drop text.length
      place := text.toList.foldl Place.after c.place }
    return true
  else return false

/-- Passes characters of a kind and returns them, last one first.  `fuel` is
at least the number of characters that are left. -/
def run (p : Char → Bool) (fuel : Nat) (found : List Char) : Read (List Char) := do
  match fuel with
  | 0 => return found
  | fuel + 1 =>
    match ← peek? with
    | none => return found
    | some c =>
      if p c then
        let _ ← bumpBlanks
        run p fuel (c :: found)
      else return found

/-- Passes all characters of a kind that come next and returns them. -/
def takeWhile (p : Char → Bool) : Read (List Char) := do
  return (← run p (← get).rest.length []).reverse

end Read

end LineShell.Pattern
