import LineShell.Pattern.Fault

/-!
# Patterns as they are written

The tree of a pattern follows its text: every node knows its stretch, so that
a fault found later can still be shown at its place.
-/

namespace LineShell.Pattern

/-- A class that a backslash and one letter stand for. -/
inductive LetterClass where
  | digit
  | space
  | word
  deriving DecidableEq, Repr

/-- A class of ASCII characters with a name of its own. -/
inductive NamedClass where
  | alnum | alpha | ascii | blank | cntrl | digit | graph | lower | print
  | punct | space | upper | word | xdigit
  deriving DecidableEq, Repr

/-- A class of characters that is looked up. -/
inductive PropertyQuery where
  | letter (c : Char)
  | named (name : String)
  | valued (negated : Bool) (name value : String)
  deriving DecidableEq, Repr

/-- A place in a text that matches without a character. -/
inductive Look where
  | lineStart | lineEnd | textStart | textEnd
  | word | notWord | wordStart | wordEnd | wordStartHalf | wordEndHalf
  deriving DecidableEq, Repr

/-- What can be switched on and off inside a pattern. -/
inductive Mode where
  | ignoreCase | multiLine | dotAll | swapGreed | unicode | crlf | verbose
  deriving DecidableEq, Repr

/-- Modes in the order in which they are written, each on or off. -/
abbrev ModeChange := List (Mode × Bool)

/-- How classes are combined. -/
inductive ClassOp where
  | intersection | difference | symmetricDifference
  deriving DecidableEq, Repr

/-- A character that bounds a range, with its stretch.  `byte` marks one that
can stand for a single byte. -/
structure Bound where
  span : Span
  char : Char
  byte : Bool
  deriving DecidableEq, Repr

/-- What stands between brackets. -/
inductive Class where
  | empty (span : Span)
  | literal (span : Span) (c : Char) (byte : Bool)
  | range (span : Span) (lo hi : Bound)
  | named (span : Span) (kind : NamedClass) (negated : Bool)
  | letter (span : Span) (kind : LetterClass) (negated : Bool)
  | property (span : Span) (query : PropertyQuery) (negated : Bool)
  | bracketed (span : Span) (negated : Bool) (inner : Class)
  | union (span : Span) (items : List Class)
  | combined (span : Span) (op : ClassOp) (left right : Class)

/-- The stretch of a class. -/
def Class.span : Class → Span
  | .empty s | .literal s _ _ | .range s _ _ | .named s _ _ | .letter s _ _
  | .property s _ _ | .bracketed s _ _ | .union s _ | .combined s _ _ _ => s

/-- A pattern. -/
inductive Tree where
  | empty (span : Span)
  | modes (span : Span) (change : ModeChange)
  /-- A character.  `byte` marks one that is written by two hexadecimal
  digits or fewer and so can stand for a single byte. -/
  | literal (span : Span) (c : Char) (byte : Bool)
  | dot (span : Span)
  | look (span : Span) (kind : Look)
  | letter (span : Span) (kind : LetterClass) (negated : Bool)
  | property (span : Span) (query : PropertyQuery) (negated : Bool)
  | bracketed (span : Span) (negated : Bool) (inner : Class)
  | repetition (span : Span) (least : Nat) (most : Option Nat) (greedy : Bool) (inner : Tree)
  /-- A group.  Of what a capture matches note is taken. -/
  | group (span : Span) (capture : Bool) (change : ModeChange) (inner : Tree)
  | alternation (span : Span) (branches : List Tree)
  | concat (span : Span) (parts : List Tree)

namespace Tree

/-- The stretch of a pattern. -/
def span : Tree → Span
  | .empty s | .modes s _ | .literal s _ _ | .dot s | .look s _ | .letter s _ _
  | .property s _ _ | .bracketed s _ _ | .repetition s _ _ _ _ | .group s _ _ _
  | .alternation s _ | .concat s _ => s

/-- Whether a repetition can follow. -/
def canRepeat : Tree → Bool
  | .empty _ | .modes _ _ => false
  | _ => true

end Tree

/-! ## How deep a pattern is nested -/

mutual

/-- The first stretch, in reading order, that is nested deeper than `limit`. -/
def Class.tooDeep? (limit : Nat) : Class → Option Span
  | .bracketed s _ inner =>
    match limit with
    | 0 => some s
    | limit + 1 => inner.tooDeep? limit
  | .union s items =>
    match limit with
    | 0 => some s
    | limit + 1 => Class.anyTooDeep? limit items
  | .combined s _ left right =>
    match limit with
    | 0 => some s
    | limit + 1 => (left.tooDeep? limit).or (right.tooDeep? limit)
  | _ => none

def Class.anyTooDeep? (limit : Nat) : List Class → Option Span
  | [] => none
  | c :: rest => (c.tooDeep? limit).or (Class.anyTooDeep? limit rest)

end

mutual

/-- The first stretch, in reading order, that is nested deeper than `limit`. -/
def Tree.tooDeep? (limit : Nat) : Tree → Option Span
  | .bracketed s _ inner =>
    match limit with
    | 0 => some s
    | limit + 1 => inner.tooDeep? limit
  | .repetition s _ _ _ inner =>
    match limit with
    | 0 => some s
    | limit + 1 => inner.tooDeep? limit
  | .group s _ _ inner =>
    match limit with
    | 0 => some s
    | limit + 1 => inner.tooDeep? limit
  | .alternation s branches =>
    match limit with
    | 0 => some s
    | limit + 1 => Tree.anyTooDeep? limit branches
  | .concat s parts =>
    match limit with
    | 0 => some s
    | limit + 1 => Tree.anyTooDeep? limit parts
  | _ => none

def Tree.anyTooDeep? (limit : Nat) : List Tree → Option Span
  | [] => none
  | t :: rest => (t.tooDeep? limit).or (Tree.anyTooDeep? limit rest)

end

end LineShell.Pattern
