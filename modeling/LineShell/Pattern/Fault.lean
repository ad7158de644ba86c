/-!
# Faults in patterns

A fault says what is wrong with a pattern and where.  Its report shows the
pattern with carets below the place.  A pattern of several lines is shown
between rules, with its lines numbered.
-/

namespace LineShell.Pattern

/-- A place in a pattern, between two characters.  Lines and columns count
from one. -/
structure Place where
  offset : Nat
  line : Nat
  column : Nat
  deriving DecidableEq, Repr

namespace Place

/-- The place before the first character. -/
def start : Place := ⟨0, 1, 1⟩

/-- The place behind a character. -/
def after (p : Place) (c : Char) : Place :=
  if c = '\n' then ⟨p.offset + 1, p.line + 1, 1⟩
  else ⟨p.offset + 1, p.line, p.column + 1⟩

end Place

/-- A stretch of a pattern. -/
structure Span where
  start : Place
  stop : Place
  deriving DecidableEq, Repr

/-- The empty stretch at a place. -/
def Span.at (p : Place) : Span := ⟨p, p⟩

/-- What can be wrong with a pattern. -/
inductive FaultKind where
  | classEscapeInvalid
  | classRangeInvalid
  | classRangeLiteral
  | classUnclosed
  | decimalInvalid
  | escapeHexEmpty
  | escapeHexInvalid
  | escapeHexInvalidDigit
  | escapeUnexpectedEnd
  | escapeUnrecognized
  | flagDanglingNegation
  | flagDuplicate (first : Span)
  | flagRepeatedNegation (first : Span)
  | flagUnexpectedEnd
  | flagUnrecognized
  | groupNameDuplicate (first : Span)
  | groupNameEmpty
  | groupNameInvalid
  | groupNameUnexpectedEnd
  | groupUnclosed
  | groupUnopened
  | nestLimitExceeded (limit : Nat)
  | repetitionCountInvalid
  | repetitionCountDecimalEmpty
  | repetitionCountUnclosed
  | repetitionMissing
  | wordBoundaryUnclosed
  | wordBoundaryUnrecognized
  | wordBoundaryUnexpectedEnd
  | unicodeClassInvalid
  | backreference
  | lookAround
  | unicodeNotAllowed
  | invalidUtf8
  | propertyNotFound
  | propertyValueNotFound
  deriving DecidableEq, Repr

/-- The fault in words. -/
def FaultKind.message : FaultKind → String
  | .classEscapeInvalid => "invalid escape sequence found in character class"
  | .classRangeInvalid =>
    "invalid character class range, the start must be <= the end"
  | .classRangeLiteral => "invalid range boundary, must be a literal"
  | .classUnclosed => "unclosed character class"
  | .decimalInvalid => "decimal literal invalid"
  | .escapeHexEmpty => "hexadecimal literal empty"
  | .escapeHexInvalid => "hexadecimal literal is not a Unicode scalar value"
  | .escapeHexInvalidDigit => "invalid hexadecimal digit"
  | .escapeUnexpectedEnd =>
    "incomplete escape sequence, reached end of pattern prematurely"
  | .escapeUnrecognized => "unrecognized escape sequence"
  | .flagDanglingNegation => "dangling flag negation operator"
  | .flagDuplicate _ => "duplicate flag"
  | .flagRepeatedNegation _ => "flag negation operator repeated"
  | .flagUnexpectedEnd => "expected flag but got end of regex"
  | .flagUnrecognized => "unrecognized flag"
  | .groupNameDuplicate _ => "duplicate capture group name"
  | .groupNameEmpty => "empty capture group name"
  | .groupNameInvalid => "invalid capture group character"
  | .groupNameUnexpectedEnd => "unclosed capture group name"
  | .groupUnclosed => "unclosed group"
  | .groupUnopened => "unopened group"
  | .nestLimitExceeded limit =>
    "exceed the maximum number of nested parentheses/brackets (" ++
      toString limit ++ ")"
  | .repetitionCountInvalid =>
    "invalid repetition count range, the start must be <= the end"
  | .repetitionCountDecimalEmpty =>
    "repetition quantifier expects a valid decimal"
  | .repetitionCountUnclosed => "unclosed counted repetition"
  | .repetitionMissing => "repetition operator missing expression"
  | .wordBoundaryUnclosed =>
    "special word boundary assertion is either unclosed or contains an " ++
      "invalid character"
  | .wordBoundaryUnrecognized =>
    "unrecognized special word boundary assertion, valid choices are: start, " ++
      "end, start-half or end-half"
  | .wordBoundaryUnexpectedEnd =>
    "found either the beginning of a special word boundary or a bounded " ++
      "repetition on a \\b with an opening brace, but no closing brace"
  | .unicodeClassInvalid => "invalid Unicode character class"
  | .backreference => "backreferences are not supported"
  | .lookAround =>
    "look-around, including look-ahead and look-behind, is not supported"
  | .unicodeNotAllowed => "Unicode not allowed here"
  | .invalidUtf8 => "pattern can match invalid UTF-8"
  | .propertyNotFound => "Unicode property not found"
  | .propertyValueNotFound => "Unicode property value not found"

/-- Another place that a fault refers to. -/
def FaultKind.other? : FaultKind → Option Span
  | .flagDuplicate s => some s
  | .flagRepeatedNegation s => some s
  | .groupNameDuplicate s => some s
  | _ => none

/-- What is wrong with a pattern, and where. -/
structure Fault where
  kind : FaultKind
  span : Span
  deriving DecidableEq, Repr

namespace Fault

/-- The places to show, from left to right. -/
def spans (f : Fault) : List Span :=
  match f.kind.other? with
  | none => [f.span]
  | some s => if s.start.offset < f.span.start.offset then [s, f.span] else [f.span, s]

/-- Carets below the places of one line, from a column on. -/
def carets (column : Nat) : List Span → List Char
  | [] => []
  | s :: rest =>
    let lead := s.start.column - column
    let width := max 1 (s.stop.column - s.start.column)
    List.replicate lead ' ' ++ List.replicate width '^' ++
      carets (column + lead + width) rest

/-- A line that a line break ends, without the carriage return that belongs to
the break. -/
def withoutReturn (line : String) : String :=
  if line.endsWith "\r" then String.ofList line.toList.dropLast else line

/-- The lines of a text.  A line break at the end begins no further line. -/
def lines (s : String) : List String :=
  let ls := s.splitOn "\n"
  let last := ls.getLast?.getD ""
  ls.dropLast.map withoutReturn ++ if last.isEmpty then [] else [last]

/-- A line number, padded to a width. -/
def number (width n : Nat) : String :=
  let digits := toString n
  String.ofList (List.replicate (width - digits.length) ' ') ++ digits

/-- One line of a pattern with the carets that belong to it. -/
def displayLine (f : Fault) (width n : Nat) (line : String) : String :=
  let here := f.spans.filter fun s => s.start.line == s.stop.line && s.start.line == n
  let lead := if width = 0 then "    " else number width n ++ ": "
  let notes :=
    if here.isEmpty then ""
    else
      String.ofList (List.replicate (if width = 0 then 4 else width + 2) ' ' ++
        carets 1 here) ++ "\n"
  lead ++ line ++ "\n" ++ notes

/-- A note on a place that covers several lines. -/
def note (s : Span) : String :=
  "on line " ++ toString s.start.line ++ " (column " ++ toString s.start.column ++
    ") through line " ++ toString s.stop.line ++ " (column " ++
    toString (s.stop.column - 1) ++ ")"

/-- The report of a fault in a pattern. -/
def report (f : Fault) (pattern : String) : String :=
  let ls := lines pattern
  let count := ls.length + if pattern.endsWith "\n" then 1 else 0
  let width := if count ≤ 1 then 0 else (toString count).length
  let shown := String.join (ls.zipIdx.map fun (l, i) => f.displayLine width (i + 1) l)
  let title := "regex parse error:\n"
  let error := "error: " ++ f.kind.message
  if pattern.contains '\n' then
    let rule := String.ofList (List.replicate 79 '~') ++ "\n"
    let long := f.spans.filter fun s => s.start.line != s.stop.line
    let notes := if long.isEmpty then "" else "\n".intercalate (long.map note) ++ "\n"
    title ++ rule ++ shown ++ rule ++ notes ++ error
  else title ++ shown ++ error

end Fault

end LineShell.Pattern
