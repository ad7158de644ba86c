import LineShell.Unicode.CharSet

/-!
# What patterns match

In an expression only sets of characters, places, order, choice and repetition
are left of a pattern.  Expressions are put together by functions that keep
them simple: texts that follow each other become one text, choices among single
characters become one set, what the branches of a choice begin with in common
is taken out of it, and a repetition of something without characters is at most
one.  How simple an expression is cannot be seen from what it matches, but it
decides how much room the expression takes.
-/

namespace LineShell.Pattern

open Unicode

/-- A place in a text.  `ascii` restricts words to ASCII; `crlf` has lines end
at carriage returns too. -/
inductive Assertion where
  | textStart
  | textEnd
  | lineStart (crlf : Bool)
  | lineEnd (crlf : Bool)
  | word (ascii : Bool)
  | notWord (ascii : Bool)
  | wordStart (ascii : Bool)
  | wordEnd (ascii : Bool)
  | wordStartHalf (ascii : Bool)
  | wordEndHalf (ascii : Bool)
  deriving DecidableEq, Repr

/-- What a pattern matches. -/
inductive Expr where
  /-- Matches without a character. -/
  | nothing
  /-- Matches these characters. -/
  | text (cs : List Char)
  /-- Matches one character of a set.  `bytes` marks a set of single bytes. -/
  | set (bytes : Bool) (s : CharSet)
  /-- Matches at certain places, without a character. -/
  | look (a : Assertion)
  /-- Matches `least` times or more, but not more than `most` times.  `greedy`
  repetitions prefer to match more often. -/
  | repetition (least : Nat) (most : Option Nat) (greedy : Bool) (e : Expr)
  /-- Matches what its inside matches and takes note of it. -/
  | capture (e : Expr)
  | concat (es : List Expr)
  | choice (es : List Expr)

namespace Expr

/-! ## Equal expressions -/

mutual

/-- Whether two expressions are the same.  No two captures are, since each is
taken note of by itself. -/
def same : Expr → Expr → Bool
  | .nothing, .nothing => true
  | .text a, .text b => a == b
  | .set x s, .set y t => x == y && s == t
  | .look a, .look b => a == b
  | .repetition l m g a, .repetition l' m' g' b =>
    l == l' && m == m' && g == g' && same a b
  | .concat as, .concat bs => sameAll as bs
  | .choice as, .choice bs => sameAll as bs
  | _, _ => false

def sameAll : List Expr → List Expr → Bool
  | [], [] => true
  | a :: as, b :: bs => same a b && sameAll as bs
  | _, _ => false

end

/-! ## Lengths -/

/-- The bytes that a character takes, by its number. -/
def width (n : Nat) : Nat :=
  if n < 0x80 then 1 else if n < 0x800 then 2 else if n < 0x10000 then 3 else 4

/-- The bytes that a text takes. -/
def textLength (cs : List Char) : Nat :=
  cs.foldl (fun n c => n + width c.toNat) 0

/-- The smaller of two lengths. -/
def smaller (a b : Option Nat) : Option Nat :=
  match a, b with
  | some a, some b => some (min a b)
  | _, _ => none

/-- The larger of two lengths. -/
def larger (a b : Option Nat) : Option Nat :=
  match a, b with
  | some a, some b => some (max a b)
  | _, _ => none

/-- The sum of two lengths. -/
def plus (a b : Option Nat) : Option Nat :=
  match a, b with
  | some a, some b => some (a + b)
  | _, _ => none

mutual

/-- The fewest bytes that an expression matches; `none` if it matches nothing
at all, or if one branch of a choice does. -/
def minLength : Expr → Option Nat
  | .nothing => some 0
  | .text cs => some (textLength cs)
  | .set _ s => s.head?.map fun r => width r.1
  | .look _ => some 0
  | .repetition least _ _ e => (minLength e).map (· * least)
  | .capture e => minLength e
  | .concat es => minLengthAll es
  | .choice [] => none
  | .choice (e :: es) => minLengthAny (minLength e) es

def minLengthAll : List Expr → Option Nat
  | [] => some 0
  | e :: es => plus (minLength e) (minLengthAll es)

def minLengthAny (found : Option Nat) : List Expr → Option Nat
  | [] => found
  | e :: es => minLengthAny (smaller found (minLength e)) es

end

mutual

/-- The most bytes that an expression matches; `none` if there is no bound. -/
def maxLength : Expr → Option Nat
  | .nothing => some 0
  | .text cs => some (textLength cs)
  | .set _ s => s.getLast?.map fun r => width r.2
  | .look _ => some 0
  | .repetition _ most _ e =>
    match most, maxLength e with
    | some n, some k => some (k * n)
    | _, _ => none
  | .capture e => maxLength e
  | .concat es => maxLengthAll es
  | .choice [] => none
  | .choice (e :: es) => maxLengthAny (maxLength e) es

def maxLengthAll : List Expr → Option Nat
  | [] => some 0
  | e :: es => plus (maxLength e) (maxLengthAll es)

def maxLengthAny (found : Option Nat) : List Expr → Option Nat
  | [] => found
  | e :: es => maxLengthAny (larger found (maxLength e)) es

end

mutual

/-- Whether every match of an expression is seen to begin at the start of the
text. -/
def startsText : Expr → Bool
  | .look a => a = .textStart
  | .repetition least _ _ e => least > 0 && startsText e
  | .capture e => startsText e
  | .concat es => anyStartsText es
  | .choice es => !es.isEmpty && allStartText es
  | _ => false

/-- The same for expressions one after the other: one that comes before any
character has to be at the start. -/
def anyStartsText : List Expr → Bool
  | [] => false
  | e :: es => startsText e || (maxLength e == some 0 && anyStartsText es)

def allStartText : List Expr → Bool
  | [] => true
  | e :: es => startsText e && allStartText es

end

mutual

/-- Whether every match of an expression is seen to stop at the end of the
text. -/
def endsText : Expr → Bool
  | .look a => a = .textEnd
  | .repetition least _ _ e => least > 0 && endsText e
  | .capture e => endsText e
  | .concat es => anyEndsText es
  | .choice es => !es.isEmpty && allEndText es
  | _ => false

/-- The same for expressions one after the other: one that comes after all
characters has to be at the end. -/
def anyEndsText : List Expr → Bool
  | [] => false
  | e :: es => anyEndsText es || (maxLengthAll es == some 0 && endsText e)

def allEndText : List Expr → Bool
  | [] => true
  | e :: es => endsText e && allEndText es

end

/-! ## Building -/

/-- The surrogates, which are code points but no characters. -/
def surrogates : CharSet := [(0xD800, 0xDFFF)]

/-- An expression that matches nothing at all. -/
def fail : Expr := .set true []

/-- A text, or nothing if it is empty. -/
def ofText (cs : List Char) : Expr := if cs.isEmpty then .nothing else .text cs

/-- One character of a set.  A set of one character is a text. -/
def ofSet (bytes : Bool) (s : CharSet) : Expr :=
  match s.difference surrogates with
  | [] => fail
  | [(lo, hi)] => if lo = hi then .text [Char.ofNat lo] else .set bytes [(lo, hi)]
  | s => .set bytes s

/-- A repetition.  What matches no character need not match twice. -/
def times (least : Nat) (most : Option Nat) (greedy : Bool) (e : Expr) : Expr :=
  let empty := maxLength e == some 0
  let least := if empty then min least 1 else least
  let most := if empty then some ((most.map (min · 1)).getD 1) else most
  if most = some 0 then .nothing
  else if least = 1 && most = some 1 then e
  else .repetition least most greedy e

/-- The parts of an expression that are matched one after the other. -/
def parts : Expr → List Expr
  | .nothing => []
  | .concat es => es
  | e => [e]

/-- The texts among expressions are joined to those that follow.  `open_` holds
the text read last, backwards. -/
def joinTexts (done : Array Expr) (open_ : List Char) : List Expr → Array Expr
  | [] => if open_.isEmpty then done else done.push (.text open_.reverse)
  | .text cs :: es => joinTexts done (cs.reverse ++ open_) es
  | e :: es =>
    let done := if open_.isEmpty then done else done.push (.text open_.reverse)
    joinTexts (done.push e) [] es

/-- Expressions one after the other. -/
def inOrder (es : List Expr) : Expr :=
  match (joinTexts #[] [] (es.flatMap parts)).toList with
  | [] => .nothing
  | [e] => e
  | es => .concat es

/-- The branches of an expression. -/
def branches : Expr → List Expr
  | .choice es => es
  | e => [e]

/-- The characters of branches that are single characters. -/
def singles? (es : List Expr) : Option (List Char) :=
  es.mapM fun e =>
    match e with
    | .text [c] => some c
    | _ => none

/-- The sets of branches that are sets. -/
def sets? (es : List Expr) : Option (List CharSet) :=
  es.mapM fun e =>
    match e with
    | .set _ s => some s
    | _ => none

/-- The parts of branches that have several. -/
def concats? (es : List Expr) : Option (List (List Expr)) :=
  es.mapM fun e =>
    match e with
    | .concat es => some es
    | _ => none

/-- How many parts two branches begin with in common. -/
def common : List Expr → List Expr → Nat
  | a :: as, b :: bs => if same a b then common as bs + 1 else 0
  | _, _ => 0

/-- What some branches begin with in common, and how each goes on.  `none` if
they do not begin with a common part. -/
def commonStart? (es : List Expr) : Option (List Expr × List (List Expr)) :=
  match concats? es with
  | none => none
  | some [] => none
  | some (first :: rest) =>
    let n := rest.foldl (fun n b => min n (common first b)) first.length
    if n = 0 then none
    else some (first.take n, (first :: rest).map fun b => b.drop n)

/-- A choice among expressions.  `fuel` bounds how often a common start is
taken out. -/
def oneOfWithin : Nat → List Expr → Expr
  | fuel, es =>
    match es.flatMap branches with
    | [] => fail
    | [e] => e
    | es =>
      match singles? es with
      | some cs => ofSet false (CharSet.ofRanges (cs.map fun c => (c.toNat, c.toNat)))
      | none =>
        match sets? es with
        | some ss => ofSet false (CharSet.ofRanges ss.flatten)
        | none =>
          match fuel, commonStart? es with
          | fuel + 1, some (start, rests) =>
            inOrder (start ++ [oneOfWithin fuel (rests.map inOrder)])
          | _, _ => .choice es

mutual

/-- The number of parts of an expression, at all depths. -/
def count : Expr → Nat
  | .repetition _ _ _ e => count e + 1
  | .capture e => count e + 1
  | .concat es => countAll es + 1
  | .choice es => countAll es + 1
  | _ => 1

def countAll : List Expr → Nat
  | [] => 0
  | e :: es => count e + countAll es

end

/-- A choice among expressions. -/
def oneOf (es : List Expr) : Expr := oneOfWithin (countAll es) es

end Expr

end LineShell.Pattern
