/-!
# Sets of characters

A set of characters is a list of ranges of code points, both ends included.
Sets built here are in order and their ranges keep a distance, so each set has
one form.  Standard tables are written as text, with blanks and line breaks
between ranges: for each range the distance from the end of the range before
it, then, after a point, how many more characters it has, in hexadecimal.
-/

namespace LineShell.Unicode

/-- Ranges of code points. -/
abbrev CharSet := List (Nat × Nat)

namespace CharSet

/-- The last code point. -/
def last : Nat := 0x10FFFF

/-- Whether a code point is in a set. -/
def contains (s : CharSet) (n : Nat) : Bool :=
  s.any fun (lo, hi) => lo ≤ n && n ≤ hi

/-- Joins ranges that touch; they come in ascending order. -/
def merge : List (Nat × Nat) → Array (Nat × Nat) → CharSet
  | [], acc => acc.toList
  | (lo, hi) :: rest, acc =>
    match acc.back? with
    | some (a, b) =>
      if lo ≤ b + 1 then merge rest (acc.pop.push (a, max b hi))
      else merge rest (acc.push (lo, hi))
    | none => merge rest (acc.push (lo, hi))

/-- The set of the characters in some ranges, in any order. -/
def ofRanges (rs : List (Nat × Nat)) : CharSet :=
  merge ((rs.filter fun (lo, hi) => lo ≤ hi).mergeSort fun a b => a.1 ≤ b.1) #[]

/-- The set of one character. -/
def single (c : Char) : CharSet := [(c.toNat, c.toNat)]

/-- All characters. -/
def all : CharSet := [(0, last)]

def union (s t : CharSet) : CharSet := ofRanges (s ++ t)

/-- The gaps from `next` on. -/
def gaps (next : Nat) : CharSet → CharSet
  | [] => if next ≤ last then [(next, last)] else []
  | (lo, hi) :: rest =>
    if next < lo then (next, lo - 1) :: gaps (hi + 1) rest
    else gaps (hi + 1) rest

def complement (s : CharSet) : CharSet := gaps 0 s

def intersection (s t : CharSet) : CharSet :=
  complement (union (complement s) (complement t))

def difference (s t : CharSet) : CharSet := intersection s (complement t)

def symmetricDifference (s t : CharSet) : CharSet :=
  union (difference s t) (difference t s)

/-! ## Tables -/

def hexValue (c : Char) : Nat :=
  if c.isDigit then c.toNat - 48 else c.toNat - 87

def hexNumber (cs : List Char) : Nat :=
  cs.foldl (fun n c => n * 16 + hexValue c) 0

/-- Reads a table of ranges. -/
def decode (text : String) : CharSet :=
  let read := fun (state : Nat × Array (Nat × Nat)) (entry : String) =>
    let cs := entry.toList
    let lo := state.1 + hexNumber (cs.takeWhile (· != '.'))
    let hi := lo + hexNumber ((cs.dropWhile (· != '.')).drop 1)
    (hi + 1, state.2.push (lo, hi))
  let entries := (text.splitOn "\n").flatMap fun line => line.splitOn " "
  ((entries.filter fun e => !e.isEmpty).foldl read (0, #[])).2.toList

end CharSet

end LineShell.Unicode
