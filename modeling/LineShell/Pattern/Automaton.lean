import LineShell.Pattern.Meaning
import LineShell.Pattern.Parser
import LineShell.Pattern.Room

/-!
# Patterns as automata

A pattern is searched for by a list of instructions that are followed in all
ways at once.  Between two characters the search keeps the instructions that
wait for a character; each is kept once, so the work for a character is
bounded by the number of instructions.

Repetitions are written out, so a small pattern can need many instructions.
-/

namespace LineShell

namespace Pattern

open Unicode

/-- An instruction.  Where nothing else is said the next one follows. -/
inductive Instruction where
  /-- Waits for a character. -/
  | char (c : Char)
  /-- Waits for a character in one of the ranges, which are in order. -/
  | set (ranges : Array (Nat × Nat))
  | look (a : Assertion)
  | jump (target : Nat)
  /-- Goes on at the next instruction and at another one. -/
  | fork (target : Nat)
  | accept

/-! ## Size -/

mutual

/-- The number of instructions of an expression. -/
def Expr.size : Expr → Nat
  | .nothing => 0
  | .text cs => cs.length
  | .set _ _ => 1
  | .look _ => 1
  | .repetition 0 none _ e => e.size + 2
  | .repetition (least + 1) none _ e => (least + 1) * e.size + 1
  | .repetition least (some most) _ e =>
    least * e.size + (most - least) * (e.size + 1)
  | .capture e => e.size
  | .concat es => Expr.sizeInOrder es
  | .choice es => Expr.sizeOfChoice es

def Expr.sizeInOrder : List Expr → Nat
  | [] => 0
  | e :: es => e.size + Expr.sizeInOrder es

def Expr.sizeOfChoice : List Expr → Nat
  | [] => 1
  | [e] => e.size
  | e :: es => e.size + Expr.sizeOfChoice es + 2

end

/-! ## Instructions -/

/-- Adds the instructions of an expression, once per count. -/
def repeatedly (emit : Array Instruction → Array Instruction) :
    Nat → Array Instruction → Array Instruction
  | 0, code => code
  | n + 1, code => repeatedly emit n (emit code)

/-- Adds the instructions of an expression that may be left out, once per
count.  Each of them can be skipped with all that follow. -/
def optionally (emit : Array Instruction → Array Instruction) (stop : Nat) :
    Nat → Array Instruction → Array Instruction
  | 0, code => code
  | n + 1, code => optionally emit stop n (emit (code.push (.fork stop)))

mutual

/-- Adds the instructions of an expression. -/
def Expr.emit : Expr → Array Instruction → Array Instruction
  | .nothing, code => code
  | .text cs, code => cs.foldl (fun code c => code.push (.char c)) code
  | .set _ s, code => code.push (.set s.toArray)
  | .look a, code => code.push (.look a)
  | .repetition 0 none _ e, code =>
    let head := code.size
    (e.emit (code.push (.fork (head + e.size + 2)))).push (.jump head)
  | .repetition (least + 1) none _ e, code =>
    let code := repeatedly e.emit least code
    let head := code.size
    (e.emit code).push (.fork head)
  | .repetition least (some most) _ e, code =>
    let code := repeatedly e.emit least code
    optionally e.emit (code.size + (most - least) * (e.size + 1)) (most - least) code
  | .capture e, code => e.emit code
  | .concat es, code => Expr.emitInOrder es code
  | .choice es, code => Expr.emitChoice es code

def Expr.emitInOrder : List Expr → Array Instruction → Array Instruction
  | [], code => code
  | e :: es, code => Expr.emitInOrder es (e.emit code)

def Expr.emitChoice : List Expr → Array Instruction → Array Instruction
  | [], code => code.push (.set #[])
  | [e], code => e.emit code
  | e :: es, code =>
    let other := code.size + e.size + 2
    let code := e.emit (code.push (.fork other))
    Expr.emitChoice es (code.push (.jump (other + Expr.sizeOfChoice es)))

end

/-- A pattern that is ready to be searched for. -/
structure Automaton where
  code : Array Instruction

/-- The automaton of an expression. -/
def Expr.automaton (e : Expr) : Automaton := ⟨(e.emit #[]).push .accept⟩

/-! ## Places -/

/-- Whether a character belongs to a word. -/
def isWordChar (ascii : Bool) (c : Char) : Bool :=
  if c.toNat < 0x80 then c.isAlphanum || c = '_'
  else !ascii && wordSet.contains c.toNat

/-- Whether a text has a place between two characters, or at an end. -/
def Assertion.holds (before after : Option Char) : Assertion → Bool
  | .textStart => before.isNone
  | .textEnd => after.isNone
  | .lineStart false => before.isNone || before = some '\n'
  | .lineEnd false => after.isNone || after = some '\n'
  | .lineStart true =>
    before.isNone || before = some '\n' ||
      (before = some '\r' && after ≠ some '\n')
  | .lineEnd true =>
    after.isNone || after = some '\r' ||
      (after = some '\n' && before ≠ some '\r')
  | .word ascii => before.any (isWordChar ascii) != after.any (isWordChar ascii)
  | .notWord ascii => before.any (isWordChar ascii) == after.any (isWordChar ascii)
  | .wordStart ascii =>
    !before.any (isWordChar ascii) && after.any (isWordChar ascii)
  | .wordEnd ascii =>
    before.any (isWordChar ascii) && !after.any (isWordChar ascii)
  | .wordStartHalf ascii => !before.any (isWordChar ascii)
  | .wordEndHalf ascii => !after.any (isWordChar ascii)

/-! ## Search -/

/-- Whether a number is in one of the ranges from `lo` up to `hi`.  The ranges
are in order. -/
def inRanges (ranges : Array (Nat × Nat)) (n : Nat) : Nat → Nat → Nat → Bool
  | 0, _, _ => false
  | fuel + 1, lo, hi =>
    if lo < hi then
      let mid := (lo + hi) / 2
      match ranges[mid]? with
      | none => false
      | some (a, b) =>
        if n < a then inRanges ranges n fuel lo mid
        else if b < n then inRanges ranges n fuel (mid + 1) hi
        else true
    else false

/-- Whether an instruction that waits gets a character. -/
def Instruction.accepts (c : Char) : Instruction → Bool
  | .char d => c = d
  | .set ranges => inRanges ranges c.toNat ranges.size 0 ranges.size
  | _ => false

/-- What can be reached between two characters.  A search reaches instructions
in rounds, one for each place. -/
structure Front where
  /-- For each instruction the last round in which it has been reached. -/
  reached : Array Nat
  /-- Those of this round that wait for a character. -/
  waiting : Array Nat
  accepted : Bool

/-- Follows instructions until all that are left wait for a character.  Each
instruction is followed once; `fuel` is more than what can be followed. -/
def Automaton.follow (m : Automaton) (round : Nat) (before after : Option Char) :
    Nat → List Nat → Front → Front
  | 0, _, f => f
  | _ + 1, [], f => f
  | fuel + 1, i :: rest, ⟨reached, waiting, accepted⟩ =>
    if reached.getD i round = round then
      m.follow round before after fuel rest ⟨reached, waiting, accepted⟩
    else
      let reached := reached.set! i round
      match m.code[i]? with
      | some (.char _) | some (.set _) =>
        m.follow round before after fuel rest ⟨reached, waiting.push i, accepted⟩
      | some (.look a) =>
        let next := if a.holds before after then (i + 1) :: rest else rest
        m.follow round before after fuel next ⟨reached, waiting, accepted⟩
      | some (.jump t) =>
        m.follow round before after fuel (t :: rest) ⟨reached, waiting, accepted⟩
      | some (.fork t) =>
        m.follow round before after fuel ((i + 1) :: t :: rest)
          ⟨reached, waiting, accepted⟩
      | some .accept => m.follow round before after fuel rest ⟨reached, waiting, true⟩
      | none => m.follow round before after fuel rest ⟨reached, waiting, accepted⟩

/-- The front that some instructions lead to. -/
def Automaton.front (m : Automaton) (round : Nat) (reached : Array Nat)
    (before after : Option Char) (is : List Nat) : Front :=
  m.follow round before after (2 * m.code.size + is.length + 1) is ⟨reached, #[], false⟩

/-- The instructions after those that wait for a character and get it. -/
def Automaton.advance (m : Automaton) (c : Char) (waiting : Array Nat) :
    List Nat :=
  waiting.foldr (fun (i : Nat) (next : List Nat) =>
    if m.code[i]?.any (Instruction.accepts c) then (i + 1) :: next else next) []

/-- Searches the rest of a text.  A match may begin anywhere. -/
def Automaton.searchFrom (m : Automaton) (round : Nat) (reached : Array Nat)
    (before : Option Char) (is : List Nat) : List Char → Bool
  | [] => (m.front round reached before none (0 :: is)).accepted
  | c :: rest =>
    match m.front round reached before (some c) (0 :: is) with
    | ⟨reached, waiting, accepted⟩ =>
      accepted || m.searchFrom (round + 1) reached (some c) (m.advance c waiting) rest

/-- Whether a text has a match anywhere. -/
def Automaton.search (m : Automaton) (text : List Char) : Bool :=
  m.searchFrom 1 (Array.replicate m.code.size 0) none [] text

end Pattern

/-!
## Patterns

A pattern is given as text and says of every line whether it matches.
-/

/-- What lines are searched for: any question about the characters of a line. -/
abbrev Matcher := List Char → Bool

namespace Pattern

/-- Why a text is no pattern, in words. -/
def Fault.explain (f : Fault) (text : String) : String := f.report text

/-- The report of a pattern that needs too much room. -/
def tooLarge : String :=
  "Compiled regex exceeds size limit of " ++ toString Room.limit ++ " bytes."

/-- The matcher of a pattern. -/
def compile (text : String) (ignoreCase : Bool) : Except String Matcher :=
  match Tree.parse text with
  | .error f => .error (f.explain text)
  | .ok t =>
    match t.meaning (.start ignoreCase) with
    | .error f => .error (f.explain text)
    | .ok (e, _) =>
      if Room.fits e then
        let m := e.automaton
        .ok m.search
      else .error tooLarge

end Pattern

end LineShell
