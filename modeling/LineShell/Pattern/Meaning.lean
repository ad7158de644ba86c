import LineShell.Pattern.Expr
import LineShell.Pattern.Tree
import LineShell.Unicode.Age
import LineShell.Unicode.Break
import LineShell.Unicode.Category
import LineShell.Unicode.Folding
import LineShell.Unicode.Property
import LineShell.Unicode.Script

/-!
# What patterns mean

The meaning of a pattern is an expression.  Modes are resolved here: each one
holds from where it is switched on to the end of its group.  A pattern that
would match single bytes of a longer character is refused.
-/

namespace LineShell.Pattern

open Unicode

/-! ## Modes -/

/-- The modes in force. -/
structure Modes where
  ignoreCase : Bool
  multiLine : Bool
  dotAll : Bool
  swapGreed : Bool
  unicode : Bool
  crlf : Bool
  deriving DecidableEq, Repr

namespace Modes

/-- The modes at the start of a pattern. -/
def start (ignoreCase : Bool) : Modes :=
  ⟨ignoreCase, false, false, false, true, false⟩

/-- Switches a mode.  How a pattern is laid out has no meaning left. -/
def switch (m : Modes) : Mode × Bool → Modes
  | (.ignoreCase, b) => { m with ignoreCase := b }
  | (.multiLine, b) => { m with multiLine := b }
  | (.dotAll, b) => { m with dotAll := b }
  | (.unicode, b) => { m with unicode := b }
  | (.crlf, b) => { m with crlf := b }
  | (.swapGreed, b) => { m with swapGreed := b }
  | (.verbose, _) => m

/-- Switches modes, from left to right. -/
def change (m : Modes) (c : ModeChange) : Modes := c.foldl switch m

end Modes

/-! ## Sets of characters -/

/-- The characters of words, in all scripts. -/
def wordSet : CharSet :=
  CharSet.union
    (CharSet.union ((property? "alphabetic").getD []) ((property? "joincontrol").getD []))
    (unionOfCategories ["mn", "mc", "me", "nd", "pc"])

/-- The decimal digits of all scripts. -/
def digitSet : CharSet := (category? "nd").getD []

/-- Blanks. -/
def spaceSet : CharSet := (property? "whitespace").getD []

/-- The ASCII characters of a class. -/
def NamedClass.set : NamedClass → CharSet
  | .alnum => [(0x30, 0x39), (0x41, 0x5A), (0x61, 0x7A)]
  | .alpha => [(0x41, 0x5A), (0x61, 0x7A)]
  | .ascii => [(0x00, 0x7F)]
  | .blank => [(0x09, 0x09), (0x20, 0x20)]
  | .cntrl => [(0x00, 0x1F), (0x7F, 0x7F)]
  | .digit => [(0x30, 0x39)]
  | .graph => [(0x21, 0x7E)]
  | .lower => [(0x61, 0x7A)]
  | .print => [(0x20, 0x7E)]
  | .punct => [(0x21, 0x2F), (0x3A, 0x40), (0x5B, 0x60), (0x7B, 0x7E)]
  | .space => [(0x09, 0x0D), (0x20, 0x20)]
  | .upper => [(0x41, 0x5A)]
  | .word => [(0x30, 0x39), (0x41, 0x5A), (0x5F, 0x5F), (0x61, 0x7A)]
  | .xdigit => [(0x30, 0x39), (0x41, 0x46), (0x61, 0x66)]

/-- The characters of a class that one letter stands for. -/
def LetterClass.set (unicode : Bool) : LetterClass → CharSet
  | .digit => if unicode then digitSet else NamedClass.digit.set
  | .space => if unicode then spaceSet else NamedClass.space.set
  | .word => if unicode then wordSet else NamedClass.word.set

/-- A set of ASCII characters with their case variants in ASCII. -/
def closeUnderAsciiCase (s : CharSet) : CharSet :=
  let part (lo hi : Nat) := CharSet.intersection s [(lo, hi)]
  CharSet.ofRanges (s ++ (part 0x41 0x5A).map (fun (a, b) => (a + 32, b + 32)) ++
    (part 0x61 0x7A).map (fun (a, b) => (a - 32, b - 32)))

/-- A set with case variants, if the case is to be ignored. -/
def Modes.fold (m : Modes) (s : CharSet) : CharSet :=
  if !m.ignoreCase then s
  else if m.unicode then closeUnderCase s
  else closeUnderAsciiCase s

/-- A set or its complement. -/
def negateIf (negated : Bool) (s : CharSet) : CharSet :=
  if negated then s.complement else s

/-- Whether a set holds ASCII characters only. -/
def isAsciiSet (s : CharSet) : Bool := List.all s fun (_, hi) => hi < 0x80

/-- A name without case, separators and the word "is" in front. -/
def looseName (name : String) : String :=
  let cs := name.toList
  let hasIs := match cs with
    | a :: b :: _ => (a = 'i' || a = 'I') && (b = 's' || b = 'S')
    | _ => false
  let kept := ((if hasIs then cs.drop 2 else cs).filter fun c =>
    c != ' ' && c != '_' && c != '-' && c.toNat < 0x80).map Char.toLower
  if hasIs && kept == ['c'] then "isc" else String.ofList kept

/-- The characters of a general category or of a class like one. -/
def generalCategory? (name : String) : Option CharSet :=
  if name == "any" then some CharSet.all
  else if name == "assigned" then some assigned
  else if name == "ascii" then some NamedClass.ascii.set
  else category? name

/-- The characters that a name alone stands for.  Three short names of
categories are short names of properties too; the category is meant. -/
def namedSet (name : String) : Except FaultKind CharSet :=
  let name := looseName name
  let byProperty :=
    if name == "cf" || name == "sc" || name == "lc" then none else property? name
  match byProperty.or ((generalCategory? name).or (script? name)) with
  | some s => .ok s
  | none =>
    .error (if emptyValues.contains name then .propertyValueNotFound else .propertyNotFound)

/-- The characters with a value of a property, where the property has values
that can be looked up. -/
def valueOfProperty? (name value : String) : Option (Option CharSet) :=
  match name with
  | "gc" | "generalcategory" => some (generalCategory? value)
  | "sc" | "script" => some (script? value)
  | "scx" | "scriptextensions" => some (scriptExtensions? value)
  | "age" => some (age? value)
  | "gcb" | "graphemeclusterbreak" => some (clusterBreak? value)
  | "wb" | "wordbreak" => some (wordBreak? value)
  | "sb" | "sentencebreak" => some (sentenceBreak? value)
  | _ => none

/-- The characters for which a property has a value.  Of most properties no
value is known, but the property itself is. -/
def valuedSet (name value : String) : Except FaultKind CharSet :=
  let name := looseName name
  match valueOfProperty? name (looseName value) with
  | some (some s) => .ok s
  | some none => .error .propertyValueNotFound
  | none =>
    if (property? name).isSome || unlistedProperties.contains name then
      .error .propertyValueNotFound
    else .error .propertyNotFound

/-- The characters that a query asks for, and whether it asks for the others. -/
def PropertyQuery.set : PropertyQuery → Except FaultKind (CharSet × Bool)
  | .letter c => (namedSet (String.singleton c)).map fun s => (s, false)
  | .named name => (namedSet name).map fun s => (s, false)
  | .valued negated name value =>
    (valuedSet name value).map fun s => (s, negated)

/-! ## From trees to meanings -/

/-- A refusal at a stretch of the pattern. -/
def refusal {α : Type} (span : Span) (kind : FaultKind) : Except Fault α :=
  .error ⟨kind, span⟩

/-- The characters with a property. -/
def propertySet (m : Modes) (span : Span) (q : PropertyQuery) (negated : Bool) :
    Except Fault CharSet :=
  if !m.unicode then refusal span .unicodeNotAllowed
  else
    match q.set with
    | .error kind => refusal span kind
    | .ok (s, flip) => .ok (negateIf (negated != flip) (m.fold s))

/-- Refuses a class that would match single bytes of longer characters. -/
def checkSet (m : Modes) (span : Span) (s : CharSet) : Except Fault CharSet :=
  if !m.unicode && !isAsciiSet s then refusal span .invalidUtf8 else .ok s

/-- The characters of a class that one letter stands for. -/
def letterSet (m : Modes) (span : Span) (k : LetterClass) (negated : Bool) :
    Except Fault CharSet :=
  checkSet m span (negateIf negated (k.set m.unicode))

/-- A character of a class.  Where bytes are matched it has to be one byte, and
that byte a character. -/
def charSet (m : Modes) (span : Span) (c : Char) (byte : Bool) :
    Except Fault CharSet :=
  if m.unicode || c.toNat < 0x80 then .ok (CharSet.single c)
  else refusal span (if byte then .invalidUtf8 else .unicodeNotAllowed)

mutual

/-- The characters of a class.  The case is ignored before a class is negated
or combined with another. -/
def Class.set (m : Modes) : Class → Except Fault CharSet
  | .empty _ => .ok []
  | .literal span c byte => charSet m span c byte
  | .range _ lo hi => do
    let _ ← charSet m lo.span lo.char lo.byte
    let _ ← charSet m hi.span hi.char hi.byte
    return [(lo.char.toNat, hi.char.toNat)]
  | .named span k negated => checkSet m span (negateIf negated (m.fold k.set))
  | .letter span k negated => letterSet m span k negated
  | .property span q negated => propertySet m span q negated
  | .bracketed span negated inner => do
    checkSet m span (negateIf negated (m.fold (← inner.set m)))
  | .union _ items => Class.setOfAll m items
  | .combined _ op left right => do
    let a := m.fold (← left.set m)
    let b := m.fold (← right.set m)
    return match op with
      | .intersection => CharSet.intersection a b
      | .difference => CharSet.difference a b
      | .symmetricDifference => CharSet.symmetricDifference a b

/-- The characters of any of some classes. -/
def Class.setOfAll (m : Modes) : List Class → Except Fault CharSet
  | [] => .ok []
  | c :: rest => do
    let a ← c.set m
    let b ← Class.setOfAll m rest
    return CharSet.union a b

end

/-- The meaning of a place. -/
def Look.assertion (m : Modes) : Look → Assertion
  | .lineStart => if m.multiLine then .lineStart m.crlf else .textStart
  | .lineEnd => if m.multiLine then .lineEnd m.crlf else .textEnd
  | .textStart => .textStart
  | .textEnd => .textEnd
  | .word => .word !m.unicode
  | .notWord => .notWord !m.unicode
  | .wordStart => .wordStart !m.unicode
  | .wordEnd => .wordEnd !m.unicode
  | .wordStartHalf => .wordStartHalf !m.unicode
  | .wordEndHalf => .wordEndHalf !m.unicode

/-- The characters that a dot matches. -/
def dotSet (m : Modes) : CharSet :=
  if m.dotAll then CharSet.all
  else if m.crlf then CharSet.complement [(0x0A, 0x0A), (0x0D, 0x0D)]
  else CharSet.complement [(0x0A, 0x0A)]

/-- A character by itself. -/
def charExpr (m : Modes) (c : Char) : Expr :=
  Expr.ofSet (m.ignoreCase && !m.unicode) (m.fold (CharSet.single c))

mutual

/-- The meaning of a pattern, and the modes in force after it. -/
def Tree.meaning (m : Modes) : Tree → Except Fault (Expr × Modes)
  | .empty _ => .ok (.nothing, m)
  | .modes _ change => .ok (.nothing, m.change change)
  | .literal span c byte =>
    if !m.unicode && byte && c.toNat ≥ 0x80 then refusal span .invalidUtf8
    else .ok (charExpr m c, m)
  | .dot span =>
    if m.unicode then .ok (Expr.ofSet false (dotSet m), m)
    else refusal span .invalidUtf8
  | .look _ l => .ok (.look (l.assertion m), m)
  | .letter span k negated => do
    return (Expr.ofSet (!m.unicode) (← letterSet m span k negated), m)
  | .property span q negated => do
    return (Expr.ofSet false (← propertySet m span q negated), m)
  | .bracketed span negated inner => do
    let s ← checkSet m span (negateIf negated (m.fold (← inner.set m)))
    return (Expr.ofSet (!m.unicode) s, m)
  | .repetition _ least most greedy inner => do
    let (e, m) ← inner.meaning m
    return (Expr.times least most (greedy != m.swapGreed) e, m)
  | .group _ capture change inner => do
    let (e, _) ← inner.meaning (m.change change)
    return (if capture then .capture e else e, m)
  | .alternation _ branches => do
    let (es, m) ← Tree.meanings m branches
    return (Expr.oneOf es, m)
  | .concat _ parts => do
    let (es, m) ← Tree.meanings m parts
    return (Expr.inOrder es, m)

/-- The meanings of patterns one after the other. -/
def Tree.meanings (m : Modes) : List Tree → Except Fault (List Expr × Modes)
  | [] => .ok ([], m)
  | t :: rest => do
    let (e, m) ← t.meaning m
    let (es, m) ← Tree.meanings m rest
    return (e :: es, m)

end

end LineShell.Pattern
