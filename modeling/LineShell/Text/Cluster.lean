import LineShell.Unicode.Category
import LineShell.Unicode.Property

/-!
# Clusters of characters

Several characters can be seen and edited as one: a letter with its accents,
the parts of a Hangul syllable, consonants that are written as one, a flag, a
picture joined to another.  Whether a character continues the cluster before
it depends on what kinds of characters the cluster ends with.
-/

namespace LineShell.Cluster

open Unicode

/-- The kinds of characters that matter for clusters. -/
inductive Part where
  | control
  /-- Continues any cluster. -/
  | extension
  /-- Continues any cluster and joins a consonant to the next one. -/
  | linker
  /-- Continues any cluster and keeps consonants apart. -/
  | separator
  | joiner
  /-- Continues any cluster and takes room of its own. -/
  | spacing
  /-- Is continued by any other character. -/
  | opener
  /-- One half of a flag. -/
  | flag
  | leading
  | vowel
  | trailing
  /-- A syllable that a vowel can continue. -/
  | openSyllable
  /-- A syllable that only a trailing part can continue. -/
  | closedSyllable
  /-- A consonant that can be joined to the one before it. -/
  | consonant
  | picture
  | other
  deriving DecidableEq, Repr

/-- The characters of spacing marks that do not continue a cluster. -/
def freeSpacing : CharSet := [
  (0x102B, 0x102C), (0x1038, 0x1038), (0x1062, 0x1064), (0x1067, 0x106D),
  (0x1083, 0x1083), (0x1087, 0x108C), (0x108F, 0x108F), (0x109A, 0x109C),
  (0x1A61, 0x1A61), (0x1A63, 0x1A64), (0xAA7B, 0xAA7B), (0xAA7D, 0xAA7D),
  (0x11720, 0x11721)]

/-- The characters that open a cluster. -/
def openers : CharSet := [
  (0x0600, 0x0605), (0x06DD, 0x06DD), (0x070F, 0x070F), (0x0890, 0x0891),
  (0x08E2, 0x08E2), (0x0D4E, 0x0D4E), (0x110BD, 0x110BD), (0x110CD, 0x110CD),
  (0x111C2, 0x111C3), (0x113D1, 0x113D1), (0x1193F, 0x1193F),
  (0x11941, 0x11941), (0x11A84, 0x11A89), (0x11D46, 0x11D46),
  (0x11F02, 0x11F02)]

def extensions : CharSet :=
  CharSet.union (CharSet.union ((property? "graphemeextend").getD []) Latest.marks)
    [(0x1F3FB, 0x1F3FF)]

def controls : CharSet :=
  CharSet.union (unionOfCategories ["cc", "cf", "zl", "zp"]) Latest.ignorable

def spacings : CharSet := CharSet.union (unionOfCategories ["mc"]) Latest.spacingMarks

/-- Vowels that are written in syllables as those of Hangul are. -/
def syllableVowels : CharSet :=
  [(0x1160, 0x11A7), (0x16D63, 0x16D63), (0x16D67, 0x16D6A), (0xD7B0, 0xD7C6)]

/-- The kind of a syllable by its number.  Syllables come in rows of 28, and
the first of each row has no trailing part. -/
def syllable (n : Nat) : Part :=
  if (n - 0xAC00) % 28 = 0 then .openSyllable else .closedSyllable

/-- The kind of a character. -/
def part (c : Char) : Part :=
  let n := c.toNat
  if n < 0x20 then .control
  else if n < 0x7F then .other
  else if n = 0x200C then .separator
  else if n = 0x200D then .joiner
  else if openers.contains n then .opener
  else if Latest.conjunctLinkers.contains n then .linker
  else if extensions.contains n then .extension
  else if controls.contains n then .control
  else if 0x1F1E6 ≤ n && n ≤ 0x1F1FF then .flag
  else if (0x1100 ≤ n && n ≤ 0x115F) || (0xA960 ≤ n && n ≤ 0xA97C) then .leading
  else if syllableVowels.contains n then .vowel
  else if (0x11A8 ≤ n && n ≤ 0x11FF) || (0xD7CB ≤ n && n ≤ 0xD7FB) then .trailing
  else if 0xAC00 ≤ n && n ≤ 0xD7A3 then syllable n
  else if n = 0x0E33 || n = 0x0EB3 then .spacing
  else if spacings.contains n && !freeSpacing.contains n then .spacing
  else if Latest.conjunctConsonants.contains n then .consonant
  else if Latest.pictures.contains n then .picture
  else .other

/-- What is known of the end of a cluster. -/
structure Tail where
  last : Part
  /-- Whether it ends with a single half of a flag. -/
  halfFlag : Bool
  /-- Whether it ends with a picture and its extensions. -/
  pictured : Bool
  /-- Whether it ends with such a picture and a joiner. -/
  joined : Bool
  /-- Whether it ends with a consonant and its extensions. -/
  consonantal : Bool
  /-- Whether there is a linker among these extensions. -/
  linked : Bool

/-- The end of the cluster that a character begins. -/
def Tail.ofPart (p : Part) : Tail :=
  ⟨p, p = .flag, p = .picture, false, p = .consonant, false⟩

/-- Whether a character is an extension, of any kind. -/
def Part.extends (p : Part) : Bool := p = .extension || p = .linker || p = .separator

/-- The end of a cluster after one more character. -/
def Tail.extend (t : Tail) (p : Part) : Tail :=
  let keeps := t.consonantal && (p = .extension || p = .linker || p = .joiner)
  { last := p
    halfFlag := p = .flag && !t.halfFlag
    pictured := p = .picture || (t.pictured && p.extends)
    joined := t.pictured && p = .joiner
    consonantal := p = .consonant || keeps
    linked := keeps && (t.linked || p = .linker) }

/-- Whether a character continues a cluster. -/
def Tail.continues (t : Tail) (p : Part) : Bool :=
  match t.last, p with
  | .control, _ => false
  | _, .control => false
  | _, .extension => true
  | _, .linker => true
  | _, .separator => true
  | _, .joiner => true
  | _, .spacing => true
  | .opener, _ => true
  | .leading, .leading => true
  | .leading, .vowel => true
  | .leading, .openSyllable => true
  | .leading, .closedSyllable => true
  | .openSyllable, .vowel => true
  | .vowel, .vowel => true
  | .openSyllable, .trailing => true
  | .vowel, .trailing => true
  | .closedSyllable, .trailing => true
  | .trailing, .trailing => true
  | .joiner, .picture => t.joined
  | .flag, .flag => t.halfFlag
  | _, .consonant => t.linked
  | _, _ => false

/-- Divides text into clusters.  Of the current cluster, `current` holds the
characters, last one first, and `tail` its end. -/
def splitFrom (tail : Option Tail) (current : List Char)
    (found : Array (List Char)) : List Char → Array (List Char)
  | [] => if current.isEmpty then found else found.push current.reverse
  | c :: rest =>
    let p := part c
    match tail with
    | none => splitFrom (some (.ofPart p)) [c] found rest
    | some t =>
      if t.continues p then splitFrom (some (t.extend p)) (c :: current) found rest
      else splitFrom (some (.ofPart p)) [c] (found.push current.reverse) rest

/-- The clusters of a text. -/
def split (cs : List Char) : List (List Char) := (splitFrom none [] #[] cs).toList

end LineShell.Cluster
