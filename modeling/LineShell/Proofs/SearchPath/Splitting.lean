import LineShell.Program.Basic

/-!
# Search paths and their entries

What the machine finds in a search path (`split_eq_entries`), and how any row of directories
is written as one (`split_join`).
-/

namespace LineShell

/-!
## The entries of a search path

A backslash is active where no active backslash stands right before it, and it protects
the character behind it.  `glyphs` writes this down for every character of a path.  The
colons that are not protected cut a path into segments, and an entry is the text of a
segment without its active backslashes (`entries`).

From the first colon on an entry is always open.  `Progress` is what there is to know of
the machine then, and `feed_reader` says what it does with a text: it takes the glyphs of
the text one by one.

The colon that is put behind a path ends the last entry, as the other colons end those
before it, but only where it is not protected itself.  Behind a path that ends in an
active backslash it becomes a character of the last entry, which is never finished and is
missing from the result.  Main statement: `split_eq_entries`.
-/

namespace SearchPath

/-! ### Segments -/

/-- Whether a character protects the one behind it, being protected itself or not. -/
def protects (escaped : Bool) (c : Char) : Bool := c == '\\' && !escaped

/-- Whether what stands behind a text is protected, where `escaped` says so of the text. -/
def endsEscaping (escaped : Bool) (cs : List Char) : Bool := cs.foldl protects escaped

/-- The characters of a text, those escaped that an active backslash protects. -/
def glyphs (escaped : Bool) : List Char → List Glyph
  | [] => []
  | c :: rest => ⟨c, escaped, .text⟩ :: glyphs (protects escaped c) rest

def segments (path : String) : List (List Glyph) :=
  (glyphs false path.toList).splitOn (.plain ':')

/-- The text of a segment without its active backslashes. -/
def unescape (segment : List Glyph) : String :=
  Token.render (segment.filter (· != .plain '\\'))

def entries (path : String) : List String := (segments path).map unescape

theorem glyphs_append (escaped : Bool) (as bs : List Char) :
    glyphs escaped (as ++ bs) = glyphs escaped as ++ glyphs (endsEscaping escaped as) bs := by
  induction as generalizing escaped with
  | nil => rfl
  | cons c rest ih => exact congrArg (_ :: ·) (ih (protects escaped c))

theorem endsEscaping_append (escaped : Bool) (as bs : List Char) :
    endsEscaping escaped (as ++ bs) = endsEscaping (endsEscaping escaped as) bs :=
  List.foldl_append

/-- Of a run of backslashes the last one is active just when the run has an odd length. -/
theorem endsEscaping_reverse_iff (cs : List Char) :
    endsEscaping false cs.reverse ↔ (cs.takeWhile (· == '\\')).length % 2 = 1 := by
  induction cs with
  | nil => simp [endsEscaping]
  | cons c rest ih =>
    have hlast : endsEscaping false (c :: rest).reverse =
        protects (endsEscaping false rest.reverse) c := by
      rw [List.reverse_cons, endsEscaping_append]
      rfl
    rw [hlast]
    by_cases hslash : c = '\\'
    · have hnot : protects (endsEscaping false rest.reverse) c ↔
          ¬ endsEscaping false rest.reverse := by
        simp [protects, hslash]
      rw [hnot, ih, List.takeWhile_cons_of_pos (by simp [hslash]), List.length_cons]
      omega
    · simp [protects, hslash]

theorem length_splitOn (gs : List Glyph) (g : Glyph) :
    (gs.splitOn g).length = gs.count g + 1 := by
  induction gs with
  | nil => rfl
  | cons x rest ih =>
    rw [List.splitOn_cons_eq_if_modifyHead, List.count_cons]
    split
    · rw [List.length_cons, ih]
    · rw [List.length_modifyHead, ih, Nat.add_zero]

/-! ### The machine inside of an entry -/

/-- An entry that is being read, and the finished ones, each latest first. -/
structure Progress where
  entry : List Glyph
  finished : List Token

namespace Progress

def start : Progress := ⟨[], []⟩

def take (p : Progress) (g : Glyph) : Progress :=
  if g = .plain '\\' then p
  else if g = .plain ':' then ⟨[], p.entry.reverse :: p.finished⟩
  else { p with entry := g :: p.entry }

def takeAll (p : Progress) (gs : List Glyph) : Progress := gs.foldl take p

/-- The machine that has come so far; `escaped` is set behind an active backslash. -/
def reader (p : Progress) (escaped : Bool) : Scan State :=
  ⟨if escaped then [.escape, .entry] else [.entry], some p.entry, p.finished⟩

/-- The entries in order, the open one last. -/
def tokens (p : Progress) : List Token := p.finished.reverse ++ [p.entry.reverse]

theorem takeAll_append (p : Progress) (gs hs : List Glyph) :
    p.takeAll (gs ++ hs) = (p.takeAll gs).takeAll hs := List.foldl_append

theorem take_escape (p : Progress) (c : Char) :
    p.take ⟨c, true, .text⟩ = ⟨.escape c :: p.entry, p.finished⟩ := by
  simp [take, Glyph.plain, Glyph.escape]

theorem take_colon (p : Progress) :
    p.take (.plain ':') = ⟨[], p.entry.reverse :: p.finished⟩ := rfl

theorem take_text (p : Progress) {c : Char} (hslash : c ≠ '\\') (hcolon : c ≠ ':') :
    p.take (.plain c) = ⟨.plain c :: p.entry, p.finished⟩ := by
  simp [take, Glyph.plain, hslash, hcolon]

end Progress

theorem feedChar_reader (p : Progress) (escaped : Bool) (c : Char) :
    grammar.feedChar c 1 (p.reader escaped) =
      some (.ok (), (p.take ⟨c, escaped, .text⟩).reader (protects escaped c)) := by
  cases escaped with
  | true =>
    rw [p.take_escape, protects, Bool.not_true, Bool.and_false]
    rfl
  | false =>
    by_cases hslash : c = '\\'
    · subst hslash
      rfl
    by_cases hcolon : c = ':'
    · subst hcolon
      rfl
    have hrule : grammar.rule (grammar.top (p.reader false)) c = Control.append (.plain c) := by
      show rule .entry c = _
      rw [rule, if_neg hslash, if_neg hcolon]
    have htake : p.take ⟨c, false, .text⟩ = ⟨.plain c :: p.entry, p.finished⟩ :=
      p.take_text hslash hcolon
    have hprotects : protects false c = false := by simp [protects, hslash]
    rw [htake, hprotects, Grammar.feedChar, hrule]
    rfl

theorem feed_reader (p : Progress) (escaped : Bool) (cs : List Char) :
    grammar.feed 1 cs (p.reader escaped) =
      some (.ok (), (p.takeAll (glyphs escaped cs)).reader (endsEscaping escaped cs)) := by
  induction cs generalizing p escaped with
  | nil => rfl
  | cons c rest ih =>
    rw [Grammar.feed, feedChar_reader]
    exact ih (p.take ⟨c, escaped, .text⟩) (protects escaped c)

/-- Glyphs are taken segment by segment.  `before` are those of the open segment, latest
first. -/
theorem tokens_takeAll (gs before : List Glyph) (finished : List Token) :
    (Progress.takeAll ⟨before.filter (· != .plain '\\'), finished⟩ gs).tokens =
      finished.reverse ++ (gs.splitOnPPrepend (· == .plain ':') before).map
        (List.filter (· != .plain '\\')) := by
  induction gs generalizing before finished with
  | nil =>
    rw [List.splitOnPPrepend, List.map_singleton, List.filter_reverse]
    rfl
  | cons g rest ih =>
    rw [Progress.takeAll, List.foldl_cons, ← Progress.takeAll]
    by_cases hcolon : g = .plain ':'
    · subst hcolon
      -- The open segment is finished, and nothing of the next one has been read.
      have hrest := ih [] ((before.filter (· != .plain '\\')).reverse :: finished)
      rw [List.reverse_cons, List.append_assoc, List.singleton_append] at hrest
      rw [Progress.take_colon, List.splitOnPPrepend_cons_pos (by decide), List.map_cons,
        List.filter_reverse]
      exact hrest
    · have htake : Progress.take ⟨before.filter (· != .plain '\\'), finished⟩ g =
          ⟨(g :: before).filter (· != .plain '\\'), finished⟩ := by
        by_cases hslash : g = .plain '\\'
        · simp [Progress.take, hslash]
        · simp [Progress.take, hslash, hcolon]
      rw [htake, ih, List.splitOnPPrepend_cons_neg (by simpa using hcolon)]

/-! ### Splitting -/

section

variable {path : String}

/-- Before the closing colon is read, the last entry is still open. -/
theorem render_tokens (path : String) :
    (Progress.start.takeAll (glyphs false path.toList)).tokens.map Token.render =
      entries path := by
  have htokens := tokens_takeAll (glyphs false path.toList) [] []
  rw [List.reverse_nil, List.nil_append] at htokens
  rw [entries, segments, List.splitOn_eq_splitOnP, List.splitOnP_eq_splitOnPPrepend]
  exact (congrArg (List.map Token.render) htokens).trans List.map_map

/-- The closing colon is one more glyph of the path. -/
theorem split_eq_finished (h : path ≠ "") :
    split path = .ok (((Progress.start.takeAll (glyphs false path.toList)).take
      ⟨':', endsEscaping false path.toList, .text⟩).finished.reverse.map Token.render) := by
  have hfeed := feed_reader .start false (path.toList ++ [':'])
  rw [glyphs_append, Progress.takeAll_append] at hfeed
  have hsplit : grammar.feed 1 (':' :: path.toList ++ [':']) (Scan.start .entry) = _ := hfeed
  rw [split, if_neg (by simpa using h), hsplit]
  rfl

theorem split_of_not_endsEscaping (h : path ≠ "") (hends : endsEscaping false path.toList = false) :
    split path = .ok (entries path) := by
  rw [split_eq_finished h, hends, ← render_tokens path]
  exact congrArg (Except.ok ∘ List.map Token.render) List.reverse_cons

theorem split_of_endsEscaping (h : path ≠ "") (hends : endsEscaping false path.toList = true) :
    split path = .ok (entries path).dropLast := by
  rw [split_eq_finished h, hends, Progress.take_escape, ← render_tokens path,
    ← List.map_dropLast, Progress.tokens, List.dropLast_concat]

end

/-- **Every segment of a path is an entry of it**, but for the last one where the path ends
in an active backslash, that is in an odd number of backslashes.  There is one segment
more than there are colons that no active backslash escapes. -/
theorem split_eq_entries (path : String) (h : path ≠ "") :
    split path = .ok (if endsEscaping false path.toList then (entries path).dropLast
      else entries path) ∧
    (endsEscaping false path.toList ↔
      (path.toList.reverse.takeWhile (· == '\\')).length % 2 = 1) ∧
    (entries path).length = (glyphs false path.toList).count (.plain ':') + 1 := by
  refine ⟨?_, ?_, ?_⟩
  · cases hends : endsEscaping false path.toList with
    | true => exact split_of_endsEscaping h hends
    | false => exact split_of_not_endsEscaping h hends
  · rw [← endsEscaping_reverse_iff, List.reverse_reverse]
  · rw [entries, List.length_map, segments, length_splitOn]

/-- An escaped colon, an empty entry, and a last one that ends in an active backslash. -/
theorem split_eq_entries_escaped :
    split "a\\:b::c\\" = .ok ["a:b", ""] ∧ (entries "a\\:b::c\\").length = 3 := by
  obtain ⟨hsplit, -, hlength⟩ := split_eq_entries "a\\:b::c\\" (by decide)
  exact ⟨hsplit.trans (congrArg Except.ok (by decide)), hlength.trans (by decide)⟩

/-- A backslash at the end of a path escapes the colon that is put behind it, and the last
entry is lost. -/
theorem closing_colon_escaped : split "a\\" = .ok [] ∧ entries "a\\" = ["a"] :=
  ⟨by rfl, by decide⟩

/-!
## Search paths from directories

Any row of directories can be written as a search path: a backslash goes before every
colon and every backslash of a name, and a colon between each two names (`join`).  Such a
path never ends in an active backslash, so nothing of it is lost.

An empty path has no entries, though it is also how the one directory with the empty
name would be written.  Every other row of directories is read back from its path.  Main
statement: `split_join`.
-/

/-- How a character of a directory is written in a path. -/
def escapeChar (c : Char) : List Char := if c = ':' ∨ c = '\\' then ['\\', c] else [c]

def escape (dir : String) : String := String.ofList (dir.toList.flatMap escapeChar)

/-- The path of these directories. -/
def join (dirs : List String) : String := ":".intercalate (dirs.map escape)

/-- The glyphs that `escapeChar` spells. -/
def escapeGlyphs (c : Char) : List Glyph :=
  if c = ':' ∨ c = '\\' then [.plain '\\', .escape c] else [.plain c]

/-- Whether a text spells these glyphs and protects nothing behind it. -/
structure Spells (cs : List Char) (gs : List Glyph) : Prop where
  glyphs_eq : glyphs false cs = gs
  ends : endsEscaping false cs = false

theorem Spells.append {as bs : List Char} {gs hs : List Glyph} (has : Spells as gs)
    (hbs : Spells bs hs) : Spells (as ++ bs) (gs ++ hs) where
  glyphs_eq := by rw [glyphs_append, has.ends, has.glyphs_eq, hbs.glyphs_eq]
  ends := by rw [endsEscaping_append, has.ends, hbs.ends]

theorem spells_colon : Spells [':'] [.plain ':'] := ⟨rfl, rfl⟩

theorem spells_escapeChar (c : Char) : Spells (escapeChar c) (escapeGlyphs c) := by
  rw [escapeChar, escapeGlyphs]
  split
  · exact ⟨rfl, Bool.and_false _⟩
  · next h =>
    have hslash : c ≠ '\\' := fun hslash => h (.inr hslash)
    exact ⟨rfl, by simp [endsEscaping, protects, hslash]⟩

theorem spells_escape (cs : List Char) :
    Spells (cs.flatMap escapeChar) (cs.flatMap escapeGlyphs) := by
  induction cs with
  | nil => exact ⟨rfl, rfl⟩
  | cons c rest ih =>
    rw [List.flatMap_cons, List.flatMap_cons]
    exact (spells_escapeChar c).append ih

theorem toList_join (dirs : List String) : (join dirs).toList =
    [':'].intercalate (dirs.map fun dir => dir.toList.flatMap escapeChar) := by
  rw [join, String.toList_intercalate, List.map_map]
  exact congrArg _ (List.map_congr_left fun dir _ => String.toList_ofList)

/-- No colon of a directory divides, and none that stands between two is protected. -/
theorem spells_join (dirs : List String) : Spells (join dirs).toList
    ([.plain ':'].intercalate (dirs.map fun dir => dir.toList.flatMap escapeGlyphs)) := by
  rw [toList_join]
  induction dirs with
  | nil => exact ⟨rfl, rfl⟩
  | cons dir rest ih =>
    cases rest with
    | nil =>
      rw [List.map_singleton, List.map_singleton, List.intercalate_singleton,
        List.intercalate_singleton]
      exact spells_escape dir.toList
    | cons next rest =>
      simp only [List.map_cons] at ih ⊢
      rw [List.intercalate_cons_cons, List.intercalate_cons_cons]
      exact ((spells_escape dir.toList).append spells_colon).append ih

/-! ### Reading back -/

theorem colon_not_mem_escapeGlyphs (c : Char) : .plain ':' ∉ escapeGlyphs c := by
  rw [escapeGlyphs]
  split
  · simp [Glyph.plain, Glyph.escape]
  · next h => simpa [Glyph.plain] using fun hcolon => h (.inl hcolon.symm)

theorem unescape_escapeGlyphs (c : Char) :
    unescape (escapeGlyphs c) = String.ofList [c] := by
  rw [escapeGlyphs]
  split
  · next h => rcases h with rfl | rfl <;> rfl
  · next h =>
    have hslash : c ≠ '\\' := fun hslash => h (.inr hslash)
    have hkeep : ([.plain c] : List Glyph).filter (· != .plain '\\') = [.plain c] := by
      simpa [Glyph.plain] using hslash
    rw [unescape, hkeep]
    rfl

theorem unescape_append (as bs : List Glyph) :
    unescape (as ++ bs) = unescape as ++ unescape bs := by
  simp [unescape, Token.render, Token.chars]

theorem unescape_escape (cs : List Char) :
    unescape (cs.flatMap escapeGlyphs) = String.ofList cs := by
  induction cs with
  | nil => rfl
  | cons c rest ih =>
    rw [List.flatMap_cons, unescape_append, unescape_escapeGlyphs, ih, ← String.ofList_append]
    rfl

theorem entries_join {dirs : List String} (h : dirs ≠ []) : entries (join dirs) = dirs := by
  have hcolon : ∀ segment ∈ dirs.map fun dir => dir.toList.flatMap escapeGlyphs,
      .plain ':' ∉ segment := by
    intro segment hsegment hmem
    obtain ⟨dir, -, rfl⟩ := List.mem_map.1 hsegment
    obtain ⟨c, -, hc⟩ := List.mem_flatMap.1 hmem
    exact colon_not_mem_escapeGlyphs c hc
  rw [entries, segments, (spells_join dirs).glyphs_eq,
    List.splitOn_intercalate _ hcolon (by simpa using h), List.map_map]
  refine (List.map_congr_left fun dir _ => ?_).trans (List.map_id _)
  exact (unescape_escape dir.toList).trans String.ofList_toList

/-- **Splitting undoes escaping and joining** for all directories but a single one without
a name. -/
theorem split_join (dirs : List String) (h : dirs ≠ [""]) : split (join dirs) = .ok dirs := by
  cases dirs with
  | nil => rfl
  | cons dir rest =>
    have hentries : entries (join (dir :: rest)) = dir :: rest :=
      entries_join (List.cons_ne_nil dir rest)
    have hpath : join (dir :: rest) ≠ "" := by
      intro hempty
      rw [hempty] at hentries
      exact h (hentries.symm.trans (by decide))
    rw [split_of_not_endsEscaping hpath (spells_join (dir :: rest)).ends, hentries]

/-- Empty directories on both sides of one with a colon and a backslash in its name. -/
theorem split_join_odd :
    ["", "a:b\\", ""] ≠ [""] ∧ split ":a\\:b\\\\:" = .ok ["", "a:b\\", ""] :=
  ⟨by decide, split_join ["", "a:b\\", ""] (by decide)⟩

end SearchPath

end LineShell
