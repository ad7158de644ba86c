import LineShell.Pipeline
import LineShell.Proofs.Token.Quotation

/-!
# Spelling words

A word can be written in many ways.  A `Spelling` is a row of fragments, each of
which protects a piece of the word in its own manner, and a `Segment` writes the
words of one command with blanks between them.  `spellLine` joins segments by
bars and ends the line.

Main statement: `read_spellLine`.  However words are spelled, the line is
complete, no variables are substituted in its tokens, and the pipeline has just
these words.
-/

namespace LineShell

namespace Words

/-! ## Fragments -/

/-- Whether a character stands for itself wherever it is written. -/
def isUnspecial (c : Char) : Bool :=
  !isBlank c && !(['|', '\\', '\'', '"', '$'].contains c)

theorem not_blank_of_isUnspecial {c : Char} (h : isUnspecial c) :
    ¬ isBlank c ∧ c ∉ ['|', '\\', '\'', '"', '$'] := by
  simpa [isUnspecial] using h

/-- Whether a character needs a backslash between double quotes. -/
def isActiveInDouble (c : Char) : Bool := c == '\\' || c == '"' || c == '$'

/-- A piece of the spelling of a word. -/
inductive Fragment where
  /-- A stretch between single quotes. -/
  | single (cs : List Char) (quoteless : '\'' ∉ cs)
  /-- A character after a backslash. -/
  | escaped (c : Char) (visible : c ≠ '\n')
  /-- A stretch between double quotes. -/
  | double (cs : List Char)
  /-- A character as it is. -/
  | bare (c : Char) (unspecial : isUnspecial c)

namespace Fragment

/-- What a fragment stands for. -/
def text : Fragment → List Char
  | single cs _ => cs
  | escaped c _ => [c]
  | double cs => cs
  | bare c _ => [c]

/-- How a fragment is written. -/
def spell : Fragment → List Char
  | single cs _ => '\'' :: cs ++ ['\'']
  | escaped c _ => ['\\', c]
  | double cs =>
    '"' :: cs.flatMap (fun c => if isActiveInDouble c then ['\\', c] else [c]) ++ ['"']
  | bare c _ => [c]

/-- The glyphs that a fragment is read as. -/
def glyphs : Fragment → List Glyph
  | single cs _ => .boundary :: cs.map .quoted ++ [.boundary]
  | escaped c _ => [.escape c]
  | double cs =>
    .boundary :: cs.map (fun c => if isActiveInDouble c then .escape c else .plain c) ++ [.boundary]
  | bare c _ => [.plain c]

end Fragment

/-- A way to write a word. -/
structure Spelling where
  fragments : List Fragment
  nonempty : fragments ≠ []

namespace Spelling

/-- The word that is written. -/
def word (s : Spelling) : String := String.ofList (s.fragments.flatMap Fragment.text)

/-- How the word is written. -/
def spell (s : Spelling) : List Char := s.fragments.flatMap Fragment.spell

/-- The token that the word is read as. -/
def token (s : Spelling) : Token := s.fragments.flatMap Fragment.glyphs

/-- Every word can be written. -/
theorem exists_word (w : String) : ∃ s : Spelling, s.word = w :=
  ⟨⟨[.double w.toList], List.cons_ne_nil _ _⟩, by simp [word, Fragment.text]⟩

end Spelling

/-! ## Lines -/

/-- Any number of blanks. -/
abbrev Blanks := { cs : List Char // ∀ c ∈ cs, isBlank c }

/-- At least one blank. -/
abbrev Gap := { cs : List Char // cs ≠ [] ∧ ∀ c ∈ cs, isBlank c }

/-- The words of one command as they are written, with the blanks around them. -/
inductive Segment where
  | blank (lead : Blanks)
  | words (lead : Blanks) (first : Spelling) (rest : List (Gap × Spelling)) (trail : Blanks)

namespace Segment

/-- The spellings of a segment. -/
def spellings : Segment → List Spelling
  | blank _ => []
  | words _ first rest _ => first :: rest.map Prod.snd

/-- The words of a segment. -/
def texts (s : Segment) : List String := s.spellings.map Spelling.word

/-- How a segment is written. -/
def spell : Segment → List Char
  | blank lead => lead
  | words lead first rest trail =>
    lead.val ++ first.spell ++ rest.flatMap (fun (gap, s) => gap.val ++ s.spell) ++ trail.val

/-- The tokens that a segment is read as. -/
def tokens (s : Segment) : List Token := s.spellings.map Spelling.token

end Segment

/-- A line of segments with a bar between each two. -/
def spellLine (line : List Segment) : List Char :=
  ['|'].intercalate (line.map Segment.spell) ++ ['\n']

/-- The tokens that a line is read as. -/
def lineTokens (line : List Segment) : List Token :=
  [Token.bar].intercalate (line.map Segment.tokens)

theorem lineTokens_cons_cons (s t : Segment) (rest : List Segment) :
    lineTokens (s :: t :: rest) = s.tokens ++ Token.bar :: lineTokens (t :: rest) := by
  simp [lineTokens, List.intercalate_cons_cons]

/-! ## Reading fragments -/

namespace Progress

/-- Between single quotes everything is text up to the next quote. -/
theorem readAll_single {cs : List Char} (h : '\'' ∉ cs) (glyphs : List Glyph)
    (finished : List Token) :
    readAll ⟨some ⟨.word, glyphs⟩, finished⟩ ('\'' :: cs ++ ['\'']) =
      ⟨some ⟨.word, (.boundary :: cs.map .quoted ++ [.boundary] : Token).reverse ++ glyphs⟩,
        finished⟩ := by
  have hinner : ∀ g ∈ cs.map Glyph.quoted, Quote.single.Inner g := by
    intro g hg
    obtain ⟨c, hc, rfl⟩ := List.mem_map.1 hg
    exact .quoted fun e => h (e ▸ hc)
  have hspell : (cs.map Glyph.quoted).flatMap Quote.single.spell = cs := by
    rw [List.flatMap_map]
    exact List.flatMap_singleton' cs
  have hread := readAll_quotation glyphs finished hinner
  rwa [hspell] at hread

/-- Between double quotes a protected text is read back. -/
theorem readAll_double (cs : List Char) (glyphs : List Glyph) (finished : List Token) :
    readAll ⟨some ⟨.word, glyphs⟩, finished⟩
        ('"' :: cs.flatMap (fun c => if isActiveInDouble c then ['\\', c] else [c]) ++ ['"']) =
      ⟨some ⟨.word, (.boundary :: cs.map (fun c =>
        if isActiveInDouble c then .escape c else .plain c) ++ [.boundary] : Token).reverse ++
          glyphs⟩, finished⟩ := by
  have hinner : ∀ g ∈ cs.map (fun c => if isActiveInDouble c then Glyph.escape c else .plain c),
      Quote.double.Inner g := by
    intro g hg
    obtain ⟨c, -, rfl⟩ := List.mem_map.1 hg
    split
    case isTrue hc => exact .escape fun e => absurd (e ▸ hc) (by decide)
    case isFalse hc => exact .plain (fun e => hc (e ▸ rfl)) fun e => hc (e ▸ rfl)
  have hspell : (cs.map fun c =>
        if isActiveInDouble c then Glyph.escape c else .plain c).flatMap Quote.double.spell =
      cs.flatMap fun c => if isActiveInDouble c then ['\\', c] else [c] := by
    rw [List.flatMap_map]
    congr 1
    funext c
    split <;> rfl
  have hread := readAll_quotation glyphs finished hinner
  rwa [hspell] at hread

/-- Inside a word a fragment adds its glyphs. -/
theorem readAll_fragment (f : Fragment) (glyphs : List Glyph) (finished : List Token) :
    readAll ⟨some ⟨.word, glyphs⟩, finished⟩ f.spell =
      ⟨some ⟨.word, f.glyphs.reverse ++ glyphs⟩, finished⟩ := by
  cases f with
  | single cs quoteless => exact readAll_single quoteless glyphs finished
  | escaped c visible =>
    rw [Fragment.spell, readAll_cons, read_word_backslash, readAll_cons, read_escape _ _ visible]
    rfl
  | double cs => exact readAll_double cs glyphs finished
  | bare c unspecial =>
    obtain ⟨hblank, hspecial⟩ := not_blank_of_isUnspecial unspecial
    rw [Fragment.spell, readAll_cons, read_word_text _ _ hblank]
    · rfl
    · exact fun h => hspecial (List.mem_append_left ['$'] h)

theorem readAll_fragments (fs : List Fragment) (glyphs : List Glyph) (finished : List Token) :
    readAll ⟨some ⟨.word, glyphs⟩, finished⟩ (fs.flatMap Fragment.spell) =
      ⟨some ⟨.word, (fs.flatMap Fragment.glyphs).reverse ++ glyphs⟩, finished⟩ := by
  induction fs generalizing glyphs with
  | nil => rfl
  | cons f rest ih =>
    rw [List.flatMap_cons, readAll_append, readAll_fragment, ih, List.flatMap_cons,
      List.reverse_append, List.append_assoc]

/-- Outside of words, the first character of a fragment begins a word. -/
theorem readAll_fragment_between (f : Fragment) (rest : List Char) (finished : List Token) :
    readAll ⟨none, finished⟩ (f.spell ++ rest) =
      readAll ⟨some .empty, finished⟩ (f.spell ++ rest) := by
  have hbegin : ∀ {c : Char} (cs : List Char), c ≠ '|' → ¬ isBlank c →
      readAll ⟨none, finished⟩ (c :: cs) = readAll ⟨some .empty, finished⟩ (c :: cs) := by
    intro c cs hbar hblank
    rw [readAll_cons, readAll_cons, read_begin finished hbar hblank]
  cases f with
  | single cs quoteless => exact hbegin _ (by decide) (by decide)
  | escaped c visible => exact hbegin _ (by decide) (by decide)
  | double cs => exact hbegin _ (by decide) (by decide)
  | bare c unspecial =>
    obtain ⟨hblank, hspecial⟩ := not_blank_of_isUnspecial unspecial
    exact hbegin _ (fun h => hspecial (h ▸ List.mem_cons_self)) hblank

/-- A spelled word is read as its token. -/
theorem readAll_spelling (s : Spelling) (finished : List Token) :
    readAll ⟨none, finished⟩ s.spell = ⟨some ⟨.word, s.token.reverse⟩, finished⟩ := by
  obtain ⟨fs, hfs⟩ := s
  cases fs with
  | nil => exact absurd rfl hfs
  | cons f rest =>
    rw [Spelling.spell, List.flatMap_cons, readAll_fragment_between, ← List.flatMap_cons]
    rw [OpenWord.empty, readAll_fragments, List.append_nil]
    rfl

/-! ## Reading segments -/

theorem readAll_gap {p : Progress} (h : p.Unquoted) {cs : List Char} (hne : cs ≠ [])
    (hcs : ∀ c ∈ cs, isBlank c) : p.readAll cs = ⟨none, p.closed⟩ := by
  induction cs generalizing p with
  | nil => exact absurd rfl hne
  | cons c rest ih =>
    rw [readAll_cons, read_blank h (hcs c List.mem_cons_self)]
    cases rest with
    | nil => rfl
    | cons d rest =>
      rw [ih (unquoted_none _) (List.cons_ne_nil _ _) fun x hx =>
        hcs x (List.mem_cons_of_mem _ hx)]
      rfl

/-- Blanks leave nothing open but what was open before. -/
theorem readAll_blanks {p : Progress} (h : p.Unquoted) {cs : List Char}
    (hcs : ∀ c ∈ cs, isBlank c) : (p.readAll cs).Unquoted ∧ (p.readAll cs).closed = p.closed := by
  by_cases hne : cs = []
  · subst hne
    exact ⟨h, rfl⟩
  · rw [readAll_gap h hne hcs]
    exact ⟨unquoted_none _, rfl⟩

/-- Words behind gaps are read as their tokens. -/
theorem readAll_gapped {p : Progress} (h : p.Unquoted) (rest : List (Gap × Spelling)) :
    let q := p.readAll (rest.flatMap fun (gap, s) => gap.val ++ s.spell)
    q.Unquoted ∧ q.closed = (rest.map fun e => e.2.token).reverse ++ p.closed := by
  induction rest generalizing p with
  | nil => exact ⟨h, rfl⟩
  | cons e rest ih =>
    obtain ⟨⟨gap, hne, hgap⟩, s⟩ := e
    have hs : p.readAll (gap ++ s.spell) = ⟨some ⟨.word, s.token.reverse⟩, p.closed⟩ := by
      rw [readAll_append, readAll_gap h hne hgap, readAll_spelling]
    rw [List.flatMap_cons, readAll_append, hs]
    obtain ⟨hun, hclosed⟩ := ih (p := ⟨some ⟨.word, s.token.reverse⟩, p.closed⟩) (unquoted_word _ _)
    refine ⟨hun, hclosed.trans ?_⟩
    simp [closed, OpenWord.token]

/-- A segment is read as its tokens; its last word may still be open. -/
theorem readAll_segment (s : Segment) (finished : List Token) :
    let q := readAll ⟨none, finished⟩ s.spell
    q.Unquoted ∧ q.closed = s.tokens.reverse ++ finished := by
  cases s with
  | blank lead => exact readAll_blanks (unquoted_none _) lead.property
  | words lead first rest trail =>
    have hlead : readAll ⟨none, finished⟩ lead.val = ⟨none, finished⟩ := by
      by_cases hne : lead.val = []
      · rw [hne]
        rfl
      · exact readAll_gap (unquoted_none _) hne lead.property
    have hfirst : readAll ⟨none, finished⟩ (lead.val ++ first.spell) =
        ⟨some ⟨.word, first.token.reverse⟩, finished⟩ := by
      rw [readAll_append, hlead, readAll_spelling]
    simp only [Segment.spell]
    rw [readAll_append, readAll_append, hfirst]
    obtain ⟨hrest, hclosed⟩ := readAll_gapped
      (p := ⟨some ⟨.word, first.token.reverse⟩, finished⟩) (unquoted_word _ _) rest
    obtain ⟨htrail, hclosed'⟩ := readAll_blanks hrest trail.property
    refine ⟨htrail, hclosed'.trans (hclosed.trans ?_)⟩
    simp [closed, OpenWord.token, Segment.tokens, Segment.spellings]

/-- A line is read as its tokens, and nothing is left open. -/
theorem readAll_spellLine (line : List Segment) (finished : List Token) :
    readAll ⟨none, finished⟩ (spellLine line) = ⟨none, (lineTokens line).reverse ++ finished⟩ := by
  have hend : ∀ p : Progress, p.Unquoted → p.readAll ['\n'] = ⟨none, p.closed⟩ := fun p h =>
    readAll_gap h (List.cons_ne_nil _ _) (List.forall_mem_singleton.2 rfl)
  induction line generalizing finished with
  | nil => rfl
  | cons s rest ih =>
    obtain ⟨hun, hclosed⟩ := readAll_segment s finished
    cases rest with
    | nil =>
      simp only [spellLine, lineTokens, List.map_cons, List.map_nil, List.intercalate_singleton]
      rw [readAll_append, hend _ hun, hclosed]
    | cons t rest =>
      have hspell : spellLine (s :: t :: rest) = s.spell ++ '|' :: spellLine (t :: rest) := by
        simp [spellLine, List.intercalate_cons_cons]
      rw [hspell, readAll_append, readAll_cons, read_bar hun, hclosed, ih, lineTokens_cons_cons]
      simp

end Progress

/-- A spelled line is complete and is read as its tokens. -/
theorem read_eq_lineTokens (line : List Segment) :
    read (String.ofList (spellLine line)) = .ok (.done, lineTokens line) := by
  rw [read_eq, String.toList_ofList, Progress.start, Progress.readAll_spellLine, List.append_nil,
    Progress.status_reader, Progress.tokens_reader, List.reverse_reverse]
  rfl

end Words

/-! ## Tokens without references -/

/-- A glyph that begins no reference is copied. -/
theorem Expansion.step_text {vs : Variables} {out : Array Glyph} {g : Glyph}
    (h : g.opensReference = false) : Expansion.step vs ⟨out, none⟩ g = ⟨out.push g, none⟩ := by
  simp only [Expansion.step, h]
  rfl

/-- A token without references stays as it is, whatever the variables. -/
theorem Token.expand_of_no_reference {t : Token} (h : ∀ g ∈ t, g.opensReference = false)
    (vs : Variables) : t.expand vs = t := by
  have hfold : ∀ out : Array Glyph,
      t.foldl (Expansion.step vs) ⟨out, none⟩ = ⟨out ++ t.toArray, none⟩ := by
    induction t with
    | nil => intro out; simp
    | cons g rest ih =>
      intro out
      rw [List.foldl_cons, Expansion.step_text (h g List.mem_cons_self),
        ih fun g' hg' => h g' (List.mem_cons_of_mem _ hg')]
      simp
  rw [Token.expand, hfold]
  simp [Expansion.finish]

namespace Words

theorem Fragment.no_reference (f : Fragment) : ∀ g ∈ f.glyphs, g.opensReference = false := by
  have hescape : ∀ c, (Glyph.escape c).opensReference = false := fun c => by
    simp [Glyph.escape, Glyph.opensReference]
  have hplain : ∀ c, c ≠ '$' → (Glyph.plain c).opensReference = false := fun c hc => by
    simp [Glyph.plain, Glyph.opensReference, hc]
  have henclosed : ∀ gs : List Glyph, (∀ g ∈ gs, g.opensReference = false) →
      ∀ g ∈ .boundary :: gs ++ [.boundary], g.opensReference = false := by
    intro gs hgs g hg
    rcases List.mem_append.1 hg with hg | hg
    · rcases List.mem_cons.1 hg with rfl | hg
      · rfl
      · exact hgs g hg
    · obtain rfl := List.mem_singleton.1 hg
      rfl
  cases f with
  | single cs quoteless =>
    refine henclosed _ fun g hg => ?_
    obtain ⟨c, -, rfl⟩ := List.mem_map.1 hg
    simp [Glyph.quoted, Glyph.opensReference]
  | escaped c visible =>
    intro g hg
    obtain rfl := List.mem_singleton.1 hg
    exact hescape c
  | double cs =>
    refine henclosed _ fun g hg => ?_
    obtain ⟨c, -, rfl⟩ := List.mem_map.1 hg
    split
    case isTrue hc => exact hescape c
    case isFalse hc => exact hplain c fun e => hc (e ▸ rfl)
  | bare c unspecial =>
    intro g hg
    obtain rfl := List.mem_singleton.1 hg
    refine hplain c fun e => (not_blank_of_isUnspecial unspecial).2 ?_
    rw [e]
    decide

theorem Spelling.no_reference (s : Spelling) : ∀ g ∈ s.token, g.opensReference = false := by
  intro g hg
  obtain ⟨f, -, hg⟩ := List.mem_flatMap.1 hg
  exact f.no_reference g hg

theorem lineTokens_no_reference (line : List Segment) :
    ∀ t ∈ lineTokens line, ∀ g ∈ t, g.opensReference = false := by
  have hsegment : ∀ s : Segment, ∀ t ∈ s.tokens, ∀ g ∈ t, g.opensReference = false := by
    intro s t ht
    obtain ⟨sp, -, rfl⟩ := List.mem_map.1 ht
    exact sp.no_reference
  induction line with
  | nil => intro t ht; cases ht
  | cons s rest ih =>
    cases rest with
    | nil =>
      rw [lineTokens, List.map_singleton, List.intercalate_singleton]
      exact hsegment s
    | cons s' rest =>
      intro t ht
      rw [lineTokens_cons_cons] at ht
      rcases List.mem_append.1 ht with ht | ht
      · exact hsegment s t ht
      · rcases List.mem_cons.1 ht with rfl | ht
        · decide
        · exact ih t ht

/-! ## The pipeline of a line -/

theorem chars_map {f : Char → Glyph} (hchar : ∀ c, (f c).char = c)
    (htext : ∀ c, (f c).isBoundary = false) (cs : List Char) : Token.chars (cs.map f) = cs := by
  induction cs with
  | nil => rfl
  | cons c rest ih =>
    rw [Token.chars] at ih ⊢
    rw [List.map_cons, List.filter_cons_of_pos (by simp [htext]), List.map_cons, hchar, ih]

/-- Boundaries are not text. -/
theorem chars_enclosed (gs : List Glyph) :
    Token.chars (.boundary :: gs ++ [.boundary]) = Token.chars gs := by
  simp [Token.chars, Glyph.boundary, Glyph.isBoundary]

/-- What a fragment is read as has the fragment's text. -/
theorem Fragment.chars_glyphs (f : Fragment) : Token.chars f.glyphs = f.text := by
  cases f with
  | single cs quoteless =>
    exact (chars_enclosed _).trans (chars_map (fun _ => rfl) (fun _ => rfl) cs)
  | escaped c visible => rfl
  | double cs =>
    refine (chars_enclosed _).trans (chars_map (fun c => ?_) (fun c => ?_) cs)
    all_goals split <;> rfl
  | bare c unspecial => rfl

/-- A spelled word is rendered as the word. -/
theorem Spelling.render_token (s : Spelling) : s.token.render = s.word := by
  rw [Token.render, Spelling.word, Spelling.token]
  congr 1
  induction s.fragments with
  | nil => rfl
  | cons f rest ih =>
    rw [List.flatMap_cons, List.flatMap_cons, ← ih, ← f.chars_glyphs]
    simp [Token.chars]

/-- No fragment begins with a bare bar. -/
theorem Fragment.exists_glyphs (f : Fragment) :
    ∃ g rest, f.glyphs = g :: rest ∧ g ≠ .plain '|' := by
  cases f with
  | single cs quoteless => exact ⟨_, _, rfl, by decide⟩
  | escaped c visible => exact ⟨_, _, rfl, by simp [Glyph.escape, Glyph.plain]⟩
  | double cs => exact ⟨_, _, rfl, by decide⟩
  | bare c unspecial =>
    refine ⟨_, _, rfl, fun h => ?_⟩
    obtain rfl : c = '|' := congrArg Glyph.char h
    exact absurd unspecial (by decide)

/-- A spelled word is never the bar between two commands. -/
theorem Spelling.isBar_token (s : Spelling) : s.token.isBar = false := by
  obtain ⟨fs, hfs⟩ := s
  obtain ⟨f, rest, rfl⟩ := List.exists_cons_of_ne_nil hfs
  obtain ⟨g, gs, hglyphs, hg⟩ := f.exists_glyphs
  refine Bool.eq_false_iff.2 fun hbar => hg ?_
  have htoken : g :: (gs ++ rest.flatMap Fragment.glyphs) = Token.bar := by
    rw [← Token.isBar_iff.1 hbar, Spelling.token, List.flatMap_cons, hglyphs, List.cons_append]
  exact (List.cons.inj htoken).1

/-- Spelled words go into the command that is being read. -/
theorem group_spellings (spellings : List Spelling) (words : List String) (rest : List Token) :
    Pipeline.group words (spellings.map Spelling.token ++ rest) =
      Pipeline.group ((spellings.map Spelling.word).reverse ++ words) rest := by
  induction spellings generalizing words with
  | nil => rfl
  | cons s spellings ih =>
    rw [List.map_cons, List.cons_append, Pipeline.group, s.isBar_token, s.render_token,
      if_neg Bool.false_ne_true, ih]
    simp

/-- The pipeline of a line whose last segment has words. -/
theorem ofTokens_lineTokens (line : List Segment) (h : ∀ s ∈ line.getLast?, s.texts ≠ []) :
    Pipeline.ofTokens (lineTokens line) = line.map fun s => Command.ofWords s.texts := by
  induction line with
  | nil => rfl
  | cons s rest ih =>
    cases rest with
    | nil =>
      have hgroup := group_spellings s.spellings [] []
      rw [List.append_nil, List.append_nil] at hgroup
      have hne : s.texts.reverse.isEmpty = false := by simpa using h s rfl
      rw [lineTokens, List.map_singleton, List.intercalate_singleton, Pipeline.ofTokens,
        Segment.tokens, hgroup, ← Segment.texts, Pipeline.group, hne, List.reverse_reverse]
      rfl
    | cons t rest =>
      rw [lineTokens_cons_cons, Pipeline.ofTokens, Segment.tokens, group_spellings,
        List.append_nil, ← Segment.texts, Pipeline.group, if_pos (by decide),
        List.reverse_reverse, List.map_cons, ← ih h]
      rfl

/-- **However the words of a line are spelled, the pipeline has these words**: every
word has a spelling, a spelled line is complete, no variables are substituted in
it, and each of its segments becomes the command of the segment's words. -/
theorem read_spellLine :
    (∀ word : String, ∃ s : Spelling, s.word = word) ∧
      ∀ line : List Segment, (∀ s ∈ line.getLast?, s.texts ≠ []) →
        ∃ tokens, read (String.ofList (spellLine line)) = .ok (.done, tokens) ∧
          (∀ vs : Variables, tokens.map (Token.expand vs) = tokens) ∧
          Pipeline.ofTokens tokens = line.map fun s => Command.ofWords s.texts := by
  refine ⟨Spelling.exists_word, fun line h => ⟨lineTokens line, read_eq_lineTokens line, ?_, ?_⟩⟩
  · intro vs
    refine (List.map_congr_left fun t ht => ?_).trans (List.map_id _)
    exact Token.expand_of_no_reference (lineTokens_no_reference line t ht) vs
  · exact ofTokens_lineTokens line h

/-- An empty command, then an empty word and a word of four fragments. -/
theorem read_spellLine_mixed :
    ∃ tokens, read " | ''\t'a|\n'\\|\"\\$\"=\n" = .ok (.done, tokens) ∧
      (∀ vs : Variables, tokens.map (Token.expand vs) = tokens) ∧
      Pipeline.ofTokens tokens = [Command.ofWords [], Command.ofWords ["", "a|\n|$="]] := by
  have h := read_spellLine.2
    [.blank ⟨[' '], List.forall_mem_singleton.2 rfl⟩,
     .words ⟨[' '], List.forall_mem_singleton.2 rfl⟩
      ⟨[.single [] List.not_mem_nil], List.cons_ne_nil _ _⟩
      [(⟨['\t'], List.cons_ne_nil _ _, List.forall_mem_singleton.2 rfl⟩,
        ⟨[.single ['a', '|', '\n'] (by decide), .escaped '|' (by decide), .double ['$'],
          .bare '=' (by decide)], List.cons_ne_nil _ _⟩)] ⟨[], List.forall_mem_nil _⟩]
    (by simp [Segment.texts, Segment.spellings])
  exact h

end Words

end LineShell
