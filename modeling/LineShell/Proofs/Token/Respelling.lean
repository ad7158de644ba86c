import LineShell.Proofs.Token.Form

/-!
# Spelling tokens back

A token says how it was written, up to the choice of quotes where a quotation is
empty, and up to joined lines.  `Token.spell` writes it in one way of these.  Which
quotes a quotation needs can be seen at its first glyph (`Quote.of`), and an empty
quotation takes single ones.  A word without glyphs is written as a joint.

Reading what a word is spelled as goes glyph by glyph and is an induction over
`Token.IsWord` (`readAll_spellFrom`).  Main statement: `read_respell`.  Whatever text
the tokens were read from, spelling them and reading that again changes nothing.
-/

namespace LineShell

/-! ## The spelling of a token -/

/-- The quotes for the glyphs behind an opening boundary. -/
def Quote.of : Token → Quote
  | g :: _ => if g.role = .text then .double else .single
  | [] => .single

namespace Token

/-- How glyphs are written outside of quotations, or inside of one. -/
def spellFrom : Option Quote → Token → List Char
  | _, [] => []
  | none, g :: rest =>
    if g.isBoundary then (Quote.of rest).char :: spellFrom (some (Quote.of rest)) rest
    else g.spell ++ spellFrom none rest
  | some q, g :: rest =>
    if g.isBoundary then q.char :: spellFrom none rest
    else q.spell g ++ spellFrom (some q) rest

/-- How a token is written. -/
def spell (t : Token) : String :=
  if t.isEmpty then "\\\n" else String.ofList (spellFrom none t)

end Token

/-- How tokens are written in one line. -/
def Words.respell (tokens : List Token) : String :=
  " ".intercalate (tokens.map Token.spell) ++ "\n"

section

variable {q : Quote} {g : Glyph} {gs : List Glyph}

theorem Quote.Inner.of_cons (h : q.Inner g) (rest : Token) : Quote.of (g :: rest) = q := by
  cases h with
  | quoted _ => rfl
  | plain _ _ => rfl
  | escape _ => rfl

theorem Token.spellFrom_outer (h : g.Outer) (rest : Token) :
    spellFrom none (g :: rest) = g.spell ++ spellFrom none rest := by
  rw [spellFrom, h.isBoundary, if_neg Bool.false_ne_true]

theorem Token.spellFrom_inner (h : ∀ g ∈ gs, q.Inner g) (rest : Token) :
    spellFrom (some q) (gs ++ .boundary :: rest) =
      gs.flatMap q.spell ++ q.char :: spellFrom none rest := by
  induction gs with
  | nil => rfl
  | cons g gs ih =>
    obtain ⟨hg, hgs⟩ := List.forall_mem_cons.1 h
    rw [List.cons_append, spellFrom, hg.isBoundary, if_neg Bool.false_ne_true, ih hgs,
      List.flatMap_cons, List.append_assoc]

/-- The quotes that are chosen for a quotation suit its glyphs. -/
theorem Token.spellFrom_quotation (h : ∀ g ∈ gs, q.Inner g) (rest : Token) :
    ∃ q' : Quote, (∀ g ∈ gs, q'.Inner g) ∧
      spellFrom none (.boundary :: (gs ++ .boundary :: rest)) =
        q'.char :: gs.flatMap q'.spell ++ [q'.char] ++ spellFrom none rest := by
  have hinner : ∀ g ∈ gs, (Quote.of (gs ++ .boundary :: rest)).Inner g := by
    cases gs with
    -- An empty quotation may have been a double one; that changes nothing.
    | nil => exact List.forall_mem_nil _
    | cons g gs =>
      rw [List.cons_append, (h g List.mem_cons_self).of_cons]
      exact h
  refine ⟨_, hinner, ?_⟩
  rw [spellFrom, if_pos (by decide), spellFrom_inner hinner]
  simp

end

namespace Words.Progress

/-! ## Reading it back -/

/-- Inside a word, what another word is spelled as adds its glyphs. -/
theorem readAll_spellFrom {t : Token} (h : t.IsWord) (glyphs : List Glyph)
    (finished : List Token) :
    readAll ⟨some ⟨.word, glyphs⟩, finished⟩ (t.spellFrom none) =
      ⟨some ⟨.word, t.reverse ++ glyphs⟩, finished⟩ := by
  induction h generalizing glyphs with
  | nil => rfl
  | glyph hg _ ih =>
    rw [Token.spellFrom_outer hg, readAll_append, readAll_outer glyphs finished hg, ih]
    simp
  | quotation q hgs _ ih =>
    obtain ⟨q', hinner, hspell⟩ := Token.spellFrom_quotation hgs _
    rw [hspell, readAll_append, readAll_quotation glyphs finished hinner, ih]
    simp

/-- The spelling of a word with glyphs begins a word. -/
theorem exists_spellFrom {t : Token} (h : t.IsWord) (hne : t ≠ []) :
    ∃ c cs, t.spellFrom none = c :: cs ∧ c ≠ '|' ∧ ¬ isBlank c := by
  cases h with
  | nil => exact absurd rfl hne
  | glyph hg _ =>
    rw [Token.spellFrom_outer hg]
    cases hg with
    | @plain c hblank hspecial =>
      exact ⟨c, _, rfl, fun hbar => hspecial (hbar ▸ List.mem_cons_self), hblank⟩
    | escape _ => exact ⟨'\\', _, rfl, by decide, by decide⟩
  | quotation q hgs _ =>
    obtain ⟨q', -, hspell⟩ := Token.spellFrom_quotation hgs _
    refine ⟨q'.char, _, hspell, ?_⟩
    cases q' with
    | single => exact ⟨by decide, by decide⟩
    | double => exact ⟨by decide, by decide⟩

theorem readAll_spell_word {t : Token} (h : t.IsWord) (finished : List Token) :
    readAll ⟨none, finished⟩ t.spell.toList = ⟨some ⟨.word, t.reverse⟩, finished⟩ := by
  by_cases hne : t = []
  · -- A joint opens a word and leaves nothing in it.
    subst hne
    rfl
  · have hspell : t.spell.toList = t.spellFrom none := by
      rw [Token.spell, if_neg (by simpa using hne), String.toList_ofList]
    obtain ⟨c, cs, hcs, hbar, hblank⟩ := exists_spellFrom h hne
    have hread := readAll_spellFrom h [] finished
    rw [hcs, List.append_nil] at hread
    rw [hspell, hcs, readAll_cons, read_begin finished hbar hblank]
    exact hread

/-- A spelled token ends at a blank. -/
theorem readAll_spell {t : Token} (h : t = Token.bar ∨ t.IsWord) (finished : List Token)
    {c : Char} (hc : isBlank c) (rest : List Char) :
    readAll ⟨none, finished⟩ (t.spell.toList ++ c :: rest) =
      readAll ⟨none, t :: finished⟩ rest := by
  have hread : (readAll ⟨none, finished⟩ t.spell.toList).Unquoted ∧
      (readAll ⟨none, finished⟩ t.spell.toList).closed = t :: finished := by
    rcases h with rfl | h
    · exact ⟨unquoted_none _, rfl⟩
    · rw [readAll_spell_word h]
      exact ⟨unquoted_word _ _, congrArg (· :: finished) t.reverse_reverse⟩
  rw [readAll_append, readAll_cons, read_blank hread.1 hc, hread.2]

theorem readAll_respell {tokens : List Token} (h : ∀ t ∈ tokens, t = Token.bar ∨ t.IsWord)
    (finished : List Token) :
    readAll ⟨none, finished⟩ (respell tokens).toList = ⟨none, tokens.reverse ++ finished⟩ := by
  induction tokens generalizing finished with
  | nil => rfl
  | cons t rest ih =>
    obtain ⟨ht, hrest⟩ := List.forall_mem_cons.1 h
    cases rest with
    | nil =>
      have hspell : (respell [t]).toList = t.spell.toList ++ '\n' :: [] := by simp [respell]
      rw [hspell, readAll_spell ht finished (by decide)]
      rfl
    | cons u rest =>
      have hspell : (respell (t :: u :: rest)).toList =
          t.spell.toList ++ ' ' :: (respell (u :: rest)).toList := by
        simp [respell, String.intercalate_cons_cons]
      rw [hspell, readAll_spell ht finished (by decide), ih hrest]
      simp

end Words.Progress

namespace Words

/-- **Tokens can be spelled back.**  Whatever a text is, each of its finished tokens is
the bar or a word, and their spellings, with a blank between each two and a line
break at the end, are a complete text that has just these tokens. -/
theorem read_respell (text : String) :
    ∃ status tokens, read text = .ok (status, tokens) ∧
      (∀ t ∈ tokens, t = Token.bar ∨ t.IsWord) ∧
      read (respell tokens) = .ok (.done, tokens) := by
  have hread := read_eq text
  have hform := bar_or_isWord_of_read hread
  refine ⟨_, _, hread, hform, ?_⟩
  generalize (Progress.start.readAll text.toList).reader.tokens = tokens at hform ⊢
  rw [read_eq, Progress.start, Progress.readAll_respell hform, List.append_nil,
    Progress.status_reader, Progress.tokens_reader, List.reverse_reverse]
  rfl

/-- A quotation, a word without glyphs and a bar. -/
example : respell [[.plain 'a', .boundary, .escape 'b', .boundary], [], Token.bar] =
    "a\"\\b\" \\\n |\n" := by decide

end Words

end LineShell
