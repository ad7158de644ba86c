import LineShell.Proofs.Token.Modes

/-!
# Lines that are joined

A backslash at the end of a line joins the next line to it.  Inside a word, with
or without double quotes, the pair leaves the reader as it was
(`readAll_joint`).  Outside of words the backslash has begun a word before the
line break takes it back.  What follows goes into that word, as it would have
gone into a word of its own (`read_begin`); but where a blank or a bar follows,
the word ends empty.

Main statement: `read_continuation`.  Joining lines changes nothing but this: a
pair outside of words and before a blank or a bar adds one token without glyphs.
-/

namespace LineShell.Words

/-- A backslash and a line break. -/
def joint : List Char := ['\\', '\n']

namespace Progress

/-- Whether a backslash that comes next is neither quoted nor escaped. -/
def Active (p : Progress) : Prop := ∀ w ∈ p.word, w.mode = .word ∨ w.mode = .double

/-- The state on top tells whether a backslash is active. -/
theorem active_of_top {p : Progress} (hsingle : grammar.top p.reader ≠ .single)
    (hescape : grammar.top p.reader ≠ .escape) : p.Active := by
  obtain ⟨word, finished⟩ := p
  intro w hw
  obtain rfl : word = some w := hw
  obtain ⟨mode, glyphs⟩ := w
  cases mode with
  | word => exact .inl rfl
  | double => exact .inr rfl
  | single => exact absurd rfl hsingle
  | escape => exact absurd rfl hescape
  | doubleEscape => exact absurd rfl hescape

/-- A joint leaves an open word as it was, and opens one where none was open. -/
theorem readAll_joint {p : Progress} (h : p.Active) :
    p.readAll joint = { p with word := some (p.word.getD .empty) } := by
  obtain ⟨word, finished⟩ := p
  cases word with
  | none => rfl
  | some w =>
    obtain ⟨mode, glyphs⟩ := w
    rcases h _ rfl with rfl | rfl
    · rfl
    · rfl

/-- Where a word goes on or begins, a joint makes no difference. -/
theorem readAll_joint_cons {p : Progress} (h : p.Active) {c : Char}
    (hc : p.word.isSome ∨ (c ≠ '|' ∧ ¬ isBlank c)) (rest : List Char) :
    p.readAll (joint ++ c :: rest) = p.readAll (c :: rest) := by
  rw [readAll_append, readAll_joint h]
  obtain ⟨word, finished⟩ := p
  cases word with
  | some w => rfl
  | none =>
    obtain ⟨hbar, hblank⟩ := hc.resolve_left Bool.false_ne_true
    rw [readAll_cons, readAll_cons, read_begin finished hbar hblank]
    rfl

/-- The empty word that a joint opens ends at a blank or a bar. -/
theorem read_empty_end {c : Char} (hc : c = '|' ∨ isBlank c) (finished : List Token) :
    read ⟨some .empty, finished⟩ c = (read ⟨none, []⟩ c).after ([] :: finished) := by
  have hends : OpenWord.empty.endsAt c := ⟨rfl, hc⟩
  have hbehind : read ⟨some .empty, finished⟩ c = read ⟨none, [] :: finished⟩ c := by
    simp only [read, if_pos hends]
    rfl
  rw [hbehind]
  exact read_after ⟨none, []⟩ ([] :: finished) c

/-- Outside of words and before a blank or a bar, a joint adds an empty token. -/
theorem readAll_joint_end {c : Char} (hc : c = '|' ∨ isBlank c) (finished : List Token)
    (rest : List Char) :
    readAll ⟨none, finished⟩ (joint ++ c :: rest) =
      (readAll ⟨none, []⟩ (c :: rest)).after ([] :: finished) := by
  have hopen : readAll ⟨none, finished⟩ joint = ⟨some .empty, finished⟩ := rfl
  rw [readAll_append, hopen, readAll_cons, readAll_cons, read_empty_end hc, readAll_after]

end Progress

/-- **Joined lines are read as one line, but for empty tokens.**  A backslash and a
line break are put before a character `c` of a text, where the backslash is
neither between single quotes nor itself escaped.  If a word is open there, or
`c` begins one, the text is read as it was before.  Otherwise just one token is
added, behind those that were finished there, and it has no glyphs. -/
theorem read_continuation (before : List Char) (c : Char) (rest : List Char) {status : Status}
    {tokens : List Token}
    (hread : read (String.ofList (before ++ c :: rest)) = .ok (status, tokens))
    (hsingle : grammar.top (Reader.start.feed before).2 ≠ .single)
    (hescape : grammar.top (Reader.start.feed before).2 ≠ .escape) :
    ((Reader.start.feed before).2.isOpen ∨ (c ≠ '|' ∧ ¬ isBlank c) →
      read (String.ofList (before ++ '\\' :: '\n' :: c :: rest)) = .ok (status, tokens)) ∧
    (¬ (Reader.start.feed before).2.isOpen → c = '|' ∨ isBlank c →
      ∃ later, tokens = (Reader.start.feed before).2.tokens ++ later ∧
        read (String.ofList (before ++ '\\' :: '\n' :: c :: rest)) =
          .ok (status, (Reader.start.feed before).2.tokens ++ [] :: later)) := by
  have hbefore : (Reader.start.feed before).2 = (Progress.start.readAll before).reader := by
    rw [Reader.feed_start]
  rw [hbefore] at hsingle hescape ⊢
  rw [read_eq, String.toList_ofList, Progress.readAll_append] at hread
  rw [read_eq, String.toList_ofList, Progress.readAll_append]
  generalize Progress.start.readAll before = p at hsingle hescape hread ⊢
  have hactive : p.Active := Progress.active_of_top hsingle hescape
  have hjoint : '\\' :: '\n' :: c :: rest = joint ++ c :: rest := rfl
  rw [hjoint, Progress.isOpen_reader]
  constructor
  · intro hc
    rw [Progress.readAll_joint_cons hactive hc, hread]
  · intro hclosed hc
    obtain ⟨word, finished⟩ := p
    obtain rfl : word = none := Option.not_isSome_iff_eq_none.1 hclosed
    -- What comes later is read alike behind either list of finished tokens.
    let later := Progress.readAll ⟨none, []⟩ (c :: rest)
    have hrest : Progress.readAll ⟨none, finished⟩ (c :: rest) = later.after finished :=
      Progress.readAll_after ⟨none, []⟩ finished (c :: rest)
    rw [hrest, Progress.status_after, Progress.tokens_after] at hread
    obtain ⟨hstatus, htokens⟩ := Prod.mk.inj (Except.ok.inj hread)
    refine ⟨later.reader.tokens, htokens.symm, ?_⟩
    rw [Progress.readAll_joint_end hc, Progress.status_after, Progress.tokens_after, hstatus,
      List.reverse_cons, List.append_assoc]
    rfl

/-- A joint before the second of two blanks. -/
theorem read_continuation_blank :
    ∃ later, [[Glyph.plain 'a'], [.plain 'b']] = [[.plain 'a']] ++ later ∧
      read "a \\\n b\n" = .ok (.done, [[.plain 'a']] ++ [] :: later) := by
  have hread : read (String.ofList (['a', ' '] ++ ' ' :: ['b', '\n'])) =
      .ok (.done, [[.plain 'a'], [.plain 'b']]) := by rfl
  exact (read_continuation ['a', ' '] ' ' ['b', '\n'] hread (by decide) (by decide)).2
    (by decide) (.inr (by decide))

/-- Between words that are already apart, a joint is not invisible. -/
theorem joint_adds_token :
    read "a  b\n" = .ok (.done, [[.plain 'a'], [.plain 'b']]) ∧
      grammar.top (Reader.start.feed ['a', ' ']).2 = .between ∧
      read "a \\\n b\n" = .ok (.done, [[.plain 'a'], [], [.plain 'b']]) :=
  ⟨by rfl, by rfl, by rfl⟩

end LineShell.Words
