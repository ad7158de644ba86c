import LineShell.Token.Words

/-!
# The reader of words as a plain automaton

Between two characters the reader of words is always in one of six
situations: outside of any word, or in one of the five modes of `Mode` with a
word open.  `Progress` holds just that much, `Progress.read` says what a
character does to it, and `Progress.reader` is the machine it stands for.

`feedChar_reader` is the simulation: on the machine of a `Progress`, a
character is read by at most two states, none of them misuses the machine, and
the machine of the next `Progress` is left.  Everything about what the reader
does with a text is derived from it and from `Progress.read`, without the stack
and the control programs.  Main statement: `reader_settles`.
-/

namespace LineShell

namespace Words

/-! ## The automaton -/

/-- Where the reader stands inside a word. -/
inductive Mode where
  | word
  | single
  | double
  /-- After a backslash outside of quotes. -/
  | escape
  /-- After a backslash between double quotes. -/
  | doubleEscape
  deriving DecidableEq, Repr

/-- The states of the machine in a mode, innermost first. -/
def Mode.stack : Mode → List State
  | .word => [.word, .between]
  | .single => [.single, .word, .between]
  | .double => [.double, .word, .between]
  | .escape => [.escape, .word, .between]
  | .doubleEscape => [.escape, .double, .word, .between]

/-- A word that is being read. -/
structure OpenWord where
  mode : Mode
  /-- The glyphs read so far, latest first. -/
  glyphs : List Glyph

namespace OpenWord

/-- A word of which nothing has been read. -/
def empty : OpenWord := ⟨.word, []⟩

/-- The token that the word would be if it ended here. -/
def token (w : OpenWord) : Token := w.glyphs.reverse

/-- Whether a character ends the word instead of belonging to it. -/
def endsAt (w : OpenWord) (c : Char) : Prop := w.mode = .word ∧ (c = '|' ∨ isBlank c)

instance (w : OpenWord) (c : Char) : Decidable (w.endsAt c) :=
  inferInstanceAs (Decidable (_ ∧ _))

theorem not_endsAt {w : OpenWord} {c : Char} (hbar : c ≠ '|') (hblank : ¬ isBlank c) :
    ¬ w.endsAt c := by
  rintro ⟨-, h | h⟩
  · exact hbar h
  · exact hblank h

/-- Takes a character that belongs to the word. -/
def take (w : OpenWord) (c : Char) : OpenWord :=
  match w.mode with
  | .word =>
    if c = '\\' then { w with mode := .escape }
    else if c = '\'' then ⟨.single, .boundary :: w.glyphs⟩
    else if c = '"' then ⟨.double, .boundary :: w.glyphs⟩
    else ⟨.word, .plain c :: w.glyphs⟩
  | .single =>
    if c = '\'' then ⟨.word, .boundary :: w.glyphs⟩
    else ⟨.single, .quoted c :: w.glyphs⟩
  | .double =>
    if c = '\\' then { w with mode := .doubleEscape }
    else if c = '"' then ⟨.word, .boundary :: w.glyphs⟩
    else ⟨.double, .plain c :: w.glyphs⟩
  | .escape => if c = '\n' then { w with mode := .word } else ⟨.word, .escape c :: w.glyphs⟩
  | .doubleEscape =>
    if c = '\n' then { w with mode := .double } else ⟨.double, .escape c :: w.glyphs⟩

end OpenWord

/-- What there is to know of a reader between two characters. -/
structure Progress where
  /-- The word that is being read, if any. -/
  word : Option OpenWord
  /-- The finished tokens, latest first. -/
  finished : List Token

namespace Progress

/-- The progress before any text. -/
def start : Progress := ⟨none, []⟩

/-- Reads a character outside of words. -/
def readBetween (c : Char) (finished : List Token) : Progress :=
  if c = '|' then ⟨none, Token.bar :: finished⟩
  else if isBlank c then ⟨none, finished⟩
  else ⟨some (OpenWord.empty.take c), finished⟩

/-- Reads a character.  One that ends the open word is read again behind it. -/
def read (p : Progress) (c : Char) : Progress :=
  match p.word with
  | none => readBetween c p.finished
  | some w =>
    if w.endsAt c then readBetween c (w.token :: p.finished)
    else { p with word := some (w.take c) }

/-- Reads characters from left to right. -/
def readAll (p : Progress) (cs : List Char) : Progress := cs.foldl read p

@[simp] theorem readAll_nil (p : Progress) : p.readAll [] = p := rfl

@[simp] theorem readAll_cons (p : Progress) (c : Char) (rest : List Char) :
    p.readAll (c :: rest) = (p.read c).readAll rest := rfl

theorem readAll_append (p : Progress) (as bs : List Char) :
    p.readAll (as ++ bs) = (p.readAll as).readAll bs := List.foldl_append

/-- The machine that has come so far. -/
def reader (p : Progress) : Reader where
  stack := p.word.elim [.between] (·.mode.stack)
  current := p.word.map OpenWord.glyphs
  finished := p.finished

@[simp] theorem reader_start : start.reader = Reader.start := rfl

@[simp] theorem tokens_reader (p : Progress) : p.reader.tokens = p.finished.reverse := rfl

@[simp] theorem isOpen_reader (p : Progress) : p.reader.isOpen = p.word.isSome :=
  Option.isSome_map

end Progress

/-! ## Reading, mode by mode -/

namespace Progress

section

variable (glyphs : List Glyph) (finished : List Token) {c : Char}

@[simp] theorem read_word_backslash : read ⟨some ⟨.word, glyphs⟩, finished⟩ '\\' =
    ⟨some ⟨.escape, glyphs⟩, finished⟩ := rfl

@[simp] theorem read_word_single : read ⟨some ⟨.word, glyphs⟩, finished⟩ '\'' =
    ⟨some ⟨.single, .boundary :: glyphs⟩, finished⟩ := rfl

@[simp] theorem read_word_double : read ⟨some ⟨.word, glyphs⟩, finished⟩ '"' =
    ⟨some ⟨.double, .boundary :: glyphs⟩, finished⟩ := rfl

/-- A character without a meaning of its own is text. -/
theorem read_word_text (hblank : ¬ isBlank c) (h : c ∉ ['|', '\\', '\'', '"']) :
    read ⟨some ⟨.word, glyphs⟩, finished⟩ c =
      ⟨some ⟨.word, .plain c :: glyphs⟩, finished⟩ := by
  simp only [List.mem_cons, List.not_mem_nil, or_false, not_or] at h
  simp only [read, if_neg (OpenWord.not_endsAt h.1 hblank), OpenWord.take, if_neg h.2.1,
    if_neg h.2.2.1, if_neg h.2.2.2]

@[simp] theorem read_single_quote : read ⟨some ⟨.single, glyphs⟩, finished⟩ '\'' =
    ⟨some ⟨.word, .boundary :: glyphs⟩, finished⟩ := rfl

theorem read_single_text (h : c ≠ '\'') : read ⟨some ⟨.single, glyphs⟩, finished⟩ c =
    ⟨some ⟨.single, .quoted c :: glyphs⟩, finished⟩ := by
  simp [read, OpenWord.endsAt, OpenWord.take, h]

@[simp] theorem read_double_backslash : read ⟨some ⟨.double, glyphs⟩, finished⟩ '\\' =
    ⟨some ⟨.doubleEscape, glyphs⟩, finished⟩ := rfl

@[simp] theorem read_double_quote : read ⟨some ⟨.double, glyphs⟩, finished⟩ '"' =
    ⟨some ⟨.word, .boundary :: glyphs⟩, finished⟩ := rfl

theorem read_double_text (hslash : c ≠ '\\') (hquote : c ≠ '"') :
    read ⟨some ⟨.double, glyphs⟩, finished⟩ c =
      ⟨some ⟨.double, .plain c :: glyphs⟩, finished⟩ := by
  simp [read, OpenWord.endsAt, OpenWord.take, hslash, hquote]

theorem read_escape (h : c ≠ '\n') : read ⟨some ⟨.escape, glyphs⟩, finished⟩ c =
    ⟨some ⟨.word, .escape c :: glyphs⟩, finished⟩ := by
  simp [read, OpenWord.endsAt, OpenWord.take, h]

theorem read_doubleEscape (h : c ≠ '\n') :
    read ⟨some ⟨.doubleEscape, glyphs⟩, finished⟩ c =
      ⟨some ⟨.double, .escape c :: glyphs⟩, finished⟩ := by
  simp [read, OpenWord.endsAt, OpenWord.take, h]

@[simp] theorem read_escape_newline : read ⟨some ⟨.escape, glyphs⟩, finished⟩ '\n' =
    ⟨some ⟨.word, glyphs⟩, finished⟩ := rfl

@[simp] theorem read_doubleEscape_newline :
    read ⟨some ⟨.doubleEscape, glyphs⟩, finished⟩ '\n' =
      ⟨some ⟨.double, glyphs⟩, finished⟩ := rfl

/-- Outside of words, a character that is neither a bar nor a blank begins a word. -/
theorem read_begin (hbar : c ≠ '|') (hblank : ¬ isBlank c) :
    read ⟨none, finished⟩ c = read ⟨some .empty, finished⟩ c := by
  simp only [read, readBetween, if_neg hbar, if_neg hblank,
    if_neg (OpenWord.not_endsAt hbar hblank)]

end

/-- Whether neither a quotation nor a backslash is open. -/
def Unquoted (p : Progress) : Prop := ∀ w ∈ p.word, w.mode = .word

/-- The finished tokens, had the open word ended. -/
def closed (p : Progress) : List Token :=
  match p.word with
  | none => p.finished
  | some w => w.token :: p.finished

@[simp] theorem unquoted_none (finished : List Token) : Unquoted ⟨none, finished⟩ := by
  simp [Unquoted]

@[simp] theorem unquoted_word (glyphs : List Glyph) (finished : List Token) :
    Unquoted ⟨some ⟨.word, glyphs⟩, finished⟩ := by
  simp [Unquoted]

/-- A bar closes the open word and stands for itself. -/
theorem read_bar {p : Progress} (h : p.Unquoted) : p.read '|' = ⟨none, Token.bar :: p.closed⟩ := by
  obtain ⟨word, finished⟩ := p
  cases word with
  | none => rfl
  | some w =>
    obtain ⟨mode, glyphs⟩ := w
    obtain rfl : mode = .word := h _ rfl
    rfl

/-- A blank closes the open word. -/
theorem read_blank {p : Progress} (h : p.Unquoted) {c : Char} (hc : isBlank c) :
    p.read c = ⟨none, p.closed⟩ := by
  have hbar : c ≠ '|' := by rintro rfl; exact absurd hc (by decide)
  obtain ⟨word, finished⟩ := p
  cases word with
  | none => simp only [read, readBetween, closed, if_neg hbar, if_pos hc]
  | some w =>
    have hends : w.endsAt c := ⟨h w rfl, .inr hc⟩
    simp only [read, readBetween, closed, if_pos hends, if_neg hbar, if_pos hc]

end Progress

/-! ## Turns -/

/-- What the state on top does with a character, and whether the next top is to
read it too. -/
def Reader.turn (r : Reader) (c : Char) : Except Misuse (Unit × Bool) × Reader :=
  (rule (grammar.top r) c).run false r

theorem feedChar_last {c : Char} {r r' : Reader} (h : r.turn c = (.ok ((), false), r'))
    (limit : Nat) : grammar.feedChar c (limit + 1) r = some (.ok (), r') := by
  simp only [Grammar.feedChar]
  rw [show (grammar.rule (grammar.top r) c).run false r = r.turn c from rfl, h]

theorem feedChar_again {c : Char} {r r' : Reader} (h : r.turn c = (.ok ((), true), r'))
    (limit : Nat) : grammar.feedChar c (limit + 1) r = grammar.feedChar c limit r' := by
  simp only [Grammar.feedChar]
  rw [show (grammar.rule (grammar.top r) c).run false r = r.turn c from rfl, h]

/-- A bar writes a token of its own. -/
theorem turn_bar (finished : List Token) :
    Reader.turn ⟨[.bar, .between], none, finished⟩ '|' =
      (.ok ((), false), Progress.reader ⟨none, Token.bar :: finished⟩) := rfl

theorem turn_between_bar (finished : List Token) :
    (Progress.reader ⟨none, finished⟩).turn '|' =
      (.ok ((), true), ⟨[.bar, .between], none, finished⟩) := rfl

theorem turn_between_blank {c : Char} (h : isBlank c) (finished : List Token) :
    (Progress.reader ⟨none, finished⟩).turn c =
      (.ok ((), false), Progress.reader ⟨none, finished⟩) := by
  have hbar : c ≠ '|' := by rintro rfl; exact absurd h (by decide)
  show (rule .between c).run false _ = _
  simp only [rule, if_neg hbar, if_pos h]
  rfl

theorem turn_between_word {c : Char} (hbar : c ≠ '|') (hblank : ¬ isBlank c)
    (finished : List Token) :
    (Progress.reader ⟨none, finished⟩).turn c =
      (.ok ((), true), Progress.reader ⟨some .empty, finished⟩) := by
  show (rule .between c).run false _ = _
  simp only [rule, if_neg hbar, if_neg hblank]
  rfl

/-- A character that belongs to the open word takes one turn. -/
theorem turn_take {w : OpenWord} {c : Char} (h : ¬ w.endsAt c) (finished : List Token) :
    (Progress.reader ⟨some w, finished⟩).turn c =
      (.ok ((), false), Progress.reader ⟨some (w.take c), finished⟩) := by
  obtain ⟨mode, glyphs⟩ := w
  cases mode with
  | word =>
    have hbar : c ≠ '|' := fun e => h ⟨rfl, .inl e⟩
    have hblank : ¬ isBlank c := fun e => h ⟨rfl, .inr e⟩
    show (rule .word c).run false _ = _
    simp only [rule, OpenWord.take, if_neg hbar, if_neg hblank]
    repeat' split
    all_goals rfl
  | single =>
    show (rule .single c).run false _ = _
    simp only [rule, OpenWord.take]
    split <;> rfl
  | double =>
    show (rule .double c).run false _ = _
    simp only [rule, OpenWord.take]
    repeat' split
    all_goals rfl
  | escape =>
    show (rule .escape c).run false _ = _
    simp only [rule, OpenWord.take]
    split <;> rfl
  | doubleEscape =>
    show (rule .escape c).run false _ = _
    simp only [rule, OpenWord.take]
    split <;> rfl

theorem turn_end_bar (glyphs : List Glyph) (finished : List Token) :
    (Progress.reader ⟨some ⟨.word, glyphs⟩, finished⟩).turn '|' =
      (.ok ((), true), ⟨[.bar, .between], none, glyphs.reverse :: finished⟩) := rfl

theorem turn_end_blank {c : Char} (h : isBlank c) (glyphs : List Glyph)
    (finished : List Token) :
    (Progress.reader ⟨some ⟨.word, glyphs⟩, finished⟩).turn c =
      (.ok ((), true), Progress.reader ⟨none, glyphs.reverse :: finished⟩) := by
  have hne : c ≠ '\\' ∧ c ≠ '\'' ∧ c ≠ '"' ∧ c ≠ '|' := by
    refine ⟨?_, ?_, ?_, ?_⟩ <;> rintro rfl <;> exact absurd h (by decide)
  show (rule .word c).run false _ = _
  simp only [rule, if_neg hne.1, if_neg hne.2.1, if_neg hne.2.2.1, if_neg hne.2.2.2, if_pos h]
  rfl

/-! ## The simulation -/

/-- Outside of words a character is read by at most two states. -/
theorem feedChar_between (c : Char) (limit : Nat) (finished : List Token) :
    grammar.feedChar c (limit + 2) (Progress.reader ⟨none, finished⟩) =
      some (.ok (), (Progress.readBetween c finished).reader) := by
  unfold Progress.readBetween
  split
  case isTrue hbar =>
    subst hbar
    rw [feedChar_again (turn_between_bar finished)]
    exact feedChar_last (turn_bar finished) limit
  case isFalse hbar =>
    split
    case isTrue hblank => exact feedChar_last (turn_between_blank hblank finished) _
    case isFalse hblank =>
      rw [feedChar_again (turn_between_word hbar hblank finished)]
      exact feedChar_last (turn_take (OpenWord.not_endsAt hbar hblank) finished) limit

/-- **The simulation**: a character is read by at most two states, none of
which misuses the machine, and the machine of the next progress is left. -/
theorem feedChar_reader (p : Progress) (c : Char) (limit : Nat) :
    grammar.feedChar c (limit + 2) p.reader = some (.ok (), (p.read c).reader) := by
  obtain ⟨word, finished⟩ := p
  cases word with
  | none => exact feedChar_between c limit finished
  | some w =>
    simp only [Progress.read]
    split
    case isFalse h => exact feedChar_last (turn_take h finished) _
    case isTrue h =>
      obtain ⟨mode, glyphs⟩ := w
      obtain ⟨rfl : mode = .word, rfl | hblank⟩ := h
      · rw [feedChar_again (turn_end_bar glyphs finished)]
        exact feedChar_last (turn_bar _) limit
      · rw [feedChar_again (turn_end_blank hblank glyphs finished)]
        have hbar : c ≠ '|' := by rintro rfl; exact absurd hblank (by decide)
        simp only [Progress.readBetween, if_neg hbar, if_pos hblank]
        exact feedChar_last (turn_between_blank hblank _) limit

/-- Text is read to its end, character by character. -/
theorem feed_reader (p : Progress) (cs : List Char) :
    grammar.feed turns cs p.reader = some (.ok (), (p.readAll cs).reader) := by
  induction cs generalizing p with
  | nil => rfl
  | cons c rest ih =>
    rw [Grammar.feed, show turns = 0 + 2 from rfl, feedChar_reader p c 0]
    exact ih (p.read c)

theorem Reader.feed_reader (p : Progress) (cs : List Char) :
    Reader.feed p.reader cs = (.ok (), (p.readAll cs).reader) := by
  rw [Reader.feed, Words.feed_reader]
  rfl

theorem Reader.feed_start (cs : List Char) :
    Reader.start.feed cs = (.ok (), (Progress.start.readAll cs).reader) := by
  rw [← Progress.reader_start, Reader.feed_reader]

/-- A text is complete just when no word is open behind it. -/
theorem Progress.status_reader (p : Progress) :
    p.reader.status = if p.word.isNone then .done else .waiting := by
  obtain ⟨word, finished⟩ := p
  cases word with
  | none => rfl
  | some w =>
    obtain ⟨mode, glyphs⟩ := w
    cases mode <;> rfl

/-- What a whole text is read as. -/
theorem read_eq (text : String) :
    read text = .ok ((Progress.start.readAll text.toList).reader.status,
      (Progress.start.readAll text.toList).reader.tokens) := by
  unfold read
  rw [Reader.feed_start]

/-! ## What is kept -/

namespace Progress

/-- The progress, had these tokens been finished before. -/
def after (p : Progress) (earlier : List Token) : Progress :=
  { p with finished := p.finished ++ earlier }

/-- Reading does not look at what has been finished. -/
theorem read_after (p : Progress) (earlier : List Token) (c : Char) :
    (p.after earlier).read c = (p.read c).after earlier := by
  have between : ∀ finished,
      readBetween c (finished ++ earlier) = (readBetween c finished).after earlier := by
    intro finished
    unfold readBetween
    split
    · rfl
    · split <;> rfl
  obtain ⟨word, finished⟩ := p
  cases word with
  | none => exact between finished
  | some w =>
    simp only [after, read]
    split
    · exact between (w.token :: finished)
    · rfl

theorem readAll_after (p : Progress) (earlier : List Token) (cs : List Char) :
    (p.after earlier).readAll cs = (p.readAll cs).after earlier := by
  induction cs generalizing p with
  | nil => rfl
  | cons c rest ih => rw [readAll_cons, readAll_cons, read_after, ih]

theorem status_after (p : Progress) (earlier : List Token) :
    (p.after earlier).reader.status = p.reader.status := by
  rw [status_reader, status_reader]
  rfl

theorem tokens_after (p : Progress) (earlier : List Token) :
    (p.after earlier).reader.tokens = earlier.reverse ++ p.reader.tokens :=
  List.reverse_append

/-- Finished tokens stay as they are. -/
theorem read_finished (p : Progress) (c : Char) :
    p.finished <:+ (p.read c).finished := by
  have between : ∀ finished, finished <:+ (readBetween c finished).finished := by
    intro finished
    unfold readBetween
    split
    · exact List.suffix_cons _ _
    · split <;> exact List.suffix_refl _
  unfold read
  split
  · exact between _
  · split
    · exact (List.suffix_cons _ _).trans (between _)
    · exact List.suffix_refl _

theorem readAll_finished (p : Progress) (cs : List Char) :
    p.finished <:+ (p.readAll cs).finished := by
  induction cs generalizing p with
  | nil => exact List.suffix_refl _
  | cons c rest ih => exact (p.read_finished c).trans (ih (p.read c))

end Progress

/-- The stacks that occur between two characters, outermost state first. -/
def settledStacks : List (List State) :=
  [[.between], [.between, .word], [.between, .word, .single], [.between, .word, .double],
    [.between, .word, .escape], [.between, .word, .double, .escape]]

/-- What holds of a reader between two characters. -/
structure Reader.Settled (r : Reader) : Prop where
  stack_mem : r.stack.reverse ∈ settledStacks
  isOpen_iff : r.isOpen ↔ .word ∈ r.stack

theorem Progress.reader_settled (p : Progress) : p.reader.Settled := by
  obtain ⟨word, finished⟩ := p
  cases word with
  | none => exact ⟨List.mem_cons_self, by simp [reader, Scan.isOpen]⟩
  | some w =>
    obtain ⟨mode, glyphs⟩ := w
    have hstack : mode.stack.reverse ∈ settledStacks := by cases mode <;> decide
    have hword : State.word ∈ mode.stack := by cases mode <;> decide
    exact ⟨hstack, by simpa [reader, Scan.isOpen] using hword⟩

/-- The finished tokens of a reader only grow at their end. -/
theorem Progress.tokens_prefix {p q : Progress} (h : p.finished <:+ q.finished) :
    p.reader.tokens <+: q.reader.tokens := by
  obtain ⟨more, hmore⟩ := h
  refine ⟨more.reverse, ?_⟩
  simp only [Scan.tokens, reader]
  rw [← List.reverse_append, hmore]

/-- Reads one chunk after the other. -/
def Reader.feedAll (r : Reader) (chunks : List String) : Reader :=
  chunks.foldl (fun r chunk => (r.feed chunk.toList).2) r

/-- Only the characters matter, not how they are cut into chunks. -/
theorem Reader.feedAll_reader (p : Progress) (chunks : List String) :
    Reader.feedAll p.reader chunks = (p.readAll (chunks.flatMap String.toList)).reader := by
  induction chunks generalizing p with
  | nil => rfl
  | cons chunk rest ih =>
    rw [List.flatMap_cons, Progress.readAll_append, ← ih (p.readAll chunk.toList)]
    unfold Reader.feedAll
    rw [List.foldl_cons, Reader.feed_reader]

/-- **The reader never fails**: whatever chunks have come, the next chunk is read
to its end, each of its characters by at most two states, and none of them
misuses the machine.  Between two characters the stack is one of six, a token
is open just when a word is, and the finished tokens only grow at their end. -/
theorem reader_settles (chunks : List String) :
    (Reader.start.feedAll chunks).Settled ∧
    (∀ chunk : String, grammar.feed 2 chunk.toList (Reader.start.feedAll chunks) =
      some (.ok (), Reader.start.feedAll (chunks ++ [chunk]))) ∧
    (∀ (seen : List Char) (c : Char), ∃ before after : Reader,
      (Reader.start.feedAll chunks).feed seen = (.ok (), before) ∧
      (Reader.start.feedAll chunks).feed (seen ++ [c]) = (.ok (), after) ∧
      (∀ limit, 2 ≤ limit → grammar.feedChar c limit before = some (.ok (), after)) ∧
      after.Settled ∧ before.tokens <+: after.tokens) ∧
    (∀ more : List String, (Reader.start.feedAll chunks).tokens <+:
      (Reader.start.feedAll (chunks ++ more)).tokens) := by
  simp only [← Progress.reader_start, Reader.feedAll_reader, List.flatMap_append,
    Progress.readAll_append]
  generalize Progress.start.readAll (chunks.flatMap String.toList) = p
  refine ⟨p.reader_settled, ?_, ?_, ?_⟩
  · intro chunk
    rw [List.flatMap_singleton]
    exact feed_reader p chunk.toList
  · intro seen c
    let q := p.readAll seen
    have hlast : p.readAll (seen ++ [c]) = q.read c := p.readAll_append seen [c]
    refine ⟨q.reader, (q.read c).reader, Reader.feed_reader p seen, ?_, ?_,
      (q.read c).reader_settled, Progress.tokens_prefix (q.read_finished c)⟩
    · rw [Reader.feed_reader, hlast]
    · intro limit hlimit
      obtain ⟨n, rfl⟩ := Nat.exists_eq_add_of_le' hlimit
      exact feedChar_reader q c n
  · intro more
    exact Progress.tokens_prefix (p.readAll_finished _)

end Words

end LineShell
