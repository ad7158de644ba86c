import LineShell.Proofs.Token.Form

/-!
# Every character of a text

A text can be gone through once from left to right, and only two things have to be
known at each place: which quotation is open, and whether an active backslash
stands right before (`Place`).  They say how the character that comes next is read
(`Place.reading`).  Some readings leave nothing, the others leave one glyph
(`Reading.glyph?`).

The reader of words is such a scan with the glyphs put into tokens.  What a
progress has put out grows with each character by what the character's reading
leaves (`read_reading`, `readAll_output`), and a bar outside of quotations is the only glyph
that makes a token divide commands.  Main statement: `read_scan`.
-/

namespace LineShell.Words

/-! ## The scan -/

/-- How a character of a text is read. -/
inductive Reading where
  /-- A blank that ends a word or stands between words. -/
  | blank
  /-- A bar between two commands. -/
  | bar
  /-- A quote that opens or closes a quotation. -/
  | delimiter
  /-- A backslash that protects the next character. -/
  | backslash
  /-- A line break that vanishes with the backslash before it. -/
  | joint
  | bare
  | escaped
  | quoted
  deriving DecidableEq

/-- The glyph that a character leaves. -/
def Reading.glyph? : Reading → Char → Option Glyph
  | .bar, c | .bare, c => some (.plain c)
  | .escaped, c => some (.escape c)
  | .quoted, c => some (.quoted c)
  | .delimiter, _ => some .boundary
  | .blank, _ | .backslash, _ | .joint, _ => none

/-- What is known between two characters. -/
structure Place where
  /-- The quotation that is open. -/
  quote : Option Quote
  /-- Whether an active backslash stands right before. -/
  escaped : Bool

namespace Place

def start : Place := ⟨none, false⟩

/-- How the next character is read. -/
def reading (p : Place) (c : Char) : Reading :=
  if p.escaped then if c = '\n' then .joint else .escaped
  else match p.quote with
    | none =>
      if c = '\\' then .backslash
      else if c = '\'' ∨ c = '"' then .delimiter
      else if c = '|' then .bar
      else if isBlank c then .blank
      else .bare
    | some .single => if c = '\'' then .delimiter else .quoted
    | some .double => if c = '\\' then .backslash else if c = '"' then .delimiter else .bare

def next (p : Place) (c : Char) : Place :=
  match p.reading c with
  | .backslash => { p with escaped := true }
  | .delimiter =>
    match p.quote with
    | none => ⟨some (if c = '\'' then .single else .double), false⟩
    | some _ => ⟨none, false⟩
  | _ => { p with escaped := false }

/-- The characters of a text behind a place, each with its reading. -/
def scan : Place → List Char → List (Char × Reading)
  | _, [] => []
  | p, c :: rest => (c, p.reading c) :: scan (p.next c) rest

theorem map_fst_scan (p : Place) (cs : List Char) : (p.scan cs).map Prod.fst = cs := by
  induction cs generalizing p with
  | nil => rfl
  | cons c rest ih => rw [scan, List.map_cons, ih]

end Place

/-- The characters of a text, each with its reading. -/
def scan (text : String) : List (Char × Reading) := Place.start.scan text.toList

/-- What a character leaves, and whether it is a bar between two commands. -/
def leaves (x : Char × Reading) : Option (Glyph × Bool) :=
  (x.2.glyph? x.1).map (·, x.2 = .bar)

/-! ## What the reader has put out -/

/-- The place in a mode. -/
def Mode.place : Mode → Place
  | .word => ⟨none, false⟩
  | .single => ⟨some .single, false⟩
  | .double => ⟨some .double, false⟩
  | .escape => ⟨none, true⟩
  | .doubleEscape => ⟨some .double, true⟩

/-- An open word takes what the character leaves. -/
theorem OpenWord.take_reading {w : OpenWord} {c : Char} (h : ¬ w.endsAt c) :
    (w.take c).token = w.token ++ ((w.mode.place.reading c).glyph? c).toList ∧
      (w.take c).mode.place = w.mode.place.next c ∧
      w.mode.place.reading c ≠ .bar ∧ w.mode.place.reading c ≠ .blank := by
  obtain ⟨mode, glyphs⟩ := w
  -- The mode and its place ask the same of the character, in the same order.
  cases mode with
  | word =>
    have hbar : c ≠ '|' := fun e => h ⟨rfl, .inl e⟩
    have hblank : ¬ isBlank c := fun e => h ⟨rfl, .inr e⟩
    by_cases hslash : c = '\\'
    · simp [take, token, Mode.place, Place.next, Place.reading, Reading.glyph?, hslash]
    by_cases hsingle : c = '\''
    · simp [take, token, Mode.place, Place.next, Place.reading, Reading.glyph?, hsingle]
    by_cases hdouble : c = '"'
    · simp [take, token, Mode.place, Place.next, Place.reading, Reading.glyph?, hdouble]
    simp [take, token, Mode.place, Place.next, Place.reading, Reading.glyph?, hbar, hblank, hslash,
      hsingle, hdouble]
  | single =>
    by_cases hquote : c = '\''
    · simp [take, token, Mode.place, Place.next, Place.reading, Reading.glyph?, hquote]
    · simp [take, token, Mode.place, Place.next, Place.reading, Reading.glyph?, hquote]
  | double =>
    by_cases hslash : c = '\\'
    · simp [take, token, Mode.place, Place.next, Place.reading, Reading.glyph?, hslash]
    by_cases hquote : c = '"'
    · simp [take, token, Mode.place, Place.next, Place.reading, Reading.glyph?, hquote]
    simp [take, token, Mode.place, Place.next, Place.reading, Reading.glyph?, hslash, hquote]
  | escape =>
    by_cases hline : c = '\n'
    · simp [take, token, Mode.place, Place.next, Place.reading, Reading.glyph?, hline]
    · simp [take, token, Mode.place, Place.next, Place.reading, Reading.glyph?, hline]
  | doubleEscape =>
    by_cases hline : c = '\n'
    · simp [take, token, Mode.place, Place.next, Place.reading, Reading.glyph?, hline]
    · simp [take, token, Mode.place, Place.next, Place.reading, Reading.glyph?, hline]

/-- The glyphs of a token, and whether it divides commands. -/
def marks (t : Token) : List (Glyph × Bool) := t.map (·, t.isBar)

namespace Progress

/-- The place behind the characters that have been read. -/
def place (p : Progress) : Place := p.word.elim .start (·.mode.place)

/-- The glyphs of all tokens and of the open word. -/
def output (p : Progress) : List (Glyph × Bool) :=
  p.finished.reverse.flatMap marks ++ p.word.elim [] fun w => w.token.map (·, false)

theorem output_end {w : OpenWord} (h : w.token.IsWord) (finished : List Token) :
    output ⟨none, w.token :: finished⟩ = output ⟨some w, finished⟩ := by
  simp [output, marks, h.isBar]

theorem output_empty (finished : List Token) :
    output ⟨some .empty, finished⟩ = output ⟨none, finished⟩ := by
  simp [output, OpenWord.empty, OpenWord.token]

theorem output_take {w : OpenWord} {c : Char} (h : ¬ w.endsAt c) (finished : List Token) :
    output ⟨some (w.take c), finished⟩ =
      output ⟨some w, finished⟩ ++ (leaves (c, w.mode.place.reading c)).toList := by
  obtain ⟨htoken, -, hbar, -⟩ := OpenWord.take_reading h
  have hleaves : (leaves (c, w.mode.place.reading c)).toList =
      ((w.mode.place.reading c).glyph? c).toList.map (·, false) := by
    cases hglyph : (w.mode.place.reading c).glyph? c with
    | none => simp [leaves, hglyph]
    | some g => simp [leaves, hglyph, hbar]
  simp only [output, Option.elim_some, htoken, List.map_append, hleaves, List.append_assoc]

/-- Outside of words a character is read as the scan reads it. -/
theorem readBetween_reading (c : Char) (finished : List Token) :
    (readBetween c finished).output =
        output ⟨none, finished⟩ ++ (leaves (c, Place.start.reading c)).toList ∧
      (readBetween c finished).place = Place.start.next c ∧
      ((readBetween c finished).word = none ↔
        Place.start.reading c = .blank ∨ Place.start.reading c = .bar) := by
  unfold readBetween
  split
  case isTrue hbar =>
    subst hbar
    have hleaves : leaves ('|', Place.start.reading '|') = some (.plain '|', true) := rfl
    have hmarks : marks Token.bar = [(.plain '|', true)] := rfl
    refine ⟨?_, rfl, iff_of_true rfl (.inr rfl)⟩
    rw [hleaves]
    simp [output, hmarks]
  case isFalse hbar =>
    split
    case isTrue hblank =>
      have hreading : Place.start.reading c = .blank := by
        -- The scan asks for a blank last.
        have hne : c ≠ '\\' ∧ c ≠ '\'' ∧ c ≠ '"' := by
          refine ⟨?_, ?_, ?_⟩ <;> rintro rfl <;> exact absurd hblank (by decide)
        simp [Place.start, Place.reading, hne, hbar, hblank]
      have hleaves : leaves (c, Place.start.reading c) = none := by rw [hreading]; rfl
      have hnext : Place.start.next c = Place.start := by rw [Place.next, hreading]; rfl
      rw [hleaves, hnext]
      exact ⟨(List.append_nil _).symm, rfl, iff_of_true rfl (.inl hreading)⟩
    case isFalse hblank =>
      have hends := OpenWord.not_endsAt (w := .empty) hbar hblank
      obtain ⟨-, hplace, hnotbar, hnotblank⟩ := OpenWord.take_reading hends
      refine ⟨?_, hplace, ?_⟩
      · rw [output_take hends, output_empty]
        rfl
      · exact iff_of_false (by simp) (not_or.2 ⟨hnotblank, hnotbar⟩)

/-- **A character is read as the scan reads it**: it adds to the output what its
reading leaves, and no word is open behind blanks and bars, only there. -/
theorem read_reading {p : Progress} (h : p.WellFormed) (c : Char) :
    (p.read c).output = p.output ++ (leaves (c, p.place.reading c)).toList ∧
      (p.read c).place = p.place.next c ∧
      ((p.read c).word = none ↔ p.place.reading c = .blank ∨ p.place.reading c = .bar) := by
  obtain ⟨word, finished⟩ := p
  cases word with
  | none => exact readBetween_reading c finished
  | some w =>
    simp only [read]
    split
    case isTrue hends =>
      -- The word ends and leaves nothing, so the character is read as between words.
      have hplace : place ⟨some w, finished⟩ = Place.start := by
        simp [place, hends.1, Mode.place, Place.start]
      rw [← output_end (h.isWord hends.1), hplace]
      exact readBetween_reading c (w.token :: finished)
    case isFalse hends =>
      obtain ⟨-, hplace, hbar, hblank⟩ := OpenWord.take_reading hends
      exact ⟨output_take hends finished, hplace, iff_of_false (by simp) (not_or.2 ⟨hblank, hbar⟩)⟩

theorem readAll_output {p : Progress} (h : p.WellFormed) (cs : List Char) :
    (p.readAll cs).output = p.output ++ (p.place.scan cs).filterMap leaves := by
  induction cs generalizing p with
  | nil => simp [Place.scan]
  | cons c rest ih =>
    obtain ⟨houtput, hplace, -⟩ := read_reading h c
    rw [readAll_cons, ih (h.read c), houtput, hplace, Place.scan, List.filterMap_cons,
      List.append_assoc]
    cases leaves (c, p.place.reading c) with
    | none => rfl
    | some x => rfl

/-- The last character of a text is read where the others have led. -/
theorem scan_concat {p : Progress} (h : p.WellFormed) (cs : List Char) (c : Char) :
    p.place.scan (cs ++ [c]) =
      p.place.scan cs ++ [(c, (p.readAll cs).place.reading c)] := by
  induction cs generalizing p with
  | nil => rfl
  | cons d rest ih =>
    obtain ⟨-, hplace, -⟩ := read_reading h d
    rw [List.cons_append, Place.scan, ← hplace, ih (h.read d), Place.scan, ← hplace]
    rfl

end Progress

/-! ## The tokens of a text -/

/-- The characters that leave text are those that are neither blanks nor delimiters nor
active backslashes nor joints. -/
theorem chars_leaves (xs : List (Char × Reading)) :
    Token.chars ((xs.filterMap leaves).map Prod.fst) =
      (xs.filter fun x => x.2 ∉ [.blank, .delimiter, .backslash, .joint]).map Prod.fst := by
  induction xs with
  | nil => rfl
  | cons x rest ih =>
    obtain ⟨c, r⟩ := x
    have hcons : ∀ g : Glyph, Token.chars (g :: (rest.filterMap leaves).map Prod.fst) =
        (if g.isBoundary then [] else [g.char]) ++
          Token.chars ((rest.filterMap leaves).map Prod.fst) := by
      intro g
      cases hmark : g.isBoundary with
      | true => simp [Token.chars, hmark]
      | false => simp [Token.chars, hmark]
    cases r with
    | blank => exact ih
    | backslash => exact ih
    | joint => exact ih
    | delimiter => exact (hcons .boundary).trans ih
    | bar => exact (hcons (.plain c)).trans (congrArg (c :: ·) ih)
    | bare => exact (hcons (.plain c)).trans (congrArg (c :: ·) ih)
    | escaped => exact (hcons (.escape c)).trans (congrArg (c :: ·) ih)
    | quoted => exact (hcons (.quoted c)).trans (congrArg (c :: ·) ih)

theorem join_render (tokens : List Token) :
    String.join (tokens.map Token.render) =
      String.ofList (Token.chars ((tokens.flatMap marks).map Prod.fst)) := by
  rw [← String.toList_inj, String.toList_join, String.toList_ofList]
  induction tokens with
  | nil => rfl
  | cons t rest ih =>
    rw [List.map_cons, List.flatMap_cons, ih, List.flatMap_cons, List.map_append]
    simp [Token.chars, Token.render, marks, Function.comp_def]

theorem status_iff (text : String) :
    (Progress.start.readAll text.toList).word = none ↔
      text = "" ∨ ∃ c, (scan text).getLast? = some (c, .blank) ∨
        (scan text).getLast? = some (c, .bar) := by
  rcases List.eq_nil_or_concat text.toList with hnil | ⟨cs, c, hcs⟩
  · obtain rfl : text = "" := String.toList_inj.1 hnil
    exact iff_of_true rfl (.inl rfl)
  · have hne : text ≠ "" := by
      rintro rfl
      simp at hcs
    have hwf := Progress.WellFormed.start.readAll cs
    obtain ⟨-, -, hword⟩ := Progress.read_reading hwf c
    have hlast : (scan text).getLast? =
        some (c, (Progress.start.readAll cs).place.reading c) := by
      rw [scan, hcs]
      have hconcat := Progress.scan_concat .start cs c
      rw [List.concat_eq_append]
      exact (congrArg List.getLast? hconcat).trans List.getLast?_concat
    rw [hlast, hcs, List.concat_eq_append, Progress.readAll_append, Progress.readAll_cons,
      Progress.readAll_nil, hword]
    constructor
    · intro h
      exact .inr ⟨c, h.imp (fun h => by rw [h]) fun h => by rw [h]⟩
    · rintro (h | ⟨d, h⟩)
      · exact absurd h hne
      · exact h.imp (fun h => (Prod.mk.inj (Option.some.inj h)).2)
          fun h => (Prod.mk.inj (Option.some.inj h)).2

/-- **Nothing is lost, doubled or moved.**  Every text is read, and it is complete just
when it is empty or ends in a blank or a bar outside of quotations that is not
escaped.  The text of the tokens of a complete text, one after the other, is the
text without the blanks between words, the delimiters of quotations, the active
backslashes and the joints.  The glyphs of its tokens, in order, are those that its
characters leave, each in its own manner and with a boundary for each delimiter, and
a glyph divides commands just where it comes from a bar between commands. -/
theorem read_scan (text : String) :
    (scan text).map Prod.fst = text.toList ∧
    ∃ status tokens, read text = .ok (status, tokens) ∧
      (status = .done ↔ text = "" ∨ ∃ c, (scan text).getLast? = some (c, .blank) ∨
        (scan text).getLast? = some (c, .bar)) ∧
      (status = .done →
        String.join (tokens.map Token.render) = String.ofList
          (((scan text).filter fun x => x.2 ∉ [.blank, .delimiter, .backslash, .joint]).map
            Prod.fst) ∧
        tokens.flatMap (fun t => t.map fun g => (g, t.isBar)) =
          (scan text).filterMap fun x =>
            (x.2.glyph? x.1).map fun g => (g, decide (x.2 = .bar))) := by
  refine ⟨Place.map_fst_scan _ _, _, _, read_eq text, ?_⟩
  have houtput := Progress.readAll_output .start text.toList
  have hstatus := status_iff text
  generalize Progress.start.readAll text.toList = p at houtput hstatus ⊢
  have hdone : p.reader.status = .done ↔ p.word = none := by
    rw [Progress.status_reader]
    cases p.word with
    | none => exact iff_of_true rfl rfl
    | some w => exact iff_of_false (by simp) (by simp)
  refine ⟨hdone.trans hstatus, fun h => ?_⟩
  have hmarks : p.reader.tokens.flatMap marks = (scan text).filterMap leaves := by
    have hclosed : p.output = p.reader.tokens.flatMap marks := by
      rw [Progress.output, hdone.1 h, Progress.tokens_reader]
      exact List.append_nil _
    rw [← hclosed, houtput]
    rfl
  refine ⟨?_, hmarks⟩
  rw [join_render, hmarks, chars_leaves]

/-- A word of which a part is quoted, and a bar. -/
example : scan "a\"\\'\"|" =
    [('a', .bare), ('"', .delimiter), ('\\', .backslash), ('\'', .escaped), ('"', .delimiter),
      ('|', .bar)] := by decide

end LineShell.Words
