import LineShell.Proofs.Token.Modes

/-!
# Glyphs and quotations

Which glyphs can stand in a word depends on the quotation around them: outside of
quotations there is no blank and no bare character with a meaning of its own
(`Glyph.Outer`), single quotes make every glyph verbatim, and double quotes leave it
bare or escaped (`Quote.Inner`).

Such a glyph has just one spelling there (`Glyph.spell`, `Quote.spell`), and it is
read back as itself (`readAll_outer`, `readAll_quotation`).
-/

namespace LineShell

inductive Quote where
  | single
  | double
  deriving DecidableEq

/-- The glyphs of a word outside of its quotations. -/
inductive Glyph.Outer : Glyph → Prop where
  | plain {c : Char} (hblank : ¬ isBlank c) (hspecial : c ∉ ['|', '\\', '\'', '"']) :
    Outer (.plain c)
  | escape {c : Char} (hline : c ≠ '\n') : Outer (.escape c)

/-- How a glyph is written where backslashes are active. -/
def Glyph.spell (g : Glyph) : List Char := if g.escaped then ['\\', g.char] else [g.char]

namespace Glyph.Outer

variable {g : Glyph}

theorem isBoundary (h : g.Outer) : g.isBoundary = false := by
  cases h with
  | plain _ _ => rfl
  | escape _ => rfl

theorem ne_bar (h : g.Outer) : g ≠ .plain '|' := by
  intro hbar
  cases h with
  | plain _ hspecial =>
    obtain rfl := congrArg Glyph.char hbar
    exact hspecial List.mem_cons_self
  | escape _ => exact Bool.noConfusion (congrArg Glyph.escaped hbar)

end Glyph.Outer

namespace Quote

/-- The glyphs inside of a quotation. -/
inductive Inner : Quote → Glyph → Prop where
  | quoted {c : Char} (hquote : c ≠ '\'') : Inner .single (.quoted c)
  | plain {c : Char} (hslash : c ≠ '\\') (hquote : c ≠ '"') : Inner .double (.plain c)
  | escape {c : Char} (hline : c ≠ '\n') : Inner .double (.escape c)

theorem Inner.isBoundary {q : Quote} {g : Glyph} (h : q.Inner g) : g.isBoundary = false := by
  cases h with
  | quoted _ => rfl
  | plain _ _ => rfl
  | escape _ => rfl

/-- The character that opens and closes a quotation. -/
def char : Quote → Char
  | .single => '\''
  | .double => '"'

/-- How a glyph is written between quotes. -/
def spell : Quote → Glyph → List Char
  | .single, g => [g.char]
  | .double, g => g.spell

def mode : Quote → Words.Mode
  | .single => .single
  | .double => .double

end Quote

/-! ## Reading glyphs back -/

namespace Words.Progress

variable {q : Quote} {g : Glyph} {gs : List Glyph} (glyphs : List Glyph) (finished : List Token)

theorem read_opening (q : Quote) : read ⟨some ⟨.word, glyphs⟩, finished⟩ q.char =
    ⟨some ⟨q.mode, .boundary :: glyphs⟩, finished⟩ := by
  cases q with
  | single => rfl
  | double => rfl

theorem read_closing (q : Quote) : read ⟨some ⟨q.mode, glyphs⟩, finished⟩ q.char =
    ⟨some ⟨.word, .boundary :: glyphs⟩, finished⟩ := by
  cases q with
  | single => rfl
  | double => rfl

theorem readAll_outer (h : g.Outer) : readAll ⟨some ⟨.word, glyphs⟩, finished⟩ g.spell =
    ⟨some ⟨.word, g :: glyphs⟩, finished⟩ := by
  cases h with
  | plain hblank hspecial => exact read_word_text glyphs finished hblank hspecial
  | escape hline => exact read_escape glyphs finished hline

theorem readAll_inner (h : q.Inner g) :
    readAll ⟨some ⟨q.mode, glyphs⟩, finished⟩ (q.spell g) =
      ⟨some ⟨q.mode, g :: glyphs⟩, finished⟩ := by
  cases h with
  | quoted hquote => exact read_single_text glyphs finished hquote
  | plain hslash hquote => exact read_double_text glyphs finished hslash hquote
  | escape hline => exact read_doubleEscape glyphs finished hline

theorem readAll_inners (h : ∀ g ∈ gs, q.Inner g) :
    readAll ⟨some ⟨q.mode, glyphs⟩, finished⟩ (gs.flatMap q.spell) =
      ⟨some ⟨q.mode, gs.reverse ++ glyphs⟩, finished⟩ := by
  induction gs generalizing glyphs with
  | nil => rfl
  | cons g gs ih =>
    obtain ⟨hg, hgs⟩ := List.forall_mem_cons.1 h
    rw [List.flatMap_cons, readAll_append, readAll_inner glyphs finished hg, ih _ hgs]
    simp

/-- Inside a word a quotation adds its glyphs and a boundary on either side. -/
theorem readAll_quotation (h : ∀ g ∈ gs, q.Inner g) :
    readAll ⟨some ⟨.word, glyphs⟩, finished⟩ (q.char :: gs.flatMap q.spell ++ [q.char]) =
      ⟨some ⟨.word, (.boundary :: gs ++ [.boundary] : Token).reverse ++ glyphs⟩, finished⟩ := by
  rw [List.cons_append, readAll_cons, read_opening, readAll_append, readAll_inners _ finished h,
    readAll_cons, read_closing, readAll_nil]
  simp

end Words.Progress

end LineShell
