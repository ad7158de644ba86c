import LineShell.Proofs.Token.Quotation

/-!
# The form of a token

A token that the reader finishes is the bar between two commands or a word.  A word is a
row of glyphs from outside of quotations and of whole quotations; a quotation has a
boundary on either side and only glyphs of its kind between them (`Token.IsWord`).

Where a word is still being read, it is such a row, and behind it comes what has been
read of the quotation that is open (`Token.IsPart`).  Every character keeps that
(`OpenWord.WellFormed.take`).  Main statement: `bar_or_isWord_of_read`.
-/

namespace LineShell

namespace Token

/-- A row of glyphs from outside of quotations and of whole quotations. -/
inductive IsWord : Token → Prop where
  | nil : IsWord []
  | glyph {g : Glyph} {rest : Token} : g.Outer → IsWord rest → IsWord (g :: rest)
  | quotation (q : Quote) {gs rest : Token} : (∀ g ∈ gs, q.Inner g) → IsWord rest →
    IsWord (.boundary :: (gs ++ .boundary :: rest))

namespace IsWord

variable {s t : Token}

theorem append (hs : IsWord s) (ht : IsWord t) : IsWord (s ++ t) := by
  induction hs with
  | nil => exact ht
  | glyph hg _ ih => exact .glyph hg ih
  | quotation q hgs _ ih =>
    rw [List.cons_append, List.append_assoc, List.cons_append]
    exact .quotation q hgs ih

/-- A bare bar outside of quotations does not belong to a word. -/
theorem ne_bar (h : IsWord t) : t ≠ bar := by
  intro hbar
  cases h with
  | nil => cases hbar
  | glyph hg _ => exact hg.ne_bar (List.cons.inj hbar).1
  | quotation q _ _ => exact absurd (List.cons.inj hbar).1 (by decide)

theorem isBar (h : IsWord t) : t.isBar = false :=
  Bool.eq_false_iff.2 fun hbar => h.ne_bar (isBar_iff.1 hbar)

end IsWord

/-- What has been read of a word, with the quotation that is open, if any. -/
inductive IsPart : Option Quote → Token → Prop where
  | outside {t : Token} : IsWord t → IsPart none t
  | inside {q : Quote} {t gs : Token} : IsWord t → (∀ g ∈ gs, q.Inner g) →
    IsPart (some q) (t ++ .boundary :: gs)

namespace IsPart

variable {q : Quote} {t : Token} {g : Glyph}

theorem isWord (h : IsPart none t) : IsWord t := by
  cases h with
  | outside ht => exact ht

theorem outer (h : IsPart none t) (hg : g.Outer) : IsPart none (t ++ [g]) :=
  .outside (h.isWord.append (.glyph hg .nil))

theorem opens (h : IsPart none t) (q : Quote) : IsPart (some q) (t ++ [.boundary]) :=
  .inside h.isWord (List.forall_mem_nil _)

theorem inner (h : IsPart (some q) t) (hg : q.Inner g) : IsPart (some q) (t ++ [g]) := by
  cases h with
  | inside ht hgs =>
    rw [List.append_assoc, List.cons_append]
    exact .inside ht (List.forall_mem_append.2 ⟨hgs, List.forall_mem_singleton.2 hg⟩)

theorem closes (h : IsPart (some q) t) : IsPart none (t ++ [.boundary]) := by
  cases h with
  | inside ht hgs =>
    rw [List.append_assoc, List.cons_append]
    exact .outside (ht.append (.quotation q hgs .nil))

end IsPart

end Token

namespace Words

/-- The quotation that is open in a mode. -/
def Mode.quote : Mode → Option Quote
  | .word | .escape => none
  | .single => some .single
  | .double | .doubleEscape => some .double

/-! ## What the reader keeps -/

namespace OpenWord

/-- What holds of every word that is being read. -/
def WellFormed (w : OpenWord) : Prop := w.token.IsPart w.mode.quote

theorem token_cons (mode : Mode) (g : Glyph) (glyphs : List Glyph) :
    token ⟨mode, g :: glyphs⟩ = token ⟨mode, glyphs⟩ ++ [g] := List.reverse_cons

theorem WellFormed.take {w : OpenWord} (h : w.WellFormed) {c : Char} (hends : ¬ w.endsAt c) :
    (w.take c).WellFormed := by
  obtain ⟨mode, glyphs⟩ := w
  unfold OpenWord.take
  cases mode with
  | word =>
    have hbar : c ≠ '|' := fun e => hends ⟨rfl, .inl e⟩
    have hblank : ¬ isBlank c := fun e => hends ⟨rfl, .inr e⟩
    have hpart : Token.IsPart none glyphs.reverse := h
    dsimp only
    split
    case isTrue => exact hpart
    case isFalse hslash =>
      split
      case isTrue =>
        rw [WellFormed, token_cons]
        exact hpart.opens .single
      case isFalse hsingle =>
        split
        case isTrue =>
          rw [WellFormed, token_cons]
          exact hpart.opens .double
        case isFalse hdouble =>
          rw [WellFormed, token_cons]
          exact hpart.outer (.plain hblank (by simp [hbar, hslash, hsingle, hdouble]))
  | single =>
    have hpart : Token.IsPart (some .single) glyphs.reverse := h
    dsimp only
    split
    case isTrue =>
      rw [WellFormed, token_cons]
      exact hpart.closes
    case isFalse hquote =>
      rw [WellFormed, token_cons]
      exact hpart.inner (.quoted hquote)
  | double =>
    have hpart : Token.IsPart (some .double) glyphs.reverse := h
    dsimp only
    split
    case isTrue => exact hpart
    case isFalse hslash =>
      split
      case isTrue =>
        rw [WellFormed, token_cons]
        exact hpart.closes
      case isFalse hquote =>
        rw [WellFormed, token_cons]
        exact hpart.inner (.plain hslash hquote)
  | escape =>
    have hpart : Token.IsPart none glyphs.reverse := h
    dsimp only
    split
    case isTrue => exact hpart
    case isFalse hline =>
      rw [WellFormed, token_cons]
      exact hpart.outer (.escape hline)
  | doubleEscape =>
    have hpart : Token.IsPart (some .double) glyphs.reverse := h
    dsimp only
    split
    case isTrue => exact hpart
    case isFalse hline =>
      rw [WellFormed, token_cons]
      exact hpart.inner (.escape hline)

end OpenWord

structure Progress.WellFormed (p : Progress) : Prop where
  word : ∀ w ∈ p.word, w.WellFormed
  finished : ∀ t ∈ p.finished, t = Token.bar ∨ t.IsWord

namespace Progress.WellFormed

theorem start : Progress.start.WellFormed where
  word := by simp [Progress.start]
  finished := by simp [Progress.start]

theorem readBetween (c : Char) {finished : List Token}
    (h : ∀ t ∈ finished, t = Token.bar ∨ t.IsWord) :
    (Progress.readBetween c finished).WellFormed := by
  unfold Progress.readBetween
  split
  case isTrue => exact ⟨by simp, List.forall_mem_cons.2 ⟨.inl rfl, h⟩⟩
  case isFalse hbar =>
    split
    case isTrue => exact ⟨by simp, h⟩
    case isFalse hblank =>
      have hempty : OpenWord.empty.WellFormed := .outside .nil
      refine ⟨fun w hw => ?_, h⟩
      obtain rfl : OpenWord.empty.take c = w := Option.some.inj hw
      exact hempty.take (OpenWord.not_endsAt hbar hblank)

/-- A word ends only outside of its quotations. -/
theorem isWord {w : OpenWord} {finished : List Token}
    (h : Progress.WellFormed ⟨some w, finished⟩) (hmode : w.mode = .word) : w.token.IsWord := by
  have hpart : w.token.IsPart w.mode.quote := h.word w rfl
  rw [hmode] at hpart
  exact hpart.isWord

theorem read {p : Progress} (h : p.WellFormed) (c : Char) : (p.read c).WellFormed := by
  obtain ⟨word, finished⟩ := p
  cases word with
  | none => exact readBetween c h.finished
  | some w =>
    simp only [Progress.read]
    split
    case isTrue hends =>
      exact readBetween c (List.forall_mem_cons.2 ⟨.inr (h.isWord hends.1), h.finished⟩)
    case isFalse hends =>
      refine ⟨fun w' hw' => ?_, h.finished⟩
      obtain rfl : w.take c = w' := Option.some.inj hw'
      exact (h.word w rfl).take hends

theorem readAll {p : Progress} (h : p.WellFormed) (cs : List Char) :
    (p.readAll cs).WellFormed := by
  induction cs generalizing p with
  | nil => exact h
  | cons c rest ih => exact ih (h.read c)

end Progress.WellFormed

/-- A finished token is a bar or a word. -/
theorem bar_or_isWord_of_read {text : String} {status : Status} {tokens : List Token}
    (h : read text = .ok (status, tokens)) : ∀ t ∈ tokens, t = Token.bar ∨ t.IsWord := by
  rw [read_eq] at h
  obtain ⟨-, rfl⟩ := Prod.mk.inj (Except.ok.inj h)
  intro t ht
  exact (Progress.WellFormed.start.readAll text.toList).finished t (List.mem_reverse.1 ht)

end Words

end LineShell
