import LineShell.Pipeline
import LineShell.Proofs.Token.Expansion
import LineShell.Proofs.Token.Form

/-!
# The shape of an expanded pipeline

Whether a token divides commands is asked after its references have been
expanded.  A token that the reader has made keeps a boundary where it was quoted,
and outside of quotes it holds no bare bar unless it is the bar itself
(`Guarded`).  So no value can make a bar of a token that holds anything besides
references: what is not a reference stays in the token.

What is left is a token of references alone.  It divides commands where the
values, one after the other, are a single bar (`SpellsBar`).

`Pipeline.segments` cuts tokens at those that divide commands, and every expanded
pipeline is the row of its segments (`ofTokens_map`).  Main statement:
`ofTokens_expand`.  The shape of a pipeline depends on the variables in no other
way than through tokens that spell a bar.
-/

namespace LineShell

namespace Token

/-! ## Tokens of the reader -/

/-- What holds of every token that the reader finishes. -/
structure Guarded (t : Token) : Prop where
  marks : ∀ g ∈ t, g.isBoundary → g = .boundary
  bars : .plain '|' ∈ t → t = bar ∨ .boundary ∈ t

theorem guarded_bar : Guarded bar where
  marks := by decide
  bars _ := .inl rfl

namespace IsWord

variable {t : Token}

theorem marks (h : IsWord t) : ∀ g ∈ t, g.isBoundary → g = .boundary := by
  induction h with
  | nil => exact List.forall_mem_nil _
  | glyph hg _ ih =>
    refine List.forall_mem_cons.2 ⟨fun hmark => ?_, ih⟩
    rw [hg.isBoundary] at hmark
    cases hmark
  | quotation q hgs _ ih =>
    refine List.forall_mem_cons.2 ⟨fun _ => rfl, List.forall_mem_append.2
      ⟨fun g hg hmark => ?_, List.forall_mem_cons.2 ⟨fun _ => rfl, ih⟩⟩⟩
    rw [(hgs g hg).isBoundary] at hmark
    cases hmark

/-- A bare bar is part of a word only inside of a quotation. -/
theorem boundary_mem (h : IsWord t) (hbar : .plain '|' ∈ t) : .boundary ∈ t := by
  induction h with
  | nil => cases hbar
  | glyph hg _ ih =>
    rcases List.mem_cons.1 hbar with hbar | hbar
    · exact absurd hbar.symm hg.ne_bar
    · exact List.mem_cons_of_mem _ (ih hbar)
  | quotation q _ _ _ => exact List.mem_cons_self

theorem guarded (h : IsWord t) : t.Guarded where
  marks := h.marks
  bars hbar := .inr (h.boundary_mem hbar)

end IsWord

end Token

theorem Words.guarded_of_read {line : String} {status : Status} {tokens : List Token}
    (h : read line = .ok (status, tokens)) : ∀ t ∈ tokens, t.Guarded := by
  intro t ht
  rcases bar_or_isWord_of_read h t ht with rfl | hword
  · exact Token.guarded_bar
  · exact hword.guarded

/-! ## Bars after expansion -/

namespace Token

/-- Whether a token consists of references whose values, one after the other, are a
bar. -/
def SpellsBar (vs : Variables) (t : Token) : Prop :=
  ∃ names, Names names ∧ t = references names ∧ String.join (names.map vs.value) = "|"

theorem isBar_expand_of_spellsBar {vs : Variables} {t : Token} (h : t.SpellsBar vs) :
    (t.expand vs).isBar := by
  obtain ⟨names, hnames, rfl, hvalue⟩ := h
  rw [expand_eq_substitute, substitute_references hnames, hvalue]
  rfl

theorem SpellsBar.head? {vs : Variables} {t : Token} (h : t.SpellsBar vs) :
    t.head? = some (.plain '$') := by
  obtain ⟨names, -, rfl, hvalue⟩ := h
  cases names with
  | nil =>
    rw [List.map_nil] at hvalue
    exact absurd hvalue (by decide)
  | cons name rest => rfl

theorem expand_bar (vs : Variables) : bar.expand vs = bar := rfl

/-- A guarded token that expands to a bar and is none spells it. -/
theorem spellsBar_of_isBar_expand {vs : Variables} {t : Token} (hguarded : t.Guarded)
    (h : (t.expand vs).isBar) (hne : t ≠ bar) : t.SpellsBar vs := by
  rw [expand_eq_substitute, isBar_iff] at h
  have hbar : ∀ g ∈ t.substitute vs, g = .plain '|' := by
    rw [h]
    exact List.forall_mem_singleton.2 rfl
  have hboundary : Glyph.boundary ∉ t := by
    intro hmem
    cases hbar _ (mem_substitute hmem rfl rfl vs)
  have hmark : ∀ g ∈ t, g.isBoundary = false := by
    intro g hg
    refine Bool.eq_false_iff.2 fun hmark => hboundary ?_
    rwa [← hguarded.marks g hg hmark]
  have hplain : Glyph.plain '|' ∉ t := fun hmem =>
    (hguarded.bars hmem).elim hne hboundary
  obtain ⟨names, hnames, rfl⟩ := exists_references_of_substitute hmark hplain hbar
  refine ⟨names, hnames, rfl, ?_⟩
  -- The value is read back from the plain glyphs that it is spliced as.
  rw [substitute_references hnames] at h
  have hchars := congrArg (List.map Glyph.char) h
  rw [List.map_map] at hchars
  rw [← String.toList_inj]
  exact (List.map_id _).symm.trans hchars

theorem isBar_expand_iff {vs : Variables} {t : Token} (hguarded : t.Guarded) :
    (t.expand vs).isBar ↔ t.isBar ∨ t.SpellsBar vs := by
  constructor
  · intro h
    by_cases hne : t = bar
    · exact .inl (isBar_iff.2 hne)
    · exact .inr (spellsBar_of_isBar_expand hguarded h hne)
  · rintro (h | h)
    · rw [isBar_iff.1 h, expand_bar]
      rfl
    · exact isBar_expand_of_spellsBar h

end Token

/-! ## Segments -/

namespace Pipeline

/-- Parts without the last one, if that is empty. -/
def withoutTrailing (parts : List (List Token)) : List (List Token) :=
  if parts.getLast? = some [] then parts.dropLast else parts

theorem withoutTrailing_cons (part : List Token) {parts : List (List Token)} (h : parts ≠ []) :
    withoutTrailing (part :: parts) = part :: withoutTrailing parts := by
  obtain ⟨next, rest, rfl⟩ := List.exists_cons_of_ne_nil h
  unfold withoutTrailing
  rw [List.getLast?_cons_cons, List.dropLast_cons_cons]
  split <;> rfl

/-- The tokens of each command, where those that satisfy `divides` stand between
two commands.  Nothing need follow the last of them. -/
def segments (divides : Token → Bool) (ts : List Token) : List (List Token) :=
  withoutTrailing (ts.splitOnP divides)

theorem segments_congr {p q : Token → Bool} {ts : List Token} (h : ∀ t ∈ ts, p t = q t) :
    segments p ts = segments q ts := by
  have hsplit : ∀ acc, ts.splitOnPPrepend p acc = ts.splitOnPPrepend q acc := by
    induction ts with
    | nil => intro acc; rfl
    | cons t rest ih =>
      obtain ⟨ht, hrest⟩ := List.forall_mem_cons.1 h
      intro acc
      simp only [List.splitOnPPrepend, ht, ih hrest]
  exact congrArg withoutTrailing (hsplit [])

/-- The command of a segment whose tokens are changed by `f`. -/
def commandOf (f : Token → Token) (segment : List Token) : Command :=
  .ofWords (segment.map fun t => (f t).render)

theorem group_map (f : Token → Token) (ts : List Token) (segment : List Token) :
    group (segment.map fun t => (f t).render) (ts.map f) =
      (withoutTrailing (ts.splitOnPPrepend (fun t => (f t).isBar) segment)).map (commandOf f) := by
  induction ts generalizing segment with
  | nil =>
    rw [List.map_nil, group, List.splitOnPPrepend]
    cases segment with
    | nil => rfl
    | cons t rest => simp [withoutTrailing, commandOf]
  | cons t rest ih =>
    rw [List.map_cons, group]
    cases hbar : (f t).isBar with
    | true =>
      have hcommand : Command.ofWords (segment.map fun t => (f t).render).reverse =
          commandOf f segment.reverse := by
        rw [commandOf, List.map_reverse]
      rw [List.splitOnPPrepend_cons_pos (p := fun t => (f t).isBar) hbar,
        withoutTrailing_cons _ (List.splitOnP_ne_nil _ _), List.map_cons, if_pos rfl, hcommand]
      exact congrArg (commandOf f segment.reverse :: ·) (ih [])
    | false =>
      rw [List.splitOnPPrepend_cons_neg (p := fun t => (f t).isBar) hbar, if_neg Bool.false_ne_true]
      exact ih (t :: segment)

/-- A pipeline of changed tokens has one command for each segment. -/
theorem ofTokens_map (f : Token → Token) (ts : List Token) :
    ofTokens (ts.map f) = (segments (fun t => (f t).isBar) ts).map (commandOf f) :=
  group_map f ts []

/-- **Values change the shape of a pipeline only where a token spells a bar.**  After
expansion a token of a line divides commands just when it did before, or when it
consists of references whose values are together a bar.  The commands are those
of the segments between such tokens.  So any two tables of variables in which
the same tokens spell bars cut the line at the same places, into as many
commands, and where no token does, that is at the bars of the line itself. -/
theorem ofTokens_expand {line : String} {status : Words.Status} {tokens : List Token}
    (h : Words.read line = .ok (status, tokens)) :
    (∀ vs : Variables, ∀ t ∈ tokens, (t.expand vs).isBar ↔ t.isBar ∨ t.SpellsBar vs) ∧
    (∀ vs : Variables, ofTokens (tokens.map (Token.expand vs)) =
      (segments (fun t => (t.expand vs).isBar) tokens).map fun segment =>
        Command.ofWords (segment.map fun t => (t.expand vs).render)) ∧
    (∀ vs ws : Variables, (∀ t ∈ tokens, t.SpellsBar vs ↔ t.SpellsBar ws) →
      segments (fun t => (t.expand vs).isBar) tokens =
        segments (fun t => (t.expand ws).isBar) tokens ∧
      (ofTokens (tokens.map (Token.expand vs))).length =
        (ofTokens (tokens.map (Token.expand ws))).length) ∧
    ∀ vs : Variables, (∀ t ∈ tokens, ¬ t.SpellsBar vs) →
      segments (fun t => (t.expand vs).isBar) tokens = segments Token.isBar tokens := by
  have hbar : ∀ vs : Variables, ∀ t ∈ tokens,
      (t.expand vs).isBar ↔ t.isBar ∨ t.SpellsBar vs :=
    fun vs t ht => Token.isBar_expand_iff (Words.guarded_of_read h t ht)
  refine ⟨hbar, fun vs => ofTokens_map (Token.expand vs) tokens, fun vs ws hsame => ?_,
    fun vs hnone => ?_⟩
  · have hsegments : segments (fun t => (t.expand vs).isBar) tokens =
        segments (fun t => (t.expand ws).isBar) tokens := by
      refine segments_congr fun t ht => Bool.eq_iff_iff.2 ?_
      rw [hbar vs t ht, hbar ws t ht, hsame t ht]
    refine ⟨hsegments, ?_⟩
    rw [ofTokens_map, ofTokens_map, hsegments, List.length_map, List.length_map]
  · refine segments_congr fun t ht => Bool.eq_iff_iff.2 ?_
    rw [hbar vs t ht, or_iff_left (hnone t ht)]

/-- A bar of the line, and one that is the value of a quoted reference. -/
theorem ofTokens_expand_quoted :
    segments (fun t => (t.expand (.ofEntries ["X=|"])).isBar)
        [[.plain 'a'], Token.bar, [.boundary, .plain '$', .plain 'X', .boundary]] =
      [[[.plain 'a']], [[.boundary, .plain '$', .plain 'X', .boundary]]] := by
  have h : Words.read "a|\"$X\"\n" = .ok (.done,
      [[.plain 'a'], Token.bar, [.boundary, .plain '$', .plain 'X', .boundary]]) := by rfl
  refine ((ofTokens_expand h).2.2.2 (.ofEntries ["X=|"]) fun t ht hspells => ?_).trans (by rfl)
  have hhead := hspells.head?
  simp only [List.mem_cons, List.not_mem_nil, or_false] at ht
  rcases ht with rfl | rfl | rfl
  · exact absurd hhead (by decide)
  · exact absurd hhead (by decide)
  · exact absurd hhead (by decide)

/-- The value of a reference outside of quotes can divide a command into two. -/
theorem value_divides :
    Words.read "a $X b\n" = .ok (.done,
      [[.plain 'a'], [.plain '$', .plain 'X'], [.plain 'b']]) ∧
    Token.isBar [.plain '$', .plain 'X'] = false ∧
    ofTokens ([[.plain 'a'], [.plain '$', .plain 'X'], [.plain 'b']].map
      (Token.expand (.ofEntries ["X=|"]))) = [.ofWords ["a"], .ofWords ["b"]] ∧
    ofTokens ([[.plain 'a'], [.plain '$', .plain 'X'], [.plain 'b']].map
      (Token.expand .empty)) = [.ofWords ["a", "", "b"]] := by
  refine ⟨by rfl, by rfl, by decide, by decide⟩

end Pipeline

end LineShell
