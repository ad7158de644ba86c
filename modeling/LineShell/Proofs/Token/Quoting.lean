import LineShell.Proofs.Token.Expansion
import LineShell.Proofs.Token.Spelling

/-!
# Quoted values and quoted references

A value of any characters can be written between single quotes, if each single quote
in it is written as the end of a quotation, an escaped quote and the beginning of a
quotation (`singleQuoted`).  With its name and an equals sign in front this is the
spelling of one word (`Binding.exists_spelling`).

A reference between double quotes is one word too (`read_quotedReference`), and its token
keeps the boundaries of the quotation whatever the value is.  So what it expands to
is one word with the text of the value, and never a bar
(`Token.render_expand_quotedReference`, `Token.isBar_expand_quotedReference`).
-/

namespace LineShell

/-! ## Characters of names -/

theorem toNat_of_isNameChar {c : Char} (h : isNameChar c) : 0x30 ≤ c.toNat ∧ c.toNat ≤ 0x7A := by
  delta isNameChar Char.isAlphanum Char.isAlpha Char.isUpper Char.isLower Char.isDigit at h
  simp only [Bool.or_eq_true, Bool.and_eq_true, decide_eq_true_eq, ge_iff_le,
    UInt32.le_iff_toNat_le, beq_iff_eq] at h
  rcases h with ((h | h) | h) | rfl
  · exact ⟨Nat.le_trans (by decide) h.1, Nat.le_trans h.2 (by decide)⟩
  · exact ⟨Nat.le_trans (by decide) h.1, Nat.le_trans h.2 (by decide)⟩
  · exact ⟨Nat.le_trans (by decide) h.1, Nat.le_trans h.2 (by decide)⟩
  · decide

theorem not_isBlank_of_isNameChar {c : Char} (h : isNameChar c) : ¬ isBlank c := by
  have hrange := toNat_of_isNameChar h
  simp only [isBlank, Bool.or_eq_true, Bool.and_eq_true, decide_eq_true_eq, beq_iff_eq]
  omega

theorem ne_of_isNameChar {c d : Char} (h : isNameChar c) (hd : isNameChar d = false) : c ≠ d := by
  rintro rfl
  rw [h] at hd
  cases hd

namespace Words

theorem isUnspecial_of_isNameChar {c : Char} (h : isNameChar c) : isUnspecial c := by
  have hmem : c ∉ ['|', '\\', '\'', '"', '$'] := by
    simp only [List.mem_cons, List.not_mem_nil, or_false, not_or]
    exact ⟨ne_of_isNameChar h (by decide), ne_of_isNameChar h (by decide),
      ne_of_isNameChar h (by decide), ne_of_isNameChar h (by decide),
      ne_of_isNameChar h (by decide)⟩
  simp [isUnspecial, not_isBlank_of_isNameChar h, hmem]

/-! ## Values between single quotes -/

/-- How a character is written between single quotes: a single quote ends the
quotation, comes escaped and begins another. -/
def quoteChar (c : Char) : List Char :=
  if c = '\'' then ['\'', '\\', '\'', '\''] else [c]

/-- How a value is written in single quotes. -/
def singleQuoted (value : String) : String :=
  String.ofList ('\'' :: value.toList.flatMap quoteChar ++ ['\''])

/-- The characters of a name are written as they are. -/
theorem exists_bare {cs : List Char} (h : ∀ c ∈ cs, isNameChar c) :
    ∃ fs : List Fragment, fs.flatMap Fragment.spell = cs ∧ fs.flatMap Fragment.text = cs := by
  induction cs with
  | nil => exact ⟨[], rfl, rfl⟩
  | cons c rest ih =>
    obtain ⟨hc, hrest⟩ := List.forall_mem_cons.1 h
    obtain ⟨fs, hspell, htext⟩ := ih hrest
    exact ⟨.bare c (isUnspecial_of_isNameChar hc) :: fs, congrArg (c :: ·) hspell,
      congrArg (c :: ·) htext⟩

/-- A quotation that has begun goes on to the end of the value. -/
theorem exists_fragments {cs : List Char} (h : '\'' ∉ cs) (value : List Char) :
    ∃ fs : List Fragment,
      fs.flatMap Fragment.spell = '\'' :: cs ++ value.flatMap quoteChar ++ ['\''] ∧
      fs.flatMap Fragment.text = cs ++ value := by
  induction value generalizing cs with
  | nil =>
    refine ⟨[.single cs h], ?_, ?_⟩
    · simp [Fragment.spell]
    · simp [Fragment.text]
  | cons c rest ih =>
    by_cases hc : c = '\''
    · subst hc
      obtain ⟨fs, hspell, htext⟩ := ih (List.not_mem_nil (a := '\''))
      refine ⟨.single cs h :: .escaped '\'' (by decide) :: fs, ?_, ?_⟩
      · rw [List.flatMap_cons, List.flatMap_cons, hspell]
        simp [Fragment.spell, quoteChar]
      · rw [List.flatMap_cons, List.flatMap_cons, htext]
        simp [Fragment.text]
    · have hcs : '\'' ∉ cs ++ [c] := by
        rw [List.mem_append, List.mem_singleton, not_or]
        exact ⟨h, Ne.symm hc⟩
      obtain ⟨fs, hspell, htext⟩ := ih hcs
      refine ⟨fs, ?_, ?_⟩
      · rw [hspell]
        simp [quoteChar, hc]
      · rw [htext]
        simp

end Words

/-! ## Bindings -/

namespace Binding

/-- How a binding is written, whatever its value. -/
def spell (b : Binding) : String := b.name ++ "=" ++ Words.singleQuoted b.value

/-- What is rendered is read back. -/
theorem parse?_render {b : Binding} (h : isName b.name.toList) : parse? b.render = some b := by
  have hname : ∀ c ∈ b.name.toList, (c != '=') = true := by
    intro c hc
    rw [isName, Bool.and_eq_true, List.all_eq_true] at h
    exact bne_iff_ne.2 (ne_of_isNameChar (h.2 c hc) (by decide))
  have htext : b.render.toList = b.name.toList ++ '=' :: b.value.toList := by
    simp [render]
  have htake : b.render.toList.takeWhile (· != '=') = b.name.toList := by
    rw [htext, List.takeWhile_append_of_pos hname]
    simp
  have hdrop : b.render.toList.dropWhile (· != '=') = '=' :: b.value.toList := by
    rw [htext, List.dropWhile_append_of_pos hname]
    rfl
  simp [parse?, htake, hdrop, h]

/-- A binding is written as one word. -/
theorem exists_spelling {b : Binding} (h : isName b.name.toList) :
    ∃ s : Words.Spelling, s.word = b.render ∧ s.spell = b.spell.toList := by
  rw [isName, Bool.and_eq_true, List.all_eq_true] at h
  obtain ⟨gs, hname, hname'⟩ := Words.exists_bare h.2
  obtain ⟨fs, hvalue, hvalue'⟩ :=
    Words.exists_fragments (List.not_mem_nil (a := '\'')) b.value.toList
  have hne : gs ++ .bare '=' (by decide) :: fs ≠ [] :=
    List.append_ne_nil_of_right_ne_nil gs (List.cons_ne_nil _ fs)
  refine ⟨⟨_, hne⟩, ?_, ?_⟩
  · rw [Words.Spelling.word, List.flatMap_append, List.flatMap_cons, hname', hvalue', render,
      ← String.toList_inj]
    simp [Words.Fragment.text]
  · rw [Words.Spelling.spell, List.flatMap_append, List.flatMap_cons, hname, hvalue]
    simp [Words.Fragment.spell, spell, Words.singleQuoted]

end Binding

/-! ## References between double quotes -/

/-- A reference to a variable between double quotes. -/
def Words.quotedReference (name : String) : String := "\"$" ++ name ++ "\""

/-- What a reference between double quotes is read as. -/
def Token.quotedReference (name : String) : Token :=
  .boundary :: .plain '$' :: name.toList.map .plain ++ [.boundary]

namespace Words.Progress

theorem readAll_quotedReference {name : String} (h : ∀ c ∈ name.toList, isNameChar c)
    (finished : List Token) :
    readAll ⟨none, finished⟩ (quotedReference name).toList =
      ⟨some ⟨.word, (Token.quotedReference name).reverse⟩, finished⟩ := by
  have hinner : ∀ g ∈ ('$' :: name.toList).map Glyph.plain, Quote.double.Inner g := by
    have htext : ∀ c ∈ '$' :: name.toList, c ≠ '\\' ∧ c ≠ '"' :=
      List.forall_mem_cons.2 ⟨by decide, fun c hc =>
        ⟨ne_of_isNameChar (h c hc) (by decide), ne_of_isNameChar (h c hc) (by decide)⟩⟩
    intro g hg
    obtain ⟨c, hc, rfl⟩ := List.mem_map.1 hg
    exact .plain (htext c hc).1 (htext c hc).2
  have hspell : (quotedReference name).toList =
      '"' :: (('$' :: name.toList).map Glyph.plain).flatMap Quote.double.spell ++ ['"'] := by
    have hplain : (('$' :: name.toList).map Glyph.plain).flatMap Quote.double.spell =
        '$' :: name.toList := by
      rw [List.flatMap_map]
      exact List.flatMap_singleton' _
    rw [hplain]
    simp [quotedReference]
  have hread := readAll_quotation [] finished hinner
  rw [List.append_nil] at hread
  rw [hspell, List.cons_append, readAll_cons, read_begin finished (by decide) (by decide)]
  exact hread

/-- A word ends before a blank or a bar. -/
theorem readAll_word_end {c : Char} (hc : c = '|' ∨ isBlank c) (glyphs : List Glyph)
    (finished : List Token) (rest : List Char) :
    readAll ⟨some ⟨.word, glyphs⟩, finished⟩ (c :: rest) =
      readAll ⟨none, glyphs.reverse :: finished⟩ (c :: rest) := by
  have hends : OpenWord.endsAt ⟨.word, glyphs⟩ c := ⟨rfl, hc⟩
  simp only [readAll_cons, read, if_pos hends]
  rfl

end Words.Progress

namespace Words

/-- Behind a complete text no word is open. -/
theorem readAll_of_read {text : String} {tokens : List Token}
    (h : read text = .ok (.done, tokens)) :
    Progress.start.readAll text.toList = ⟨none, tokens.reverse⟩ := by
  rw [read_eq, Progress.status_reader, Progress.tokens_reader] at h
  obtain ⟨hstatus, rfl⟩ := Prod.mk.inj (Except.ok.inj h)
  generalize Progress.start.readAll text.toList = p at hstatus ⊢
  obtain ⟨_ | w, finished⟩ := p
  · rw [List.reverse_reverse]
  · cases hstatus

/-- **A reference between double quotes is one word**, where a complete text is before
it and a blank or a bar behind it. -/
theorem read_quotedReference {name : String} (h : ∀ c ∈ name.toList, isNameChar c)
    {before after : String} {earlier later : List Token}
    (hbefore : read before = .ok (.done, earlier)) (hafter : read after = .ok (.done, later))
    (hend : ∃ c ∈ after.toList.head?, c = '|' ∨ isBlank c) :
    read (before ++ quotedReference name ++ after) =
      .ok (.done, earlier ++ Token.quotedReference name :: later) := by
  obtain ⟨c, hc, hend⟩ := hend
  obtain ⟨rest, hrest⟩ := List.head?_eq_some_iff.1 hc
  have hlater := readAll_of_read hafter
  have hread : Progress.start.readAll (before ++ quotedReference name ++ after).toList =
      ⟨none, later.reverse ++ Token.quotedReference name :: earlier.reverse⟩ := by
    rw [String.toList_append, String.toList_append, Progress.readAll_append,
      Progress.readAll_append, readAll_of_read hbefore, Progress.readAll_quotedReference h, hrest,
      Progress.readAll_word_end hend, List.reverse_reverse, ← hrest]
    have hbehind := Progress.readAll_after .start
      (Token.quotedReference name :: earlier.reverse) after.toList
    rw [hlater] at hbehind
    exact hbehind
  rw [read_eq, hread]
  simp [Progress.status_reader]

end Words

namespace Token

/-- A reference between double quotes expands to the value between boundaries. -/
theorem expand_quotedReference {name : String} (h : ∀ c ∈ name.toList, isNameChar c)
    (vs : Variables) : (quotedReference name).expand vs =
      .boundary :: (vs.value name).toList.map .plain ++ [.boundary] := by
  have hend : ∀ g ∈ [Glyph.boundary].head?, g.continuesName = false :=
    fun g hg => Option.some.inj hg ▸ rfl
  have hboundary : substitute vs [.boundary] = [.boundary] := by
    simp [substitute, Glyph.opensReference, Glyph.boundary]
  rw [expand_eq_substitute, quotedReference, List.cons_append, substitute, if_neg (by decide),
    List.cons_append, substitute_reference (by decide) h hend, hboundary, String.ofList_toList]
  rfl

/-- What the reference expands to has the text of the value. -/
theorem render_expand_quotedReference {name : String} (h : ∀ c ∈ name.toList, isNameChar c)
    (vs : Variables) : ((quotedReference name).expand vs).render = vs.value name := by
  rw [expand_quotedReference h, render, Words.chars_enclosed,
    Words.chars_map (fun _ => rfl) (fun _ => rfl), String.ofList_toList]

/-- What the reference expands to does not divide commands. -/
theorem isBar_expand_quotedReference {name : String} (h : ∀ c ∈ name.toList, isNameChar c)
    (vs : Variables) : ((quotedReference name).expand vs).isBar = false := by
  rw [expand_quotedReference h, Bool.eq_false_iff, ne_eq, isBar_iff]
  intro hbar
  exact absurd (List.cons.inj hbar).1 (by decide)

end Token

end LineShell
