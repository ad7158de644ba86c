import LineShell.Proofs.Variable.View

/-!
# The words of a command

A command keeps every word it is made of: its bindings, each written `NAME=VALUE`, and
the words behind them are the words it was given (`Command.texts`).  The bindings go as
far as they can, that is to the first word that cannot be read as one.

A word can be read as a binding in one way at most, because no name has an equals sign
in it (`Binding.parse?_eq_some_iff`).  So there is nothing to choose: `Decomposes` says
what a division of words into bindings and other words must satisfy, and only one
command satisfies it.  Main statement: `decomposes_iff`.
-/

namespace LineShell

/-! ## Words that are bindings -/

theorem isNameChar_iff {c : Char} : isNameChar c ↔
    'A' ≤ c ∧ c ≤ 'Z' ∨ 'a' ≤ c ∧ c ≤ 'z' ∨ '0' ≤ c ∧ c ≤ '9' ∨ c = '_' := by
  delta isNameChar Char.isAlphanum Char.isAlpha Char.isUpper Char.isLower Char.isDigit
  simp only [Bool.or_eq_true, Bool.and_eq_true, decide_eq_true_eq, beq_iff_eq, or_assoc]
  exact Iff.rfl

namespace Binding

/-- The name is one or more ASCII letters, digits and underscores. -/
structure Named (b : Binding) : Prop where
  nonempty : b.name ≠ ""
  chars : ∀ c ∈ b.name.toList,
    'A' ≤ c ∧ c ≤ 'Z' ∨ 'a' ≤ c ∧ c ≤ 'z' ∨ '0' ≤ c ∧ c ≤ '9' ∨ c = '_'

theorem named_iff {b : Binding} : b.Named ↔ isName b.name.toList := by
  have hnonempty : b.name.toList.isEmpty = false ↔ b.name ≠ "" := by
    rw [List.isEmpty_eq_false_iff, ne_eq, ne_eq, String.toList_eq_nil_iff]
  rw [isName, Bool.and_eq_true, Bool.not_eq_true', hnonempty, List.all_eq_true]
  constructor
  · intro h
    exact ⟨h.nonempty, fun c hc => isNameChar_iff.2 (h.chars c hc)⟩
  · intro h
    exact ⟨h.1, fun c hc => isNameChar_iff.1 (h.2 c hc)⟩

/-- Nothing of a word is lost when it is read as a binding. -/
theorem render_of_parse? {w : String} {b : Binding} (h : parse? w = some b) : b.render = w := by
  have hsplit : w.toList.takeWhile (· != '=') ++ w.toList.dropWhile (· != '=') = w.toList :=
    List.takeWhile_append_dropWhile
  have hhead := List.head?_dropWhile_not (· != '=') w.toList
  unfold parse? at h
  cases hrest : w.toList.dropWhile (· != '=') with
  | nil =>
    rw [hrest] at h
    cases h
  | cons c value =>
    rw [hrest] at h hsplit hhead
    obtain rfl : c = '=' := by simpa using hhead
    dsimp only at h
    split at h
    · obtain rfl := Option.some.inj h
      rw [← String.toList_inj]
      refine Eq.trans ?_ hsplit
      simp [render]
    · cases h

theorem parse?_eq_some_iff {w : String} {b : Binding} :
    parse? w = some b ↔ b.Named ∧ b.render = w := by
  constructor
  · intro h
    exact ⟨named_iff.2 (isName_of_parse? h), render_of_parse? h⟩
  · rintro ⟨hnamed, rfl⟩
    exact parse?_render (named_iff.1 hnamed)

theorem parse?_eq_none_iff {w : String} :
    parse? w = none ↔ ∀ b : Binding, b.Named → w ≠ b.render := by
  rw [Option.eq_none_iff_forall_ne_some]
  refine forall_congr' fun b => ?_
  rw [ne_eq, parse?_eq_some_iff, not_and, ne_comm]

end Binding

/-! ## Bindings and other words -/

namespace Command

/-- The words that a command is made of. -/
def texts (c : Command) : List String := c.bindings.map Binding.render ++ c.words

/-- A command has exactly these words, and as many bindings as there can be. -/
structure Decomposes (ws : List String) (c : Command) : Prop where
  texts_eq : c.texts = ws
  named : ∀ b ∈ c.bindings, b.Named
  maximal : ∀ w ∈ c.words.head?, ∀ b : Binding, b.Named → w ≠ b.render

theorem ofWords_of_binding {w : String} {b : Binding} (h : Binding.parse? w = some b)
    (rest : List String) :
    ofWords (w :: rest) = ⟨b :: (ofWords rest).bindings, (ofWords rest).words⟩ := by
  simp only [ofWords, splitBindings, h]

theorem ofWords_of_word {w : String} (h : Binding.parse? w = none) (rest : List String) :
    ofWords (w :: rest) = ⟨[], w :: rest⟩ := by
  simp only [ofWords, splitBindings, h]

theorem decomposes_ofWords (ws : List String) : Decomposes ws (ofWords ws) := by
  induction ws with
  | nil => exact ⟨rfl, List.forall_mem_nil _, fun w hw => by cases hw⟩
  | cons w rest ih =>
    cases hparse : Binding.parse? w with
    | none =>
      rw [ofWords_of_word hparse]
      refine ⟨rfl, List.forall_mem_nil _, fun v hv => ?_⟩
      obtain rfl : w = v := Option.some.inj hv
      exact Binding.parse?_eq_none_iff.1 hparse
    | some b =>
      obtain ⟨hnamed, hrender⟩ := Binding.parse?_eq_some_iff.1 hparse
      rw [ofWords_of_binding hparse]
      refine ⟨?_, List.forall_mem_cons.2 ⟨hnamed, ih.named⟩, ih.maximal⟩
      calc texts ⟨b :: (ofWords rest).bindings, (ofWords rest).words⟩
          = b.render :: (ofWords rest).texts := rfl
        _ = w :: rest := by rw [hrender, ih.texts_eq]

/-- Where the bindings of a command end is decided by its words. -/
theorem Decomposes.eq_ofWords {ws : List String} {c : Command} (h : Decomposes ws c) :
    c = ofWords ws := by
  obtain ⟨bs, words⟩ := c
  obtain ⟨rfl, hnamed, hmaximal⟩ := h
  induction bs with
  | nil =>
    cases words with
    | nil => rfl
    | cons w rest =>
      have hparse : Binding.parse? w = none := Binding.parse?_eq_none_iff.2 (hmaximal w rfl)
      exact (ofWords_of_word hparse rest).symm
  | cons b bs ih =>
    obtain ⟨hb, hbs⟩ := List.forall_mem_cons.1 hnamed
    have hparse : Binding.parse? b.render = some b := Binding.parse?_eq_some_iff.2 ⟨hb, rfl⟩
    have hrest : (⟨bs, words⟩ : Command) = ofWords (texts ⟨bs, words⟩) := ih hbs hmaximal
    have hstep := ofWords_of_binding hparse (texts ⟨bs, words⟩)
    rw [← hrest] at hstep
    exact hstep.symm

/-- **Words make a command in exactly one way**: nothing of them is lost, the bindings
have names, and the first other word could not be a binding.  In particular a binding
in front takes everything behind its first equals sign as its value, and behind a word
that is no binding all words stay as they are. -/
theorem decomposes_iff (ws : List String) :
    (∀ c, Decomposes ws c ↔ c = ofWords ws) ∧
    (∀ b : Binding, b.Named →
      ofWords (b.render :: ws) = ⟨b :: (ofWords ws).bindings, (ofWords ws).words⟩) ∧
    ∀ w, (∀ b : Binding, b.Named → w ≠ b.render) → ofWords (w :: ws) = ⟨[], w :: ws⟩ := by
  refine ⟨fun c => ⟨Decomposes.eq_ofWords, ?_⟩, fun b hb => ?_, fun w hw => ?_⟩
  · rintro rfl
    exact decomposes_ofWords ws
  · exact ofWords_of_binding (Binding.parse?_eq_some_iff.2 ⟨hb, rfl⟩) ws
  · exact ofWords_of_word (Binding.parse?_eq_none_iff.2 hw) ws

example : ofWords ["A=1", "B=x=y", "=z", "C=2"] =
    ⟨[⟨"A", "1"⟩, ⟨"B", "x=y"⟩], ["=z", "C=2"]⟩ := by decide

end Command

end LineShell
