import Mathlib.Data.Set.Card
import LineShell.Proofs.Text.Basic
import LineShell.Utility.Content

/-!
# How many words there are

Words are counted in one pass, which knows only whether it is inside a word.  They are the
maximal rows of characters that are not blank (`IsRun`), and each is counted where it begins
(`begins`): one more character adds a word just if a row begins there
(`wordCount_concat`), and every row has one beginning (`ncard_runs`).

What has been counted of some bytes does not depend on what follows them, if no word goes on
behind them.  A blank byte of ASCII is read as itself even where the bytes before it are no
text, so it can be cut behind.  Main statement: `ofBytes_splits`.
-/

namespace LineShell.Utility.Counts

/-! ## Counting from left to right -/

/-- Whether a word is open behind some characters. -/
def insideAfter (inside : Bool) (cs : List Char) : Bool :=
  cs.foldl (fun _ c => !isBlank c) inside

theorem wordsFrom_append (inside : Bool) (count : Nat) (cs ds : List Char) :
    wordsFrom inside count (cs ++ ds) =
      wordsFrom (insideAfter inside cs) (wordsFrom inside count cs) ds := by
  induction cs generalizing inside count with
  | nil => rfl
  | cons c rest ih =>
    have hinside : insideAfter inside (c :: rest) = insideAfter (!isBlank c) rest := rfl
    rw [List.cons_append, wordsFrom, wordsFrom, hinside]
    split
    · next hc => rw [ih, hc, Bool.not_true]
    · next hc => rw [ih, Bool.eq_false_iff.2 hc, Bool.not_false]

theorem wordsFrom_eq_add (inside : Bool) (count : Nat) (cs : List Char) :
    wordsFrom inside count cs = count + wordsFrom inside 0 cs := by
  induction cs generalizing inside count with
  | nil => rfl
  | cons c rest ih =>
    rw [wordsFrom, wordsFrom]
    split
    · exact ih false count
    · rw [ih true, ih true (if inside then 0 else 0 + 1), ← Nat.add_assoc]
      cases inside <;> rfl

theorem wordCount_append {cs : List Char} (h : insideAfter false cs = false) (ds : List Char) :
    wordCount (cs ++ ds) = wordCount cs + wordCount ds := by
  unfold wordCount
  rw [wordsFrom_append, h, wordsFrom_eq_add]

/-! ## Rows of characters -/

/-- Whether a blank stands at a place. -/
def blankAt (cs : List Char) (i : Nat) : Bool := (cs[i]?).any isBlank

/-- From `i` up to `j` there is no blank, and there is one on either side or the text
ends. -/
structure IsRun (cs : List Char) (i j : Nat) : Prop where
  lt : i < j
  le : j ≤ cs.length
  inside : ∀ k, i ≤ k → k < j → blankAt cs k = false
  before : i = 0 ∨ blankAt cs (i - 1) = true
  after : j = cs.length ∨ blankAt cs j = true

/-- Whether a row begins at a place. -/
def begins (cs : List Char) (i : Nat) : Bool :=
  !blankAt cs i && (i == 0 || blankAt cs (i - 1))

variable {cs : List Char}

theorem IsRun.begins {i j : Nat} (h : IsRun cs i j) : begins cs i = true := by
  have hi := h.inside i (Nat.le_refl i) h.lt
  have hbefore := h.before
  simp only [Counts.begins, hi, Bool.not_false, Bool.true_and, Bool.or_eq_true, beq_iff_eq]
  exact hbefore

/-- A row ends where the first blank is, or with the text. -/
theorem exists_isRun {i : Nat} (hlt : i < cs.length) (h : begins cs i = true) :
    ∃ j, IsRun cs i j := by
  have hex : ∃ j, i < j ∧ (j = cs.length ∨ blankAt cs j = true) := ⟨cs.length, hlt, .inl rfl⟩
  obtain ⟨hij, hafter⟩ := Nat.find_spec hex
  have hfirst : ∀ k, k < Nat.find hex → ¬ (i < k ∧ (k = cs.length ∨ blankAt cs k = true)) :=
    fun k hk => Nat.find_min hex hk
  simp only [begins, Bool.and_eq_true, Bool.not_eq_true', Bool.or_eq_true, beq_iff_eq] at h
  refine ⟨Nat.find hex, hij, Nat.find_min' hex ⟨hlt, .inl rfl⟩, ?_, h.2, hafter⟩
  intro k hik hk
  rcases Nat.eq_or_lt_of_le hik with rfl | hik
  · exact h.1
  · apply Bool.eq_false_iff.2
    intro hblank
    exact hfirst k hk ⟨hik, .inr hblank⟩

theorem IsRun.end_le {i j j' : Nat} (h : IsRun cs i j) (h' : IsRun cs i j') : j ≤ j' := by
  by_contra hlt
  rcases h'.after with hend | hblank
  · have hle := h.le
    omega
  · have hlt' := h'.lt
    rw [h.inside j' (by omega) (by omega)] at hblank
    cases hblank

/-- There are as many rows as beginnings. -/
theorem ncard_runs (cs : List Char) :
    {r : Nat × Nat | IsRun cs r.1 r.2}.ncard =
      ((Finset.range cs.length).filter fun i => begins cs i = true).card := by
  have himage : Prod.fst '' {r : Nat × Nat | IsRun cs r.1 r.2} =
      ((Finset.range cs.length).filter fun i => begins cs i = true : Finset Nat) := by
    ext i
    simp only [Set.mem_image, Set.mem_ofPred_eq, Finset.coe_filter, Finset.mem_range]
    constructor
    · rintro ⟨⟨i, j⟩, hrun, rfl⟩
      exact ⟨Nat.lt_of_lt_of_le hrun.lt hrun.le, hrun.begins⟩
    · rintro ⟨hlt, hbegins⟩
      obtain ⟨j, hrun⟩ := exists_isRun hlt hbegins
      exact ⟨(i, j), hrun, rfl⟩
  have hinj : Set.InjOn Prod.fst {r : Nat × Nat | IsRun cs r.1 r.2} := by
    rintro ⟨i, j⟩ hrun ⟨i', j'⟩ hrun' hi
    obtain rfl : i = i' := hi
    exact Prod.ext rfl (Nat.le_antisymm (hrun.end_le hrun') (hrun'.end_le hrun))
  rw [← Set.ncard_coe_finset, ← himage, hinj.ncard_image]

/-! ## One more character -/

theorem blankAt_append {ds : List Char} {i : Nat} (h : i < cs.length) :
    blankAt (cs ++ ds) i = blankAt cs i := by
  rw [blankAt, List.getElem?_append_left h, blankAt]

theorem begins_append {ds : List Char} {i : Nat} (h : i < cs.length) :
    begins (cs ++ ds) i = begins cs i := by
  rw [begins, begins, blankAt_append h, blankAt_append (by omega)]

/-- A character that is not blank begins a word unless it goes on with one. -/
theorem begins_concat (cs : List Char) (c : Char) :
    begins (cs ++ [c]) cs.length = (!isBlank c && !insideAfter false cs) := by
  have hlast : blankAt (cs ++ [c]) cs.length = isBlank c := by
    simp [blankAt]
  rw [begins, hlast]
  congr 1
  rcases List.eq_nil_or_concat' cs with rfl | ⟨front, d, rfl⟩
  · rfl
  · have hinside : insideAfter false (front ++ [d]) = !isBlank d := by
      simp [insideAfter]
    rw [hinside]
    simp [blankAt]

theorem wordCount_concat (cs : List Char) (c : Char) :
    wordCount (cs ++ [c]) = wordCount cs + if begins (cs ++ [c]) cs.length then 1 else 0 := by
  rw [begins_concat, wordCount, wordsFrom_append, wordsFrom, wordsFrom, wordsFrom, wordCount]
  cases isBlank c <;> cases insideAfter false cs <;> rfl

/-- **The words that are counted are the maximal rows without blanks.** -/
theorem wordCount_eq_runs (cs : List Char) :
    wordCount cs = {r : Nat × Nat | IsRun cs r.1 r.2}.ncard := by
  rw [ncard_runs]
  induction cs using List.reverseRecOn with
  | nil => rfl
  | append_singleton cs c ih =>
    have hsame : ((Finset.range cs.length).filter fun i => begins (cs ++ [c]) i = true) =
        (Finset.range cs.length).filter fun i => begins cs i = true := by
      apply Finset.filter_congr
      intro i hi
      rw [begins_append (Finset.mem_range.1 hi)]
    rw [wordCount_concat, ih, List.length_append, List.length_singleton, Finset.range_add_one,
      Finset.filter_insert, hsame]
    split
    · rw [Finset.card_insert_of_notMem]
      simp
    · rfl

/-! ## Bytes -/

/-- **Counts add up behind a blank byte.**  Lines and bytes add up wherever bytes are cut.
Words do if nothing comes before the cut, or a blank byte of ASCII, be the rest text or not.
And the words of a text are the maximal rows of its characters without blanks. -/
theorem ofBytes_splits (as bs : Bytes) (cs : List Char) :
    (ofBytes (as ++ bs)).lines = (ofBytes as).lines + (ofBytes bs).lines ∧
    (ofBytes (as ++ bs)).bytes = (ofBytes as).bytes + (ofBytes bs).bytes ∧
    ((∀ b ∈ as.getLast?, b.toNat < 0x80 ∧ isBlank (Char.ofNat b.toNat) = true) →
      (ofBytes (as ++ bs)).words = (ofBytes as).words + (ofBytes bs).words) ∧
    (ofBytes (Utf8.encode cs)).words = {r : Nat × Nat | IsRun cs r.1 r.2}.ncard := by
  refine ⟨List.count_append, List.length_append, fun hblank => ?_, ?_⟩
  · have hinside : insideAfter false (Utf8.decodeLossy as) = false := by
      rcases List.eq_nil_or_concat' as with rfl | ⟨front, b, rfl⟩
      · simp [Utf8.decodeLossy, insideAfter]
      · obtain ⟨hlow, hb⟩ := hblank b List.getLast?_concat
        simp [Utf8.decodeLossy_concat hlow, insideAfter, hb]
    have htext := Utf8.decodeLossy_append (fun b hb => (hblank b hb).1) bs
    unfold ofBytes
    dsimp only
    rw [htext, wordCount_append hinside]
  · have htext : Utf8.decodeLossy (Utf8.encode cs) = cs := by
      simp [Utf8.decodeLossy, Utf8.scan_encode]
    unfold ofBytes
    dsimp only
    rw [htext, wordCount_eq_runs]

/-- A character that is cut short, a line break, and more behind it. -/
theorem ofBytes_splits_broken :
    (ofBytes ([97, 0xE2, 0x82, 10] ++ [98, 32, 99])).words = 3 ∧
    {r : Nat × Nat | IsRun [' ', 'a', 'b', '\u3000', 'c'] r.1 r.2}.ncard = 2 := by
  have hblank : ∀ b ∈ ([97, 0xE2, 0x82, 10] : Bytes).getLast?,
      b.toNat < 0x80 ∧ isBlank (Char.ofNat b.toNat) = true := by
    intro b hb
    obtain rfl : 10 = b := Option.some.inj hb
    decide
  obtain ⟨-, -, hwords, hruns⟩ :=
    ofBytes_splits [97, 0xE2, 0x82, 10] [98, 32, 99] [' ', 'a', 'b', '\u3000', 'c']
  exact ⟨(hwords hblank).trans (by decide +kernel), hruns.symm.trans (by decide +kernel)⟩

end LineShell.Utility.Counts
