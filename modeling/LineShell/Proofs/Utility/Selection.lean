import LineShell.Proofs.Stream.Sink
import LineShell.Proofs.Text.Basic
import LineShell.Utility.Grep

/-!
# Which lines a search prints

A search goes through the lines once.  It keeps how many lines are still to be printed
because of the last match, and which line was printed last.  What it prints can be said
without either: line `i` is selected if a line that matches stands at most `after` lines
before it (`Selected`), and hyphens stand before a selected line if an earlier one is
selected and the line right before it is not (`Apart`).

The two notions meet in `Search.Tracks`.  What is left of the context says of all lines to
come which of them the lines so far select; so it has to speak of every `i` from here on,
not only of the next line.  Main statement: `searchTo_selects`.
-/

namespace LineShell.Utility.Grep

/-! ## The lines that are selected -/

namespace Criteria

variable (c : Criteria) (lines : List Bytes)

/-- Whether line `i` is text that matches. -/
def matchesAt (i : Nat) : Bool := (lines[i]?.bind Utf8.decode?).any c.isMatch

/-- A line that matches stands at line `i`, or at most `after` lines before it. -/
def Selected (i : Nat) : Prop := ∃ j, j ≤ i ∧ i - j ≤ c.after ∧ c.matchesAt lines j = true

/-- Context is asked for, and line `i` does not touch the selected lines before it. -/
def Apart (i : Nat) : Prop :=
  0 < c.after ∧ (∃ k, k < i ∧ c.Selected lines k) ∧ ¬ c.Selected lines (i - 1)

instance (i : Nat) : Decidable (c.Selected lines i) :=
  inferInstanceAs (Decidable (∃ j, j ≤ i ∧ i - j ≤ c.after ∧ c.matchesAt lines j = true))

instance (i : Nat) : Decidable (c.Apart lines i) :=
  inferInstanceAs (Decidable (_ ∧ _ ∧ _))

/-- What stands before every line. -/
def labelBytes : Bytes :=
  match c.label with
  | some l => bytesOf (l ++ ":")
  | none => []

/-- What is printed of line `i`: nothing, or the whole line. -/
def printedAt (i : Nat) : Bytes :=
  if c.Selected lines i then
    (if c.Apart lines i then bytesOf "--\n" else []) ++ c.labelBytes ++ lines.getD i [] ++ [10]
  else []

/-- What is printed of some lines. -/
def printed : Bytes := (List.range lines.length).flatMap (c.printedAt lines)

variable {c lines}

/-- A line is selected because of itself or because of lines before it. -/
theorem selected_iff {i : Nat} : c.Selected lines i ↔
    c.matchesAt lines i = true ∨
      ∃ j, j < i ∧ i - j ≤ c.after ∧ c.matchesAt lines j = true := by
  constructor
  · rintro ⟨j, hle, hnear, hmatch⟩
    by_cases heq : j = i
    · exact .inl (heq ▸ hmatch)
    · exact .inr ⟨j, by omega, hnear, hmatch⟩
  · rintro (hmatch | ⟨j, hlt, hnear, hmatch⟩)
    · exact ⟨i, Nat.le_refl i, by omega, hmatch⟩
    · exact ⟨j, by omega, hnear, hmatch⟩

theorem matchesAt_of_text {i : Nat} {line : Bytes} {text : List Char}
    (hline : lines[i]? = some line) (htext : Utf8.decode? line = some text) :
    c.matchesAt lines i = c.isMatch text := by
  simp [matchesAt, hline, htext]

/-- Some line matches. -/
theorem exists_matchesAt_iff : (∃ j, j < lines.length ∧ c.matchesAt lines j = true) ↔
    ∃ line ∈ lines, ∃ text, Utf8.decode? line = some text ∧ c.isMatch text = true := by
  constructor
  · rintro ⟨j, hj, hmatch⟩
    rw [matchesAt, List.getElem?_eq_getElem hj, Option.bind_some, Option.any_eq_true] at hmatch
    exact ⟨lines[j], List.getElem_mem hj, hmatch⟩
  · rintro ⟨line, hline, text, htext, hmatch⟩
    obtain ⟨j, hj⟩ := List.mem_iff_getElem?.1 hline
    refine ⟨j, (List.getElem?_eq_some_iff.1 hj).1, ?_⟩
    rw [matchesAt_of_text hj htext, hmatch]

/-! Lines further on make no difference to what is printed of a line. -/

section Prefix

variable {more : List Bytes}

theorem matchesAt_append {i : Nat} (h : i < lines.length) :
    c.matchesAt (lines ++ more) i = c.matchesAt lines i := by
  unfold matchesAt
  rw [List.getElem?_append_left h]

theorem selected_append {i : Nat} (h : i < lines.length) :
    c.Selected (lines ++ more) i ↔ c.Selected lines i := by
  have hmatch : ∀ j, j ≤ i → c.matchesAt (lines ++ more) j = c.matchesAt lines j :=
    fun j hj => matchesAt_append (by omega)
  constructor
  · rintro ⟨j, hle, hnear, hj⟩
    exact ⟨j, hle, hnear, hmatch j hle ▸ hj⟩
  · rintro ⟨j, hle, hnear, hj⟩
    exact ⟨j, hle, hnear, (hmatch j hle).trans hj⟩

theorem apart_append {i : Nat} (h : i < lines.length) :
    c.Apart (lines ++ more) i ↔ c.Apart lines i := by
  have hearlier : (∃ k, k < i ∧ c.Selected (lines ++ more) k) ↔
      ∃ k, k < i ∧ c.Selected lines k := by
    apply exists_congr
    intro k
    apply and_congr_right
    intro hk
    exact selected_append (by omega)
  unfold Apart
  rw [hearlier, selected_append (by omega)]

theorem printedAt_append {i : Nat} (h : i < lines.length) :
    c.printedAt (lines ++ more) i = c.printedAt lines i := by
  have hline : (lines ++ more).getD i [] = lines.getD i [] := by
    rw [List.getD_eq_getElem?_getD, List.getD_eq_getElem?_getD, List.getElem?_append_left h]
  unfold printedAt
  simp only [selected_append h, apart_append h, hline]

theorem printed_append : (List.range lines.length).flatMap (c.printedAt (lines ++ more)) =
    c.printed lines := by
  unfold printed
  rw [List.flatMap_def, List.flatMap_def]
  congr 1
  apply List.map_congr_left
  intro i hi
  exact printedAt_append (List.mem_range.1 hi)

end Prefix

end Criteria

/-! ## What a search keeps -/

namespace Search

variable {c : Criteria} {lines : List Bytes}

/-- A search that has read `n` lines. -/
structure Tracks (c : Criteria) (lines : List Bytes) (n : Nat) (s : Search) : Prop where
  index : s.index = n
  left : ∀ i, n ≤ i →
    ((∃ j, j < n ∧ i - j ≤ c.after ∧ c.matchesAt lines j = true) ↔ i < n + s.left)
  printed : (s.printed = none ∧ ∀ k, k < n → ¬ c.Selected lines k) ∨
    ∃ p, p < n ∧ s.printed = some p ∧ c.Selected lines p ∧
      ∀ k, p < k → k < n → ¬ c.Selected lines k
  matched : s.matched = true ↔ ∃ j, j < n ∧ c.matchesAt lines j = true
  output : s.output.toList = (List.range n).flatMap (c.printedAt lines)

theorem tracks_start (c : Criteria) (lines : List Bytes) : Tracks c lines 0 start where
  index := rfl
  left := by
    intro i hi
    simp [start]
  printed := .inl ⟨rfl, fun k hk => absurd hk (Nat.not_lt_zero k)⟩
  matched := by simp [start]
  output := rfl

namespace Tracks

variable {n : Nat} {s : Search}

/-- The next line is shown just if it is selected. -/
theorem shown_iff (h : Tracks c lines n s) :
    (c.matchesAt lines n || decide (s.left > 0)) = true ↔ c.Selected lines n := by
  have hleft := h.left n (Nat.le_refl n)
  rw [Bool.or_eq_true, decide_eq_true_eq, Criteria.selected_iff, hleft]
  apply or_congr_right
  omega

/-- The hyphens depend on the line that was printed last, which is the last one selected. -/
theorem lead_eq (h : Tracks c lines n s) :
    s.lead c = (if c.Apart lines n then bytesOf "--\n" else []) ++ c.labelBytes := by
  have hgap : (decide (c.after > 0) && s.printed.any fun p => decide (s.index > p + 1)) = true ↔
      c.Apart lines n := by
    rw [Bool.and_eq_true, decide_eq_true_eq, Criteria.Apart]
    apply and_congr_right
    intro _
    rcases h.printed with ⟨hnone, hunselected⟩ | ⟨p, hp, hsome, hselected, hlast⟩
    · rw [hnone]
      constructor
      · intro habs
        cases habs
      · rintro ⟨⟨k, hk, hselected⟩, -⟩
        exact absurd hselected (hunselected k hk)
    · rw [hsome, Option.any_some, decide_eq_true_eq, h.index]
      constructor
      · intro hlt
        exact ⟨⟨p, hp, hselected⟩, hlast (n - 1) (by omega) (by omega)⟩
      · rintro ⟨-, hbefore⟩
        -- The last selected line cannot be the one right before this one.
        have hne : p ≠ n - 1 := fun e => hbefore (e ▸ hselected)
        omega
  unfold lead
  simp only [hgap]
  rfl

/-- **One more line.** -/
theorem step (h : Tracks c lines n s) {line : Bytes} {text : List Char}
    (hline : lines[n]? = some (Lines.content line))
    (htext : Utf8.decode? (Lines.content line) = some text) :
    Tracks c lines (n + 1) (s.step c line text) := by
  have hmatch : c.matchesAt lines n = c.isMatch text := Criteria.matchesAt_of_text hline htext
  have hshown := h.shown_iff
  rw [hmatch] at hshown
  have hsplit : ∀ P : Nat → Prop, (∃ j, j < n + 1 ∧ P j) ↔ (∃ j, j < n ∧ P j) ∨ P n := by
    intro P
    simp only [Nat.lt_succ_iff_lt_or_eq, or_and_right, exists_or, exists_eq_left]
  constructor
  case index => exact congrArg (· + 1) h.index
  case left =>
    intro i hi
    have hleft := h.left i (by omega)
    rw [hsplit, hleft, hmatch]
    cases hm : c.isMatch text with
    | true =>
      simp only [Search.step, hm, if_true, and_true]
      -- No earlier match reaches further than this one.
      have hfurthest : i < n + s.left → i - n ≤ c.after := by
        intro hlt
        obtain ⟨j, hj, hnear, -⟩ := hleft.2 hlt
        omega
      omega
    | false =>
      simp only [Search.step, hm, Bool.false_eq_true, if_false, and_false, or_false]
      omega
  case printed =>
    by_cases hs : c.Selected lines n
    · right
      refine ⟨n, Nat.lt_succ_self n, ?_, hs, fun k hlt hk => absurd hk (by omega)⟩
      simp only [Search.step, hshown.2 hs, if_true, h.index]
    · have hsame : (s.step c line text).printed = s.printed := by
        have hnot : ¬ (c.isMatch text || decide (s.left > 0)) = true := fun e => hs (hshown.1 e)
        simp only [Search.step, if_neg hnot]
      rw [hsame]
      rcases h.printed with ⟨hnone, hunselected⟩ | ⟨p, hp, hsome, hselected, hlast⟩
      · left
        refine ⟨hnone, fun k hk => ?_⟩
        rcases Nat.lt_succ_iff_lt_or_eq.1 hk with hk | rfl
        · exact hunselected k hk
        · exact hs
      · right
        refine ⟨p, by omega, hsome, hselected, fun k hlt hk => ?_⟩
        rcases Nat.lt_succ_iff_lt_or_eq.1 hk with hk | rfl
        · exact hlast k hlt hk
        · exact hs
  case matched =>
    rw [hsplit, hmatch, ← h.matched]
    simp only [Search.step, Bool.or_eq_true]
  case output =>
    rw [List.range_succ, List.flatMap_append, ← h.output, List.flatMap_singleton,
      Criteria.printedAt]
    by_cases hs : c.Selected lines n
    · have hcontent : lines.getD n [] = Lines.content line := by
        rw [List.getD_eq_getElem?_getD, hline, Option.getD_some]
      have hbreak := Lines.append_break line
      simp only [Search.step, hshown.2 hs, if_true, if_pos hs, h.lead_eq, hcontent,
        List.append_assoc, ← hbreak]
      simp
    · have hnot : ¬ (c.isMatch text || decide (s.left > 0)) = true := fun e => hs (hshown.1 e)
      simp only [Search.step, if_neg hnot, if_neg hs, List.append_nil]

/-- Any number of lines that are text. -/
theorem run_text (h : Tracks c lines n s) {front : List Bytes}
    (hfront : front.map Lines.content <+: lines.drop n)
    (htext : ∀ line ∈ front, ∃ text, Utf8.decode? (Lines.content line) = some text)
    (rest : List Bytes) :
    ∃ r, Tracks c lines (n + front.length) r ∧
      Search.run c s (front ++ rest) = Search.run c r rest := by
  induction front generalizing n s with
  | nil => exact ⟨s, h, rfl⟩
  | cons line front ih =>
    obtain ⟨text, hline⟩ := htext line List.mem_cons_self
    obtain ⟨later, hlater⟩ := hfront
    have hnext : lines[n]? = some (Lines.content line) := by
      rw [← List.head?_drop, ← hlater]
      rfl
    have hafter : front.map Lines.content <+: lines.drop (n + 1) := by
      rw [← List.tail_drop, ← hlater]
      exact List.prefix_append _ _
    obtain ⟨r, hr, hrun⟩ := ih (h.step hnext hline) hafter
      fun l hl => htext l (List.mem_cons_of_mem line hl)
    refine ⟨r, ?_, ?_⟩
    · rw [List.length_cons, Nat.add_comm front.length, ← Nat.add_assoc]
      exact hr
    · rw [List.cons_append, Search.run, Lines.text?_eq, hline]
      exact hrun

end Tracks

end Search

/-! ## What a search comes to -/

variable {c : Criteria} {bs : Bytes}

/-- A search of bytes that are all text. -/
theorem search_text (c : Criteria)
    (htext : ∀ line ∈ Lines.contents bs, ∃ text, Utf8.decode? line = some text) :
    ∃ found, search c (.ofBytes bs) = (c.printed (Lines.contents bs), .ok found) ∧
      (found = true ↔ ∃ j, j < (Lines.contents bs).length ∧
        c.matchesAt (Lines.contents bs) j = true) := by
  have hsplit := Lines.split_eq_contents bs
  have hread : ∀ line ∈ Lines.split bs, ∃ text, Utf8.decode? (Lines.content line) = some text := by
    intro line hline
    apply htext
    rw [← hsplit]
    exact List.mem_map_of_mem hline
  have hprefix : (Lines.split bs).map Lines.content <+: (Lines.contents bs).drop 0 := by
    rw [hsplit]
    exact List.prefix_refl _
  obtain ⟨r, hr, hrun⟩ := (Search.tracks_start c (Lines.contents bs)).run_text hprefix hread []
  have hlength : 0 + (Lines.split bs).length = (Lines.contents bs).length := by
    rw [← hsplit, List.length_map, Nat.zero_add]
  rw [hlength] at hr
  rw [List.append_nil, Search.run] at hrun
  refine ⟨r.matched, ?_, hr.matched⟩
  simp only [search, sourceLines, Source.ofBytes, hrun, hr.output]
  rfl

/-- A search that meets a line that is no text. -/
theorem search_garbled (c : Criteria) {before after : List Bytes} {line : Bytes}
    (hlines : Lines.contents bs = before ++ line :: after)
    (htext : ∀ l ∈ before, ∃ text, Utf8.decode? l = some text)
    (hgarbled : Utf8.decode? line = none) :
    search c (.ofBytes bs) = (c.printed before, .error .notUtf8) := by
  have hsplit := Lines.split_eq_contents bs
  rw [hlines] at hsplit
  obtain ⟨front, rest, hraw, hfront, hrest⟩ := List.map_eq_append_iff.1 hsplit
  obtain ⟨bad, more, rfl, hbad, -⟩ := List.map_eq_cons_iff.1 hrest
  have hread : ∀ l ∈ front, ∃ text, Utf8.decode? (Lines.content l) = some text := by
    intro l hl
    apply htext
    rw [← hfront]
    exact List.mem_map_of_mem hl
  have hprefix : front.map Lines.content <+: (before ++ line :: after).drop 0 := by
    rw [hfront]
    exact List.prefix_append _ _
  obtain ⟨r, hr, hrun⟩ := (Search.tracks_start c (before ++ line :: after)).run_text hprefix hread
    (bad :: more)
  have hlength : 0 + front.length = before.length := by
    rw [← hfront, List.length_map, Nat.zero_add]
  rw [hlength] at hr
  have hstop : Search.run c r (bad :: more) = (r, some .notUtf8) := by
    rw [Search.run, Lines.text?_eq, hbad, hgarbled]
  have houtput : r.output.toList = c.printed before := by
    rw [hr.output, Criteria.printed_append]
  simp only [search, sourceLines, Source.ofBytes, hraw, hrun, hstop, houtput]

/-- What is found is printed where the output takes it. -/
theorem searchTo_eq {st : Stage} (hsink : ∀ more, (st.output.write more).1 = .ok ())
    (c : Criteria) (s : Source) :
    ∃ out, searchTo c s st = ((search c s).2, { st with output := out }) ∧
      out.written = st.output.written ++ (search c s).1 := by
  have hok := hsink (search c s).1
  refine ⟨(st.output.write (search c s).1).2, ?_, Sink.written_of_ok hok⟩
  unfold searchTo Stage.write
  simp only [hok]

/-- **A search prints the selected lines.**  Line `i` is selected just if a line that
matches stands at most `after` lines before it.  The selected lines are printed once and in
order, each behind the label and with a break at its end; hyphens come before one just if
context is asked for, an earlier line is selected and the line right before is not.  The
answer is whether any line matches.  If a line is no text, the lines before it are printed
as if they were all, and the search fails. -/
theorem searchTo_selects (c : Criteria) (bs : Bytes) (st : Stage)
    (hsink : ∀ more, (st.output.write more).1 = .ok ()) :
    ∃ result out, searchTo c (.ofBytes bs) st = (result, { st with output := out }) ∧
      ((∀ line ∈ Lines.contents bs, ∃ text, Utf8.decode? line = some text) →
        out.written = st.output.written ++ c.printed (Lines.contents bs) ∧
        ∃ found, result = .ok found ∧ (found = true ↔
          ∃ line ∈ Lines.contents bs, ∃ text, Utf8.decode? line = some text ∧
            c.isMatch text = true)) ∧
      (∀ before line after, Lines.contents bs = before ++ line :: after →
        (∀ l ∈ before, ∃ text, Utf8.decode? l = some text) → Utf8.decode? line = none →
        out.written = st.output.written ++ c.printed before ∧ result = .error .notUtf8) := by
  obtain ⟨out, hrun, hwritten⟩ := searchTo_eq hsink c (.ofBytes bs)
  refine ⟨(search c (.ofBytes bs)).2, out, hrun, ?_, ?_⟩
  · intro htext
    obtain ⟨found, hsearch, hfound⟩ := search_text c htext
    rw [hsearch] at hwritten ⊢
    refine ⟨hwritten, found, rfl, hfound.trans ?_⟩
    exact Criteria.exists_matchesAt_iff
  · intro before line after hlines htext hgarbled
    have hsearch := search_garbled c hlines htext hgarbled
    rw [hsearch] at hwritten ⊢
    exact ⟨hwritten, rfl⟩

/-- Two stretches that do not touch, the last line without a break; and the same lines with
one behind them that is no text. -/
theorem searchTo_selects_gap :
    let c : Criteria := ⟨(· = ['m']), 1, some "f"⟩
    let st : Stage := ⟨.ofShared .empty, ⟨.directory []⟩, [], .ofBytes [], 0, .memory, .empty⟩
    let text := bytesOf "m\na\nb\nm"
    (∃ out, searchTo c (.ofBytes text) st = (.ok true, { st with output := out }) ∧
      out.written = bytesOf "f:m\nf:a\n--\nf:m\n") ∧
    ∃ out, searchTo c (.ofBytes (text ++ [10, 255, 10, 109])) st =
        (.error .notUtf8, { st with output := out }) ∧
      out.written = bytesOf "f:m\nf:a\n--\nf:m\n" := by
  intro c st text
  have hprinted : c.printed [[109], [97], [98], [109]] = bytesOf "f:m\nf:a\n--\nf:m\n" := by
    decide +kernel
  have htext : ∀ line ∈ [[109], [97], [98], [109]], ∃ text, Utf8.decode? line = some text := by
    simp only [← Option.isSome_iff_exists]
    decide +kernel
  have hmatch : ∃ line ∈ [[109], [97], [98], [109]], ∃ text, Utf8.decode? line = some text ∧
      c.isMatch text = true := ⟨[109], List.mem_cons_self, ['m'], by decide +kernel, rfl⟩
  constructor
  · obtain ⟨result, out, hrun, hread, -⟩ := searchTo_selects c text st fun _ => rfl
    have hlines : Lines.contents text = [[109], [97], [98], [109]] := by decide
    rw [hlines] at hread
    obtain ⟨hwritten, found, rfl, hfound⟩ := hread htext
    rw [hprinted] at hwritten
    exact ⟨out, hfound.2 hmatch ▸ hrun, hwritten⟩
  · obtain ⟨result, out, hrun, -, hstop⟩ :=
      searchTo_selects c (text ++ [10, 255, 10, 109]) st fun _ => rfl
    obtain ⟨hwritten, rfl⟩ := hstop [[109], [97], [98], [109]] [255] [[109]] (by decide) htext
      (by decide +kernel)
    rw [hprinted] at hwritten
    exact ⟨out, hrun, hwritten⟩

end LineShell.Utility.Grep
