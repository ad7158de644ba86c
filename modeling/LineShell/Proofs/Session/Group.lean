import LineShell.Proofs.Session.SingleLine

/-!
# Groups of lines

A session gathers lines until they make a complete text.  `Supply.Delivers` says
which lines the reader of lines delivers, and `Shortest` which of them belong
together: the fewest that are complete.

Lines that are typed without corrections are delivered as they stand, wherever the
input has been cut into blocks (`Supply.delivers_plain`).

What gathering comes to is known from the lines that are delivered.  It takes the
shortest complete run of them (`gather_shortest`), or else the input ends
(`gather_ended`) or a line is no text (`gather_garbled`).  One of the three is always
the case: `Supply.delivers_cases`.
-/

namespace LineShell

/-! ## Shortest runs -/

/-- A list that satisfies `P`, while no shorter run from its front does, the empty
one apart. -/
structure Shortest {α : Type} (P : List α → Prop) (l : List α) : Prop where
  nonempty : l ≠ []
  holds : P l
  shortest : ∀ run, run <+: l → run ≠ [] → P run → run = l

/-- No run from the front of a list satisfies `P`, the empty one apart. -/
def Never {α : Type} (P : List α → Prop) (l : List α) : Prop :=
  ∀ run, run <+: l → run ≠ [] → ¬ P run

section

variable {α : Type} {P : List α → Prop} {a : α} {l : List α}

theorem shortest_singleton (h : P [a]) : Shortest P [a] where
  nonempty := List.cons_ne_nil a []
  holds := h
  shortest run hrun hne _ := by
    obtain rfl | ⟨run, rfl, hnil⟩ := List.prefix_cons_iff.1 hrun
    · exact absurd rfl hne
    · rw [List.prefix_nil.1 hnil]

theorem Shortest.eq_nil (h : Shortest P (a :: l)) (ha : P [a]) : l = [] := by
  have hsingle := h.shortest [a] (List.prefix_append [a] l) (List.cons_ne_nil a []) ha
  exact (List.cons.inj hsingle).2.symm

theorem Shortest.cons (h : Shortest (fun run => P (a :: run)) l) (ha : ¬ P [a]) :
    Shortest P (a :: l) where
  nonempty := List.cons_ne_nil a l
  holds := h.holds
  shortest run hrun hne hP := by
    obtain rfl | ⟨more, rfl, hmore⟩ := List.prefix_cons_iff.1 hrun
    · exact absurd rfl hne
    · by_cases hnil : more = []
      · exact absurd (hnil ▸ hP) ha
      · rw [h.shortest more hmore hnil hP]

theorem Shortest.tail (h : Shortest P (a :: l)) (ha : ¬ P [a]) :
    Shortest (fun run => P (a :: run)) l where
  nonempty := by
    rintro rfl
    exact ha h.holds
  holds := h.holds
  shortest run hrun _ hP := by
    have hprefix := (List.prefix_cons_inj a).2 hrun
    have hcons := h.shortest (a :: run) hprefix (List.cons_ne_nil a run) hP
    exact (List.cons.inj hcons).2

theorem never_nil : Never P [] := by
  intro run hrun hne
  exact absurd (List.prefix_nil.1 hrun) hne

theorem Never.cons (h : Never (fun run => P (a :: run)) l) (ha : ¬ P [a]) : Never P (a :: l) := by
  intro run hrun hne hP
  obtain rfl | ⟨more, rfl, hmore⟩ := List.prefix_cons_iff.1 hrun
  · exact hne rfl
  · by_cases hnil : more = []
    · exact ha (hnil ▸ hP)
    · exact h more hmore hnil hP

theorem Never.head (h : Never P (a :: l)) : ¬ P [a] :=
  h [a] (List.prefix_append [a] l) (List.cons_ne_nil a [])

theorem Never.tail (h : Never P (a :: l)) : Never (fun run => P (a :: run)) l :=
  fun run hrun _ => h (a :: run) ((List.prefix_cons_inj a).2 hrun) (List.cons_ne_nil a run)

end

/-! ## Complete runs of lines -/

namespace Session

/-- The text that lines make, each with its break. -/
def textOf (lines : List String) : String := String.join (lines.map (· ++ "\n"))

@[simp] theorem textOf_nil : textOf [] = "" := rfl

@[simp] theorem textOf_cons (line : String) (lines : List String) :
    textOf (line :: lines) = line ++ "\n" ++ textOf lines := by
  simp [textOf]

/-- Whether lines make a complete text. -/
def Closed (lines : List String) : Prop :=
  ∃ tokens, Words.read (textOf lines) = .ok (.done, tokens)

end Session

open Session (textOf Closed)

/-- Whether nothing is open behind some more lines. -/
def Words.Progress.Closes (p : Words.Progress) (lines : List String) : Prop :=
  (p.readAll (textOf lines).toList).word = none

theorem Words.Progress.closes_cons (p : Words.Progress) (line : String) :
    (fun lines => p.Closes (line :: lines)) = (p.readAll (line ++ "\n").toList).Closes := by
  funext lines
  rw [Closes, Closes, Session.textOf_cons, String.toList_append, readAll_append]

theorem Words.Progress.closes_singleton (p : Words.Progress) (line : String) :
    p.Closes [line] ↔ (p.readAll (line ++ "\n").toList).word = none := by
  rw [Closes, Session.textOf_cons, Session.textOf_nil, String.append_empty]

theorem Session.closed_eq : Closed = Words.Progress.start.Closes := by
  funext lines
  apply propext
  rw [Closed, Words.read_eq, Words.Progress.status_reader, Words.Progress.Closes]
  rcases (Words.Progress.start.readAll (textOf lines).toList).word with _ | w
  · exact ⟨fun _ => rfl, fun _ => ⟨_, rfl⟩⟩
  · constructor
    · rintro ⟨tokens, h⟩
      cases h
    · intro h
      cases h

/-! ## Delivered lines -/

namespace Supply

/-- The reader of lines delivers these lines, one after the other, and leaves the
rest. -/
inductive Delivers : Supply → List String → Supply → Prop where
  | nil (supply : Supply) : Delivers supply [] supply
  | cons {supply next rest : Supply} {bytes : Bytes} {line : String} {lines : List String}
      (hnext : supply.next? = some (bytes, next)) (hline : Typed.line? bytes = some line)
      (hrest : Delivers next lines rest) : Delivers supply (line :: lines) rest

/-- The next line is no text. -/
inductive Garbled (supply : Supply) : Prop where
  | intro {bytes : Bytes} {next : Supply} (hnext : supply.next? = some (bytes, next))
      (hline : Typed.line? bytes = none)

/-- Either the lines that are delivered come to be complete, or they end before. -/
theorem delivers_cases (p : Words.Progress) (supply : Supply) :
    (∃ lines rest, Delivers supply lines rest ∧ Shortest p.Closes lines) ∨
    ∃ lines rest, Delivers supply lines rest ∧ Never p.Closes lines ∧
      (rest.next? = none ∨ rest.Garbled) := by
  induction hsize : supply.size using Nat.strongRecOn generalizing p supply with
  | _ size ih =>
    rcases hnext : supply.next? with _ | ⟨bytes, next⟩
    · exact .inr ⟨[], supply, .nil supply, never_nil, .inl hnext⟩
    · rcases hline : Typed.line? bytes with _ | line
      · exact .inr ⟨[], supply, .nil supply, never_nil, .inr ⟨hnext, hline⟩⟩
      · by_cases hclosed : p.Closes [line]
        · exact .inl ⟨[line], next, .cons hnext hline (.nil next), shortest_singleton hclosed⟩
        · have hless : next.size < size := hsize ▸ size_next_lt hnext
          rcases ih next.size hless (p.readAll (line ++ "\n").toList) next rfl with
            ⟨lines, rest, hdelivers, hshortest⟩ | ⟨lines, rest, hdelivers, hnever, hend⟩
          · rw [← p.closes_cons] at hshortest
            exact .inl ⟨line :: lines, rest, .cons hnext hline hdelivers, hshortest.cons hclosed⟩
          · rw [← p.closes_cons] at hnever
            exact .inr ⟨line :: lines, rest, .cons hnext hline hdelivers, hnever.cons hclosed, hend⟩

theorem Delivers.eq_nil {supply rest : Supply} {lines : List String}
    (h : Delivers supply lines rest) (hend : supply.next? = none) : lines = [] := by
  cases h with
  | nil => rfl
  | cons hnext => cases hnext.symm.trans hend

/-- Of two deliveries one goes on where the other stops. -/
theorem Delivers.resume_or_resume {supply rest rest' : Supply} {lines lines' : List String}
    (h : Delivers supply lines rest) (h' : Delivers supply lines' rest') :
    (∃ more, lines' = lines ++ more ∧ Delivers rest more rest') ∨
      ∃ more, lines = lines' ++ more ∧ Delivers rest' more rest := by
  induction h generalizing lines' with
  | nil => exact .inl ⟨lines', rfl, h'⟩
  | cons hnext hline hrest ih =>
    cases h' with
    | nil => exact .inr ⟨_, rfl, .cons hnext hline hrest⟩
    | cons hnext' hline' hrest' =>
      cases hnext.symm.trans hnext'
      cases hline.symm.trans hline'
      rcases ih hrest' with ⟨more, rfl, hmore⟩ | ⟨more, rfl, hmore⟩
      · exact .inl ⟨more, rfl, hmore⟩
      · exact .inr ⟨more, rfl, hmore⟩

theorem Delivers.unique {supply rest rest' : Supply} {lines : List String}
    (h : Delivers supply lines rest) (h' : Delivers supply lines rest') : rest = rest' := by
  rcases h.resume_or_resume h' with ⟨more, hlines, hmore⟩ | ⟨more, hlines, hmore⟩
  all_goals
    obtain rfl := List.append_right_eq_self.1 hlines.symm
    cases hmore
    rfl

/-- What is delivered first is the beginning of all that is delivered. -/
theorem Delivers.resume {supply rest last : Supply} {lines script : List String}
    (h : Delivers supply lines rest) (hscript : Delivers supply script last)
    (hlast : last.next? = none) : ∃ more, script = lines ++ more ∧ Delivers rest more last := by
  rcases h.resume_or_resume hscript with hmore | ⟨more, rfl, hmore⟩
  · exact hmore
  · obtain rfl := hmore.eq_nil hlast
    cases hmore
    exact ⟨[], by simp, .nil _⟩

theorem Garbled.eq_nil {supply last : Supply} {lines : List String} (hgarbled : supply.Garbled)
    (h : Delivers supply lines last) : lines = [] := by
  obtain ⟨hnext, hline⟩ := hgarbled
  cases h with
  | nil => rfl
  | cons hnext' hline' =>
    cases hnext.symm.trans hnext'
    cases hline.symm.trans hline'

/-- Lines are not all where one comes that is no text. -/
theorem Garbled.next?_ne_none {supply last : Supply} {lines : List String}
    (hgarbled : supply.Garbled) (h : Delivers supply lines last) : last.next? ≠ none := by
  obtain rfl := hgarbled.eq_nil h
  cases h
  obtain ⟨hnext, -⟩ := hgarbled
  rw [hnext]
  nofun

/-- A line that is no text comes behind the same lines in any delivery. -/
theorem Delivers.garbled_unique {supply rest rest' : Supply} {lines lines' : List String}
    (h : Delivers supply lines rest) (hgarbled : rest.Garbled)
    (h' : Delivers supply lines' rest') (hgarbled' : rest'.Garbled) : lines = lines' := by
  rcases h.resume_or_resume h' with ⟨more, rfl, hmore⟩ | ⟨more, rfl, hmore⟩
  · rw [hgarbled.eq_nil hmore, List.append_nil]
  · rw [hgarbled'.eq_nil hmore, List.append_nil]

/-- The reader of lines delivers one shortest run at most. -/
theorem Delivers.shortest_unique {P : List String → Prop} {supply rest rest' : Supply}
    {lines lines' : List String} (h : Delivers supply lines rest) (hshortest : Shortest P lines)
    (h' : Delivers supply lines' rest') (hshortest' : Shortest P lines') :
    lines = lines' ∧ rest = rest' := by
  have hlines : lines = lines' := by
    rcases h.resume_or_resume h' with ⟨more, rfl, -⟩ | ⟨more, rfl, -⟩
    · exact hshortest'.shortest lines (List.prefix_append lines more) hshortest.nonempty
        hshortest.holds
    · exact (hshortest.shortest lines' (List.prefix_append lines' more) hshortest'.nonempty
        hshortest'.holds).symm
  subst hlines
  exact ⟨rfl, h.unique h'⟩

/-- Where a shortest run is delivered, lines before its end are not the last. -/
theorem Delivers.shortest_goes_on {P : List String → Prop} {supply rest rest' : Supply}
    {lines lines' : List String} (h : Delivers supply lines rest) (hshortest : Shortest P lines)
    (h' : Delivers supply lines' rest') (hnever : Never P lines') :
    rest'.next? ≠ none ∧ ¬ rest'.Garbled := by
  have hbefore : ¬ lines <+: lines' :=
    fun hrun => hnever lines hrun hshortest.nonempty hshortest.holds
  rcases h.resume_or_resume h' with ⟨more, rfl, -⟩ | ⟨more, rfl, hmore⟩
  · exact absurd (List.prefix_append lines more) hbefore
  · cases hmore with
    | nil =>
      rw [List.append_nil] at hbefore
      exact absurd (List.prefix_refl lines') hbefore
    | cons hnext hline hrest =>
      refine ⟨fun hend => ?_, fun hgarbled => ?_⟩
      · cases hnext.symm.trans hend
      · cases hgarbled.eq_nil (.cons hnext hline hrest)

theorem Delivers.size_le {supply rest : Supply} {lines : List String}
    (h : Delivers supply lines rest) : rest.size ≤ supply.size := by
  induction h with
  | nil => exact Nat.le_refl _
  | cons hnext hline hrest ih => exact Nat.le_trans ih (Nat.le_of_lt (size_next_lt hnext))

theorem Delivers.size_lt {supply rest : Supply} {lines : List String}
    (h : Delivers supply lines rest) (hne : lines ≠ []) : rest.size < supply.size := by
  cases h with
  | nil => exact absurd rfl hne
  | cons hnext hline hrest => exact Nat.lt_of_le_of_lt hrest.size_le (size_next_lt hnext)

theorem unread_next_suffix {supply next : Supply} {bytes : Bytes}
    (h : supply.next? = some (bytes, next)) : next.unread <:+ supply.unread := by
  unfold next? at h
  dsimp only at h
  split at h
  · cases h
    exact List.suffix_refl _
  · split at h
    · cases h
    · cases h
      exact List.drop_suffix _ _

theorem Delivers.unread_suffix {supply rest : Supply} {lines : List String}
    (h : Delivers supply lines rest) : rest.unread <:+ supply.unread := by
  induction h with
  | nil => exact List.suffix_refl _
  | cons hnext hline hrest ih => exact ih.trans (unread_next_suffix hnext)

/-- A line whose break has been fetched. -/
theorem next?_fetched {bs : Bytes} (h : 10 ∉ bs) (ahead unread : Bytes) :
    next? ⟨bs ++ 10 :: ahead, unread⟩ = some (bs ++ [10], ⟨ahead, unread⟩) := by
  have hbreak : Lines.hasBreak (bs ++ [10]) = true := by simp [Lines.hasBreak]
  simp only [next?, Lines.first_line h, hbreak, if_true]

/-- A line whose break has not been fetched. -/
theorem next?_unfetched {ahead more : Bytes} (hahead : 10 ∉ ahead) (hmore : 10 ∉ more)
    (rest : Bytes) :
    ∃ next, next? ⟨ahead, more ++ 10 :: rest⟩ = some (ahead ++ more ++ [10], next) ∧
      next.ahead ++ next.unread = rest := by
  have hbreak : Lines.hasBreak ahead = false := by
    rw [Lines.hasBreak, beq_eq_false_iff_ne]
    exact fun h => hahead (List.mem_of_getLast? h)
  have hlength := le_fetched (more ++ [10]).length
  have hunread : more ++ 10 :: rest = more ++ [10] ++ rest := by simp
  refine ⟨⟨((more ++ 10 :: rest).take (fetched (more ++ [10]).length)).drop (more ++ [10]).length,
    (more ++ 10 :: rest).drop (fetched (more ++ [10]).length)⟩, ?_, ?_⟩
  · simp [next?, Lines.first_unbroken hahead, Lines.first_line hmore, hbreak]
  · rw [← List.drop_append_of_le_length, List.take_append_drop, hunread, List.drop_left]
    have hle := (List.prefix_append (more ++ [10]) rest).length_le
    rw [List.length_take, hunread]
    exact Nat.le_min.2 ⟨hlength, hle⟩

/-- The next line is found, wherever its bytes are. -/
theorem next?_line {supply : Supply} {bs rest : Bytes} (h : 10 ∉ bs)
    (hbytes : supply.ahead ++ supply.unread = bs ++ 10 :: rest) :
    ∃ next, supply.next? = some (bs ++ [10], next) ∧ next.ahead ++ next.unread = rest := by
  obtain ⟨ahead, unread⟩ := supply
  rw [List.append_eq_append_iff] at hbytes
  rcases hbytes with ⟨more, rfl, rfl⟩ | ⟨more, rfl, hmore⟩
  · rw [List.mem_append, not_or] at h
    exact next?_unfetched h.1 h.2 rest
  · cases more with
    | nil =>
      obtain rfl : 10 :: rest = unread := hmore
      rw [List.append_nil]
      obtain ⟨next, hnext, hrest⟩ := next?_unfetched h (List.not_mem_nil (a := 10)) rest
      rw [List.append_nil] at hnext
      exact ⟨next, hnext, hrest⟩
    | cons b more =>
      obtain ⟨rfl, rfl⟩ := List.cons.inj hmore
      exact ⟨⟨more, unread⟩, next?_fetched h more unread, rfl⟩

theorem next?_spent {supply : Supply} (h : supply.ahead ++ supply.unread = []) :
    supply.next? = none := by
  obtain ⟨ahead, unread⟩ := supply
  obtain ⟨rfl, rfl⟩ : ahead = [] ∧ unread = [] := List.append_eq_nil_iff.1 h
  decide

/-- **Plain lines are delivered as they stand**, however much of them has been
fetched. -/
theorem delivers_plain {supply : Supply} {script : List String} (h : ∀ line ∈ script, Plain line)
    (hbytes : supply.ahead ++ supply.unread = bytesOf (textOf script)) :
    ∃ last, supply.Delivers script last ∧ last.next? = none := by
  induction script generalizing supply with
  | nil => exact ⟨supply, .nil supply, next?_spent hbytes⟩
  | cons line script ih =>
    have hline := h line List.mem_cons_self
    have hbreak := hline.not_mem_newline
    rw [Session.textOf_cons, bytesOf_append, bytesOf_append, bytesOf_newline,
      List.append_assoc] at hbytes
    obtain ⟨next, hnext, hrest⟩ := next?_line hbreak hbytes
    obtain ⟨last, hdelivers, hlast⟩ := ih (fun l hl => h l (List.mem_cons_of_mem line hl)) hrest
    rw [← bytesOf_newline, ← bytesOf_append] at hnext
    exact ⟨last, .cons hnext hline.line?_line hdelivers, hlast⟩

/-- Plain lines that have been fetched are delivered, and those behind them stay. -/
theorem delivers_fetched {lines : List String} (h : ∀ line ∈ lines, Plain line)
    (more : List String) (unread : Bytes) :
    Delivers ⟨bytesOf (textOf (lines ++ more)), unread⟩ lines ⟨bytesOf (textOf more), unread⟩ := by
  induction lines with
  | nil => exact .nil _
  | cons line lines ih =>
    have hline := h line List.mem_cons_self
    have hbytes : bytesOf (textOf (line :: lines ++ more)) =
        bytesOf line ++ 10 :: bytesOf (textOf (lines ++ more)) := by
      simp [Session.textOf_cons, bytesOf_append, bytesOf_newline]
    have hnext := next?_fetched hline.not_mem_newline (bytesOf (textOf (lines ++ more))) unread
    rw [← bytesOf_newline, ← bytesOf_append] at hnext
    rw [hbytes]
    exact .cons hnext hline.line?_line (ih fun l hl => h l (List.mem_cons_of_mem line hl))

end Supply

/-! ## What gathering comes to -/

namespace Session

variable {p : Words.Progress} {supply rest : Supply} {lines : List String}

/-- One delivered line is gathered. -/
theorem gather_delivered {next : Supply} {bytes : Bytes} {line : String}
    (hnext : supply.next? = some (bytes, next)) (hline : Typed.line? bytes = some line)
    (p : Words.Progress) (text : String) :
    (p.Closes [line] → gather p.reader text supply = .command (text ++ line ++ "\n") next) ∧
    (¬ p.Closes [line] → gather p.reader text supply =
      gather (p.readAll (line ++ "\n").toList).reader (text ++ line ++ "\n") next) := by
  rw [gather_line hnext hline (Words.Reader.feed_reader p _), Words.Progress.status_reader,
    p.closes_singleton]
  constructor
  · intro h
    rw [h]
    rfl
  · intro h
    obtain ⟨w, hw⟩ := Option.ne_none_iff_exists'.1 h
    rw [hw]
    rfl

/-- **The shortest complete run of lines is gathered.** -/
theorem gather_shortest (h : supply.Delivers lines rest) (hshortest : Shortest p.Closes lines)
    (text : String) : gather p.reader text supply = .command (text ++ textOf lines) rest := by
  induction h generalizing p text with
  | nil => exact absurd rfl hshortest.nonempty
  | @cons supply next rest bytes line lines hnext hline hrest ih =>
    obtain ⟨hdone, hwaiting⟩ := gather_delivered hnext hline p text
    by_cases hclosed : p.Closes [line]
    · obtain rfl := hshortest.eq_nil hclosed
      cases hrest
      rw [hdone hclosed]
      simp [String.append_assoc]
    · have htail := hshortest.tail hclosed
      rw [p.closes_cons] at htail
      rw [hwaiting hclosed, ih htail]
      simp [String.append_assoc]

/-- Lines that never come to be complete are only gathered. -/
theorem gather_never (h : supply.Delivers lines rest) (hnever : Never p.Closes lines)
    (text : String) : ∃ q : Words.Progress, ∃ text',
      gather p.reader text supply = gather q.reader text' rest := by
  induction h generalizing p text with
  | nil => exact ⟨p, text, rfl⟩
  | @cons supply next rest bytes line lines hnext hline hrest ih =>
    have htail := hnever.tail
    rw [p.closes_cons] at htail
    rw [(gather_delivered hnext hline p text).2 hnever.head]
    exact ih htail _

theorem gather_ended (h : supply.Delivers lines rest) (hnever : Never p.Closes lines)
    (hend : rest.next? = none) (text : String) : gather p.reader text supply = .unfinished := by
  obtain ⟨q, text', hgather⟩ := gather_never h hnever text
  rw [hgather, gather, gatherAsking_ended rfl hend]

theorem gather_garbled (h : supply.Delivers lines rest) (hnever : Never p.Closes lines)
    (hgarbled : rest.Garbled) (text : String) :
    gather p.reader text supply = .fault .notUtf8 := by
  obtain ⟨q, text', hgather⟩ := gather_never h hnever text
  obtain ⟨hnext, hline⟩ := hgarbled
  rw [hgather, gather, gatherAsking_garbled rfl hnext hline]

end Session

end LineShell
