import LineShell.Proofs.Token.Modes

/-!
# Texts in chunks

A text can come in chunks that are cut anywhere, inside of a quotation or right
after a backslash too.  What has been read of a text depends on its characters
alone (`readChunks_eq_read`), and the tokens of its beginning are the first ones
of the whole.

Where a text is complete, nothing is left of it but its tokens: no word is open, so
the reader is the one before any text (`Progress.eq_start_after`).  What follows is
read as a text of its own.  Main statement: `readChunks_append`.
-/

namespace LineShell.Words

/-- Goes on reading with these chunks, up to the first misuse. -/
def Reader.readOn (r : Reader) : List String → Except Misuse (Status × List Token)
  | [] => .ok (r.status, r.tokens)
  | chunk :: rest =>
    match r.feed chunk.toList with
    | (.ok (), r') => r'.readOn rest
    | (.error e, _) => .error e

/-- Reads a text that comes in chunks. -/
def readChunks (chunks : List String) : Except Misuse (Status × List Token) :=
  Reader.start.readOn chunks

namespace Progress

theorem readOn_reader (p : Progress) (chunks : List String) :
    p.reader.readOn chunks =
      .ok ((p.readAll (chunks.flatMap String.toList)).reader.status,
        (p.readAll (chunks.flatMap String.toList)).reader.tokens) := by
  induction chunks generalizing p with
  | nil => rfl
  | cons chunk rest ih =>
    have hrest := ih (p.readAll chunk.toList)
    rw [← readAll_append, ← List.flatMap_cons] at hrest
    rw [Reader.readOn, Reader.feed_reader]
    exact hrest

/-- Behind a complete text the reader stands where it stood before any text. -/
theorem eq_start_after {p : Progress} (h : p.reader.status = .done) :
    p = start.after p.finished := by
  obtain ⟨word, finished⟩ := p
  rw [status_reader] at h
  cases word with
  | none => rfl
  | some w => cases h

end Progress

theorem readChunks_eq_read (chunks : List String) :
    readChunks chunks = read (String.join chunks) := by
  have hchunks := Progress.start.readOn_reader chunks
  rw [Progress.reader_start] at hchunks
  rw [readChunks, hchunks, read_eq, String.toList_join]

/-- **Text can be read in parts.**  The text `s ++ t` is read alike in whatever chunks
it comes, and the tokens of `s` are the first ones of it.  If `s` is complete, the
other tokens are those of `t`, the whole is complete just when `t` is, and the
reader has kept nothing of `s` but its tokens. -/
theorem readChunks_append (s t : String) :
    ∃ (before whole behind : Status) (earlier all later : List Token),
      read s = .ok (before, earlier) ∧ read t = .ok (behind, later) ∧
      read (s ++ t) = .ok (whole, all) ∧
      (∀ chunks : List String, String.join chunks = s ++ t →
        readChunks chunks = .ok (whole, all)) ∧
      earlier <+: all ∧
      (before = .done → all = earlier ++ later ∧ whole = behind ∧
        (Reader.start.feed s.toList).2 = { Reader.start with finished := earlier.reverse }) := by
  let p := Progress.start.readAll s.toList
  let q := Progress.start.readAll t.toList
  let whole := p.readAll t.toList
  have hwhole : read (s ++ t) = .ok (whole.reader.status, whole.reader.tokens) := by
    rw [read_eq, String.toList_append, Progress.readAll_append]
  refine ⟨p.reader.status, whole.reader.status, q.reader.status, p.reader.tokens,
    whole.reader.tokens, q.reader.tokens, read_eq s, read_eq t, hwhole, ?_, ?_, ?_⟩
  · intro chunks hjoin
    rw [readChunks_eq_read, hjoin, hwhole]
  · exact Progress.tokens_prefix (p.readAll_finished t.toList)
  · intro hdone
    have hp : p = Progress.start.after p.finished := Progress.eq_start_after hdone
    have hq : whole = q.after p.finished := by
      have hafter := Progress.start.readAll_after p.finished t.toList
      rwa [← hp] at hafter
    have htokens : whole.reader.tokens = p.reader.tokens ++ q.reader.tokens := by
      rw [hq, Progress.tokens_after]
      rfl
    have hstatus : whole.reader.status = q.reader.status := by
      rw [hq, Progress.status_after]
    have hreader : (Reader.start.feed s.toList).2 = p.reader := by
      rw [Reader.feed_start]
    refine ⟨htokens, hstatus, hreader.trans ?_⟩
    rw [Progress.tokens_reader, List.reverse_reverse]
    exact congrArg Progress.reader hp

/-- A complete text before one whose quotation is cut in two. -/
theorem readChunks_append_quotation :
    read "a|" = .ok (.done, [[.plain 'a'], Token.bar]) ∧
      readChunks ["a|'", "b c", "'\n"] =
        .ok (.done, [[.plain 'a'], Token.bar] ++
          [[.boundary, .quoted 'b', .quoted ' ', .quoted 'c', .boundary]]) := by
  have hbefore : read "a|" = .ok (.done, [[.plain 'a'], Token.bar]) := by rfl
  have hbehind : read "'b c'\n" = .ok (.done,
      [[.boundary, .quoted 'b', .quoted ' ', .quoted 'c', .boundary]]) := by rfl
  obtain ⟨before, whole, behind, earlier, all, later, hs, ht, -, hchunks, -, hdone⟩ :=
    readChunks_append "a|" "'b c'\n"
  obtain ⟨rfl, rfl⟩ := Prod.mk.inj (Except.ok.inj (hbefore.symm.trans hs))
  obtain ⟨rfl, rfl⟩ := Prod.mk.inj (Except.ok.inj (hbehind.symm.trans ht))
  obtain ⟨rfl, rfl, -⟩ := hdone rfl
  exact ⟨hbefore, hchunks ["a|'", "b c", "'\n"] (by decide)⟩

end LineShell.Words
