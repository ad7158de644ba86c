import LineShell.Proofs.Command.Decomposition
import LineShell.Proofs.Pipeline.Shape
import LineShell.Proofs.Session.Assignment

/-!
# Tokens are divided at the bars

Every bar ends a command for good, and what stands behind the last one is a command
only if it is not empty.  So there is one command for each bar, and one more if a token
that is no bar comes last (`length_ofTokens`); and the commands are made of the segments
between the bars, one after the other (`ofTokens_getElem?`).

`Written` says how a pipeline can be written back: the words of each command as tokens
that are no bars, a bar between each two commands, and a bar behind the last command if
there is nothing else to show for it.  Whatever tokens are chosen, they are read as the
same pipeline again, if its commands come from words at all (`ofTokens_of_written`).

Main statement: `ofTokens_divides`.
-/

namespace LineShell

namespace Pipeline

/-! ## Counting commands -/

/-- `words` decide only where no token follows: then they make a command unless there are
none of them. -/
theorem length_group (words : List String) (ts : List Token) :
    (group words ts).length = ts.countP Token.isBar +
      if (ts.getLast?.map (! ·.isBar)).getD (! words.isEmpty) then 1 else 0 := by
  induction ts generalizing words with
  | nil =>
    cases words with
    | nil => rfl
    | cons w ws => rfl
  | cons t rest ih =>
    rw [group, List.getLast?_cons]
    cases hbar : t.isBar with
    | true =>
      rw [if_pos rfl, List.length_cons, ih, List.countP_cons_of_pos hbar]
      cases rest.getLast? with
      | none => simp [hbar]
      | some last => simp only [Option.map_some, Option.getD_some]; omega
    | false =>
      rw [if_neg Bool.false_ne_true, ih, List.countP_cons_of_neg (by simp [hbar])]
      cases rest.getLast? with
      | none => simp [hbar]
      | some last => rfl

theorem length_ofTokens (ts : List Token) :
    (ofTokens ts).length = ts.countP Token.isBar +
      if ∃ t ∈ ts.getLast?, t.isBar = false then 1 else 0 := by
  rw [ofTokens, length_group]
  cases ts.getLast? with
  | none => rfl
  | some t => simp

/-! ## Segments -/

theorem segments_prefix (divides : Token → Bool) (ts : List Token) :
    segments divides ts <+: ts.splitOnP divides := by
  unfold segments withoutTrailing
  split
  · exact List.dropLast_prefix _
  · exact List.prefix_refl _

theorem ofTokens_eq_map (ts : List Token) :
    ofTokens ts = (segments Token.isBar ts).map fun segment =>
      Command.ofWords (segment.map Token.render) := by
  have hmap := ofTokens_map id ts
  rwa [List.map_id] at hmap

/-- The commands of some tokens are made of the segments in their order. -/
theorem ofTokens_getElem? {ts : List Token} {k : Nat} {c : Command}
    (h : (ofTokens ts)[k]? = some c) :
    ∃ segment, (ts.splitOnP Token.isBar)[k]? = some segment ∧
      c = Command.ofWords (segment.map Token.render) := by
  rw [ofTokens_eq_map, List.getElem?_map, Option.map_eq_some_iff] at h
  obtain ⟨segment, hsegment, rfl⟩ := h
  obtain ⟨rest, hrest⟩ := segments_prefix Token.isBar ts
  have hk : k < (segments Token.isBar ts).length := (List.getElem?_eq_some_iff.1 hsegment).1
  refine ⟨segment, ?_, rfl⟩
  rw [← hrest, List.getElem?_append_left hk]
  exact hsegment

end Pipeline

/-! ## Writing a pipeline -/

/-- These tokens are the words of a command, and none of them is a bar. -/
structure Command.SpelledBy (c : Command) (ts : List Token) : Prop where
  texts_eq : ts.map Token.render = c.texts
  words : ∀ t ∈ ts, t.isBar = false

/-- A token with every character escaped. -/
def Token.escaped (text : String) : Token := text.toList.map Glyph.escape

theorem Token.render_escaped (text : String) : (escaped text).render = text := by
  rw [render, escaped, Words.chars_map (fun _ => rfl) (fun _ => rfl), String.ofList_toList]

theorem Token.isBar_escaped (text : String) : (escaped text).isBar = false := by
  rw [Bool.eq_false_iff, ne_eq, isBar_iff]
  intro h
  have hmem : Glyph.plain '|' ∈ escaped text := by
    rw [h]
    exact List.mem_cons_self
  obtain ⟨c, -, hc⟩ := List.mem_map.1 hmem
  cases hc

theorem Command.spelledBy_escaped (c : Command) : c.SpelledBy (c.texts.map Token.escaped) where
  texts_eq := by
    rw [List.map_map]
    exact (List.map_congr_left fun text _ => Token.render_escaped text).trans (List.map_id _)
  words := by
    intro t ht
    obtain ⟨text, -, rfl⟩ := List.mem_map.1 ht
    exact Token.isBar_escaped text

theorem Command.eq_empty_of_texts {c : Command} (h : c.texts = []) : c = .empty := by
  obtain ⟨bs, words⟩ := c
  obtain ⟨hbs, rfl⟩ := List.append_eq_nil_iff.1 h
  obtain rfl := List.map_eq_nil_iff.1 hbs
  rfl

namespace Pipeline

/-- The ways to write a pipeline as tokens. -/
inductive Written : Pipeline → List Token → Prop where
  | nil : Written [] []
  | last {c : Command} {ts : List Token} (h : c.SpelledBy ts) (hne : c ≠ .empty) : Written [c] ts
  /-- Only the bar behind it shows that there is an empty command at the end. -/
  | lastEmpty : Written [.empty] [Token.bar]
  | cons {c : Command} {rest : Pipeline} {ts us : List Token} (h : c.SpelledBy ts)
      (hne : rest ≠ []) (hrest : Written rest us) : Written (c :: rest) (ts ++ Token.bar :: us)

theorem exists_written (p : Pipeline) : ∃ ts, Written p ts := by
  induction p with
  | nil => exact ⟨[], .nil⟩
  | cons c rest ih =>
    obtain ⟨us, hrest⟩ := ih
    by_cases hne : rest = []
    · subst hne
      by_cases hempty : c = .empty
      · subst hempty
        exact ⟨[Token.bar], .lastEmpty⟩
      · exact ⟨_, .last c.spelledBy_escaped hempty⟩
    · exact ⟨_, .cons c.spelledBy_escaped hne hrest⟩

/-- The words of a command go into the command that is being read. -/
theorem group_spelled {c : Command} {ts : List Token} (h : c.SpelledBy ts) (rest : List Token) :
    group [] (ts ++ rest) = group c.texts.reverse rest := by
  have hwords : ∀ t ∈ ts, (! t.isBar) = true := by
    intro t ht
    rw [h.words t ht]
    rfl
  rw [group_append_words hwords, h.texts_eq, List.append_nil]

theorem ofTokens_spelled_bar {c : Command} {ts : List Token} (h : c.SpelledBy ts) :
    ofTokens (ts ++ [Token.bar]) = [.ofWords c.texts] := by
  rw [ofTokens, group_spelled h, group, if_pos (by rfl), List.reverse_reverse]
  rfl

/-- Without a bar the words are a command if there are any. -/
theorem ofTokens_spelled {c : Command} {ts : List Token} (h : c.SpelledBy ts)
    (hne : c.texts ≠ []) : ofTokens ts = [.ofWords c.texts] := by
  have hgroup := group_spelled h []
  have hisEmpty : c.texts.reverse.isEmpty = false := by simpa using hne
  rw [List.append_nil] at hgroup
  rw [ofTokens, hgroup, group, hisEmpty, if_neg Bool.false_ne_true, List.reverse_reverse]

/-- What is written is read back, if every command is what its words make. -/
theorem ofTokens_of_written {p : Pipeline} {us : List Token} (h : Written p us)
    (hp : ∀ c ∈ p, Command.ofWords c.texts = c) : ofTokens us = p := by
  induction h with
  | nil => rfl
  | @last c ts h hne =>
    have htexts : c.texts ≠ [] := fun htexts => hne (Command.eq_empty_of_texts htexts)
    rw [ofTokens_spelled h htexts, hp c List.mem_cons_self]
  | lastEmpty => rfl
  | @cons c rest ts us h hne hrest ih =>
    obtain ⟨hc, hcommands⟩ := List.forall_mem_cons.1 hp
    calc ofTokens (ts ++ Token.bar :: us)
        = ofTokens (ts ++ [Token.bar]) ++ ofTokens us := group_append_bar [] ts us
      _ = c :: rest := by rw [ofTokens_spelled_bar h, hc, ih hcommands, List.singleton_append]

/-- **Tokens are divided at the bars, and nothing of them is lost.**  What stands behind a
bar makes the same commands as by itself.  There is a command for each bar and one for
tokens behind the last bar, and each is made of the texts of its segment, so that an
empty segment makes an empty command.  However the pipeline is written, it is read back. -/
theorem ofTokens_divides (ts : List Token) :
    (∀ us t, t.isBar → ofTokens (ts ++ [t] ++ us) = ofTokens (ts ++ [t]) ++ ofTokens us) ∧
    ((ofTokens ts).length = ts.countP Token.isBar +
      if ∃ t ∈ ts.getLast?, t.isBar = false then 1 else 0) ∧
    (∀ (k : Nat) (c : Command), (ofTokens ts)[k]? = some c →
      ∃ segment, (ts.splitOnP Token.isBar)[k]? = some segment ∧
        c = Command.ofWords (segment.map Token.render) ∧
        c.texts = segment.map Token.render ∧ (segment = [] → c = .empty)) ∧
    (∃ us, Written (ofTokens ts) us) ∧
    ∀ us, Written (ofTokens ts) us → ofTokens us = ofTokens ts := by
  refine ⟨?_, length_ofTokens ts, ?_, exists_written _, ?_⟩
  · intro us t ht
    obtain rfl := Token.isBar_iff.1 ht
    rw [List.append_assoc, List.singleton_append]
    exact group_append_bar [] ts us
  · intro k c hc
    obtain ⟨segment, hsegment, rfl⟩ := ofTokens_getElem? hc
    refine ⟨segment, hsegment, rfl, (Command.decomposes_ofWords _).texts_eq, ?_⟩
    rintro rfl
    rfl
  · intro us hus
    refine ofTokens_of_written hus fun c hc => ?_
    rw [ofTokens_eq_map] at hc
    obtain ⟨segment, -, rfl⟩ := List.mem_map.1 hc
    rw [(Command.decomposes_ofWords _).texts_eq]

/-- Empty segments before, between and behind the words of a command. -/
theorem ofTokens_divides_empty :
    (ofTokens [Token.bar, [.plain 'a'], Token.bar, Token.bar]).length = 3 ∧
    ofTokens [Token.bar, [.escape 'a'], Token.bar, Token.bar] =
      ofTokens [Token.bar, [.plain 'a'], Token.bar, Token.bar] := by
  obtain ⟨-, hlength, -, -, hread⟩ :=
    ofTokens_divides [Token.bar, [.plain 'a'], Token.bar, Token.bar]
  have hempty : Command.SpelledBy .empty [] := ⟨rfl, List.forall_mem_nil _⟩
  have hword : Command.SpelledBy (.ofWords ["a"]) [[.escape 'a']] :=
    ⟨by decide, by decide⟩
  have hwritten : Written [.empty, .ofWords ["a"], .empty]
      [Token.bar, [.escape 'a'], Token.bar, Token.bar] :=
    .cons hempty (List.cons_ne_nil _ _) (.cons hword (List.cons_ne_nil _ _) .lastEmpty)
  exact ⟨hlength.trans (by decide), hread _ hwritten⟩

end Pipeline

end LineShell
