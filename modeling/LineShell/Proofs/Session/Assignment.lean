import LineShell.Proofs.Token.Quoting
import LineShell.Session.Loop

/-!
# Values that are set and then read

A line that is only a binding gives a variable its value, and does nothing else
(`runLine_binding`).  On the next line a reference to it between double quotes is one
argument, and this argument is the value.

The tokens of that line are cut at the reference.  What comes before decides which
command it belongs to and what the earlier words of this command are (`openWords`);
what comes behind adds the later words (`nextWords`).  If the earlier words hold the
name of the command, the reference is an argument (`ofTokens_around`), and not a
binding, whatever its value looks like.

Main statement: `runLine_set_then_read`.
-/

namespace LineShell

/-! ## Around one word of a pipeline -/

/-- Behind the name of a command every word is kept. -/
theorem Command.ofWords_append {ws : List String} (h : (ofWords ws).words ≠ [])
    (more : List String) :
    ofWords (ws ++ more) = ⟨(ofWords ws).bindings, (ofWords ws).words ++ more⟩ := by
  induction ws with
  | nil => exact absurd rfl h
  | cons w rest ih =>
    cases hparse : Binding.parse? w with
    | none => simp [ofWords, splitBindings, hparse]
    | some b =>
      have hcons : ∀ ws, ofWords (w :: ws) = ⟨b :: (ofWords ws).bindings, (ofWords ws).words⟩ := by
        intro ws
        simp [ofWords, splitBindings, hparse]
      rw [hcons] at h
      rw [List.cons_append, hcons, ih h, hcons]

namespace Pipeline

/-- The tokens up to the last bar, and this bar. -/
def closedTokens (ts : List Token) : List Token := (ts.reverse.dropWhile (! ·.isBar)).reverse

/-- The words behind the last bar. -/
def openWords (ts : List Token) : List String :=
  (ts.reverse.takeWhile (! ·.isBar)).reverse.map Token.render

/-- The words before the first bar. -/
def nextWords (ts : List Token) : List String := (ts.takeWhile (! ·.isBar)).map Token.render

/-- The tokens behind the first bar. -/
def laterTokens (ts : List Token) : List Token := (ts.dropWhile (! ·.isBar)).tail

/-- A bar ends a command for good. -/
theorem group_append_bar (words : List String) (ts rest : List Token) :
    group words (ts ++ Token.bar :: rest) = group words (ts ++ [Token.bar]) ++ ofTokens rest := by
  induction ts generalizing words with
  | nil => rfl
  | cons t ts ih =>
    simp only [List.cons_append, group]
    cases t.isBar with
    | true => rw [if_pos rfl, if_pos rfl, ih, List.cons_append]
    | false => rw [if_neg Bool.false_ne_true, if_neg Bool.false_ne_true, ih]

/-- Tokens that are no bars go into the command that is being read. -/
theorem group_append_words {ts : List Token} (h : ∀ t ∈ ts, (! t.isBar) = true)
    (words : List String) (rest : List Token) :
    group words (ts ++ rest) = group ((ts.map Token.render).reverse ++ words) rest := by
  induction ts generalizing words with
  | nil => rfl
  | cons t ts ih =>
    obtain ⟨ht, hts⟩ := List.forall_mem_cons.1 h
    have hbar : ¬ t.isBar := by simpa using ht
    rw [List.cons_append, group, if_neg hbar, ih hts]
    simp

/-- What tokens make of a command that has words. -/
theorem group_words {words : List String} (h : words ≠ []) (ts : List Token) :
    group words ts =
      .ofWords (words.reverse ++ nextWords ts) :: ofTokens (laterTokens ts) := by
  induction ts generalizing words with
  | nil =>
    have hne : words.isEmpty = false := List.isEmpty_eq_false_iff.2 h
    simp [group, hne, nextWords, laterTokens, ofTokens]
  | cons t rest ih =>
    rw [group]
    cases hbar : t.isBar with
    | true => simp [nextWords, laterTokens, hbar, ofTokens]
    | false =>
      rw [if_neg Bool.false_ne_true, ih (List.cons_ne_nil _ _)]
      simp [nextWords, laterTokens, hbar]

/-- The tokens up to the last bar are none, or a bar is the last of them. -/
theorem closedTokens_cases (ts : List Token) :
    closedTokens ts = [] ∨ ∃ before, closedTokens ts = before ++ [Token.bar] := by
  have hhead := List.head?_dropWhile_not (fun t : Token => ! t.isBar) ts.reverse
  unfold closedTokens
  cases hclosed : ts.reverse.dropWhile (! ·.isBar) with
  | nil => exact .inl rfl
  | cons t before =>
    rw [hclosed] at hhead
    have hbar : t.isBar := by simpa using hhead
    exact .inr ⟨before.reverse, by rw [List.reverse_cons, Token.isBar_iff.1 hbar]⟩

/-- Only the tokens behind the last bar can go on. -/
theorem ofTokens_append (ts rest : List Token) :
    ofTokens (ts ++ rest) = ofTokens (closedTokens ts) ++ group (openWords ts).reverse rest := by
  let opened := (ts.reverse.takeWhile (! ·.isBar)).reverse
  have hopened : ∀ t ∈ opened, (! t.isBar) = true := by
    intro t ht
    exact List.all_eq_true.1 List.all_takeWhile t (List.mem_reverse.1 ht)
  have hsplit : ts ++ rest = closedTokens ts ++ (opened ++ rest) := by
    rw [closedTokens, ← List.append_assoc, ← List.reverse_append, List.takeWhile_append_dropWhile,
      List.reverse_reverse]
  have hgroup : ofTokens (opened ++ rest) = group (openWords ts).reverse rest := by
    rw [ofTokens, group_append_words hopened, List.append_nil]
    rfl
  rw [hsplit, ← hgroup]
  rcases closedTokens_cases ts with hclosed | ⟨before, hclosed⟩
  · rw [hclosed]
    rfl
  · rw [hclosed, List.append_assoc, List.singleton_append]
    exact group_append_bar [] before (opened ++ rest)

/-- **A word behind the name of its command is an argument.** -/
theorem ofTokens_around (ts : List Token) {t : Token} (ht : t.isBar = false) (rest : List Token)
    (hname : (Command.ofWords (openWords ts)).words ≠ []) :
    ofTokens (ts ++ t :: rest) =
      ofTokens (closedTokens ts) ++
        ⟨(Command.ofWords (openWords ts)).bindings,
          (Command.ofWords (openWords ts)).words ++ t.render :: nextWords rest⟩ ::
        ofTokens (laterTokens rest) := by
  rw [ofTokens_append, group, ht, if_neg Bool.false_ne_true, group_words (List.cons_ne_nil _ _),
    List.reverse_cons, List.reverse_reverse, List.append_assoc, Command.ofWords_append hname]
  rfl

end Pipeline

/-! ## A binding on a line of its own -/

namespace Session

/-- **A line that is only a binding sets its variable.** -/
theorem runLine_binding {b : Binding} (h : isName b.name.toList) (host : Host) (input : Input)
    (out : Sink) (s : Session) :
    s.runLine host (b.spell ++ "\n") input out =
      (.ok 0, ⟨{ s.world with vars := s.world.vars.set b.name b.value }, 0⟩, out) := by
  obtain ⟨word, hword, hspell⟩ := b.exists_spelling h
  let line : List Words.Segment :=
    [.words ⟨[], List.forall_mem_nil _⟩ word [] ⟨[], List.forall_mem_nil _⟩]
  have htext : String.ofList (Words.spellLine line) = b.spell ++ "\n" := by
    rw [← String.toList_inj, String.toList_append, ← hspell]
    simp [line, Words.spellLine, Words.Segment.spell]
  have hexpand : (Words.lineTokens line).map (Token.expand s.world.vars) =
      Words.lineTokens line := by
    refine (List.map_congr_left fun t ht => ?_).trans (List.map_id _)
    exact Token.expand_of_no_reference (Words.lineTokens_no_reference line t ht) s.world.vars
  have hwords : Pipeline.ofTokens (Words.lineTokens line) = [.ofWords [b.render]] := by
    have htexts : line.map Words.Segment.texts = [[b.render]] := by
      simp [line, Words.Segment.texts, Words.Segment.spellings, hword]
    have hlast : ∀ s ∈ line.getLast?, s.texts ≠ [] := by
      simp [line, Words.Segment.texts, Words.Segment.spellings]
    rw [Words.ofTokens_lineTokens line hlast]
    exact congrArg (List.map Command.ofWords) htexts
  have hcommand : Command.ofWords [b.render] = ⟨[b], []⟩ := by
    simp [Command.ofWords, Command.splitBindings, Binding.parse?_render h]
  have hpipeline : s.pipeline (b.spell ++ "\n") = .ok [⟨[b], []⟩] := by
    rw [pipeline, ← htext, Words.read_eq_lineTokens]
    simp only [hexpand, hwords, hcommand]
  rw [runLine, hpipeline]
  rfl

/-- **What is set is read back.**  A line that gives a variable a value in single quotes
comes to the status zero.  It sets the variable to this value and changes nothing
else.  Wherever the next line refers to the variable between double quotes, with a
complete text before and a blank or a bar behind, the reference is a token of its
own.  If there is a command name before it, it becomes exactly one argument of this
command, the value: the words before and behind, and the commands around, are what
they are by themselves. -/
theorem runLine_set_then_read {b : Binding} (h : isName b.name.toList) (host : Host)
    (input : Input) (out : Sink) (s : Session) :
    let t : Session := ⟨{ s.world with vars := s.world.vars.set b.name b.value }, 0⟩
    s.runLine host (b.spell ++ "\n") input out = (.ok 0, t, out) ∧
    (∀ name, t.world.vars.get? name =
      if name = b.name then some b.value else s.world.vars.get? name) ∧
    ∀ (before after : String) (earlier later : List Token),
      Words.read before = .ok (.done, earlier) → Words.read after = .ok (.done, later) →
      (∃ c ∈ after.toList.head?, c = '|' ∨ isBlank c) →
      Words.read (before ++ Words.quotedReference b.name ++ after) =
        .ok (.done, earlier ++ Token.quotedReference b.name :: later) ∧
      let seen := earlier.map (Token.expand t.world.vars)
      let coming := later.map (Token.expand t.world.vars)
      let command := Command.ofWords (Pipeline.openWords seen)
      command.words ≠ [] →
      t.pipeline (before ++ Words.quotedReference b.name ++ after) =
        .ok (Pipeline.ofTokens (Pipeline.closedTokens seen) ++
          ⟨command.bindings, command.words ++ b.value :: Pipeline.nextWords coming⟩ ::
          Pipeline.ofTokens (Pipeline.laterTokens coming)) := by
  intro t
  have hget : ∀ name, t.world.vars.get? name =
      if name = b.name then some b.value else s.world.vars.get? name := by
    intro name
    rw [Variables.get?_set]
    simp only [eq_comm]
  refine ⟨runLine_binding h host input out s, hget, ?_⟩
  intro before after earlier later hbefore hafter hend
  have hchars : ∀ c ∈ b.name.toList, isNameChar c := by
    rw [isName, Bool.and_eq_true, List.all_eq_true] at h
    exact h.2
  have hvalue : t.world.vars.value b.name = b.value := by
    rw [Variables.value, hget, if_pos rfl]
    rfl
  have hbar := Token.isBar_expand_quotedReference hchars t.world.vars
  have hrender := Token.render_expand_quotedReference hchars t.world.vars
  have hread := Words.read_quotedReference hchars hbefore hafter hend
  refine ⟨hread, ?_⟩
  intro seen coming command hname
  rw [pipeline, hread]
  simp only [List.map_append, List.map_cons]
  rw [Pipeline.ofTokens_around seen hbar coming hname, hrender, hvalue]

/-- A value that is quoted, looks like a bar and like a reference, and is read back
between other words. -/
theorem runLine_set_then_read_quote :
    let host : Host := fun _ _ _ _ => .error .noEntry
    let s : Session := ⟨⟨.empty, [], ⟨.directory []⟩, [], .empty⟩, 7⟩
    let t : Session := ⟨{ s.world with vars := .ofEntries ["A=it's | $B\n"] }, 0⟩
    s.runLine host "A='it'\\''s | $B\n'\n" .inherited .memory = (.ok 0, t, .memory) ∧
    t.pipeline "B=1 echo \"$A\" x|cat\n" =
      .ok [⟨[⟨"B", "1"⟩], ["echo", "it's | $B\n", "x"]⟩, ⟨[], ["cat"]⟩] := by
  intro host s t
  obtain ⟨hset, -, hread⟩ := @runLine_set_then_read ⟨"A", "it's | $B\n"⟩ (by decide) host
    .inherited .memory s
  have hpipeline := (hread "B=1 echo " " x|cat\n"
    [[.plain 'B', .plain '=', .plain '1'], [.plain 'e', .plain 'c', .plain 'h', .plain 'o']]
    [[.plain 'x'], Token.bar, [.plain 'c', .plain 'a', .plain 't']] (by rfl) (by rfl)
    ⟨' ', by decide, .inr (by decide)⟩).2 (by decide)
  refine ⟨hset, hpipeline.trans (congrArg Except.ok ?_)⟩
  decide

end Session

end LineShell
