import LineShell.Proofs.Token.Expansion

/-!
# What expansion leaves alone

A glyph that is not bare is protected: it was escaped, stood between single quotes or
marks a quotation.  Protected glyphs neither open a reference nor continue a name, so
a token is expanded on either side of one as if the two sides were tokens of their own
(`substitute_append_protected`).  The expansion of a token is made of those of its
bare runs, with the protected glyphs between them.

`Token.referenced` lists the names that a token refers to.  Expansion asks the
variables for nothing else (`substitute_congr`), and where there is no reference it
changes nothing (`substitute_of_closed`).

Expansion removes every glyph that opens a reference.  Values can bring new ones with
them; where none has a dollar sign, the expanded token is closed and a second expansion
leaves it as it is (`closed_substitute`).

Main statements: `expand_protected` and `map_expand_idem`.
-/

namespace LineShell

/-- Whether a glyph is anything but bare text. -/
def Glyph.isProtected (g : Glyph) : Bool := !g.isBare

theorem Glyph.continuesName_of_isProtected {g : Glyph} (h : g.isProtected) :
    g.continuesName = false := by
  simp only [isProtected, Bool.not_eq_true'] at h
  simp [continuesName, h]

theorem Glyph.isProtected_plain (c : Char) : (plain c).isProtected = false := rfl

namespace Token

/-- A boundary that carries no dollar sign opens nothing, and no other protected glyph
does. -/
theorem opensReference_of_isProtected {g : Glyph} (hmark : g.isBoundary → g.char = '\x00')
    (h : g.isProtected) : g.opensReference = false := by
  refine Bool.eq_false_iff.2 fun hopen => ?_
  have hplain : g = .plain '$' := by
    refine eq_plain_of_opensReference hopen (Bool.eq_false_iff.2 fun hboundary => ?_)
    have hdollar := ((opensReference_iff g).1 hopen).1
    rw [hmark hboundary] at hdollar
    exact absurd hdollar (by decide)
  rw [hplain] at h
  cases h

/-! ## Runs between protected glyphs -/

section

variable {g : Glyph} {rest : Token}

/-- A glyph that does not continue a name ends the one before it. -/
theorem takeWhile_append_end (hend : g.continuesName = false) (run : Token) :
    (run ++ g :: rest).takeWhile Glyph.continuesName = run.takeWhile Glyph.continuesName ∧
      (run ++ g :: rest).dropWhile Glyph.continuesName =
        run.dropWhile Glyph.continuesName ++ g :: rest := by
  induction run with
  | nil => simp [hend]
  | cons g' run ih =>
    cases hcontinues : g'.continuesName with
    | true => simpa [hcontinues] using ih
    | false => simp [hcontinues]

theorem leadingName_append_end (hend : g.continuesName = false) (run : Token) :
    leadingName (run ++ g :: rest) = leadingName run := by
  rw [leadingName, (takeWhile_append_end hend run).1, leadingName]

/-- **A glyph that has no part in references divides a token** into two that are expanded
on their own. -/
theorem substitute_append_protected (vs : Variables) (hend : g.continuesName = false)
    (hopen : g.opensReference = false) (before : Token) :
    substitute vs (before ++ g :: rest) =
      before.substitute vs ++ g :: Token.substitute vs rest := by
  fun_induction substitute vs before with
  | case1 => rw [List.nil_append, substitute, hopen, if_neg Bool.false_ne_true, List.nil_append]
  | case2 g' run hopen' ih =>
    rw [List.cons_append, substitute, if_pos hopen', leadingName_append_end hend,
      (takeWhile_append_end hend run).2, ih, List.append_assoc]
  | case3 g' run hopen' ih =>
    rw [List.cons_append, substitute, if_neg hopen', ih, List.cons_append]

end

/-- Bare text stays bare, whatever the values are. -/
theorem isProtected_substitute {t : Token} (h : ∀ g ∈ t, g.isProtected = false) (vs : Variables) :
    ∀ g ∈ t.substitute vs, g.isProtected = false := by
  fun_induction substitute vs t with
  | case1 => exact h
  | case2 g rest hopen ih =>
    have hsub : ∀ g' ∈ rest.dropWhile Glyph.continuesName, g'.isProtected = false :=
      fun g' hg' => h g' (List.mem_cons_of_mem _ ((List.dropWhile_sublist _).subset hg'))
    refine List.forall_mem_append.2 ⟨fun g' hg' => ?_, ih hsub⟩
    obtain ⟨c, -, rfl⟩ := List.mem_map.1 hg'
    exact Glyph.isProtected_plain c
  | case3 g rest hopen ih =>
    obtain ⟨hg, hrest⟩ := List.forall_mem_cons.1 h
    exact List.forall_mem_cons.2 ⟨hg, ih hrest⟩

/-- The protected glyphs of a token are left in place, and its bare runs are expanded one
by one. -/
theorem runs_substitute (vs : Variables) (t : Token)
    (hmarks : ∀ g ∈ t, g.isBoundary → g.char = '\x00') :
    (t.substitute vs).filter Glyph.isProtected = t.filter Glyph.isProtected ∧
      (t.substitute vs).splitOnP Glyph.isProtected =
        (t.splitOnP Glyph.isProtected).map (Token.substitute vs) := by
  by_cases hbare : ∀ g ∈ t, g.isProtected = false
  · have hbare' := isProtected_substitute hbare vs
    rw [List.splitOnP_eq_singleton hbare, List.splitOnP_eq_singleton hbare',
      List.filter_eq_nil_iff.2 fun g hg => Bool.eq_false_iff.1 (hbare g hg),
      List.filter_eq_nil_iff.2 fun g hg => Bool.eq_false_iff.1 (hbare' g hg)]
    exact ⟨rfl, rfl⟩
  · -- Any protected glyph will do, since the tokens on both sides of it are shorter.
    obtain ⟨g, hg, hprotected⟩ : ∃ g ∈ t, g.isProtected := by simpa using hbare
    have hopen := opensReference_of_isProtected (hmarks g hg) hprotected
    obtain ⟨before, rest, ht⟩ := List.append_of_mem hg
    rw [ht] at hmarks ⊢
    obtain ⟨hmarksBefore, hmarksRest⟩ := List.forall_mem_append.1 hmarks
    obtain ⟨filterBefore, runsBefore⟩ := runs_substitute vs before hmarksBefore
    obtain ⟨filterRest, runsRest⟩ :=
      runs_substitute vs rest (List.forall_mem_cons.1 hmarksRest).2
    rw [substitute_append_protected vs (Glyph.continuesName_of_isProtected hprotected) hopen]
    constructor
    · simp only [List.filter_append, List.filter_cons_of_pos hprotected, filterBefore, filterRest]
    · rw [List.splitOnP_append_cons _ _ hprotected, List.splitOnP_append_cons _ _ hprotected,
        List.map_append, runsBefore, runsRest]
  termination_by t.length
  decreasing_by
  all_goals
    rw [ht, List.length_append, List.length_cons]
    omega

/-! ## References -/

/-- The names that a token refers to, one for each reference. -/
def referenced : Token → List String
  | [] => []
  | g :: rest => if g.opensReference then leadingName rest :: referenced rest else referenced rest

theorem opensReference_of_continuesName {g : Glyph} (h : g.continuesName) :
    g.opensReference = false := by
  obtain ⟨-, hname⟩ := eq_plain_of_continuesName h
  refine Bool.eq_false_iff.2 fun hopen => ?_
  rw [((opensReference_iff g).1 hopen).1] at hname
  exact absurd hname (by decide)

/-- No reference begins inside of a name. -/
theorem referenced_dropWhile (t : Token) :
    referenced (t.dropWhile Glyph.continuesName) = referenced t := by
  induction t with
  | nil => rfl
  | cons g rest ih =>
    cases hcontinues : g.continuesName with
    | false => rw [List.dropWhile_cons_of_neg (by simp [hcontinues])]
    | true =>
      rw [List.dropWhile_cons_of_pos hcontinues, ih, referenced,
        opensReference_of_continuesName hcontinues, if_neg Bool.false_ne_true]

theorem substitute_congr {vs ws : Variables} {t : Token}
    (h : ∀ name ∈ t.referenced, vs.value name = ws.value name) :
    t.substitute vs = t.substitute ws := by
  fun_induction substitute vs t with
  | case1 => rw [substitute]
  | case2 g rest hopen ih =>
    rw [referenced, if_pos hopen] at h
    obtain ⟨hname, hrest⟩ := List.forall_mem_cons.1 h
    rw [substitute, if_pos hopen, hname, ih]
    rwa [referenced_dropWhile]
  | case3 g rest hopen ih =>
    rw [referenced, if_neg hopen] at h
    rw [substitute, if_neg hopen, ih h]

/-- Whether no glyph of a token opens a reference. -/
def Closed (t : Token) : Prop := ∀ g ∈ t, g.opensReference = false

theorem substitute_of_closed {t : Token} (h : t.Closed) (vs : Variables) :
    t.substitute vs = t := by
  induction t with
  | nil => rw [substitute]
  | cons g rest ih =>
    obtain ⟨hg, hrest⟩ := List.forall_mem_cons.1 h
    rw [substitute, hg, if_neg Bool.false_ne_true, ih hrest]

/-- **Expansion leaves protected text alone and asks only for what is referenced.**  The
protected glyphs of a token stay, in their order and as they are, and the runs of bare
text between them are expanded each on its own.  Tables that give the referenced names
the same values expand the token alike, and a token without a dollar sign that is neither
escaped nor verbatim stays as it is. -/
theorem expand_protected (t : Token) :
    ((∀ g ∈ t, g.isBoundary → g.char = '\x00') → ∀ vs : Variables,
      (t.expand vs).filter Glyph.isProtected = t.filter Glyph.isProtected ∧
      (t.expand vs).splitOnP Glyph.isProtected =
        (t.splitOnP Glyph.isProtected).map (Token.expand vs)) ∧
    (∀ vs ws : Variables, (∀ name ∈ t.referenced, vs.value name = ws.value name) →
      t.expand vs = t.expand ws) ∧
    ((∀ g ∈ t, g.char = '$' → g.escaped ∨ g.role = .verbatim) →
      ∀ vs : Variables, t.expand vs = t) := by
  refine ⟨?_, ?_, ?_⟩
  · intro hmarks vs
    have hexpand : Token.expand vs = Token.substitute vs := funext (expand_eq_substitute vs)
    rw [hexpand]
    exact runs_substitute vs t hmarks
  · intro vs ws hagree
    rw [expand_eq_substitute, expand_eq_substitute, substitute_congr hagree]
  · intro hdollar vs
    have hclosed : t.Closed := by
      intro g hg
      refine Bool.eq_false_iff.2 fun hopen => ?_
      obtain ⟨hchar, hescaped, hrole⟩ := (opensReference_iff g).1 hopen
      rcases hdollar g hg hchar with hescaped' | hrole'
      · rw [hescaped] at hescaped'
        cases hescaped'
      · exact hrole hrole'
    rw [expand_eq_substitute, substitute_of_closed hclosed]

/-- A reference before a quotation, a dollar sign inside it and one behind a backslash. -/
theorem expand_protected_quoted :
    let t : Token := [.plain '$', .plain 'A', .boundary, .quoted '$', .quoted 'B', .boundary,
      .escape '$', .plain 'A']
    (t.expand (.ofEntries ["A=x"])).filter Glyph.isProtected =
      [.boundary, .quoted '$', .quoted 'B', .boundary, .escape '$'] ∧
    (t.expand (.ofEntries ["A=x"])).splitOnP Glyph.isProtected =
      [[.plain 'x'], [], [], [], [], [.plain 'A']] ∧
    t.expand (.ofEntries ["A=x"]) = t.expand (.ofEntries ["A=x", "B=y"]) ∧
    Token.expand (.ofEntries ["A=x"]) [.escape '$', .plain 'A'] = [.escape '$', .plain 'A'] := by
  intro t
  obtain ⟨hprotected, hagree, -⟩ := expand_protected t
  obtain ⟨hfilter, hruns⟩ := hprotected (by decide) (.ofEntries ["A=x"])
  refine ⟨hfilter.trans (by decide), hruns.trans (by decide), hagree _ _ (by decide), ?_⟩
  exact (expand_protected [.escape '$', .plain 'A']).2.2 (by decide) (.ofEntries ["A=x"])

/-! ## A second expansion -/

section

variable {vs : Variables} (hvalues : ∀ name value, vs.get? name = some value → '$' ∉ value.toList)

include hvalues in
theorem dollar_not_mem_value (name : String) : '$' ∉ (vs.value name).toList := by
  rw [Variables.value]
  cases hvalue : vs.get? name with
  | none => simp
  | some value => exact hvalues name value hvalue

include hvalues in
/-- Every reference is used up, and no value brings a new one. -/
theorem closed_substitute (t : Token) : (t.substitute vs).Closed := by
  fun_induction substitute vs t with
  | case1 => exact List.forall_mem_nil _
  | case2 g rest hopen ih =>
    refine List.forall_mem_append.2 ⟨fun g' hg' => Bool.eq_false_iff.2 fun hopen' => ?_, ih⟩
    obtain ⟨c, hc, rfl⟩ := List.mem_map.1 hg'
    obtain rfl : c = '$' := ((opensReference_iff _).1 hopen').1
    exact dollar_not_mem_value hvalues _ hc
  | case3 g rest hopen ih => exact List.forall_mem_cons.2 ⟨Bool.eq_false_iff.2 hopen, ih⟩

include hvalues in
/-- **Expansion is idempotent where no value has a dollar sign.**  No token of an
expanded line refers to anything, and expanding it once more leaves it as it is. -/
theorem map_expand_idem (ts : List Token) :
    (∀ t ∈ ts.map (Token.expand vs), t.Closed) ∧
      (ts.map (Token.expand vs)).map (Token.expand vs) = ts.map (Token.expand vs) := by
  have hclosed : ∀ t ∈ ts.map (Token.expand vs), t.Closed := by
    intro t ht
    obtain ⟨t', -, rfl⟩ := List.mem_map.1 ht
    rw [expand_eq_substitute]
    exact closed_substitute hvalues t'
  refine ⟨hclosed, (List.map_congr_left fun t ht => ?_).trans (List.map_id _)⟩
  rw [expand_eq_substitute, substitute_of_closed (hclosed t ht), id]

end

/-- References that stand side by side, one without a name, and one to no variable. -/
theorem map_expand_idem_adjacent :
    (∀ name value, (Variables.ofEntries ["X=|"]).get? name = some value → '$' ∉ value.toList) ∧
    ([[.plain '$', .plain 'X', .plain '$', .plain '$', .plain 'Y'], [.escape '$']].map
        (Token.expand (.ofEntries ["X=|"]))).map (Token.expand (.ofEntries ["X=|"])) =
      [[.plain '|'], [.escape '$']] := by
  have hvalues : ∀ name value, (Variables.ofEntries ["X=|"]).get? name = some value →
      '$' ∉ value.toList := by
    intro name value hvalue
    have hset : Variables.ofEntries ["X=|"] = Variables.empty.set "X" "|" := by rfl
    rw [hset, Variables.get?_set] at hvalue
    split at hvalue
    · cases hvalue
      decide
    · cases hvalue
  exact ⟨hvalues, (map_expand_idem hvalues _).2.trans (by decide)⟩

end Token

end LineShell
