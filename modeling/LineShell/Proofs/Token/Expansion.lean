import LineShell.Pipeline

/-!
# Expansion as a recursion over the token

`Token.expand` goes over a token once and carries the name that it is reading.
`Token.substitute` says the same without a state: at a reference the longest run
of glyphs that continue a name is cut off, its value is put in its place, and
the rest is expanded in the same way (`expand_eq_substitute`).

`Token.Expands` lays the same down as rules that speak of glyphs alone, and the scan
follows them (`expand_eq_iff`).

`Token.references` writes references one after the other.  Such a token expands
to the values alone (`substitute_references`), and where nothing of a token is
left but what its values bring, it is such a token
(`exists_references_of_substitute`).
-/

namespace LineShell

namespace Token

/-- The name that the glyphs at the front of a token spell. -/
def leadingName (t : Token) : String :=
  String.ofList ((t.takeWhile Glyph.continuesName).map Glyph.char)

/-- Puts the values of variables in place of the references of a token. -/
def substitute (vs : Variables) : Token → Token
  | [] => []
  | g :: rest =>
    if g.opensReference then
      (vs.value (leadingName rest)).toList.map Glyph.plain ++
        substitute vs (rest.dropWhile Glyph.continuesName)
    else g :: substitute vs rest
  termination_by t => t.length
  decreasing_by
  · exact Nat.lt_succ_of_le (List.dropWhile_sublist _).length_le
  · exact Nat.lt_succ_self _

/-! ## Names at the front of a token -/

theorem continuesName_plain (c : Char) : (Glyph.plain c).continuesName = isNameChar c := by
  simp [Glyph.continuesName, Glyph.plain, Glyph.isBare]

theorem eq_plain_of_continuesName {g : Glyph} (h : g.continuesName) :
    g = .plain g.char ∧ isNameChar g.char := by
  obtain ⟨c, escaped, role⟩ := g
  simp only [Glyph.continuesName, Glyph.isBare, Bool.and_eq_true, Bool.not_eq_true',
    beq_iff_eq] at h
  obtain ⟨hname, rfl, rfl⟩ := h
  exact ⟨rfl, hname⟩

section

variable {name : List Char} {rest : Token}

/-- The run of glyphs that a name takes up ends where no glyph continues it. -/
theorem takeWhile_name (hname : ∀ c ∈ name, isNameChar c)
    (hend : ∀ g ∈ rest.head?, g.continuesName = false) :
    (name.map Glyph.plain ++ rest).takeWhile Glyph.continuesName = name.map Glyph.plain ∧
      (name.map Glyph.plain ++ rest).dropWhile Glyph.continuesName = rest := by
  have hall : ∀ g ∈ name.map Glyph.plain, g.continuesName := by
    intro g hg
    obtain ⟨c, hc, rfl⟩ := List.mem_map.1 hg
    rw [continuesName_plain]
    exact hname c hc
  rw [List.takeWhile_append_of_pos hall, List.dropWhile_append_of_pos hall]
  cases rest with
  | nil => exact ⟨List.append_nil _, rfl⟩
  | cons g rest =>
    have hg := hend g rfl
    rw [List.takeWhile_cons_of_neg (by simp [hg]), List.dropWhile_cons_of_neg (by simp [hg])]
    exact ⟨List.append_nil _, rfl⟩

theorem leadingName_name (hname : ∀ c ∈ name, isNameChar c)
    (hend : ∀ g ∈ rest.head?, g.continuesName = false) :
    leadingName (name.map Glyph.plain ++ rest) = String.ofList name := by
  rw [leadingName, (takeWhile_name hname hend).1, List.map_map]
  exact congrArg String.ofList (List.map_id _)

end

theorem eq_plain_of_mem_takeWhile {t : Token} {g : Glyph}
    (h : g ∈ t.takeWhile Glyph.continuesName) : g = .plain g.char ∧ isNameChar g.char :=
  eq_plain_of_continuesName (List.all_eq_true.1 List.all_takeWhile g h)

theorem isNameChar_leadingName (t : Token) : ∀ c ∈ (leadingName t).toList, isNameChar c := by
  intro c hc
  rw [leadingName, String.toList_ofList] at hc
  obtain ⟨g, hg, rfl⟩ := List.mem_map.1 hc
  exact (eq_plain_of_mem_takeWhile hg).2

/-- A token begins with the glyphs of its leading name. -/
theorem leadingName_append (t : Token) :
    (leadingName t).toList.map .plain ++ t.dropWhile Glyph.continuesName = t := by
  have hplain : (leadingName t).toList.map .plain = t.takeWhile Glyph.continuesName := by
    rw [leadingName, String.toList_ofList, List.map_map]
    exact (List.map_congr_left fun g hg => (eq_plain_of_mem_takeWhile hg).1.symm).trans
      (List.map_id _)
  rw [hplain, List.takeWhile_append_dropWhile]

theorem head?_dropWhile (t : Token) :
    ∀ g ∈ (t.dropWhile Glyph.continuesName).head?, g.continuesName = false := by
  intro g hg
  have hhead := List.head?_dropWhile_not Glyph.continuesName t
  rw [Option.mem_def.1 hg] at hhead
  simpa using hhead

/-- A reference is replaced by the value of the name behind it. -/
theorem substitute_reference {g : Glyph} (hopen : g.opensReference) {name : List Char}
    (hname : ∀ c ∈ name, isNameChar c) {rest : Token}
    (hend : ∀ g' ∈ rest.head?, g'.continuesName = false) (vs : Variables) :
    substitute vs (g :: (name.map .plain ++ rest)) =
      (vs.value (String.ofList name)).toList.map .plain ++ substitute vs rest := by
  rw [substitute, if_pos hopen, leadingName_name hname hend, (takeWhile_name hname hend).2]

end Token

/-! ## The scan -/

namespace Expansion

variable (vs : Variables) (out : Array Glyph)

theorem splice_toList (name : String) :
    (splice vs out name).toList = out.toList ++ (vs.value name).toList.map Glyph.plain := by
  simp [splice]

/-- A glyph that does not continue the name is read as if the value stood there. -/
theorem step_end {g : Glyph} (h : g.continuesName = false) (name : String) :
    step vs ⟨out, some name⟩ g = step vs ⟨splice vs out name, none⟩ g := by
  simp only [step, h]
  rfl

/-- Outside of a reference, and inside one. -/
theorem finish_foldl (t : Token) :
    (∀ out, (t.foldl (step vs) ⟨out, none⟩).finish vs = out.toList ++ t.substitute vs) ∧
    ∀ out name, (t.foldl (step vs) ⟨out, some name⟩).finish vs =
      out.toList ++ (vs.value (name ++ t.leadingName)).toList.map Glyph.plain ++
        Token.substitute vs (t.dropWhile Glyph.continuesName) := by
  induction t with
  | nil =>
    constructor
    · intro out
      simp [finish, Token.substitute]
    · intro out name
      simp [finish, splice_toList, Token.substitute, Token.leadingName]
  | cons g rest ih =>
    obtain ⟨outside, inside⟩ := ih
    have houtside : ∀ out, ((g :: rest).foldl (step vs) ⟨out, none⟩).finish vs =
        out.toList ++ Token.substitute vs (g :: rest) := by
      intro out
      rw [List.foldl_cons, Token.substitute]
      cases hopen : g.opensReference with
      | true =>
        have hstep : step vs ⟨out, none⟩ g = ⟨out, some ""⟩ := by simp [step, hopen]
        rw [hstep, inside, String.empty_append, if_pos rfl, List.append_assoc]
      | false =>
        have hstep : step vs ⟨out, none⟩ g = ⟨out.push g, none⟩ := by simp [step, hopen]
        rw [hstep, outside, if_neg Bool.false_ne_true, Array.toList_push, List.append_assoc,
          List.singleton_append]
    refine ⟨houtside, fun out name => ?_⟩
    cases hname : g.continuesName with
    | true =>
      have hstep : step vs ⟨out, some name⟩ g = ⟨out, some (name.push g.char)⟩ := by
        simp [step, hname]
      have hleading : name.push g.char ++ Token.leadingName rest =
          name ++ Token.leadingName (g :: rest) := by
        rw [Token.leadingName, Token.leadingName, List.takeWhile_cons_of_pos hname, List.map_cons,
          ← String.toList_inj]
        simp
      rw [List.foldl_cons, hstep, inside, hleading, List.dropWhile_cons_of_pos hname]
    | false =>
      have hleading : Token.leadingName (g :: rest) = "" := by
        rw [Token.leadingName, List.takeWhile_cons_of_neg (by simp [hname])]
        rfl
      rw [List.foldl_cons, step_end vs out hname, ← List.foldl_cons, houtside, splice_toList,
        hleading, String.append_empty, List.dropWhile_cons_of_neg (by simp [hname])]

end Expansion

namespace Token

theorem expand_eq_substitute (vs : Variables) (t : Token) : t.expand vs = t.substitute vs :=
  (Expansion.finish_foldl vs t).1 #[]

/-! ## The rules of expansion -/

/-- What a token expands to, rule by rule from the left. -/
inductive Expands (vs : Variables) : Token → Token → Prop where
  | nil : Expands vs [] []
  | copy {g : Glyph} {rest out : Token} :
    ¬ (g.char = '$' ∧ g.escaped = false ∧ g.role ≠ .verbatim) →
    Expands vs rest out → Expands vs (g :: rest) (g :: out)
  | reference {g : Glyph} {name : List Char} {rest out : Token} :
    g.char = '$' ∧ g.escaped = false ∧ g.role ≠ .verbatim →
    (∀ c ∈ name, isNameChar c) →
    (∀ g' ∈ rest.head?, ∀ c, isNameChar c → g' ≠ .plain c) →
    Expands vs rest out →
    Expands vs (g :: (name.map .plain ++ rest))
      (((vs.get? (String.ofList name)).getD "").toList.map .plain ++ out)

theorem opensReference_iff (g : Glyph) :
    g.opensReference ↔ g.char = '$' ∧ g.escaped = false ∧ g.role ≠ .verbatim := by
  simp [Glyph.opensReference, and_assoc]

theorem continuesName_eq_false_iff (g : Glyph) :
    g.continuesName = false ↔ ∀ c, isNameChar c → g ≠ .plain c := by
  constructor
  · rintro h c hc rfl
    rw [continuesName_plain, hc] at h
    cases h
  · intro h
    refine Bool.eq_false_iff.2 fun hcontinues => ?_
    obtain ⟨hplain, hname⟩ := eq_plain_of_continuesName hcontinues
    exact h g.char hname hplain

theorem expands_substitute (vs : Variables) (t : Token) : Expands vs t (t.substitute vs) := by
  fun_induction substitute vs t with
  | case1 => exact .nil
  | case2 g rest hopen ih =>
    have hend : ∀ g' ∈ (rest.dropWhile Glyph.continuesName).head?, ∀ c, isNameChar c →
        g' ≠ .plain c :=
      fun g' hg' => (continuesName_eq_false_iff g').1 (head?_dropWhile rest g' hg')
    have hrule := Expands.reference ((opensReference_iff g).1 hopen)
      (isNameChar_leadingName rest) hend ih
    rwa [leadingName_append, String.ofList_toList] at hrule
  | case3 g rest hopen ih => exact .copy (mt (opensReference_iff g).2 hopen) ih

theorem Expands.substitute {vs : Variables} {t out : Token} (h : Expands vs t out) :
    t.substitute vs = out := by
  induction h with
  | nil => rw [Token.substitute]
  | @copy g rest out hopen _ ih =>
    rw [Token.substitute, if_neg (mt (opensReference_iff g).1 hopen), ih]
  | @reference g name rest out hopen hname hend _ ih =>
    rw [substitute_reference ((opensReference_iff g).2 hopen) hname
      (fun g' hg' => (continuesName_eq_false_iff g').2 (hend g' hg')), ih]
    rfl

/-- **Expansion follows the rules**: a dollar sign that is neither escaped nor verbatim
takes the longest run of bare name characters behind it and leaves the value of
that name, and reading goes on behind the run; every other glyph is copied.  No rule
reads a value. -/
theorem expand_eq_iff (vs : Variables) (t out : Token) :
    t.expand vs = out ↔ Expands vs t out := by
  rw [expand_eq_substitute]
  constructor
  · rintro rfl
    exact expands_substitute vs t
  · exact Expands.substitute

/-! ## Protected glyphs -/

/-- Protected glyphs stay in the token. -/
theorem mem_substitute {g : Glyph} {t : Token} (hmem : g ∈ t) (hbare : g.isBare = false)
    (hopen : g.opensReference = false) (vs : Variables) : g ∈ t.substitute vs := by
  fun_induction substitute vs t with
  | case1 => exact hmem
  | case2 g' rest hopen' ih =>
    rcases List.mem_cons.1 hmem with rfl | hmem
    · rw [hopen] at hopen'
      cases hopen'
    · rw [← List.takeWhile_append_dropWhile (p := Glyph.continuesName) (l := rest)] at hmem
      refine List.mem_append_right _ (ih ((List.mem_append.1 hmem).resolve_left fun hname => ?_))
      have hcontinues := List.all_eq_true.1 List.all_takeWhile g hname
      simp [Glyph.continuesName, hbare] at hcontinues
  | case3 g' rest _ ih =>
    rcases List.mem_cons.1 hmem with rfl | hmem
    · exact List.mem_cons_self
    · exact List.mem_cons_of_mem _ (ih hmem)

/-! ## Tokens made of references -/

/-- References to these variables, one after the other and outside of quotes. -/
def references (names : List String) : Token :=
  names.flatMap fun name => .plain '$' :: name.toList.map .plain

/-- Whether every character of these texts can stand in a name. -/
def Names (names : List String) : Prop := ∀ name ∈ names, ∀ c ∈ name.toList, isNameChar c

theorem eq_plain_of_opensReference {g : Glyph} (h : g.opensReference)
    (hmark : g.isBoundary = false) : g = .plain '$' := by
  obtain ⟨c, escaped, role⟩ := g
  simp only [Glyph.opensReference, Bool.and_eq_true, beq_iff_eq, Bool.not_eq_true',
    bne_iff_ne] at h
  obtain ⟨⟨rfl, rfl⟩, hrole⟩ := h
  cases role with
  | text => rfl
  | verbatim => exact absurd rfl hrole
  | boundary => cases hmark

theorem head?_references (names : List String) :
    ∀ g ∈ (references names).head?, g.continuesName = false := by
  cases names with
  | nil => simp [references]
  | cons name rest =>
    intro g hg
    obtain rfl := Option.some.inj hg
    decide

theorem substitute_references {names : List String} (hnames : Names names) (vs : Variables) :
    (references names).substitute vs =
      (String.join (names.map vs.value)).toList.map Glyph.plain := by
  induction names with
  | nil => simp [references, substitute]
  | cons name rest ih =>
    obtain ⟨hname, hrest⟩ := List.forall_mem_cons.1 hnames
    have hcons : references (name :: rest) =
        .plain '$' :: (name.toList.map Glyph.plain ++ references rest) := rfl
    rw [hcons, substitute_reference (by decide) hname (head?_references rest),
      String.ofList_toList, ih hrest, List.map_cons]
    simp

theorem exists_references_of_substitute {vs : Variables} {t : Token} {g : Glyph}
    (hmark : ∀ g' ∈ t, g'.isBoundary = false) (hg : g ∉ t) (h : ∀ g' ∈ t.substitute vs, g' = g) :
    ∃ names, Names names ∧ t = references names := by
  fun_induction substitute vs t with
  | case1 => exact ⟨[], List.forall_mem_nil _, rfl⟩
  | case2 g' rest hopen ih =>
    obtain ⟨hmark', hrest⟩ := List.forall_mem_cons.1 hmark
    have hsub : ∀ x ∈ rest.dropWhile Glyph.continuesName, x ∈ rest :=
      (List.dropWhile_sublist _).subset
    obtain ⟨names, hnames, hdrop⟩ := ih (fun x hx => hrest x (hsub x hx))
      (fun hx => hg (List.mem_cons_of_mem _ (hsub _ hx)))
      (fun x hx => h x (List.mem_append_right _ hx))
    have hrest' : rest = (leadingName rest).toList.map Glyph.plain ++ references names := by
      rw [← hdrop, leadingName_append]
    refine ⟨leadingName rest :: names,
      List.forall_mem_cons.2 ⟨isNameChar_leadingName rest, hnames⟩, ?_⟩
    rw [eq_plain_of_opensReference hopen hmark']
    exact congrArg (Glyph.plain '$' :: ·) hrest'
  | case3 g' rest hopen ih =>
    -- A glyph that is copied is `g`, which does not occur.
    obtain rfl := h g' List.mem_cons_self
    exact absurd List.mem_cons_self hg

end Token

end LineShell
