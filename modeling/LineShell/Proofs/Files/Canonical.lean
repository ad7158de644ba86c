import LineShell.Files.Basic

/-!
# Canonical locations

A path is resolved to a location by walking its steps, and a location is rendered as a
path.  The second undoes the first: the path that is rendered for the result of a walk
leads to this result again, from wherever it is walked.

A walk comes to a location without links and dots (`Files.walk_canonical`), and the names of
such a location are walked one by one (`Files.walk_names`).  In between, the steps of
a rendered location are its names (`Path.steps_render`).  A path of one name leads
to what its directory holds (`Files.read_single`).  Main statement:
`Files.directoryAt_render`.
-/

namespace LineShell

/-! ## Names of files -/

/-- A text that a directory can hold as a name. -/
structure Files.IsName (name : String) : Prop where
  nonempty : name ≠ ""
  noSlash : '/' ∉ name.toList
  noDot : name ≠ "."
  noDots : name ≠ ".."
  short : name.utf8ByteSize ≤ nameLimit

/-- Every name of the location is the name of a file. -/
def Location.Proper (l : Location) : Prop := ∀ name ∈ l, Files.IsName name

/-! ## The steps of a path -/

namespace Path

theorem not_mem_of_mem_pieces {cs piece : List Char} (h : piece ∈ pieces cs) : '/' ∉ piece := by
  induction cs generalizing piece with
  | nil =>
    rw [pieces, List.mem_singleton] at h
    rw [h]
    exact List.not_mem_nil
  | cons c rest ih =>
    rw [pieces] at h
    by_cases hc : c = '/'
    · rw [if_pos hc] at h
      rcases List.mem_cons.1 h with rfl | h
      · exact List.not_mem_nil
      · exact ih h
    · rw [if_neg hc] at h
      have hcons : ∀ {p : List Char}, '/' ∉ p → '/' ∉ c :: p := by
        intro p hp
        rw [List.mem_cons, not_or]
        exact ⟨Ne.symm hc, hp⟩
      split at h
      · rw [List.mem_singleton] at h
        exact h ▸ hcons List.not_mem_nil
      · next p ps hpieces =>
        rw [hpieces] at ih
        rcases List.mem_cons.1 h with rfl | h
        · exact hcons (ih List.mem_cons_self)
        · exact ih (List.mem_cons_of_mem _ h)

theorem steps_nonempty {p step : String} (h : step ∈ steps p) : step ≠ "" := by
  rcases List.mem_append.1 h with h | h
  · obtain ⟨piece, hpiece, rfl⟩ := List.mem_map.1 h
    have hne := (List.mem_filter.1 hpiece).2
    intro hempty
    rw [String.ofList_eq_empty_iff.1 hempty] at hne
    cases hne
  · split at h
    · rw [List.mem_singleton.1 h]
      decide
    · cases h

theorem steps_noSlash {p step : String} (h : step ∈ steps p) : '/' ∉ step.toList := by
  rcases List.mem_append.1 h with h | h
  · obtain ⟨piece, hpiece, rfl⟩ := List.mem_map.1 h
    rw [String.toList_ofList]
    exact not_mem_of_mem_pieces (List.mem_filter.1 hpiece).1
  · split at h
    · rw [List.mem_singleton.1 h]
      decide
    · cases h

theorem pieces_of_not_mem {cs : List Char} (h : '/' ∉ cs) : pieces cs = [cs] := by
  induction cs with
  | nil => rfl
  | cons c rest ih =>
    rw [List.mem_cons, not_or] at h
    rw [pieces, if_neg (Ne.symm h.1), ih h.2]

theorem pieces_append_slash {cs : List Char} (h : '/' ∉ cs) (rest : List Char) :
    pieces (cs ++ '/' :: rest) = cs :: pieces rest := by
  induction cs with
  | nil => rw [List.nil_append, pieces, if_pos rfl]
  | cons c cs ih =>
    rw [List.mem_cons, not_or] at h
    rw [List.cons_append, pieces, if_neg (Ne.symm h.1), ih h.2]

theorem mem_piece {c : Char} (hc : c ≠ '/') {cs : List Char} (h : c ∈ cs) :
    ∃ piece ∈ pieces cs, c ∈ piece := by
  induction cs with
  | nil => cases h
  | cons d rest ih =>
    rw [pieces]
    by_cases hd : d = '/'
    · obtain ⟨piece, hpiece, hmem⟩ := ih (List.mem_of_ne_of_mem (hd ▸ hc) h)
      rw [if_pos hd]
      exact ⟨piece, List.mem_cons_of_mem _ hpiece, hmem⟩
    · rw [if_neg hd]
      rcases List.mem_cons.1 h with rfl | h
      · split
        · exact ⟨_, List.mem_cons_self, List.mem_cons_self⟩
        · exact ⟨_, List.mem_cons_self, List.mem_cons_self⟩
      · obtain ⟨piece, hpiece, hmem⟩ := ih h
        split
        · next hnone =>
          rw [hnone] at hpiece
          cases hpiece
        · next p ps hsome =>
          rw [hsome] at hpiece
          rcases List.mem_cons.1 hpiece with rfl | hpiece
          · exact ⟨_, List.mem_cons_self, List.mem_cons_of_mem _ hmem⟩
          · exact ⟨piece, List.mem_cons_of_mem _ hpiece, hmem⟩

theorem endsWith_slash_iff (p : String) : p.endsWith "/" = true ↔ ['/'] <:+ p.toList := by
  rw [String.endsWith, String.Slice.endsWith_string_iff, String.copy_toSlice]
  exact Iff.rfl

/-- A path without names ends with a slash. -/
theorem steps_ne_nil {p : String} (h : p ≠ "") : steps p ≠ [] := by
  intro hnone
  obtain ⟨hnames, hends⟩ := List.append_eq_nil_iff.1 hnone
  have hpieces : ∀ piece ∈ pieces p.toList, piece = [] := by
    rw [List.map_eq_nil_iff, List.filter_eq_nil_iff] at hnames
    intro piece hpiece
    simpa using hnames piece hpiece
  have hchars : p.toList ≠ [] := mt String.toList_eq_nil_iff.1 h
  have hlast : p.toList.getLast hchars = '/' := by
    apply Decidable.byContradiction
    intro hne
    obtain ⟨piece, hpiece, hmem⟩ := mem_piece hne (List.getLast_mem hchars)
    rw [hpieces piece hpiece] at hmem
    cases hmem
  have hslash : p.endsWith "/" :=
    (endsWith_slash_iff p).2 ⟨_, hlast ▸ List.dropLast_concat_getLast hchars⟩
  rw [if_pos hslash] at hends
  cases hends

/-- How a location is rendered, name by name. -/
theorem toList_render {l : Location} (h : l ≠ []) :
    l.render.toList = l.flatMap fun name => '/' :: name.toList := by
  have hfold : ∀ (l : Location) (s : String), (l.foldl (fun s name => s ++ "/" ++ name) s).toList =
      s.toList ++ l.flatMap fun name => '/' :: name.toList := by
    intro l
    induction l with
    | nil => simp
    | cons name rest ih =>
      intro s
      rw [List.foldl_cons, ih]
      simp
  obtain ⟨name, rest, rfl⟩ := List.exists_cons_of_ne_nil h
  exact hfold _ ""

theorem pieces_names {name : String} {l : Location} (h : ∀ n ∈ name :: l, '/' ∉ n.toList) :
    pieces (name.toList ++ l.flatMap fun n => '/' :: n.toList) =
      (name :: l).map String.toList := by
  induction l generalizing name with
  | nil => simpa using pieces_of_not_mem (h name List.mem_cons_self)
  | cons n rest ih =>
    obtain ⟨hname, hrest⟩ := List.forall_mem_cons.1 h
    rw [List.flatMap_cons, List.cons_append, pieces_append_slash hname, ih hrest]
    rfl

/-- The steps of a location are its names. -/
theorem steps_render {l : Location} (h : l.Proper) (hne : l ≠ []) : steps l.render = l := by
  have hends : ¬ l.render.endsWith "/" := by
    rw [endsWith_slash_iff, toList_render hne]
    intro hsuffix
    have hlast := h _ (List.getLast_mem hne)
    have hchars : l.getLast hne ≠ "" := hlast.nonempty
    rw [← List.dropLast_concat_getLast hne, List.flatMap_append] at hsuffix
    have hname : (l.getLast hne).toList <:+ l.dropLast.flatMap (fun n => '/' :: n.toList) ++
        [l.getLast hne].flatMap fun n => '/' :: n.toList :=
      ⟨l.dropLast.flatMap (fun n => '/' :: n.toList) ++ ['/'], by simp⟩
    have hlength : ['/'].length ≤ (l.getLast hne).toList.length := by
      rw [List.length_singleton, String.length_toList]
      have := mt String.length_eq_zero_iff.1 hchars
      omega
    have hslash := List.suffix_of_suffix_length_le hsuffix hname hlength
    exact hlast.noSlash (hslash.subset List.mem_cons_self)
  have hpieces : pieces l.render.toList = [] :: l.map String.toList := by
    obtain ⟨name, rest, rfl⟩ := List.exists_cons_of_ne_nil hne
    rw [toList_render hne, List.flatMap_cons, List.cons_append, pieces, if_pos rfl,
      pieces_names fun n hn => (h n hn).noSlash]
  have hfull : (l.map String.toList).filter (fun s => !s.isEmpty) = l.map String.toList := by
    rw [List.filter_eq_self]
    intro cs hcs
    obtain ⟨name, hname, rfl⟩ := List.mem_map.1 hcs
    have := (h name hname).nonempty
    simpa using this
  unfold steps
  rw [if_neg hends, hpieces, List.append_nil]
  simp [hfull]

end Path

/-! ## Locations in a tree -/

theorem Node.descend?_append (n : Node) (p q : List String) :
    n.descend? (p ++ q) = (n.descend? p).bind fun m => m.descend? q := by
  induction p generalizing n with
  | nil => rfl
  | cons name rest ih =>
    rw [List.cons_append, descend?, descend?]
    cases n.child? name with
    | none => rfl
    | some m => exact ih m

namespace Files

variable {fs : Files} {links : Nat} {dir here l : Location}

/-- What a walk comes to: a node that is no link, found by proper names alone. -/
structure Canonical (fs : Files) (l : Location) : Prop where
  names : l.Proper
  node : ∃ n, fs.at? l = some n ∧ ∀ target, n ≠ .link target

theorem at?_concat {es : List (String × Node)} (h : fs.at? l = some (.directory es))
    (name : String) : fs.at? (l ++ [name]) = (Node.directory es).child? name := by
  unfold at? at h ⊢
  rw [Node.descend?_append, h, Option.bind_some, Node.descend?]
  cases (Node.directory es).child? name <;> rfl

/-- Whatever there is further on is in a directory. -/
theorem exists_directory {more : List String} (hmore : more ≠ []) {n : Node}
    (h : fs.at? (l ++ more) = some n) : ∃ es, fs.at? l = some (.directory es) := by
  unfold at? at h ⊢
  rw [Node.descend?_append] at h
  obtain ⟨m, hm, hrest⟩ := Option.bind_eq_some_iff.1 h
  obtain ⟨name, rest, rfl⟩ := List.exists_cons_of_ne_nil hmore
  cases m with
  | directory es => exact ⟨es, hm⟩
  | file => cases hrest
  | system => cases hrest
  | null => cases hrest
  | link => cases hrest

theorem canonical_of_directory {es : List (String × Node)} (hnames : l.Proper)
    (h : fs.at? l = some (.directory es)) : fs.Canonical l :=
  ⟨hnames, _, h, fun _ => Node.noConfusion⟩

theorem canonical_dropLast {es : List (String × Node)} (hnames : l.Proper)
    (h : fs.at? l = some (.directory es)) : fs.Canonical l.dropLast := by
  have hproper : Location.Proper l.dropLast := fun name hname =>
    hnames name ((List.dropLast_sublist l).subset hname)
  by_cases hl : l = []
  · subst hl
    exact canonical_of_directory hproper h
  · rw [← List.dropLast_concat_getLast hl] at h
    obtain ⟨es', hparent⟩ := exists_directory (List.cons_ne_nil _ _) h
    exact canonical_of_directory hproper hparent

theorem canonical_root {es : List (String × Node)} (h : fs.at? here = some (.directory es)) :
    fs.Canonical [] := by
  have hproper : Location.Proper [] := List.forall_mem_nil _
  by_cases hhere : here = []
  · exact canonical_of_directory hproper (hhere ▸ h)
  · obtain ⟨es', hroot⟩ := exists_directory (l := []) hhere h
    exact canonical_of_directory hproper hroot

/-- A walk comes to a canonical location.  It has to begin at one only where it has no
steps: any step shows that it begins in a directory. -/
theorem walk_canonical {steps : List String} (h : fs.walk links here steps = .ok l)
    (hsteps : ∀ s ∈ steps, s ≠ "" ∧ '/' ∉ s.toList) (hnames : here.Proper)
    (hhere : steps = [] → fs.Canonical here) : fs.Canonical l := by
  fun_induction Files.walk fs links here steps with
  | case1 => exact Except.ok.inj h ▸ hhere rfl
  | case2 links here rest es hdir ih =>
    exact ih h (List.forall_mem_cons.1 hsteps).2 hnames fun _ => canonical_of_directory hnames hdir
  | case3 links here rest es hdir _ ih =>
    have hparent := canonical_dropLast hnames hdir
    exact ih h (List.forall_mem_cons.1 hsteps).2 hparent.names fun _ => hparent
  | case4 => cases h
  | case5 => cases h
  | case6 => cases h
  | case7 => cases h
  | case8 here step rest es hdir hdot hdots hsize target hchild links hempty ih =>
    have htarget : ∀ s ∈ Path.steps target ++ rest, s ≠ "" ∧ '/' ∉ s.toList := by
      intro s hs
      rcases List.mem_append.1 hs with hs | hs
      · exact ⟨Path.steps_nonempty hs, Path.steps_noSlash hs⟩
      · exact hsteps s (List.mem_cons_of_mem _ hs)
    by_cases habs : Path.isAbsolute target
    · rw [if_pos habs] at h
      rw [dif_pos habs] at ih
      have hroot := canonical_root hdir
      exact ih h htarget hroot.names fun _ => hroot
    · rw [if_neg habs] at h
      rw [dif_neg habs] at ih
      exact ih h htarget hnames fun _ => canonical_of_directory hnames hdir
  | case9 links here step rest es hdir hdot hdots hsize n hlink hchild ih =>
    obtain ⟨⟨hnonempty, hslash⟩, hrest⟩ := List.forall_mem_cons.1 hsteps
    have hname : IsName step := ⟨hnonempty, hslash, hdot, hdots, Nat.not_lt.1 hsize⟩
    have hproper : Location.Proper (here ++ [step]) :=
      List.forall_mem_append.2 ⟨hnames, List.forall_mem_singleton.2 hname⟩
    have hnode : fs.at? (here ++ [step]) = some n := (at?_concat hdir step).trans hchild
    exact ih h hrest hproper fun _ => ⟨hproper, n, hnode, hlink⟩
  | case10 => cases h

/-- From a directory, the names of a canonical location are walked one by one. -/
theorem walk_names {names : List String} (h : fs.Canonical (here ++ names)) :
    fs.walk links here names = .ok (here ++ names) := by
  induction names generalizing here with
  | nil =>
    rw [walk, List.append_nil]
  | cons name rest ih =>
    obtain ⟨hproper, n, hnode, hlink⟩ := h
    obtain ⟨-, hname, -⟩ : Location.Proper here ∧ IsName name ∧ Location.Proper rest := by
      simpa [Location.Proper, or_imp, forall_and] using hproper
    have hsplit : here ++ name :: rest = (here ++ [name]) ++ rest := by simp
    obtain ⟨es, hdir⟩ := exists_directory (List.cons_ne_nil name rest) hnode
    have hchild : ∃ m, (Node.directory es).child? name = some m ∧ ∀ target, m ≠ .link target := by
      rw [hsplit] at hnode
      rw [← at?_concat hdir]
      by_cases hrest : rest = []
      · subst hrest
        rw [List.append_nil] at hnode
        exact ⟨n, hnode, hlink⟩
      · obtain ⟨es', hdir'⟩ := exists_directory hrest hnode
        exact ⟨_, hdir', fun _ => Node.noConfusion⟩
    obtain ⟨m, hchild, hm⟩ := hchild
    rw [walk, hdir]
    simp only [hname.noDot, hname.noDots, Nat.not_lt.2 hname.short, if_false, hchild]
    rw [hsplit] at hnode
    rw [ih ⟨hsplit ▸ hproper, n, hnode, hlink⟩, hsplit]

/-! ## Resolving what was rendered -/

/-- What a path is resolved to is canonical. -/
theorem resolve_canonical {p : String} (hdir : dir.Proper) (h : fs.resolve dir p = .ok l) :
    fs.Canonical l := by
  unfold resolve at h
  split at h
  · cases h
  · split at h
    · cases h
    · next hempty =>
      split at h
      · next l' hwalk =>
        obtain rfl := Except.ok.inj h
        refine walk_canonical hwalk ?_ ?_ ?_
        · intro s hs
          exact ⟨Path.steps_nonempty hs, Path.steps_noSlash hs⟩
        · split
          · exact List.forall_mem_nil _
          · exact hdir
        · intro hnone
          exact absurd hnone (Path.steps_ne_nil (by simpa using hempty))
      · cases h

theorem isAbsolute_render (l : Location) : Path.isAbsolute l.render := by
  unfold Path.isAbsolute
  rw [String.startsWith_string_iff]
  by_cases hl : l = []
  · rw [hl]
    decide
  · obtain ⟨name, rest, rfl⟩ := List.exists_cons_of_ne_nil hl
    rw [Path.toList_render hl]
    exact ⟨_, rfl⟩

theorem resolve_root (hnul : (Location.render []).contains '\x00' = false) :
    fs.resolve dir (Location.render []) =
      if fs.isDirectoryAt [] then .ok [] else .error (.system .notDirectory) := by
  have hsteps : Path.steps (Location.render []) = ["."] := by
    have hends : (Location.render []).endsWith "/" :=
      (Path.endsWith_slash_iff _).2 (List.suffix_refl _)
    rw [Path.steps, if_pos hends]
    decide
  have hempty : (Location.render []).isEmpty = false := by decide
  unfold resolve isDirectoryAt
  rw [hnul, hempty, if_pos (isAbsolute_render []), hsteps, walk]
  cases hroot : fs.at? [] with
  | none => rfl
  | some n => cases n <;> simp [walk, Node.isDirectory]

theorem resolve_render (h : fs.Canonical l) (hl : l ≠ [])
    (hnul : l.render.contains '\x00' = false) : fs.resolve dir l.render = .ok l := by
  have hempty : l.render.isEmpty = false := by
    have htext := Path.toList_render hl
    obtain ⟨name, rest, rfl⟩ := List.exists_cons_of_ne_nil hl
    rw [← Bool.not_eq_true, String.isEmpty_iff]
    intro hrender
    rw [hrender] at htext
    cases htext
  unfold resolve
  rw [hnul, hempty, if_pos (isAbsolute_render l), Path.steps_render h.names hl, walk_names h]
  simp

/-- The path of a canonical location leads to this location, from everywhere, and one can
go there if it is a directory whose path the system takes. -/
theorem directoryAt_render (h : fs.Canonical l) (dir : Location) :
    fs.directoryAt dir l.render =
      if l.render.contains '\x00' then .error .nulInPath
      else if pathLimit ≤ l.render.utf8ByteSize then .error (.system .nameTooLong)
      else if fs.isDirectoryAt l then .ok l
      else .error (.system .notDirectory) := by
  unfold directoryAt locate
  cases hnul : l.render.contains '\x00' with
  | true => simp [resolve, hnul]
  | false =>
    by_cases hsize : pathLimit ≤ l.render.utf8ByteSize
    · simp [hsize]
    · by_cases hl : l = []
      · subst hl
        rw [resolve_root hnul]
        cases hdir : fs.isDirectoryAt [] <;> simp [hsize, hdir]
      · rw [resolve_render h hl hnul]
        simp [hsize]

/-! ## Paths of one name -/

/-- A path that the system takes and that has one name only. -/
structure IsSingle (p name : String) : Prop where
  steps : Path.steps p = [name]
  isName : IsName name
  noNul : '\x00' ∉ p.toList
  short : p.utf8ByteSize < pathLimit

instance (name : String) : Decidable (IsName name) :=
  decidable_of_iff (name ≠ "" ∧ '/' ∉ name.toList ∧ name ≠ "." ∧ name ≠ ".." ∧
      name.utf8ByteSize ≤ nameLimit)
    ⟨fun ⟨h₁, h₂, h₃, h₄, h₅⟩ => ⟨h₁, h₂, h₃, h₄, h₅⟩,
      fun ⟨h₁, h₂, h₃, h₄, h₅⟩ => ⟨h₁, h₂, h₃, h₄, h₅⟩⟩

instance (p name : String) : Decidable (IsSingle p name) :=
  decidable_of_iff (Path.steps p = [name] ∧ IsName name ∧ '\x00' ∉ p.toList ∧
      p.utf8ByteSize < pathLimit)
    ⟨fun ⟨h₁, h₂, h₃, h₄⟩ => ⟨h₁, h₂, h₃, h₄⟩, fun ⟨h₁, h₂, h₃, h₄⟩ => ⟨h₁, h₂, h₃, h₄⟩⟩

/-- A path of one name leads to what its directory holds under this name, if that is no
link. -/
theorem read_single {p : String} (name : String) (found : Option Node) (h : IsSingle p name)
    {es : List (String × Node)}
    (hdir : fs.at? (if Path.isAbsolute p then [] else dir) = some (.directory es))
    (hchild : (Node.directory es).child? name = found)
    (hlink : ∀ target, found ≠ some (.link target)) :
    fs.read dir p =
      match found with
      | some n => n.content
      | none => .error (.system .noEntry) := by
  have hcontains : p.contains '\x00' = false := by simpa using h.noNul
  have hempty : p.isEmpty = false := by
    rw [Bool.eq_false_iff]
    intro hempty
    have hnone : Path.steps "" = [] := by decide +kernel
    have hsteps := h.steps
    rw [String.isEmpty_iff.1 hempty, hnone] at hsteps
    cases hsteps
  have hat := (at?_concat hdir name).trans hchild
  have hlength : ¬ name.utf8ByteSize > nameLimit := Nat.not_lt.2 h.isName.short
  unfold read find locate resolve
  simp only [Nat.not_le.2 h.short, hcontains, hempty, h.steps, Bool.false_eq_true, decide_false,
    Bool.false_and, if_false]
  generalize (if Path.isAbsolute p then [] else dir) = here at hdir hat ⊢
  cases found with
  | none => simp [walk, hdir, h.isName.noDot, h.isName.noDots, hlength, hchild]
  | some n =>
    cases n with
    | link target => exact absurd rfl (hlink target)
    | _ => simp [walk, hdir, h.isName.noDot, h.isName.noDots, hlength, hchild, hat]

end Files

end LineShell
