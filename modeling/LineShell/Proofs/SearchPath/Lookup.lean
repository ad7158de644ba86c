import LineShell.Proofs.Files.Canonical
import LineShell.Proofs.SearchPath.Splitting

/-!
# Looking up a name

A name without a slash is looked for in the entries of a search path.  Each entry gives
one path at which the name could be (`candidate`), and the first of these that is a file
is the answer (`find_eq_some_iff`, `find_eq_none_iff`).

A path that goes on behind a colon begins with the entries that it had before, even
where its last character was an active backslash (`split_append`).  So what has been
found is found in every longer path (`find_append`).
-/

namespace LineShell

namespace Path

theorem isAbsolute_iff {p : String} : isAbsolute p ↔ ['/'] <+: p.toList :=
  String.startsWith_string_iff

theorem join_of_isAbsolute {p : String} (h : isAbsolute p) (base : String) : join base p = p := by
  rw [join, h, Bool.true_or, if_pos rfl]

theorem not_isAbsolute_of_noSlash {p : String} (h : p.contains '/' = false) :
    isAbsolute p = false := by
  rw [Bool.eq_false_iff, ne_eq, isAbsolute_iff]
  intro hhead
  have hmem : '/' ∈ p.toList := hhead.subset List.mem_cons_self
  rw [String.contains_char_eq] at h
  exact of_decide_eq_false h hmem

theorem join_of_relative {base p : String} (hbase : base ≠ "") (h : isAbsolute p = false) :
    join base p = if base.endsWith "/" then base ++ p else base ++ "/" ++ p := by
  have hempty : base.isEmpty = false := by simpa using hbase
  rw [join, h, hempty, Bool.or_self, if_neg Bool.false_ne_true]

/-- The empty path is the directory itself. -/
theorem join_join_empty (dir : String) {name : String} (h : isAbsolute name = false) :
    join (join dir "") name = join dir name := by
  have habsolute : isAbsolute "" = false := by
    rw [Bool.eq_false_iff, ne_eq, isAbsolute_iff]
    decide
  by_cases hdir : dir = ""
  · subst hdir
    rfl
  rw [join_of_relative hdir habsolute, join_of_relative hdir h, String.append_empty,
    String.append_empty]
  by_cases hends : dir.endsWith "/"
  · rw [if_pos hends, if_pos hends, join_of_relative hdir h, if_pos hends]
  · have hslash : (dir ++ "/").endsWith "/" := (endsWith_slash_iff _).2 ⟨dir.toList, by simp⟩
    rw [if_neg hends, if_neg hends, join_of_relative (by simp) h, if_pos hslash]

end Path

namespace SearchPath

/-! ## Longer paths -/

namespace Progress

/-- Finished entries stay. -/
theorem finished_takeAll (p : Progress) (gs : List Glyph) :
    p.finished <:+ (p.takeAll gs).finished := by
  induction gs generalizing p with
  | nil => exact List.suffix_refl _
  | cons g rest ih =>
    have hstep : p.finished <:+ (p.take g).finished := by
      unfold take
      split
      · exact List.suffix_refl _
      · split
        · exact List.suffix_cons _ _
        · exact List.suffix_refl _
    exact hstep.trans (ih (p.take g))

end Progress

/-- The entries of a path begin every path that goes on behind a colon. -/
theorem split_append (path more : String) :
    ∃ entries later, split path = .ok entries ∧
      split (path ++ ":" ++ more) = .ok (entries ++ later) := by
  have hne : path ++ ":" ++ more ≠ "" := by
    intro h
    have hlength := congrArg (fun s => s.toList.length) h
    simp at hlength
  by_cases hpath : path = ""
  · subst hpath
    exact ⟨[], _, rfl, split_eq_finished hne⟩
  let before := Progress.start.takeAll (glyphs false path.toList)
  let escaped := endsEscaping false path.toList
  let behind := glyphs (protects escaped ':') more.toList ++
    [⟨':', endsEscaping (protects escaped ':') more.toList, .text⟩]
  have hchars : (path ++ ":" ++ more).toList = path.toList ++ ':' :: more.toList := by simp
  -- The colon between the two takes the place of the one that would close the first.
  have hsplit : split (path ++ ":" ++ more) =
      .ok (((before.take ⟨':', escaped, .text⟩).takeAll behind).finished.reverse.map
        Token.render) := by
    rw [split_eq_finished hne, hchars, glyphs_append, endsEscaping_append, Progress.takeAll_append]
    show Except.ok _ = _
    rw [Progress.takeAll_append (before.take _)]
    rfl
  obtain ⟨later, hlater⟩ := (before.take ⟨':', escaped, .text⟩).finished_takeAll behind
  refine ⟨_, later.reverse.map Token.render, split_eq_finished hpath, ?_⟩
  rw [hsplit, ← hlater, List.reverse_append, List.map_append]

theorem exists_split (path : String) : ∃ entries, split path = .ok entries := by
  obtain ⟨entries, -, hsplit, -⟩ := split_append path ""
  exact ⟨entries, hsplit⟩

/-! ## The first file -/

section

variable (fs : Files) (process : Location) (dir name : String)

/-- Where a name is looked for in an entry of a search path. -/
def candidate (entry : String) : String := Path.join (Path.join dir entry) name

/-- A path is the candidate of an entry, and a file as none of the entries before it has. -/
def FirstFile (entries : List String) (p : String) : Prop :=
  ∃ (i : Nat) (entry : String), entries[i]? = some entry ∧ p = candidate dir name entry ∧
    fs.isFile process p ∧
    ∀ (j : Nat) (other : String), j < i → entries[j]? = some other →
      fs.isFile process (candidate dir name other) = false

theorem firstFile_eq_find? (entries : List String) :
    firstFile fs process dir name entries =
      (entries.map (candidate dir name)).find? (fs.isFile process) := by
  induction entries with
  | nil => rfl
  | cons entry rest ih =>
    rw [firstFile, List.map_cons, List.find?_cons, ← ih]
    dsimp only [candidate]
    cases fs.isFile process (Path.join (Path.join dir entry) name) with
    | true => rfl
    | false => rfl

variable {fs process dir name}

theorem firstFile_eq_some_iff {entries : List String} {p : String} :
    firstFile fs process dir name entries = some p ↔
      FirstFile fs process dir name entries p := by
  rw [firstFile_eq_find?, List.find?_eq_some_iff_getElem]
  constructor
  · rintro ⟨hfile, i, hi, rfl, hfirst⟩
    rw [List.length_map] at hi
    rw [List.getElem_map] at hfile ⊢
    refine ⟨i, entries[i], List.getElem?_eq_getElem hi, rfl, hfile, fun j other hj hother => ?_⟩
    obtain ⟨hlt, rfl⟩ := List.getElem?_eq_some_iff.1 hother
    simpa using hfirst j hj
  · rintro ⟨i, entry, hentry, rfl, hfile, hfirst⟩
    obtain ⟨hi, rfl⟩ := List.getElem?_eq_some_iff.1 hentry
    refine ⟨hfile, i, by rwa [List.length_map], List.getElem_map _, fun j hj => ?_⟩
    have hother := hfirst j _ hj (List.getElem?_eq_getElem (Nat.lt_trans hj hi))
    simpa using hother

theorem firstFile_eq_none_iff {entries : List String} :
    firstFile fs process dir name entries = none ↔
      ∀ entry ∈ entries, fs.isFile process (candidate dir name entry) = false := by
  rw [firstFile_eq_find?, List.find?_eq_none]
  simp

/-- More entries make no difference where something has been found. -/
theorem firstFile_append {entries : List String} {p : String}
    (h : firstFile fs process dir name entries = some p) (later : List String) :
    firstFile fs process dir name (entries ++ later) = some p := by
  rw [firstFile_eq_find?] at h ⊢
  rw [List.map_append, List.find?_append, h, Option.some_or]

/-! ## Names -/

variable {path : String}

theorem find_eq_firstFile (hname : name ≠ "") (hslash : name.contains '/' = false)
    {entries : List String} (hsplit : split path = .ok entries) :
    find fs process path name dir = .ok (firstFile fs process dir name entries) := by
  have hempty : name.isEmpty = false := by simpa using hname
  simp only [find, hempty, hslash, hsplit, Bool.false_eq_true, if_false]

theorem find_of_slash (hslash : name.contains '/') :
    find fs process path name dir =
      .ok (if fs.isFile process (Path.join dir name) then some (Path.join dir name) else none) := by
  have hempty : name.isEmpty = false := by
    rw [String.contains_char_eq] at hslash
    have hmem : '/' ∈ name.toList := of_decide_eq_true hslash
    rw [Bool.eq_false_iff, ne_eq, String.isEmpty_iff]
    rintro rfl
    cases hmem
  simp only [find, hempty, hslash, Bool.false_eq_true, if_false, if_true]

theorem find_empty : find fs process path "" dir = .ok none := rfl

theorem find_eq_some_iff (hname : name ≠ "") (hslash : name.contains '/' = false)
    {entries : List String} (hsplit : split path = .ok entries) {p : String} :
    find fs process path name dir = .ok (some p) ↔
      FirstFile fs process dir name entries p := by
  rw [find_eq_firstFile hname hslash hsplit, Except.ok.injEq, firstFile_eq_some_iff]

theorem find_eq_none_iff (hname : name ≠ "") (hslash : name.contains '/' = false)
    {entries : List String} (hsplit : split path = .ok entries) :
    find fs process path name dir = .ok none ↔
      ∀ entry ∈ entries, fs.isFile process (candidate dir name entry) = false := by
  rw [find_eq_firstFile hname hslash hsplit, Except.ok.injEq, firstFile_eq_none_iff]

/-- A look-up always comes to an answer. -/
theorem exists_find (fs : Files) (process : Location) (path name dir : String) :
    ∃ found, find fs process path name dir = .ok found := by
  by_cases hname : name = ""
  · subst hname
    exact ⟨none, find_empty⟩
  cases hslash : name.contains '/' with
  | true => exact ⟨_, find_of_slash hslash⟩
  | false =>
    obtain ⟨entries, hsplit⟩ := exists_split path
    exact ⟨_, find_eq_firstFile hname hslash hsplit⟩

/-- **What has been found is found in every longer path.** -/
theorem find_append {p : String} (h : find fs process path name dir = .ok (some p))
    (more : String) : find fs process (path ++ ":" ++ more) name dir = .ok (some p) := by
  by_cases hname : name = ""
  · rw [hname, find_empty] at h
    cases h
  cases hslash : name.contains '/' with
  | true =>
    rw [find_of_slash hslash] at h ⊢
    exact h
  | false =>
    obtain ⟨entries, later, hsplit, hlonger⟩ := split_append path more
    rw [find_eq_firstFile hname hslash hsplit] at h
    rw [find_eq_firstFile hname hslash hlonger, firstFile_append (Except.ok.inj h)]

end

end SearchPath

end LineShell
