import LineShell.Proofs.Command.Variables
import LineShell.Proofs.Text.Basic
import LineShell.Proofs.Token.Quoting
import LineShell.Variable.Basic

/-!
# The variables of a command are one consistent view

A scope answers look-ups from two tables, writes to one of them through `set` and to
both through `changeDirectory`, and is flattened for the programs that it starts.  Here
the three ways to see it are compared: look-ups, the exported entries, and the
tables that a child reads from these entries.

What ties them is that every variable has a name that can be written in a binding
(`Variables.Named`).  Every table that a shell comes to has such names
(`Variables.Reachable.named`), and the calls of a command keep them (`Scope.named_after`).
Then the bindings in force are those that a look-up finds (`Scope.mem_bindings`), with each
name once, and what is rendered is read back.

Look-ups go by the last call that mentions a name (`Scope.get?_after`).  Main statement:
`Scope.after_consistent`.
-/

namespace LineShell

/-! ## Names of bindings -/

theorem Binding.isName_of_parse? {e : String} {b : Binding} (h : parse? e = some b) :
    isName b.name.toList := by
  unfold parse? at h
  dsimp only at h
  split at h
  · split at h
    · next hname =>
      obtain rfl := Option.some.inj h
      simpa using hname
    · cases h
  · cases h

theorem Binding.isName_of_mem_ofWords {words : List String} {b : Binding}
    (h : b ∈ (Command.ofWords words).bindings) : isName b.name.toList := by
  induction words with
  | nil => cases h
  | cons w rest ih =>
    cases hparse : parse? w with
    | none => simp [Command.ofWords, Command.splitBindings, hparse] at h
    | some b' =>
      have hmem : b = b' ∨ b ∈ (Command.ofWords rest).bindings := by
        simpa [Command.ofWords, Command.splitBindings, hparse] using h
      rcases hmem with rfl | hmem
      · exact isName_of_parse? hparse
      · exact ih hmem

theorem not_mem_of_isName {cs : List Char} (h : isName cs) : '=' ∉ cs := by
  rw [isName, Bool.and_eq_true, List.all_eq_true] at h
  intro hmem
  exact ne_of_isNameChar (h.2 '=' hmem) (by decide) rfl

/-! ## What a table holds -/

theorem Entries.get?_eq_some_iff {es : List (String × String)} (h : Sorted es)
    {name value : String} : get? name es = some value ↔ (name, value) ∈ es := by
  induction es with
  | nil => simp [get?]
  | cons e rest ih =>
    obtain ⟨hfirst, hrest⟩ := List.pairwise_cons.1 h
    rw [get?, List.mem_cons]
    by_cases hname : e.1 = name
    · have hlater : (name, value) ∉ rest := by
        intro hmem
        have hlt : e.1 < name := hfirst (name, value) hmem
        exact String.lt_irrefl name (hname ▸ hlt)
      simp [hname, hlater, Prod.ext_iff, eq_comm]
    · simp [hname, ih hrest, Prod.ext_iff, Ne.symm hname]

namespace Variables

/-- Every variable has a name that a binding can have. -/
def Named (vs : Variables) : Prop := ∀ n v, vs.get? n = some v → isName n.toList

theorem named_empty : Named empty := by
  intro n v h
  cases h

theorem Named.set {vs : Variables} (h : vs.Named) {name : String} (hname : isName name.toList)
    (value : String) : (vs.set name value).Named := by
  intro n v hv
  rw [get?_set] at hv
  split at hv
  · next heq => exact heq ▸ hname
  · exact h n v hv

theorem Named.erase {vs : Variables} (h : vs.Named) (name : String) : (vs.erase name).Named := by
  intro n v hv
  rw [get?_erase] at hv
  split at hv
  · cases hv
  · exact h n v hv

theorem Named.bindAll {vs : Variables} (h : vs.Named) {bs : List Binding}
    (hbs : ∀ b ∈ bs, isName b.name.toList) : (vs.bindAll bs).Named := by
  induction bs generalizing vs with
  | nil => exact h
  | cons b rest ih =>
    obtain ⟨hb, hrest⟩ := List.forall_mem_cons.1 hbs
    exact ih (h.set hb b.value) hrest

theorem named_ofEntries (es : List String) : (ofEntries es).Named := by
  refine named_empty.bindAll fun b hb => ?_
  obtain ⟨e, -, he⟩ := List.mem_filterMap.1 hb
  exact Binding.isName_of_parse? he

theorem get?_ofProcess (entries : List Bytes) (directory n : String) :
    (ofProcess entries directory).get? n =
      ((ofEntries (entries.filterMap fun e => (Utf8.decode? e).map String.ofList)).get? n).or
        (if n = workingDirectoryName then some directory else none) := by
  unfold ofProcess
  dsimp only
  split
  · next v hv =>
    by_cases hn : n = workingDirectoryName
    · simp [hn, hv]
    · simp [hn]
  · next hv =>
    rw [get?_set]
    by_cases hn : n = workingDirectoryName
    · simp [hn, hv]
    · simp [hn, Ne.symm hn]

theorem named_ofProcess (entries : List Bytes) (directory : String) :
    (ofProcess entries directory).Named := by
  unfold ofProcess
  dsimp only
  split
  · exact named_ofEntries _
  · exact (named_ofEntries _).set (by decide) directory

theorem mem_toList {vs : Variables} {b : Binding} :
    b ∈ vs.toList ↔ vs.get? b.name = some b.value := by
  rw [get?, Entries.get?_eq_some_iff vs.sorted, toList, List.mem_map]
  constructor
  · rintro ⟨e, he, rfl⟩
    exact he
  · intro hb
    exact ⟨_, hb, rfl⟩

theorem nodup_toList (vs : Variables) : (vs.toList.map Binding.name).Nodup := by
  have hsorted := vs.sorted
  rw [toList, List.map_map, List.Nodup, List.pairwise_map]
  refine hsorted.imp ?_
  intro a b hlt heq
  exact String.lt_irrefl b.1 ((show a.1 = b.1 from heq) ▸ hlt)

/-! ## Tables of a shell -/

/-- The tables that a shell can come to. -/
inductive Reachable : Variables → Prop where
  | entries (es : List String) : Reachable (ofEntries es)
  | process (entries : List Bytes) (directory : String) : Reachable (ofProcess entries directory)
  | command (host : Host) (words : List String) (s : Surroundings) (h : Reachable s.world.vars) :
      Reachable ((Command.ofWords words).run host s).2.world.vars

theorem Reachable.named {vs : Variables} (h : Reachable vs) : vs.Named := by
  induction h with
  | entries es => exact named_ofEntries es
  | process entries directory => exact named_ofProcess entries directory
  | command host words s _ ih =>
    rcases Command.run_cases host (.ofWords words) s with
      ⟨-, hrun⟩ | ⟨-, hvars, -⟩ | ⟨-, -, l, -, -, -, -, hvars⟩
    · rw [hrun]
      exact ih.bindAll fun b hb => Binding.isName_of_mem_ofWords hb
    · rwa [hvars]
    · rw [hvars]
      exact ih.set (by decide) l.render

end Variables

namespace Scope

/-! ## The bindings in force -/

/-- Every variable of either table has a name that a binding can have. -/
structure Named (s : Scope) : Prop where
  shared : s.shared.Named
  own : s.own.Named

theorem mem_bindings {s : Scope} {b : Binding} :
    b ∈ s.bindings ↔ s.get? b.name = some b.value := by
  rw [bindings, List.mem_append, List.mem_filter, Variables.mem_toList, Variables.mem_toList, get?]
  cases s.own.get? b.name <;> simp

theorem nodup_bindings (s : Scope) : (s.bindings.map Binding.name).Nodup := by
  rw [bindings, List.map_append, List.nodup_append]
  refine ⟨?_, s.own.nodup_toList, ?_⟩
  · exact (s.shared.nodup_toList).sublist (List.filter_sublist.map _)
  · intro n hshared m hown heq
    obtain ⟨b, hb, rfl⟩ := List.mem_map.1 hshared
    obtain ⟨b', hb', rfl⟩ := List.mem_map.1 hown
    have hnone := (List.mem_filter.1 hb).2
    rw [heq, Variables.mem_toList.1 hb'] at hnone
    cases hnone

theorem Named.isName {s : Scope} (h : s.Named) {b : Binding} (hb : b ∈ s.bindings) :
    isName b.name.toList := by
  have hget := mem_bindings.1 hb
  rw [get?] at hget
  cases hown : s.own.get? b.name with
  | some v => exact h.own _ _ hown
  | none =>
    rw [hown, Option.none_or] at hget
    exact h.shared _ _ hget

/-- Giving an empty table all bindings in force gives it the whole view. -/
theorem get?_bindAll_bindings (s : Scope) (n : String) :
    (Variables.empty.bindAll s.bindings).get? n = s.get? n := by
  rw [Variables.get?_bindAll]
  cases hfind : s.bindings.reverse.find? fun b => b.name = n with
  | some b =>
    have hname : b.name = n := by simpa using List.find?_some hfind
    have hmem : b ∈ s.bindings := List.mem_reverse.1 (List.mem_of_find?_eq_some hfind)
    rw [← hname, mem_bindings.1 hmem]
    rfl
  | none =>
    cases hget : s.get? n with
    | none => rfl
    | some v =>
      have hmem : (⟨n, v⟩ : Binding) ∈ s.bindings := mem_bindings.2 hget
      have hno := List.find?_eq_none.1 hfind _ (List.mem_reverse.2 hmem)
      exact absurd (decide_eq_true rfl) hno

/-! ## The exported entries -/

theorem Named.parse_exported {s : Scope} (h : s.Named) :
    s.exported.map Binding.parse? = s.bindings.map some := by
  rw [exported, List.map_map]
  refine List.map_congr_left fun b hb => ?_
  exact Binding.parse?_render (h.isName hb)

theorem Named.get?_ofEntries_exported {s : Scope} (h : s.Named) (n : String) :
    (Variables.ofEntries s.exported).get? n = s.get? n := by
  have hread : s.exported.filterMap Binding.parse? = s.bindings := by
    have hid := congrArg (List.filterMap id) h.parse_exported
    simpa using hid
  rw [Variables.ofEntries, hread, get?_bindAll_bindings]

theorem Named.get?_ofProcess_exported {s : Scope} (h : s.Named) (directory n : String) :
    (Variables.ofProcess (s.exported.map bytesOf) directory).get? n =
      (s.get? n).or (if n = workingDirectoryName then some directory else none) := by
  have hdecode : (s.exported.map bytesOf).filterMap
      (fun e => (Utf8.decode? e).map String.ofList) = s.exported := by
    have hread : ∀ e : String, (Utf8.decode? (bytesOf e)).map String.ofList = some e := by
      intro e
      rw [bytesOf, Utf8.decode?_encode]
      exact congrArg some String.ofList_toList
    rw [List.filterMap_map, show (fun e => (Utf8.decode? e).map String.ofList) ∘ bytesOf = some from
      funext hread, List.filterMap_some]
  rw [Variables.get?_ofProcess, hdecode, h.get?_ofEntries_exported]

/-- An entry is exported where a look-up finds just its value. -/
theorem Named.mem_exported {s : Scope} (h : s.Named) {n v : String} (hn : '=' ∉ n.toList) :
    n ++ "=" ++ v ∈ s.exported ↔ s.get? n = some v := by
  constructor
  · intro hmem
    obtain ⟨b, hb, hrender⟩ := List.mem_map.1 hmem
    have htext : b.name.toList ++ '=' :: b.value.toList = n.toList ++ '=' :: v.toList := by
      simpa [Binding.render] using congrArg String.toList hrender
    have hcut : ∀ {cs : List Char} (ds : List Char), '=' ∉ cs →
        (cs ++ '=' :: ds).takeWhile (· != '=') = cs := by
      intro cs ds hcs
      have hne : ∀ c ∈ cs, (c != '=') = true := by
        intro c hc
        refine bne_iff_ne.2 ?_
        rintro rfl
        exact hcs hc
      rw [List.takeWhile_append_of_pos hne]
      simp
    have hname : b.name.toList = n.toList := by
      rw [← hcut b.value.toList (not_mem_of_isName (h.isName hb)), htext, hcut v.toList hn]
    have hvalue : b.value.toList = v.toList := by simpa [hname] using htext
    rw [← String.toList_inj.1 hname, ← String.toList_inj.1 hvalue]
    exact mem_bindings.1 hb
  · intro hget
    have hb : (⟨n, v⟩ : Binding) ∈ s.bindings := mem_bindings.2 hget
    exact List.mem_map.2 ⟨_, hb, rfl⟩

/-! ## The calls of a command -/

/-- What a command can ask of its scope. -/
inductive Call where
  | set (name value : String)
  | changeDirectory (dir : String)
  | get (name : String)
  | exported

namespace Call

/-- What a call does to the scope.  Look-ups leave it as it is. -/
def run : Call → Scope → Scope
  | .set name value, s => s.set name value
  | .changeDirectory dir, s => s.changeDirectory dir
  | .get _, s => s
  | .exported, s => s

/-- Only names that a binding can have are given values. -/
def isValid : Call → Bool
  | .set name _ => isName name.toList
  | _ => true

/-- The directory that a call changes to. -/
def directory? : Call → Option String
  | .changeDirectory dir => some dir
  | _ => none

/-- The value that a call gives to a variable. -/
def value? (n : String) : Call → Option String
  | .set name value => if name = n then some value else none
  | .changeDirectory dir => if workingDirectoryName = n then some dir else none
  | _ => none

theorem named_run {s : Scope} (h : s.Named) {c : Call} (hc : c.isValid) : (c.run s).Named := by
  cases c with
  | set name value => exact ⟨h.shared, h.own.set hc value⟩
  | changeDirectory dir => exact ⟨h.shared.set (by decide) dir, h.own.erase workingDirectoryName⟩
  | get name => exact h
  | exported => exact h

theorem get?_run (c : Call) (s : Scope) (n : String) :
    (c.run s).get? n = (c.value? n).or (s.get? n) := by
  cases c with
  | set name value =>
    rw [run, Scope.set, Scope.get?, Variables.get?_set, value?]
    split
    · rfl
    · rfl
  | changeDirectory dir =>
    rw [run, Scope.changeDirectory, Scope.get?, Variables.get?_erase, Variables.get?_set, value?]
    split
    · rfl
    · rfl
  | get name => rfl
  | exported => rfl

theorem get?_shared_run (c : Call) (s : Scope) (n : String) :
    (c.run s).shared.get? n =
      (if n = workingDirectoryName then c.directory? else none).or (s.shared.get? n) := by
  cases c with
  | changeDirectory dir =>
    rw [run, Scope.changeDirectory, Variables.get?_set, directory?]
    by_cases hn : n = workingDirectoryName
    · simp [hn]
    · simp [hn, Ne.symm hn]
  | set name value => simp [run, Scope.set, directory?]
  | get name => simp [run, directory?]
  | exported => simp [run, directory?]

end Call

/-- The scope after a run of calls. -/
def after (s : Scope) (calls : List Call) : Scope := calls.foldl (fun s c => c.run s) s

theorem named_after {s : Scope} (h : s.Named) {calls : List Call}
    (hcalls : ∀ c ∈ calls, c.isValid) : (s.after calls).Named := by
  induction calls generalizing s with
  | nil => exact h
  | cons c rest ih =>
    obtain ⟨hc, hrest⟩ := List.forall_mem_cons.1 hcalls
    exact ih (Call.named_run h hc) hrest

/-- The last call that gives a variable a value decides what a look-up finds. -/
theorem get?_after (s : Scope) (calls : List Call) (n : String) :
    (s.after calls).get? n = (calls.reverse.findSome? (Call.value? n)).or (s.get? n) := by
  induction calls generalizing s with
  | nil => rfl
  | cons c rest ih =>
    have hstep : s.after (c :: rest) = (c.run s).after rest := rfl
    rw [hstep, ih, Call.get?_run, List.reverse_cons, List.findSome?_append, Option.or_assoc]
    cases hc : c.value? n <;> simp [hc]

/-- Only the last change of directory is seen in the variables of the shell. -/
theorem get?_shared_after (s : Scope) (calls : List Call) (n : String) :
    (s.after calls).shared.get? n =
      (if n = workingDirectoryName then calls.reverse.findSome? Call.directory? else none).or
        (s.shared.get? n) := by
  induction calls generalizing s with
  | nil => simp [after]
  | cons c rest ih =>
    have hstep : s.after (c :: rest) = (c.run s).after rest := rfl
    rw [hstep, ih, Call.get?_shared_run, List.reverse_cons, List.findSome?_append,
      ← Option.or_assoc]
    by_cases hn : n = workingDirectoryName
    · cases hc : c.directory? <;> simp [hn, hc]
    · simp [hn]

/-! What the last call says is looked for from the end. -/

section Last

variable {f : Call → Option String} {calls before later : List Call}

theorem findSome?_of_silent (h : ∀ c ∈ calls, f c = none) : calls.reverse.findSome? f = none := by
  rw [List.findSome?_eq_none_iff]
  intro c hc
  exact h c (List.mem_reverse.1 hc)

/-- A call behind which no other says anything is the last. -/
theorem findSome?_of_last {c : Call} {v : String} (hc : f c = some v)
    (hlater : ∀ c ∈ later, f c = none) :
    (before ++ c :: later).reverse.findSome? f = some v := by
  have hnone := findSome?_of_silent hlater
  simp [hnone, hc]

end Last

theorem named_withBindings {vs : Variables} (h : vs.Named) (words : List String) :
    (withBindings vs (Command.ofWords words).bindings).Named := by
  refine ⟨h, Variables.named_empty.bindAll ?_⟩
  intro b hb
  exact Binding.isName_of_mem_ofWords hb

theorem get?_withBindings (vs : Variables) (bs : List Binding) (n : String) :
    (withBindings vs bs).get? n =
      ((bs.reverse.find? fun b => b.name = n).map Binding.value).or (vs.get? n) := by
  rw [withBindings, get?, Variables.get?_bindAll]
  exact congrArg (fun o => Option.or o (vs.get? n)) Option.or_none

/-! ## The view and what is exported of it -/

/-- All ways to see a scope agree. -/
structure Consistent (s : Scope) : Prop where
  /-- Each exported entry is a binding, -/
  readBack : s.exported.map Binding.parse? = s.bindings.map some
  /-- no two of them for one name, -/
  nodup : (s.bindings.map Binding.name).Nodup
  /-- and an entry is there just where a look-up finds its value. -/
  mem_iff : ∀ n v, '=' ∉ n.toList → (n ++ "=" ++ v ∈ s.exported ↔ s.get? n = some v)
  /-- The table of the exported entries is the view, -/
  loaded : ∀ n, (Variables.ofEntries s.exported).get? n = s.get? n
  /-- and so is the table of a shell that starts with them, which at most adds the
  directory that it starts in. -/
  inherited : ∀ directory n, (Variables.ofProcess (s.exported.map bytesOf) directory).get? n =
    (s.get? n).or (if n = workingDirectoryName then some directory else none)

theorem Named.consistent {s : Scope} (h : s.Named) : s.Consistent where
  readBack := h.parse_exported
  nodup := s.nodup_bindings
  mem_iff _ _ hn := h.mem_exported hn
  loaded := h.get?_ofEntries_exported
  inherited := h.get?_ofProcess_exported

/-- **What a command sees, exports and leaves behind.**  However a shell came to its
variables, and whatever a command with whatever bindings does with its scope: all ways to
see the scope agree.  A look-up finds what the command itself gave the variable last, or
else the last binding before the command, or else what the shell has.  Of the shell's own
variables at most the working directory differs, which then is the last one that was
changed to.  A look-up finds this one too, unless the command has given the variable
another value since. -/
theorem after_consistent {vs : Variables} (hvs : vs.Reachable) (words : List String)
    (calls : List Call) (hcalls : ∀ c ∈ calls, c.isValid) :
    let s := (withBindings vs (Command.ofWords words).bindings).after calls
    s.Consistent ∧
    (∀ n, s.get? n = ((calls.reverse.findSome? (Call.value? n)).or
      (((Command.ofWords words).bindings.reverse.find? fun b => b.name = n).map
        Binding.value)).or (vs.get? n)) ∧
    (∀ n, n ≠ workingDirectoryName → s.shared.get? n = vs.get? n) ∧
    ((∀ c ∈ calls, c.directory? = none) → s.shared = vs) ∧
    (∀ before dir later, calls = before ++ .changeDirectory dir :: later →
      (∀ c ∈ later, c.directory? = none) →
        s.shared.get? workingDirectoryName = some dir ∧
        ((∀ c ∈ later, c.value? workingDirectoryName = none) →
          s.get? workingDirectoryName = some dir)) := by
  intro s
  have hnamed : s.Named := named_after (named_withBindings hvs.named words) hcalls
  refine ⟨hnamed.consistent, ?_, ?_, ?_, ?_⟩
  · intro n
    have hget := get?_after (withBindings vs (Command.ofWords words).bindings) calls n
    rwa [get?_withBindings, ← Option.or_assoc] at hget
  · intro n hn
    have hget := get?_shared_after (withBindings vs (Command.ofWords words).bindings) calls n
    rwa [if_neg hn] at hget
  · intro hnone
    refine Variables.ext_get fun n => ?_
    rw [get?_shared_after, findSome?_of_silent hnone, ite_self]
    rfl
  · rintro before dir later rfl hlater
    refine ⟨?_, ?_⟩
    · rw [get?_shared_after, if_pos rfl, findSome?_of_last rfl hlater]
      rfl
    · intro hunset
      have hdir : (Call.changeDirectory dir).value? workingDirectoryName = some dir := by
        rw [Call.value?, if_pos rfl]
      rw [get?_after, findSome?_of_last hdir hunset]
      rfl

/-- A variable given before the command hides the directory that the command changes to
until the change, and a later value hides it again. -/
theorem after_consistent_pwd :
    let s := (withBindings (Variables.ofEntries ["A=1", "PWD=/old"])
      (Command.ofWords ["PWD=/mine", "cd"]).bindings).after
        [.set "A" "x=y", .changeDirectory "/new", .get "PWD", .set "PWD" "/late", .exported]
    s.Consistent ∧ s.exported = ["A=x=y", "PWD=/late"] ∧
    s.shared.get? "A" = some "1" ∧ s.shared.get? "PWD" = some "/new" := by
  intro s
  have hvs := Variables.Reachable.entries ["A=1", "PWD=/old"]
  have hvalid : ∀ c ∈ [Call.set "A" "x=y", .changeDirectory "/new", .get "PWD",
      .set "PWD" "/late", .exported], c.isValid := by decide
  obtain ⟨hconsistent, -, hframe, -, hlast⟩ := after_consistent hvs ["PWD=/mine", "cd"] _ hvalid
  obtain ⟨hpwd, -⟩ := hlast [.set "A" "x=y"] "/new" [.get "PWD", .set "PWD" "/late", .exported] rfl
    (by decide)
  exact ⟨hconsistent, by decide, hframe "A" (by decide), hpwd⟩

end Scope

end LineShell
