import LineShell.Text.Basic

/-!
# Variables

The variables of a shell are kept in a table.  It begins with those that the
process was born with, and every command sees it through the bindings of its
own.
-/

namespace LineShell

/-!
## Bindings and tables of variables

A binding is written `NAME=VALUE`.  A name consists of ASCII letters, digits
and underscores, so the first equals sign ends it, and the value is all the
rest.

A table of variables holds one value per name, sorted by name.  The order is
part of the type: two tables that answer every look-up alike are equal
(`Variables.ext_get`).
-/

/-- The characters of a name. -/
def isNameChar (c : Char) : Bool := c.isAlphanum || c == '_'

/-- Whether a text can name a variable in a binding. -/
def isName (cs : List Char) : Bool := !cs.isEmpty && cs.all isNameChar

/-- A name with its value. -/
structure Binding where
  name : String
  value : String
  deriving DecidableEq, Repr

namespace Binding

/-- Reads `NAME=VALUE`. -/
def parse? (s : String) : Option Binding :=
  let name := s.toList.takeWhile (· != '=')
  match s.toList.dropWhile (· != '=') with
  | _ :: value =>
    if isName name then some ⟨String.ofList name, String.ofList value⟩ else none
  | [] => none

/-- Writes `NAME=VALUE`. -/
def render (b : Binding) : String := b.name ++ "=" ++ b.value

end Binding

/-! ### Sorted entries -/

namespace Entries

/-- Names in ascending order, each once. -/
def Sorted (es : List (String × String)) : Prop :=
  es.Pairwise fun a b => a.1 < b.1

/-- The value of a name. -/
def get? (key : String) : List (String × String) → Option String
  | [] => none
  | (k, v) :: rest => if k = key then some v else get? key rest

/-- Gives a name a value, in place of an earlier one. -/
def insert (key value : String) :
    List (String × String) → List (String × String)
  | [] => [(key, value)]
  | (k, v) :: rest =>
    if key < k then (key, value) :: (k, v) :: rest
    else if key = k then (key, value) :: rest
    else (k, v) :: insert key value rest

/-- Forgets a name. -/
def erase (key : String) (es : List (String × String)) :
    List (String × String) :=
  es.filter fun e => e.1 != key

theorem mem_insert {key value : String} {es : List (String × String)}
    {e : String × String} (h : e ∈ insert key value es) :
    e = (key, value) ∨ e ∈ es := by
  induction es with
  | nil => simpa [insert] using h
  | cons x rest ih =>
    simp only [insert] at h
    split at h
    · simpa using h
    · split at h
      · rcases List.mem_cons.1 h with h | h
        · exact .inl h
        · exact .inr (List.mem_cons_of_mem _ h)
      · rcases List.mem_cons.1 h with h | h
        · exact .inr (h ▸ List.mem_cons_self)
        · exact (ih h).imp_right (List.mem_cons_of_mem _)

theorem lt_of_not_lt_of_ne {a b : String} (h : ¬a < b) (hne : a ≠ b) :
    b < a := by
  apply Decidable.byContradiction
  intro hba
  exact hne (String.le_antisymm (String.not_lt.1 hba) (String.not_lt.1 h))

theorem Sorted.insert {key value : String} {es : List (String × String)}
    (h : Sorted es) : Sorted (insert key value es) := by
  induction es with
  | nil => simp [Entries.insert, Sorted]
  | cons x rest ih =>
    obtain ⟨hx, hrest⟩ := List.pairwise_cons.1 h
    simp only [Entries.insert]
    split
    case isTrue hlt =>
      refine List.pairwise_cons.2 ⟨?_, h⟩
      intro e he
      rcases List.mem_cons.1 he with rfl | he
      · exact hlt
      · exact String.lt_trans hlt (hx e he)
    case isFalse hlt =>
      split
      case isTrue heq =>
        exact List.pairwise_cons.2 ⟨fun e he => heq ▸ hx e he, hrest⟩
      case isFalse hne =>
        refine List.pairwise_cons.2 ⟨?_, ih hrest⟩
        intro e he
        rcases mem_insert he with rfl | he
        · exact lt_of_not_lt_of_ne hlt hne
        · exact hx e he

theorem Sorted.erase {key : String} {es : List (String × String)}
    (h : Sorted es) : Sorted (erase key es) :=
  List.Pairwise.filter _ h

theorem get?_insert (key value name : String) (es : List (String × String)) :
    get? name (insert key value es) =
      if key = name then some value else get? name es := by
  induction es with
  | nil => simp [insert, get?]
  | cons x rest ih =>
    simp only [insert]
    split
    · simp [get?]
    · split
      · next heq => subst heq; by_cases h : x.1 = name <;> simp [get?, h]
      · next hne =>
        by_cases h : x.1 = name
        · have : key ≠ name := fun e => hne (e.trans h.symm)
          simp [get?, h, this]
        · simp [get?, h, ih]

theorem get?_erase (key name : String) (es : List (String × String)) :
    get? name (erase key es) = if key = name then none else get? name es := by
  induction es with
  | nil => simp [erase, get?]
  | cons x rest ih =>
    unfold erase at ih ⊢
    by_cases hx : x.1 = key
    · by_cases h : key = name <;> simp_all [get?]
    · by_cases h : key = name
      · subst h
        simp_all [get?]
      · by_cases hn : x.1 = name <;> simp_all [get?]

theorem get?_eq_none {key : String} {es : List (String × String)}
    (h : ∀ e ∈ es, key < e.1) : get? key es = none := by
  induction es with
  | nil => rfl
  | cons x rest ih =>
    have hx : x.1 ≠ key := fun e =>
      String.lt_irrefl _ (e ▸ h x List.mem_cons_self)
    simp [get?, hx, ih fun e he => h e (List.mem_cons_of_mem _ he)]

/-- Sorted entries are determined by the look-ups they answer. -/
theorem Sorted.ext {as bs : List (String × String)} (ha : Sorted as)
    (hb : Sorted bs) (h : ∀ k, get? k as = get? k bs) : as = bs := by
  induction as generalizing bs with
  | nil =>
    cases bs with
    | nil => rfl
    | cons y _ => simpa [get?] using h y.1
  | cons x as ih =>
    cases bs with
    | nil => simpa [get?] using h x.1
    | cons y bs =>
      obtain ⟨hx, has⟩ := List.pairwise_cons.1 ha
      obtain ⟨hy, hbs⟩ := List.pairwise_cons.1 hb
      have hkey : x.1 = y.1 := by
        apply Decidable.byContradiction
        intro hne
        by_cases hlt : x.1 < y.1
        · have hnone : get? x.1 (y :: bs) = none := by
            refine get?_eq_none fun e he => ?_
            rcases List.mem_cons.1 he with rfl | he
            · exact hlt
            · exact String.lt_trans hlt (hy e he)
          have hx' := (h x.1).trans hnone
          simp [get?] at hx'
        · have hlt := lt_of_not_lt_of_ne hlt hne
          have hnone : get? y.1 (x :: as) = none := by
            refine get?_eq_none fun e he => ?_
            rcases List.mem_cons.1 he with rfl | he
            · exact hlt
            · exact String.lt_trans hlt (hx e he)
          have hy' := (h y.1).symm.trans hnone
          simp [get?] at hy'
      have hval : x.2 = y.2 := by simpa [get?, hkey] using h x.1
      have hxy : x = y := Prod.ext hkey hval
      subst hxy
      refine congrArg (x :: ·) (ih has hbs fun k => ?_)
      by_cases hk : x.1 = k
      · subst hk
        rw [get?_eq_none hx, get?_eq_none hy]
      · simpa [get?, hk] using h k

end Entries

/-! ### Tables -/

/-- A table of variables. -/
structure Variables where
  entries : List (String × String)
  sorted : Entries.Sorted entries

namespace Variables

/-- The table without variables. -/
def empty : Variables := ⟨[], List.Pairwise.nil⟩

instance : Inhabited Variables := ⟨empty⟩

/-- The value of a variable. -/
def get? (vs : Variables) (name : String) : Option String :=
  Entries.get? name vs.entries

/-- The value of a variable, empty where it has none. -/
def value (vs : Variables) (name : String) : String :=
  (vs.get? name).getD ""

/-- Gives a variable a value. -/
def set (vs : Variables) (name value : String) : Variables :=
  ⟨Entries.insert name value vs.entries, vs.sorted.insert⟩

/-- Forgets a variable. -/
def erase (vs : Variables) (name : String) : Variables :=
  ⟨Entries.erase name vs.entries, vs.sorted.erase⟩

/-- Gives each binding's variable its value, from left to right. -/
def bindAll (vs : Variables) (bs : List Binding) : Variables :=
  bs.foldl (fun vs b => vs.set b.name b.value) vs

/-- The table that entries `NAME=VALUE` describe.  Other entries are left
out, and of two entries for one name the later wins. -/
def ofEntries (es : List String) : Variables :=
  empty.bindAll (es.filterMap Binding.parse?)

/-- The variables as bindings, by name. -/
def toList (vs : Variables) : List Binding :=
  vs.entries.map fun (k, v) => ⟨k, v⟩

theorem get?_set (vs : Variables) (key value name : String) :
    (vs.set key value).get? name =
      if key = name then some value else vs.get? name :=
  Entries.get?_insert key value name vs.entries

theorem get?_erase (vs : Variables) (key name : String) :
    (vs.erase key).get? name = if key = name then none else vs.get? name :=
  Entries.get?_erase key name vs.entries

/-- Of several bindings for one name the last one counts. -/
theorem get?_bindAll (vs : Variables) (bs : List Binding) (name : String) :
    (vs.bindAll bs).get? name =
      ((bs.reverse.find? fun b => b.name = name).map Binding.value).or (vs.get? name) := by
  induction bs generalizing vs with
  | nil => rfl
  | cons b rest ih =>
    have hstep : vs.bindAll (b :: rest) = (vs.set b.name b.value).bindAll rest := rfl
    rw [hstep, ih, get?_set, List.reverse_cons, List.find?_append]
    cases rest.reverse.find? fun b => b.name = name with
    | some b' => rfl
    | none => by_cases h : b.name = name <;> simp [h]

/-- Tables that answer every look-up alike are equal. -/
theorem ext_get {as bs : Variables} (h : ∀ k, as.get? k = bs.get? k) :
    as = bs := by
  obtain ⟨as, ha⟩ := as
  obtain ⟨bs, hb⟩ := bs
  have : as = bs := ha.ext hb h
  subst this
  rfl

end Variables

/-!
## The variables a command sees

A command sees the variables of the shell through the bindings written before
it.  Its own bindings come first in every look-up and go away with it.  The
one way through is `changeDirectory`, by which `cd` moves the shell.
-/

/-- The variable that holds the working directory. -/
def workingDirectoryName : String := "PWD"

/-- The variables of the shell, seen by one command. -/
structure Scope where
  shared : Variables
  own : Variables

namespace Scope

/-- The scope of a command without bindings. -/
def ofShared (vs : Variables) : Scope := ⟨vs, .empty⟩

/-- The scope of a command with these bindings. -/
def withBindings (vs : Variables) (bs : List Binding) : Scope :=
  ⟨vs, Variables.empty.bindAll bs⟩

/-- The value of a variable: the command's own, or else the shell's. -/
def get? (s : Scope) (name : String) : Option String :=
  (s.own.get? name).or (s.shared.get? name)

/-- The value of a variable, empty where it has none. -/
def value (s : Scope) (name : String) : String := (s.get? name).getD ""

/-- Gives a variable a value for this command only. -/
def set (s : Scope) (name value : String) : Scope :=
  { s with own := s.own.set name value }

/-- The directory that relative paths start from: the one recorded in the
variables, or `fallback`, the directory of the process, where none is. -/
def workingDirectory (s : Scope) (fallback : String) : String :=
  match s.get? workingDirectoryName with
  | some dir => if dir.isEmpty then fallback else dir
  | none => fallback

/-- Records a new working directory for the whole shell. -/
def changeDirectory (s : Scope) (dir : String) : Scope :=
  ⟨s.shared.set workingDirectoryName dir, s.own.erase workingDirectoryName⟩

/-- All bindings in force: the shell's that are not overridden, then the
command's own. -/
def bindings (s : Scope) : List Binding :=
  (s.shared.toList.filter fun b => (s.own.get? b.name).isNone) ++ s.own.toList

/-- The bindings in force, as a program receives them. -/
def exported (s : Scope) : List String := s.bindings.map Binding.render

end Scope

/-!
## Variables that a process is born with

A process receives its variables as entries of bytes.  Those that are bindings
in UTF-8 become variables of the shell; the others are left alone.  A shell
always knows its working directory, if need be from the process.
-/

namespace Variables

/-- The table of a shell whose process has these entries and works in this
directory. -/
def ofProcess (entries : List Bytes) (directory : String) : Variables :=
  let vs := ofEntries (entries.filterMap fun e => (Utf8.decode? e).map String.ofList)
  match vs.get? workingDirectoryName with
  | some _ => vs
  | none => vs.set workingDirectoryName directory

end Variables

end LineShell
