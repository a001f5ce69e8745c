import PipeShell.Text.Utf8

/-!
# The environment

Variables in the order in which they were first set. Setting a variable again changes its value
in place; a removed one leaves no trace.
-/

namespace PipeShell

def isNameStart (c : Char) : Bool := c.isAlpha || c == '_'

def isNameChar (c : Char) : Bool := c.isAlphanum || c == '_'

/-- A variable name: an ASCII letter or `_`, then ASCII letters, digits and `_`. -/
def isValidName : List Char → Bool
  | [] => false
  | first :: rest => isNameStart first && rest.all isNameChar

structure Environment where
  entries : List (String × String) := []
  deriving DecidableEq, Repr

namespace Environment

def empty : Environment := {}

def lookup (name : String) : List (String × String) → Option String
  | [] => none
  | (known, value) :: rest => if known = name then some value else lookup name rest

def assign (name value : String) : List (String × String) → List (String × String)
  | [] => [(name, value)]
  | (known, old) :: rest =>
    if known = name then (known, value) :: rest else (known, old) :: assign name value rest

def erase (name : String) : List (String × String) → List (String × String)
  | [] => []
  | (known, value) :: rest => if known = name then rest else (known, value) :: erase name rest

def extract (name : String) :
    List (String × String) → Option (String × List (String × String))
  | [] => none
  | (known, value) :: rest =>
    if known = name then some (value, rest)
    else (extract name rest).map fun (found, others) => (found, (known, value) :: others)

def get? (environment : Environment) (name : String) : Option String :=
  lookup name environment.entries

def set (environment : Environment) (name value : String) : Environment :=
  ⟨assign name value environment.entries⟩

def remove (environment : Environment) (name : String) : Environment :=
  ⟨erase name environment.entries⟩

def take? (environment : Environment) (name : String) : Option (String × Environment) :=
  (extract name environment.entries).map fun (value, entries) => (value, ⟨entries⟩)

def size (environment : Environment) : Nat := environment.entries.length

def ofList (pairs : List (String × String)) : Environment :=
  pairs.foldl (fun environment pair => environment.set pair.1 pair.2) empty

def assignmentText (pair : String × String) : String := pair.1 ++ "=" ++ pair.2

def listing (environment : Environment) : String :=
  String.join (environment.entries.map fun pair => assignmentText pair ++ "\n")

def nulPosition? (text : String) : Option Nat :=
  (encode text).findIdx? (· == 0)

def nulMessage (position : Nat) : String :=
  s!"nul byte found in provided data at position: {position}"

/-- The `NAME=value` strings a program is started with. Strings with a NUL cannot be handed over:
the first such entry fails with the position of its first NUL. -/
def toStrings : List (String × String) → Except Nat (List String)
  | [] => .ok []
  | pair :: rest =>
    match nulPosition? (assignmentText pair) with
    | some position => .error position
    | none => (toStrings rest).map (assignmentText pair :: ·)

def toArguments (environment : Environment) : Except Nat (List String) :=
  toStrings environment.entries

/-! ## What the operations do to the listing -/

def names (environment : Environment) : List String := environment.entries.map Prod.fst

theorem lookup_assign (name other value : String) (entries : List (String × String)) :
    lookup other (assign name value entries) =
      if name = other then some value else lookup other entries := by
  induction entries with
  | nil => simp [assign, lookup]
  | cons entry rest ih =>
    by_cases known : entry.1 = name
    · by_cases same : name = other <;> simp [assign, lookup, known, same]
    · by_cases same : entry.1 = other
      · have different : name ≠ other := fun equal => known (same.trans equal.symm)
        rw [assign, if_neg known, if_neg different, lookup, if_pos same, lookup, if_pos same]
      · simp [assign, lookup, known, same, ih]

theorem get?_set (environment : Environment) (name other value : String) :
    (environment.set name value).get? other =
      if name = other then some value else environment.get? other :=
  lookup_assign name other value environment.entries

/-- A known name keeps its place; a new one comes last. -/
theorem keys_assign (name value : String) (entries : List (String × String)) :
    (assign name value entries).map Prod.fst =
      if name ∈ entries.map Prod.fst then entries.map Prod.fst
      else entries.map Prod.fst ++ [name] := by
  induction entries with
  | nil => simp [assign]
  | cons entry rest ih =>
    by_cases known : entry.1 = name
    · simp [assign, known]
    · have different : name ≠ entry.1 := fun equal => known equal.symm
      by_cases member : name ∈ rest.map Prod.fst <;>
        simp_all [assign]

theorem names_set (environment : Environment) (name value : String) :
    (environment.set name value).names =
      if name ∈ environment.names then environment.names else environment.names ++ [name] :=
  keys_assign name value environment.entries

theorem keys_erase (name : String) (entries : List (String × String)) :
    (erase name entries).map Prod.fst = (entries.map Prod.fst).erase name := by
  induction entries with
  | nil => rfl
  | cons entry rest ih =>
    by_cases known : entry.1 = name
    · simp [erase, known]
    · simp [erase, known, ih]

theorem names_remove (environment : Environment) (name : String) :
    (environment.remove name).names = environment.names.erase name :=
  keys_erase name environment.entries

theorem nodup_names_set {environment : Environment} (name value : String)
    (distinct : environment.names.Nodup) : (environment.set name value).names.Nodup := by
  rw [names_set]
  by_cases member : name ∈ environment.names
  · simpa [member] using distinct
  · rw [if_neg member]
    exact List.nodup_append.mpr ⟨distinct, by simp, by
      intro known inOld other inNew
      have same := List.mem_singleton.mp inNew
      exact fun equal => member (same ▸ equal ▸ inOld)⟩

theorem nodup_names_remove {environment : Environment} (name : String)
    (distinct : environment.names.Nodup) : (environment.remove name).names.Nodup := by
  rw [names_remove]
  exact distinct.erase name

/-! ## Changing one of distinct names -/

theorem extract_eq (name : String) (entries : List (String × String)) :
    extract name entries = (lookup name entries).map fun value => (value, erase name entries) := by
  induction entries with
  | nil => rfl
  | cons entry rest ih =>
    by_cases known : entry.1 = name
    · simp [extract, lookup, erase, known]
    · simp [extract, lookup, erase, known, ih, Function.comp_def]

theorem take?_eq (environment : Environment) (name : String) :
    environment.take? name =
      (environment.get? name).map fun value => (value, environment.remove name) := by
  simp [take?, get?, remove, extract_eq, Function.comp_def]

theorem filter_absent {name : String} {entries : List (String × String)}
    (absent : name ∉ entries.map Prod.fst) : entries.filter (·.1 ≠ name) = entries := by
  apply List.filter_eq_self.mpr
  intro entry member
  have different : entry.1 ≠ name := fun same => absent (same ▸ List.mem_map_of_mem member)
  exact decide_eq_true different

theorem erase_eq_filter {entries : List (String × String)}
    (distinct : (entries.map Prod.fst).Nodup) (name : String) :
    erase name entries = entries.filter (·.1 ≠ name) := by
  induction entries with
  | nil => rfl
  | cons entry rest ih =>
    obtain ⟨absent, others⟩ := List.nodup_cons.mp distinct
    by_cases known : entry.1 = name
    · rw [known] at absent
      simpa [erase, known] using (filter_absent absent).symm
    · simp [erase, known, ih others]

theorem entries_remove {environment : Environment} (distinct : environment.names.Nodup)
    (name : String) :
    (environment.remove name).entries = environment.entries.filter (·.1 ≠ name) :=
  erase_eq_filter distinct name

theorem map_overwrite_absent {name : String} (value : String) {entries : List (String × String)}
    (absent : name ∉ entries.map Prod.fst) :
    entries.map (fun entry => if entry.1 = name then (name, value) else entry) = entries := by
  have same : ∀ entry ∈ entries, (if entry.1 = name then (name, value) else entry) = entry := by
    intro entry member
    have different : entry.1 ≠ name := fun equal => absent (equal ▸ List.mem_map_of_mem member)
    exact if_neg different
  rw [List.map_congr_left same, List.map_id']

theorem assign_eq_map {entries : List (String × String)}
    (distinct : (entries.map Prod.fst).Nodup) {name : String}
    (known : name ∈ entries.map Prod.fst) (value : String) :
    assign name value entries =
      entries.map fun entry => if entry.1 = name then (name, value) else entry := by
  induction entries with
  | nil => cases known
  | cons entry rest ih =>
    obtain ⟨absent, others⟩ := List.nodup_cons.mp distinct
    by_cases here : entry.1 = name
    · rw [here] at absent
      simp [assign, here, map_overwrite_absent value absent]
    · have later : name ∈ rest.map Prod.fst := by
        rcases List.mem_cons.mp known with same | more
        · exact absurd same.symm here
        · exact more
      simp [assign, here, ih others later]

theorem entries_set_of_known {environment : Environment} (distinct : environment.names.Nodup)
    {name : String} (known : name ∈ environment.names) (value : String) :
    (environment.set name value).entries =
      environment.entries.map fun entry => if entry.1 = name then (name, value) else entry :=
  assign_eq_map distinct known value

theorem lookup_eq_some_iff {entries : List (String × String)}
    (distinct : (entries.map Prod.fst).Nodup) {name value : String} :
    lookup name entries = some value ↔ (name, value) ∈ entries := by
  induction entries with
  | nil => simp [lookup]
  | cons entry rest ih =>
    obtain ⟨absent, others⟩ := List.nodup_cons.mp distinct
    by_cases known : entry.1 = name
    · have elsewhere : (name, value) ∉ rest :=
        fun member => absent (known ▸ List.mem_map_of_mem member)
      simp [lookup, elsewhere, Prod.ext_iff, known, eq_comm]
    · have different : name ≠ entry.1 := fun same => known same.symm
      simp [lookup, known, ih others, Prod.ext_iff, different]

theorem get?_eq_some_iff {environment : Environment} (distinct : environment.names.Nodup)
    {name value : String} :
    environment.get? name = some value ↔ (name, value) ∈ environment.entries :=
  lookup_eq_some_iff distinct

end Environment

end PipeShell
