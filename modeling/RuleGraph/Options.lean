namespace RuleGraph

/-- A finite set of names, kept in increasing order by code point. -/
structure NameSet where
  /-- The names. -/
  names : List String := []
  /-- Each name is less than all that follow it. -/
  increasing : names.Pairwise (· < ·) := by simp
  deriving DecidableEq

namespace NameSet

/-- Puts a name into its place in an increasing list, unless it is there already. -/
def insertName (name : String) : List String → List String
  | [] => [name]
  | n :: names =>
    if name < n then name :: n :: names
    else if n < name then n :: insertName name names
    else n :: names

/-- Inserting a name brings in no other name. -/
theorem mem_insertName {a name : String} {names : List String} (h : a ∈ insertName name names) :
    a = name ∨ a ∈ names := by
  induction names with
  | nil => simpa [insertName] using h
  | cons n names ih =>
    simp only [insertName] at h
    split at h
    · simpa using h
    · split at h
      · rcases List.mem_cons.1 h with h | h
        · simp [h]
        · rcases ih h with h | h <;> simp [h]
      · exact Or.inr h

/-- Inserting keeps the names in strictly increasing order, so none is there twice. -/
theorem pairwise_insertName (name : String) {names : List String}
    (h : names.Pairwise (· < ·)) : (insertName name names).Pairwise (· < ·) := by
  induction names with
  | nil => simp [insertName]
  | cons n names ih =>
    obtain ⟨hn, hnames⟩ := List.pairwise_cons.1 h
    simp only [insertName]
    split
    · rename_i hlt
      refine List.pairwise_cons.2 ⟨?_, h⟩
      intro a ha
      rcases List.mem_cons.1 ha with rfl | ha
      · exact hlt
      · exact String.lt_trans hlt (hn a ha)
    · split
      · rename_i hlt
        refine List.pairwise_cons.2 ⟨?_, ih hnames⟩
        intro a ha
        rcases mem_insertName ha with rfl | ha
        · exact hlt
        · exact hn a ha
      · exact h

/-- The set without names. -/
def empty : NameSet := {}

/-- The set with one more name. -/
def insert (set : NameSet) (name : String) : NameSet where
  names := insertName name set.names
  increasing := pairwise_insertName name set.increasing

/-- The set with several more names. -/
def insertAll (set : NameSet) (names : List String) : NameSet :=
  names.foldl insert set

/-- Whether a name is in the set. -/
def contains (set : NameSet) (name : String) : Bool :=
  set.names.contains name

end NameSet

/-- The options of one graph: names to leave out, and switches for regular expressions, labels and
    comments. -/
structure Options where
  /-- Names that are left out, as rules and as targets of references. -/
  exclude : NameSet := .empty
  /-- Whether regular expressions become nodes. -/
  regex : Bool := false
  /-- Whether edges carry the relation they stand for. -/
  labels : Bool := false
  /-- Whether comments are taken out of the names of regular expressions. -/
  uncomment : Bool := false
  deriving DecidableEq

namespace Options

/-- The options with further names to leave out. -/
def excluding (options : Options) (names : List String) : Options :=
  { options with exclude := options.exclude.insertAll names }

/-- Whether `name` is left out. -/
def excludes (options : Options) (name : String) : Bool :=
  options.exclude.contains name

end Options

end RuleGraph
