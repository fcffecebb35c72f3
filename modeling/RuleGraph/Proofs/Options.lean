import Mathlib.Data.List.Sort
import RuleGraph.Options

namespace RuleGraph

namespace NameSet

/-- Inserting a name adds that name and no other. -/
theorem mem_insertName_iff {a name : String} {names : List String} :
    a ∈ insertName name names ↔ a = name ∨ a ∈ names := by
  induction names with
  | nil => simp [insertName]
  | cons n names ih =>
    simp only [insertName]
    split
    · exact List.mem_cons
    · rename_i hless
      split
      · rw [List.mem_cons, ih, List.mem_cons]
        exact or_left_comm
      · rename_i hgreater
        -- Neither of the two is less than the other, so the name is there already.
        have heq : name = n := String.le_antisymm hgreater hless
        rw [heq, List.mem_cons, or_self_left]

theorem contains_insert (set : NameSet) (name a : String) :
    (set.insert name).contains a = (a == name || set.contains a) := by
  rw [Bool.eq_iff_iff]
  simp [contains, insert, mem_insertName_iff]

/-- A set with further names holds these and the ones it held before. -/
theorem contains_insertAll (set : NameSet) (names : List String) (a : String) :
    (set.insertAll names).contains a = (names.contains a || set.contains a) := by
  induction names generalizing set with
  | nil => rfl
  | cons name names ih =>
    have hrest := ih (set.insert name)
    rw [insertAll] at hrest ⊢
    rw [List.foldl_cons, hrest, contains_insert, List.contains_cons, Bool.or_left_comm,
      Bool.or_assoc]

/-- Sets with the same names are the same. -/
theorem eq_of_contains {set set' : NameSet} (h : ∀ a, set.contains a = set'.contains a) :
    set = set' := by
  have hnames : set.names = set'.names := by
    refine List.Pairwise.eq_of_mem_iff set.increasing set'.increasing fun a => ?_
    simpa [contains] using Bool.eq_iff_iff.1 (h a)
  cases set
  cases set'
  cases hnames
  rfl

end NameSet

/-- Leaving out further names keeps the ones that were left out before and adds just the new ones.
    -/
theorem Options.excludes_excluding (options : Options) (names : List String) (name : String) :
    (options.excluding names).excludes name = (names.contains name || options.excludes name) :=
  options.exclude.contains_insertAll names name

end RuleGraph
