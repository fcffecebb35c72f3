import Mathlib.Data.List.TakeWhile
import RuleGraph.Text.Line
import RuleGraph.Text.Split

namespace RuleGraph.Text

/-- The text with `ending` in place of every line feed. -/
def withLineEnds (ending s : List Char) : List Char :=
  s.flatMap fun c => if c = '\n' then ending else [c]

variable {ending : List Char}

@[simp] theorem withLineEnds_nil (ending : List Char) : withLineEnds ending [] = [] := rfl

@[simp] theorem withLineEnds_newline (ending s : List Char) :
    withLineEnds ending ('\n' :: s) = ending ++ withLineEnds ending s := rfl

/-- Within a line nothing is changed. -/
theorem withLineEnds_cons {c : Char} (h : c ≠ '\n') (s : List Char) :
    withLineEnds ending (c :: s) = c :: withLineEnds ending s := by
  rw [withLineEnds, List.flatMap_cons, if_neg h]
  rfl

theorem withLineEnds_append (s t : List Char) :
    withLineEnds ending (s ++ t) = withLineEnds ending s ++ withLineEnds ending t :=
  List.flatMap_append

/-- A text of one line has no line feed to change. -/
theorem withLineEnds_of_not_mem {s : List Char} (h : '\n' ∉ s) : withLineEnds ending s = s := by
  induction s with
  | nil => rfl
  | cons c s ih =>
    rw [List.mem_cons, not_or] at h
    rw [withLineEnds_cons (Ne.symm h.1), ih h.2]

/-- No line end vanishes. -/
theorem withLineEnds_eq_nil_iff (hsome : ending ≠ []) {s : List Char} :
    withLineEnds ending s = [] ↔ s = [] := by
  cases s with
  | nil => simp
  | cons c s =>
    by_cases hc : c = '\n'
    · subst hc
      simp [hsome]
    · simp [withLineEnds_cons hc]

/-- A character outside of the line end comes first in both texts or in neither. -/
theorem head?_withLineEnds (hsome : ending ≠ []) {c : Char} (hc : c ∉ '\n' :: ending)
    (s : List Char) : (withLineEnds ending s).head? = some c ↔ s.head? = some c := by
  cases s with
  | nil => rfl
  | cons d s =>
    by_cases hd : d = '\n'
    · subst hd
      obtain ⟨first, others, rfl⟩ := List.exists_cons_of_ne_nil hsome
      simp only [List.mem_cons, not_or] at hc
      simp [Ne.symm hc.1, Ne.symm hc.2.1]
    · simp [withLineEnds_cons hd]

section Runs

variable {p : Char → Bool} (hsome : ending ≠ []) (hout : ∀ c ∈ '\n' :: ending, p c = false)
include hsome hout

/-- A run of characters that belong to no line end is the same in both texts. -/
theorem takeWhile_withLineEnds (s : List Char) :
    (withLineEnds ending s).takeWhile p = s.takeWhile p := by
  induction s with
  | nil => rfl
  | cons c s ih =>
    by_cases hc : c = '\n'
    · subst hc
      obtain ⟨first, others, rfl⟩ := List.exists_cons_of_ne_nil hsome
      rw [withLineEnds_newline, List.cons_append,
        List.takeWhile_cons_of_neg (by simp [hout first (by simp)]),
        List.takeWhile_cons_of_neg (by simp [hout '\n' (by simp)])]
    · rw [withLineEnds_cons hc, List.takeWhile_cons, List.takeWhile_cons, ih]

/-- A run that line ends cannot belong to ends at the same place. -/
theorem dropWhile_withLineEnds (s : List Char) :
    (withLineEnds ending s).dropWhile p = withLineEnds ending (s.dropWhile p) := by
  induction s with
  | nil => rfl
  | cons c s ih =>
    by_cases hc : c = '\n'
    · subst hc
      obtain ⟨first, others, rfl⟩ := List.exists_cons_of_ne_nil hsome
      rw [withLineEnds_newline, List.cons_append,
        List.dropWhile_cons_of_neg (by simp [hout first (by simp)]),
        List.dropWhile_cons_of_neg (by simp [hout '\n' (by simp)]), withLineEnds_newline,
        List.cons_append]
    · rw [withLineEnds_cons hc, List.dropWhile_cons, List.dropWhile_cons, ih]
      split
      · rfl
      · rw [withLineEnds_cons hc]

end Runs

/-- What ends a run is no member of it, so a run that stops at line feeds has none. -/
theorem not_mem_takeWhile {p : Char → Bool} (hline : p '\n' = false) (s : List Char) :
    '\n' ∉ s.takeWhile p := by
  intro h
  have hp := List.mem_takeWhile_imp h
  rw [hline] at hp
  cases hp

/-- A mark is not found at a character that it does not have. -/
theorem not_prefix_cons {mark : List Char} (hmark : mark ≠ []) {c : Char} (hc : c ∉ mark)
    (s : List Char) : ¬mark <+: c :: s := by
  obtain ⟨m, mark, rfl⟩ := List.exists_cons_of_ne_nil hmark
  rw [List.cons_prefix_cons]
  rintro ⟨rfl, -⟩
  exact hc List.mem_cons_self

/-- A mark is not found within characters that are not in it. -/
theorem splitAtMark_append {mark : List Char} (hmark : mark ≠ []) {s : List Char}
    (hs : ∀ c ∈ s, c ∉ mark) (t : List Char) :
    splitAtMark mark (s ++ t) =
      (splitAtMark mark t).map fun (before, after) => (s ++ before, after) := by
  induction s with
  | nil => simp
  | cons c s ih =>
    rw [List.cons_append, splitAtMark, if_neg (not_prefix_cons hmark (hs c (by simp)) _),
      ih fun d hd => hs d (List.mem_cons_of_mem c hd), Option.map_map]
    rfl

section Marks

variable {mark : List Char} (hsome : ending ≠ []) (hout : ∀ c ∈ '\n' :: ending, c ∉ mark)
include hout

/-- A mark without line ends is cut off alike. -/
theorem drop_withLineEnds {s : List Char} (h : mark <+: s) :
    (withLineEnds ending s).drop mark.length = withLineEnds ending (s.drop mark.length) := by
  obtain ⟨t, rfl⟩ := h
  rw [withLineEnds_append, withLineEnds_of_not_mem (hout '\n' List.mem_cons_self), List.drop_left,
    List.drop_left]

include hsome

/-- A mark without line ends starts both texts or neither. -/
theorem prefix_withLineEnds (s : List Char) : mark <+: withLineEnds ending s ↔ mark <+: s := by
  induction mark generalizing s with
  | nil => simp
  | cons m mark ih =>
    cases s with
    | nil => rfl
    | cons c s =>
      by_cases hc : c = '\n'
      · subst hc
        obtain ⟨first, others, rfl⟩ := List.exists_cons_of_ne_nil hsome
        refine iff_of_false ?_ (not_prefix_cons (List.cons_ne_nil m mark) (hout '\n' (by simp)) s)
        exact not_prefix_cons (List.cons_ne_nil m mark) (hout first (by simp)) _
      · have hmark : ∀ d ∈ '\n' :: ending, d ∉ mark := fun d hd hmem =>
          hout d hd (List.mem_cons_of_mem m hmem)
        rw [withLineEnds_cons hc, List.cons_prefix_cons, List.cons_prefix_cons, ih hmark]

/-- A mark without line ends cuts both texts at the same place. -/
theorem splitAtMark_withLineEnds (hmark : mark ≠ []) (s : List Char) :
    splitAtMark mark (withLineEnds ending s) = (splitAtMark mark s).map fun (before, after) =>
      (withLineEnds ending before, withLineEnds ending after) := by
  induction s with
  | nil => rfl
  | cons c s ih =>
    by_cases hc : c = '\n'
    · subst hc
      have hends : ∀ c ∈ ending, c ∉ mark := fun c hc => hout c (List.mem_cons_of_mem _ hc)
      rw [withLineEnds_newline, splitAtMark_append hmark hends, ih, splitAtMark,
        if_neg (not_prefix_cons hmark (hout '\n' (by simp)) s)]
      cases splitAtMark mark s <;> rfl
    · by_cases hp : mark <+: c :: s
      · have hp' := (prefix_withLineEnds hsome hout (c :: s)).2 hp
        have hdrop := drop_withLineEnds hout hp
        rw [withLineEnds_cons hc] at hp' hdrop ⊢
        rw [splitAtMark, if_pos hp', hdrop, splitAtMark, if_pos hp]
        rfl
      · have hp' := mt (prefix_withLineEnds hsome hout (c :: s)).1 hp
        rw [withLineEnds_cons hc] at hp' ⊢
        rw [splitAtMark, if_neg hp', ih, splitAtMark, if_neg hp]
        cases splitAtMark mark s with
        | none => rfl
        | some cut => simp [withLineEnds_cons hc]

end Marks

end RuleGraph.Text
