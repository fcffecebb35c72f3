import RuleGraph.Proofs.Text.Comment
import RuleGraph.Text.Line

namespace RuleGraph.Text

/-- The last line of a text, with its last character first. -/
def lastLine (s : List Char) : List Char :=
  s.reverse.takeWhile (· ≠ '\n')

/-- With `before` in front of it, the character is not a line feed and stands at or behind the first
    comment mark of its line. -/
def inComment (before : List Char) (c : Char) : Bool :=
  c ≠ '\n' && '#' ∈ c :: lastLine before

/-- The character is blank, and with `after` behind it the next one that is not blank is a comment
    mark, on whichever line. -/
def leadsToComment (c : Char) (after : List Char) : Bool :=
  isBlank c && (after.dropWhile isBlank).head? = some '#'

/-- The characters of `s` that are neither in a comment nor lead to one, with `before` in front of
    `s`. -/
def outsideComments (before s : List Char) : List Char :=
  (s.zipIdx.filter fun (c, i) =>
    !inComment (before ++ s.take i) c && !leadsToComment c (s.drop (i + 1))).map Prod.fst

/-- Whether a character stays hangs on the part of its line in front of it and on the first
    character behind it that is not blank. -/
theorem outsideComments_cons (before : List Char) (c : Char) (s : List Char) :
    outsideComments before (c :: s) =
      if inComment before c || leadsToComment c s then outsideComments (before ++ [c]) s
      else c :: outsideComments (before ++ [c]) s := by
  have hlater : (s.zipIdx 1).filter (fun (d, i) => !inComment (before ++ (c :: s).take i) d &&
        !leadsToComment d ((c :: s).drop (i + 1))) =
      (s.zipIdx.filter fun (d, i) => !inComment (before ++ [c] ++ s.take i) d &&
        !leadsToComment d (s.drop (i + 1))).map fun (d, i) => (d, i + 1) := by
    rw [List.zipIdx_succ, List.filter_map]
    simp [Function.comp_def]
  rw [outsideComments, List.zipIdx_cons, List.filter_cons, hlater]
  simp only [List.take_zero, List.append_nil, Nat.zero_add, List.drop_one, List.tail_cons]
  cases inComment before c <;> cases leadsToComment c s <;>
    simp [outsideComments, Function.comp_def]

/-- What follows is in a comment exactly if the character is. -/
theorem mark_mem_lastLine_concat {before : List Char} {c : Char} :
    '#' ∈ lastLine (before ++ [c]) ↔ inComment before c = true := by
  rw [lastLine, List.reverse_append, List.reverse_singleton, List.singleton_append, inComment]
  by_cases hc : c = '\n'
  · simp [hc]
  · rw [List.takeWhile_cons_of_pos (by simpa using hc)]
    simp [hc, lastLine]

mutual

/-- Outside of comments, the blanks that are held back stay unless they lead to a comment. -/
theorem stripFrom_eq {before : List Char} (hline : '#' ∉ lastLine before) (held s : List Char) :
    stripFrom held s = (if (s.dropWhile isBlank).head? = some '#' then [] else held.reverse) ++
      outsideComments before s := by
  match s with
  | [] => simp [stripFrom, outsideComments]
  | c :: s =>
    rw [stripFrom, outsideComments_cons]
    by_cases hmark : c = '#'
    · subst hmark
      have hin : inComment before '#' = true := by simp [inComment]
      rw [if_pos rfl, hin, stripComment_eq (mark_mem_lastLine_concat.2 hin) s]
      simp [isBlank_hash]
    · have hout : inComment before c = false := by simp [inComment, Ne.symm hmark, hline]
      have hnext : '#' ∉ lastLine (before ++ [c]) := by simp [mark_mem_lastLine_concat, hout]
      rw [if_neg hmark, hout, Bool.false_or]
      cases hblank : isBlank c with
      | true =>
        rw [if_pos rfl, stripFrom_eq hnext (c :: held) s, List.dropWhile_cons_of_pos hblank]
        by_cases hleads : (s.dropWhile isBlank).head? = some '#' <;>
          simp [leadsToComment, hblank, hleads]
      | false => simp [stripFrom_eq hnext [] s, leadsToComment, hblank, hmark]

/-- In a comment, nothing stays up to the line feed. -/
theorem stripComment_eq {before : List Char} (hline : '#' ∈ lastLine before) (s : List Char) :
    stripComment s = outsideComments before s := by
  match s with
  | [] => rfl
  | c :: s =>
    rw [stripComment, outsideComments_cons]
    by_cases hbreak : c = '\n'
    · subst hbreak
      have hout : inComment before '\n' = false := by simp [inComment]
      have hnext : '#' ∉ lastLine (before ++ ['\n']) := by simp [mark_mem_lastLine_concat, hout]
      rw [if_pos rfl, stripFrom_eq hnext ['\n'] s, hout, Bool.false_or]
      by_cases hleads : (s.dropWhile isBlank).head? = some '#' <;>
        simp [leadsToComment, isBlank_newline, hleads]
    · have hin : inComment before c = true := by simp [inComment, hbreak, hline]
      rw [if_neg hbreak, hin, Bool.true_or, if_pos rfl,
        stripComment_eq (mark_mem_lastLine_concat.2 hin) s]

end

/-- No comment mark is outside of comments. -/
theorem mark_not_mem_outsideComments (before s : List Char) : '#' ∉ outsideComments before s := by
  induction s generalizing before with
  | nil => exact List.not_mem_nil
  | cons c s ih =>
    rw [outsideComments_cons]
    split
    · exact ih _
    · next hout =>
      have hc : c ≠ '#' := by
        rintro rfl
        simp [inComment] at hout
      simp [Ne.symm hc, ih]

/-- What stands in front of the first comment mark of a line, without the blanks. -/
def uncommented (line : List Char) : List Char :=
  (line.takeWhile (· ≠ '#')).filter (!isBlank ·)

/-- A blank in front of such a line is left out, any other character but a mark is kept. -/
theorem uncommented_cons {c : Char} (hc : c ≠ '#') (line : List Char) :
    uncommented (c :: line) = if isBlank c then uncommented line else c :: uncommented line := by
  rw [uncommented, List.takeWhile_cons_of_pos (by simpa using hc), List.filter_cons]
  cases isBlank c <;> rfl

/-- Blanks aside, a character stays if no comment mark stands before it on its line. -/
theorem filter_outsideComments_cons (before : List Char) (c : Char) (s : List Char) :
    (outsideComments before (c :: s)).filter (!isBlank ·) =
      (if inComment before c || isBlank c then [] else [c]) ++
        (outsideComments (before ++ [c]) s).filter (!isBlank ·) := by
  rw [outsideComments_cons, leadsToComment]
  cases inComment before c with
  | true => rfl
  | false =>
    cases hblank : isBlank c with
    | false => simp [hblank]
    | true => split <;> simp [hblank]

/-- The characters that are not blank are those in front of the comments. If the text begins inside
    of a comment, its first line has none. -/
theorem filter_outsideComments (before s : List Char) :
    (outsideComments before s).filter (!isBlank ·) =
      (if '#' ∈ lastLine before then (lines s).tail else lines s).flatMap uncommented := by
  induction s generalizing before with
  | nil => split <;> rfl
  | cons c s ih =>
    rw [filter_outsideComments_cons, ih]
    simp only [mark_mem_lastLine_concat]
    by_cases hbreak : c = '\n'
    · subst hbreak
      have hout : inComment before '\n' = false := by simp [inComment]
      have hlines : lines ('\n' :: s) = [] :: lines s := by rw [lines, if_pos rfl]
      rw [hout, hlines, isBlank_newline, Bool.false_or, if_pos rfl, if_neg Bool.false_ne_true]
      split <;> rfl
    · obtain ⟨line, later, hline⟩ := List.exists_cons_of_ne_nil (lines_ne_nil s)
      have hlines : lines (c :: s) = (c :: line) :: later := by rw [lines, if_neg hbreak, hline]
      rw [hlines, hline]
      cases hin : inComment before c with
      | true =>
        by_cases hbefore : '#' ∈ lastLine before
        · rw [if_pos rfl, if_pos hbefore]
          rfl
        · have hc : c = '#' := by simpa [inComment, hbreak, hbefore, eq_comm] using hin
          rw [if_pos rfl, if_neg hbefore, hc]
          rfl
      | false =>
        obtain ⟨hc, hbefore⟩ : '#' ≠ c ∧ '#' ∉ lastLine before := by
          simpa [inComment, hbreak] using hin
        rw [if_neg Bool.false_ne_true, if_neg hbefore, List.flatMap_cons, List.flatMap_cons,
          uncommented_cons hc.symm]
        cases isBlank c <;> rfl

/-- Exactly the comments are stripped, and the blanks that lead to them. So no comment mark is left,
stripping again changes nothing, a text keeps all its characters exactly if it has no comment mark,
and of the characters that are not blank those in front of the first comment mark of their line
stay. -/
theorem stripComments_eq (s : String) :
    let text := s.toList
    (stripComments s).toList = (text.zipIdx.filter fun (c, i) =>
        !inComment (text.take i) c && !leadsToComment c (text.drop (i + 1))).map Prod.fst ∧
      '#' ∉ (stripComments s).toList ∧
      stripComments (stripComments s) = stripComments s ∧
      (stripComments s = s ↔ '#' ∉ text) ∧
      (stripComments s).toList.filter (!isBlank ·) = (lines text).flatMap fun line =>
        (line.takeWhile (· ≠ '#')).filter (!isBlank ·) := by
  intro text
  have hout : (stripComments s).toList = outsideComments [] text := by
    have hstart : '#' ∉ lastLine [] := List.not_mem_nil
    rw [toList_stripComments, stripFrom_eq hstart [] s.toList, List.reverse_nil, ite_self,
      List.nil_append]
  have hmark : '#' ∉ (stripComments s).toList := hout ▸ mark_not_mem_outsideComments [] text
  have hkept {s : String} (h : '#' ∉ s.toList) : stripComments s = s := by
    rw [stripComments, stripFrom_of_not_mem h]
    exact String.ofList_toList
  refine ⟨hout, hmark, hkept hmark, ⟨fun hsame => ?_, hkept⟩, ?_⟩
  · rwa [hsame] at hmark
  · rw [hout, filter_outsideComments]
    rfl

end RuleGraph.Text
