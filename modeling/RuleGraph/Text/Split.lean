namespace RuleGraph.Text

/-- The text before the first occurrence of `mark`, and the text after it. -/
def splitAtMark (mark : List Char) : List Char → Option (List Char × List Char)
  | [] => none
  | c :: s =>
    if mark <+: c :: s then some ([], (c :: s).drop mark.length)
    else (splitAtMark mark s).map fun (before, after) => (c :: before, after)

theorem append_of_splitAtMark {mark s before after : List Char}
    (h : splitAtMark mark s = some (before, after)) : before ++ mark ++ after = s := by
  induction s generalizing before with
  | nil => simp [splitAtMark] at h
  | cons c s ih =>
    simp only [splitAtMark] at h
    split at h
    · rename_i hmark
      obtain ⟨rfl, rfl⟩ := Prod.mk.injEq .. ▸ Option.some.inj h
      obtain ⟨t, ht⟩ := hmark
      simp [← ht]
    · obtain ⟨⟨b, a⟩, hb, he⟩ := Option.map_eq_some_iff.1 h
      obtain ⟨rfl, rfl⟩ := Prod.mk.injEq .. ▸ he
      simpa using ih hb

end RuleGraph.Text
