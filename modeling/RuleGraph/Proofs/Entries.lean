import RuleGraph.Entries

namespace RuleGraph

/-- A new name is put at the end. -/
theorem setEntry_of_not_mem {α : Type} {name : String} {entries : List (String × α)}
    (h : name ∉ entryNames entries) (value : α) :
    setEntry name value entries = entries ++ [(name, value)] := by
  induction entries with
  | nil => rfl
  | cons entry entries ih =>
    obtain ⟨n, v⟩ := entry
    simp only [entryNames, List.map_cons, List.mem_cons, not_or] at h
    rw [setEntry, if_neg (Ne.symm h.1), ih h.2]
    rfl

/-- Entries with distinct names come out as they are. -/
theorem setEntries_of_nodup {α : Type} {entries more : List (String × α)}
    (h : (entryNames (entries ++ more)).Nodup) : setEntries entries more = entries ++ more := by
  induction more generalizing entries with
  | nil => simp [setEntries]
  | cons entry more ih =>
    obtain ⟨name, value⟩ := entry
    have hnew : name ∉ entryNames entries := by
      rw [entryNames, List.map_append, List.nodup_append] at h
      intro hmem
      exact h.2.2 name hmem name (by simp) rfl
    have hassoc : entries ++ (name, value) :: more = entries ++ [(name, value)] ++ more := by simp
    rw [hassoc] at h ⊢
    rw [← ih h, ← setEntry_of_not_mem hnew value]
    rfl

theorem length_setEntry_le {α : Type} (name : String) (value : α) (entries : List (String × α)) :
    (setEntry name value entries).length ≤ entries.length + 1 := by
  induction entries with
  | nil => simp [setEntry]
  | cons entry entries ih =>
    obtain ⟨n, v⟩ := entry
    rw [setEntry]
    split
    · simp
    · simpa using ih

/-- Names that come again are not counted again. -/
theorem length_setEntries_le {α : Type} (entries more : List (String × α)) :
    (setEntries entries more).length ≤ entries.length + more.length := by
  induction more generalizing entries with
  | nil => simp [setEntries]
  | cons entry more ih =>
    have hrest := ih (setEntry entry.1 entry.2 entries)
    have hfirst := length_setEntry_le entry.1 entry.2 entries
    have hcons : setEntries entries (entry :: more) =
        setEntries (setEntry entry.1 entry.2 entries) more := rfl
    rw [hcons, List.length_cons]
    omega

/-- Where no entry replaces another one, all of them are kept as they are. -/
theorem setEntries_of_length {α : Type} {entries more : List (String × α)}
    (h : (setEntries entries more).length = entries.length + more.length) :
    setEntries entries more = entries ++ more := by
  induction more generalizing entries with
  | nil => simp [setEntries]
  | cons entry more ih =>
    have hcons : setEntries entries (entry :: more) =
        setEntries (setEntry entry.1 entry.2 entries) more := rfl
    rw [hcons, List.length_cons] at h
    have hrest := length_setEntries_le (setEntry entry.1 entry.2 entries) more
    by_cases hmem : entry.1 ∈ entryNames entries
    · have hsame := congrArg List.length (entryNames_setEntry entry.1 entry.2 entries)
      rw [if_pos hmem] at hsame
      simp only [entryNames, List.length_map] at hsame
      omega
    · have hnew := setEntry_of_not_mem hmem entry.2
      have hlength : (setEntry entry.1 entry.2 entries).length = entries.length + 1 := by
        rw [hnew, List.length_append, List.length_singleton]
      rw [hcons, ih (by omega), hnew, List.append_assoc]
      rfl

theorem lookup_cons_eq_ite {α : Type} (name a : String) (value : α) (entries : List (String × α)) :
    ((name, value) :: entries).lookup a = if a = name then some value else entries.lookup a := by
  by_cases h : a = name
  · subst h
    simp
  · have hbeq : (a == name) = false := by simpa using h
    simp only [List.lookup_cons, hbeq, if_neg h]

/-- Setting a name changes the value of that name and of no other. -/
theorem lookup_setEntry {α : Type} (name a : String) (value : α) (entries : List (String × α)) :
    (setEntry name value entries).lookup a = if a = name then some value else entries.lookup a := by
  induction entries with
  | nil => exact lookup_cons_eq_ite name a value []
  | cons entry entries ih =>
    obtain ⟨n, v⟩ := entry
    rw [setEntry, lookup_cons_eq_ite]
    split
    · rename_i hsame
      rw [lookup_cons_eq_ite, hsame]
      by_cases h : a = name <;> simp only [h, if_true, if_false]
    · rename_i hother
      rw [lookup_cons_eq_ite, ih]
      by_cases h : a = n
      · rw [if_pos h, if_neg fun heq => hother (h.symm.trans heq), if_pos h]
      · rw [if_neg h, if_neg h]

/-- The value set last for a name is the one that stays. -/
theorem lookup_setEntries {α : Type} (entries more : List (String × α)) (name : String) :
    (setEntries entries more).lookup name =
      (more.reverse.lookup name).or (entries.lookup name) := by
  induction more generalizing entries with
  | nil => rfl
  | cons entry more ih =>
    obtain ⟨n, v⟩ := entry
    have hlast : [(n, v)].lookup name = if name = n then some v else none :=
      lookup_cons_eq_ite n name v []
    calc (setEntries entries ((n, v) :: more)).lookup name
        = (more.reverse.lookup name).or ((setEntry n v entries).lookup name) := ih _
      _ = (more.reverse.lookup name).or (([(n, v)].lookup name).or (entries.lookup name)) := by
        rw [lookup_setEntry, hlast]
        by_cases h : name = n <;> simp only [h, if_true, if_false, Option.some_or, Option.none_or]
      _ = (((n, v) :: more).reverse.lookup name).or (entries.lookup name) := by
        rw [List.reverse_cons, List.lookup_append, Option.or_assoc]

/-- Names stay distinct, whatever is set. -/
theorem nodup_setEntries {α : Type} {entries : List (String × α)} (more : List (String × α))
    (h : (entryNames entries).Nodup) : (entryNames (setEntries entries more)).Nodup := by
  induction more generalizing entries with
  | nil => exact h
  | cons entry more ih => exact ih (nodup_setEntry entry.1 entry.2 h)

/-- Every entry is the one that was set or was there before. -/
theorem mem_of_mem_setEntry {α : Type} {name : String} {value : α} {entries : List (String × α)}
    {entry : String × α} (h : entry ∈ setEntry name value entries) :
    entry = (name, value) ∨ entry ∈ entries := by
  induction entries with
  | nil => exact .inl (List.mem_singleton.1 h)
  | cons first entries ih =>
    obtain ⟨n, v⟩ := first
    rw [setEntry] at h
    split at h
    · rename_i heq
      obtain hentry | hmem := List.mem_cons.1 h
      · exact .inl (heq ▸ hentry)
      · exact .inr (List.mem_cons_of_mem _ hmem)
    · obtain rfl | hmem := List.mem_cons.1 h
      · exact .inr List.mem_cons_self
      · exact (ih hmem).imp_right (List.mem_cons_of_mem _)

/-- No entry comes from elsewhere. -/
theorem mem_or_mem_of_mem_setEntries {α : Type} {entries more : List (String × α)}
    {entry : String × α} (h : entry ∈ setEntries entries more) :
    entry ∈ entries ∨ entry ∈ more := by
  induction more generalizing entries with
  | nil => exact .inl h
  | cons next more ih =>
    obtain hset | hmem := ih h
    · obtain rfl | hmem := mem_of_mem_setEntry hset
      · exact .inr List.mem_cons_self
      · exact .inl hmem
    · exact .inr (List.mem_cons_of_mem _ hmem)

theorem eraseDups_of_nodup {l : List String} (h : l.Nodup) : l.eraseDups = l := by
  induction l with
  | nil => rfl
  | cons a l ih =>
    obtain ⟨ha, hl⟩ := List.nodup_cons.1 h
    have hkeep : l.filter (fun b => !b == a) = l := by
      refine List.filter_eq_self.2 fun b hb => ?_
      have hne : b ≠ a := fun heq => ha (heq ▸ hb)
      simp [hne]
    rw [List.eraseDups_cons, hkeep, ih hl]

theorem entryNames_append {α : Type} (entries more : List (String × α)) :
    entryNames (entries ++ more) = entryNames entries ++ entryNames more :=
  List.map_append

/-- Names stand in the order in which they came first. -/
theorem entryNames_setEntries {α : Type} {entries : List (String × α)} (more : List (String × α))
    (h : (entryNames entries).Nodup) :
    entryNames (setEntries entries more) = (entryNames (entries ++ more)).eraseDups := by
  induction more generalizing entries with
  | nil =>
    rw [List.append_nil, eraseDups_of_nodup h]
    rfl
  | cons entry more ih =>
    obtain ⟨name, value⟩ := entry
    have hrest : entryNames (setEntries entries ((name, value) :: more)) =
        (entryNames (setEntry name value entries ++ more)).eraseDups :=
      ih (nodup_setEntry name value h)
    have hcons : entryNames ((name, value) :: more) = name :: entryNames more := rfl
    rw [hrest, entryNames_append, entryNames_append, entryNames_setEntry, hcons]
    by_cases hmem : name ∈ entryNames entries
    · rw [if_pos hmem, List.eraseDups_append, List.eraseDups_append, List.cons_removeAll]
      simp only [List.contains_iff_mem.2 hmem, Bool.true_eq_false, if_false]
    · rw [if_neg hmem, List.append_assoc, List.singleton_append]

section

variable {α : Type} {entries : List (String × α)} {name : String} {value : α}

theorem lookup_of_not_mem (h : name ∉ entryNames entries) : entries.lookup name = none := by
  refine List.lookup_eq_none_iff.2 fun entry hentry => ?_
  have hne : name ≠ entry.1 := by
    rintro rfl
    exact h (List.mem_map_of_mem hentry)
  simpa using hne

theorem mem_of_lookup (h : entries.lookup name = some value) : (name, value) ∈ entries := by
  obtain ⟨before, after, rfl, -⟩ := List.lookup_eq_some_iff.1 h
  simp

/-- With distinct names every entry is found under its name. -/
theorem lookup_of_mem (hnodup : (entryNames entries).Nodup) (h : (name, value) ∈ entries) :
    entries.lookup name = some value := by
  induction entries with
  | nil => cases h
  | cons entry entries ih =>
    obtain ⟨n, v⟩ := entry
    obtain ⟨hnew, hrest⟩ := List.nodup_cons.1 hnodup
    rw [lookup_cons_eq_ite]
    rcases List.mem_cons.1 h with heq | hmem
    · obtain ⟨rfl, rfl⟩ := Prod.mk.inj heq
      exact if_pos rfl
    · have hother : name ≠ n := by
        rintro rfl
        exact hnew (List.mem_map.2 ⟨_, hmem, rfl⟩)
      rw [if_neg hother, ih hrest hmem]

end

end RuleGraph
