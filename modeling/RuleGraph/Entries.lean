namespace RuleGraph

/-- Sets `name` to `value`: in place if the name is there, at the end otherwise. So names stay
    distinct and in the order in which they came first, and late changes move nothing. -/
def setEntry {α : Type} (name : String) (value : α) : List (String × α) → List (String × α)
  | [] => [(name, value)]
  | (n, v) :: rest => if n = name then (n, value) :: rest else (n, v) :: setEntry name value rest

/-- The names of the entries, in order. -/
def entryNames {α : Type} (entries : List (String × α)) : List String :=
  entries.map Prod.fst

/-- Sets the given entries one after the other. -/
def setEntries {α : Type} (entries : List (String × α)) (more : List (String × α)) :
    List (String × α) :=
  more.foldl (fun found (name, value) => setEntry name value found) entries

/-- Puts a named value before the first one with a greater name. -/
def insertByName {α : Type} (name : String) (value : α) : List (String × α) → List (String × α)
  | [] => [(name, value)]
  | (n, v) :: rest =>
    if name < n then (name, value) :: (n, v) :: rest else (n, v) :: insertByName name value rest

/-- The entries in increasing order of their names. -/
def sortEntries {α : Type} (entries : List (String × α)) : List (String × α) :=
  entries.foldr (fun (name, value) sorted => insertByName name value sorted) []

/-- Setting a name that is there keeps the order of the names; a new name comes last. -/
theorem entryNames_setEntry {α : Type} (name : String) (value : α) (entries : List (String × α)) :
    entryNames (setEntry name value entries) =
      if name ∈ entryNames entries then entryNames entries else entryNames entries ++ [name] := by
  induction entries with
  | nil => simp [setEntry, entryNames]
  | cons entry rest ih =>
    obtain ⟨n, v⟩ := entry
    simp only [setEntry, entryNames, List.map_cons, List.mem_cons] at ih ⊢
    by_cases h : n = name
    · simp [h]
    · rw [if_neg h, List.map_cons, ih]
      by_cases hmem : name ∈ rest.map Prod.fst
      · simp [hmem]
      · simp [hmem, Ne.symm h]

/-- Setting an entry keeps the names distinct. -/
theorem nodup_setEntry {α : Type} {entries : List (String × α)} (name : String) (value : α)
    (h : (entryNames entries).Nodup) : (entryNames (setEntry name value entries)).Nodup := by
  rw [entryNames_setEntry]
  split
  · exact h
  · rename_i hnew
    refine List.nodup_append.2 ⟨h, by simp, ?_⟩
    intro a ha b hb
    rw [List.mem_singleton] at hb
    rintro rfl
    exact hnew (hb ▸ ha)

end RuleGraph
