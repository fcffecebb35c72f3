import RuleGraph.Decode
import RuleGraph.Proofs.Format.Shared

namespace RuleGraph

open Cson

theorem fromUTF8?_toUTF8 (text : String) : String.fromUTF8? text.toUTF8 = some text :=
  dif_pos text.isValidUTF8

/-- The first format that finds an object is the one that counts. -/
theorem recognize_of_read {format : Format} {input : ByteArray} {fields : List (String × Document)}
    (h : format.read input = .ok (.object fields)) (formats : List Format) :
    (recognize input (format :: formats)).2 = some (format, fields) := by
  rw [recognize, h]

/-- What is read as an object in YAML is not tried in any format behind it. -/
theorem recognize_yaml_of_parse? {text : String} {fields : List (String × Document)}
    (h : Yaml.parse? text = some (.object fields)) (formats : List Format) :
    (recognize text.toUTF8 (.yaml :: formats)).2 = some (.yaml, fields) := by
  refine recognize_of_read ?_ formats
  rw [Format.read, Format.readText, fromUTF8?_toUTF8]
  simp [Format.orUnreadable, h]

theorem recognize_cson_of_parse {text : String} {fields : List (String × Document)}
    (h : Cson.parse text = .ok (.object fields)) (formats : List Format) :
    (recognize text.toUTF8 (.cson :: formats)).2 = some (.cson, fields) := by
  refine recognize_of_read ?_ formats
  rw [Format.read, Format.readText, fromUTF8?_toUTF8]
  simp [h, Except.mapError]

/-- A printed object that YAML takes as well is found as it was printed if CSON comes first. If YAML
    comes first, it is found with its names and texts as they are written between single quotes,
    where an entry replaces an earlier one with the same name. The two are the same exactly if no
    backslash is written between single quotes. The only other backslashes in the text are those
    between double quotes. -/
theorem recognize_documentText {fields : List (String × Document)} (hplain : Plain (.object fields))
    {layout : Layout} {lineEnds : Nat}
    (hchars : ∀ c ∈ (documentText layout lineEnds (.object fields)).toList, isSharedChar c = true)
    (h : overlaps layout .document false Yaml.maxDepth (.object fields) = true)
    (formats : List Format) :
    (recognize (documentText layout lineEnds (.object fields)).toUTF8 (.cson :: formats)).2 =
        some (.cson, fields) ∧
      (recognize (documentText layout lineEnds (.object fields)).toUTF8 (.yaml :: formats)).2 =
        some (.yaml, setEntries [] (fieldsAsWritten layout 0 fields)) ∧
      (setEntries [] (fieldsAsWritten layout 0 fields) = fields ↔
        '\\' ∉ betweenQuotes .single layout (.object fields)) ∧
      ('\\' ∈ (documentText layout lineEnds (.object fields)).toList ↔
        ∃ quote, '\\' ∈ betweenQuotes quote layout (.object fields)) := by
  have hcson := hplain.readable.documentText_reads layout lineEnds
  have hyaml := yaml_parse?_documentText hplain hchars h
  rw [asWritten] at hyaml
  refine ⟨recognize_cson_of_parse hcson formats, recognize_yaml_of_parse? hyaml formats, ?_, ?_⟩
  · have hsame := hplain.writtenAsIs layout
    rw [asWritten, Document.ofFields, Document.object.injEq] at hsame
    exact hsame
  · rw [← hplain.escapedInQuotes layout .document, documentText_eq]
    simp [not_mem_spaces]

/-- Rules that match an included rule and the given regular expression. -/
def rulesMatching (regex : String) : List (String × Document) :=
  [("patterns", .array [.object [("include", .string "#value")]]),
    ("repository", .object [("value", .object [("match", .string regex)])])]

theorem lookup_rulesMatching (regex : String) : (rulesMatching regex).lookup "repository" =
    some (.object [("value", .object [("match", .string regex)])]) := rfl

/-- A rule whose regular expression has a backslash in it. -/
def digitRules : List (String × Document) :=
  rulesMatching "\\d+"

/-- Entries below each other, and one item on a line of its own. -/
def digitLayout : Cson.Layout
  | [] => { form := .implied }
  | [0] => { form := .block, afterColon := 1 }
  | [0, 0] => { before := 2, closing := 1 }
  | [0, 0, 0] => { before := 1, afterColon := 1 }
  | [1] => { form := .implied, indent := 1 }
  | [1, 0] => { form := .implied, indent := 1 }
  | _ => { afterColon := 1 }

/-- The source that is printed for the rules. -/
def digitSource : String :=
  "'patterns': [\n  \x7b 'include': '#value' \x7d\n]\n" ++
    "'repository':\n  'value':\n    'match': '\\\\d+'\n"

/-- The rules as the layout with single quotes prints them. -/
theorem documentText_digitRules :
    Cson.documentText digitLayout 1 (.object digitRules) = digitSource := by
  decide +kernel

/-- The same layout with bare keys and with texts in double quotes. -/
def doubleLayout : Cson.Layout :=
  fun path => { digitLayout path with quote := .double, bare := true }

/-- The source that is printed for the rules with texts in double quotes. -/
def doubleSource : String :=
  "patterns: [\n  \x7b include: \"#value\" \x7d\n]\n" ++
    "repository:\n  value:\n    match: \"\\\\d+\"\n"

/-- The same rules with bare names and double quotes. -/
theorem documentText_doubleQuotes :
    Cson.documentText doubleLayout 1 (.object digitRules) = doubleSource := by
  decide +kernel

theorem plain_digitRules : Cson.Plain (.object digitRules) := by
  have hitem : Cson.Plain (.object [("include", .string "#value")]) :=
    .object (by decide) (List.forall_mem_singleton.2 (.string _))
  have hrule : Cson.Plain (.object [("match", .string "\\d+")]) :=
    .object (by decide) (List.forall_mem_singleton.2 (.string _))
  have hrules : Cson.Plain (.object [("value", .object [("match", .string "\\d+")])]) :=
    .object (by decide) (List.forall_mem_singleton.2 hrule)
  exact .object (by decide) (List.forall_mem_cons.2
    ⟨.array (List.forall_mem_singleton.2 hitem), List.forall_mem_singleton.2 hrules⟩)

theorem overlaps_digitRules :
    (∀ c ∈ (Cson.documentText digitLayout 1 (.object digitRules)).toList,
      Cson.isSharedChar c = true) ∧
    Cson.overlaps digitLayout .document false Yaml.maxDepth (.object digitRules) = true := by
  rw [documentText_digitRules, ← List.all_eq_true]
  decide +kernel

theorem overlaps_doubleQuotes :
    (∀ c ∈ (Cson.documentText doubleLayout 1 (.object digitRules)).toList,
      Cson.isSharedChar c = true) ∧
    Cson.overlaps doubleLayout .document false Yaml.maxDepth (.object digitRules) = true := by
  rw [documentText_doubleQuotes, ← List.all_eq_true]
  decide +kernel

/-- In single quotes the backslashes of the rule mean one thing in YAML and another in CSON; in
    double quotes both formats find the same rule. -/
theorem recognize_documentText_digitRules :
    (recognize digitSource.toUTF8 [.cson, .json, .propertyList]).2 =
        some (.cson, rulesMatching "\\d+") ∧
      (recognize digitSource.toUTF8 Format.all).2 = some (.yaml, rulesMatching "\\\\d+") ∧
      (recognize doubleSource.toUTF8 Format.all).2 = some (.yaml, rulesMatching "\\d+") := by
  have hsingle := fun formats =>
    recognize_documentText plain_digitRules overlaps_digitRules.1 overlaps_digitRules.2 formats
  have hdouble := recognize_documentText plain_digitRules overlaps_doubleQuotes.1
    overlaps_doubleQuotes.2 [.cson, .json, .propertyList]
  rw [documentText_digitRules] at hsingle
  rw [documentText_doubleQuotes] at hdouble
  exact ⟨(hsingle _).1, (hsingle [.cson, .json, .propertyList]).2.1, hdouble.2.1⟩

/-- YAML and CSON do not agree on all texts that both take. -/
theorem not_forall_readers_agree :
    ¬∀ (text : String) (yaml cson : List (String × Document)),
      Yaml.parse? text = some (.object yaml) → Cson.parse text = .ok (.object cson) →
        yaml.lookup "patterns" = cson.lookup "patterns" ∧
          yaml.lookup "repository" = cson.lookup "repository" := by
  intro h
  have hcson := plain_digitRules.readable.documentText_reads digitLayout 1
  have hyaml : Yaml.parse? (Cson.documentText digitLayout 1 (.object digitRules)) =
      some (.object (rulesMatching "\\\\d+")) :=
    Cson.yaml_parse?_documentText plain_digitRules overlaps_digitRules.1 overlaps_digitRules.2
  have hrepository := (h _ _ _ hyaml hcson).2
  rw [digitRules, lookup_rulesMatching, lookup_rulesMatching] at hrepository
  simp at hrepository

end RuleGraph
