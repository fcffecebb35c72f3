import RuleGraph.Proofs.Cson.Grammar.Completeness
import RuleGraph.Proofs.Cson.Layout.Scalars

namespace RuleGraph.Cson

/-- The tokens do not go on with a colon, which would make a key of a scalar in front of them. -/
def NoColon (ts : List Lexeme) : Prop :=
  ∀ x ∈ ts.head?, x.token ≠ .colon

/-- The tokens may follow a node in the given setting. Behind a value, entries on later lines do not
    stand deeper than its key, where they could go on with an implied object. -/
def Setting.Admits (setting : Setting) (follow : List Lexeme) : Prop :=
  NoColon follow ∧
    match setting with
    | .document => ∀ c, ¬Continues c follow
    | .value column => ∀ c, column < c → ¬Continues c follow
    | .line | .item => True

/-- The text, which starts at the given place, is read as the document. Line ends in front of it are
    left to a value that stands deeper than its key. -/
def ReadsAs (setting : Setting) (place : Place) (s : List Char) (d : Document) : Prop :=
  ∃ breaks ts, Lexes place s (breaks ++ ts) ∧ Newlines breaks ∧
    (breaks ≠ [] → ∃ column, setting = .value column ∧ StartsDeeper column ts) ∧
    ∀ follow, setting.Admits follow → Item ts follow d

/-- However the document is laid out, it is read back. -/
def Readable (d : Document) : Prop :=
  ∀ layout setting place, (setting = .document → place.column = layout.style.before) →
    ReadsAs setting place (valueText layout setting d) d

theorem NoColon.cons {x : Lexeme} (h : x.token ≠ .colon) (ts : List Lexeme) :
    NoColon (x :: ts) := by
  intro y hy
  obtain rfl := Option.some.inj hy
  exact h

theorem NoColon.append {ss ts : List Lexeme} (hs : ∀ x ∈ ss, x.token ≠ .colon)
    (ht : NoColon ts) : NoColon (ss ++ ts) := by
  cases ss with
  | nil => exact ht
  | cons x ss => exact .cons (hs x (by simp)) _

theorem Separators.ne_colon {ts : List Lexeme} (h : Separators ts) :
    ∀ x ∈ ts, x.token ≠ .colon := by
  intro x hx
  rcases h x hx with heq | heq <;> simp [heq]

/-- Separators may stand before the entries of an object in braces. -/
theorem Fields.prepend {separators ts follow : List Lexeme} {fields : List (String × Document)}
    (hseparators : Separators separators) (h : Fields ts follow fields) :
    Fields (separators ++ ts) follow fields := by
  cases h with
  | nil hmore => exact .nil (hseparators.append hmore)
  | cons hmore hentry hothers =>
    rw [← List.append_assoc, ← List.append_assoc]
    exact .cons (hseparators.append hmore) hentry hothers

/-- Separators may stand before the items of an array. -/
theorem Items.prepend {separators ts follow : List Lexeme} {items : List Document}
    (hseparators : Separators separators) (h : Items ts follow items) :
    Items (separators ++ ts) follow items := by
  cases h with
  | nil hmore => exact .nil (hseparators.append hmore)
  | cons hmore hitem hothers =>
    rw [← List.append_assoc, ← List.append_assoc]
    exact .cons (hseparators.append hmore) hitem hothers

theorem StartsItem.noColon {ts : List Lexeme} (h : StartsItem ts) : NoColon ts := by
  rcases h with h | h | h
  · refine .cons ?_ _
    rintro heq
    rw [heq] at h
    contradiction
  · exact .cons (by simp [h]) _
  · exact .cons (by simp [h]) _

theorem Fields.noColon {ts follow : List Lexeme} {fields : List (String × Document)}
    (h : Fields ts follow fields) (hfollow : NoColon follow) : NoColon (ts ++ follow) := by
  cases h with
  | nil hseparators => exact .append hseparators.ne_colon hfollow
  | cons hseparators hentry _ =>
    rw [List.append_assoc, List.append_assoc]
    exact .append hseparators.ne_colon (hentry.startsEntry _).startsItem.noColon

theorem Items.noColon {ts follow : List Lexeme} {items : List Document}
    (h : Items ts follow items) (hfollow : NoColon follow) : NoColon (ts ++ follow) := by
  cases h with
  | nil hseparators => exact .append hseparators.ne_colon hfollow
  | cons hseparators hitem _ =>
    rw [List.append_assoc, List.append_assoc]
    exact .append hseparators.ne_colon (hitem.startsItem.append _).noColon

/-- An object is only continued on a later line. -/
theorem not_continues_cons {x : Lexeme} (h : x.token ≠ .newline) (c : Nat) (ts : List Lexeme) :
    ¬Continues c (x :: ts) := by
  rintro ⟨breaks, rest, hsome, hbreaks, heq, -⟩
  cases breaks with
  | nil => exact hsome rfl
  | cons y breaks =>
    rw [(List.cons.inj heq).1] at h
    exact h (hbreaks y (by simp))

/-- An object is not continued by an entry in another column. -/
theorem StartsEntry.not_continues {column c : Nat} {breaks rest : List Lexeme}
    (h : StartsEntry column rest) (hbreaks : Newlines breaks) (hne : column ≠ c) :
    ¬Continues c (breaks ++ rest) := by
  rw [continues_iff, h.startsItem.dropWhile_isNewline hbreaks, keyColumn?_eq_some_iff]
  rintro ⟨-, hother⟩
  exact hne (h.unique hother)

/-- An object is not continued behind the closing brace of an object around it. -/
theorem not_continues_close {breaks : List Lexeme} (hbreaks : Newlines breaks) {close : Lexeme}
    (hclose : close.token = .closeBrace) (c : Nat) (follow : List Lexeme) :
    ¬Continues c (breaks ++ close :: follow) := by
  rw [continues_iff, List.dropWhile_append_of_pos fun x hx => by simp [isNewline, hbreaks x hx],
    List.dropWhile_cons_of_neg (by simp [isNewline, hclose]), keyColumn?_eq_some_iff]
  rintro ⟨-, hstart⟩
  cases hstart with
  | intro hkey _ =>
    rw [hclose] at hkey
    contradiction

/-- Nothing is continued at the end of a document. -/
theorem Newlines.not_continues {ts : List Lexeme} (h : Newlines ts) (c : Nat) :
    ¬Continues c ts := by
  rintro ⟨breaks, rest, -, -, rfl, hstart⟩
  cases hstart with
  | @intro x _ _ _ hkey _ =>
    rw [h x (by simp)] at hkey
    contradiction

/-- Scalars and values in brackets can be written in every setting. -/
theorem readsAs_of_item {setting : Setting} {place : Place} {s : List Char} {d : Document}
    {ts : List Lexeme} (hs : Lexes place s ts)
    (hitem : ∀ follow, NoColon follow → Item ts follow d) : ReadsAs setting place s d :=
  ⟨[], ts, hs, by simp [Newlines], fun h => absurd rfl h, fun follow h => hitem follow h.1⟩

/-- A text that is no value of an entry starts with the item that it is read as. -/
theorem ReadsAs.exists_item {setting : Setting} {place : Place} {s : List Char} {d : Document}
    (h : ReadsAs setting place s d) (hsetting : ∀ column, setting ≠ .value column) :
    ∃ ts, Lexes place s ts ∧ ∀ follow, setting.Admits follow → Item ts follow d := by
  obtain ⟨breaks, ts, hs, -, hdeeper, hitem⟩ := h
  cases breaks with
  | nil => exact ⟨ts, hs, hitem⟩
  | cons x breaks =>
    obtain ⟨column, heq, -⟩ := hdeeper (by simp)
    exact absurd heq (hsetting column)

/-- A scalar is an item by itself unless a colon makes it a key. -/
theorem item_of_scalar {x : Lexeme} {d : Document} (h : Scalar x.token d) {follow : List Lexeme}
    (hfollow : NoColon follow) : Item [x] follow d := by
  refine .value ?_ (.scalar h)
  intro column hstart
  cases follow with
  | nil => cases hstart
  | cons y follow =>
    cases hstart with
    | intro _ hcolon => exact hfollow y rfl hcolon

/-- Only a token that names something starts an entry. -/
theorem not_startsEntry_of_keyText? {x : Lexeme} (h : x.token.keyText? = none) (column : Nat)
    (ts : List Lexeme) : ¬StartsEntry column (x :: ts) := by
  intro hstart
  cases hstart with
  | intro hkey _ =>
    rw [h] at hkey
    contradiction

end RuleGraph.Cson
