import Mathlib
import RuleGraph.Proofs.Cson.Indentation
import RuleGraph.Proofs.Cson.Interpolation
import RuleGraph.Proofs.Cson.Members

namespace RuleGraph.Cson

namespace NoneTouch

theorem nil : NoneTouch [] :=
  List.IsChain.nil

theorem singleton (x : Lexeme) : NoneTouch [x] :=
  List.IsChain.singleton x

theorem append {ts later : List Lexeme} (h : NoneTouch ts) (hlater : NoneTouch later)
    (hstart : ∀ y ∈ later.head?, y.token.startsMember = false) : NoneTouch (ts ++ later) := by
  refine List.isChain_append.2 ⟨h, hlater, ?_⟩
  rintro x - y hy ⟨-, htouches⟩
  rw [hstart y hy] at htouches
  cases htouches

theorem cons {x : Lexeme} {ts : List Lexeme} (hx : x.token.endsMember = false) (h : NoneTouch ts) :
    NoneTouch (x :: ts) := by
  refine List.isChain_cons.2 ⟨?_, h⟩
  rintro y - ⟨htouches, -⟩
  rw [hx] at htouches
  cases htouches

/-- A separator touches neither what stands before it nor what follows. -/
theorem separators {ts separators : List Lexeme} (h : NoneTouch ts)
    (hseparators : Separators separators) : NoneTouch (separators ++ ts) := by
  induction separators with
  | nil => exact h
  | cons x separators ih =>
    rw [Separators, List.forall_mem_cons] at hseparators
    refine cons ?_ (ih hseparators.2)
    obtain hline | hcomma := hseparators.1
    · rw [hline]
      rfl
    · rw [hcomma]
      rfl

end NoneTouch

theorem Separators.startsMember_eq_false {separators : List Lexeme} (h : Separators separators)
    {x : Lexeme} (hx : x ∈ separators) : x.token.startsMember = false := by
  obtain hline | hcomma := h x hx
  · rw [hline]
    rfl
  · rw [hcomma]
    rfl

theorem separators_nil : Separators [] :=
  List.forall_mem_nil _

section Sequence

variable {α : Type} {phrase : List Lexeme → List Lexeme → α → Prop}
  {earlier separators first later follow : List Lexeme} {as bs : List α} {a : α}

theorem Sequence.separated (hseparators : Separators separators) :
    Sequence phrase later follow bs → Sequence phrase (separators ++ later) follow bs
  | .nil h => .nil (hseparators.append h)
  | .cons h hfirst hothers => by
    rw [← List.append_assoc, ← List.append_assoc]
    exact .cons (hseparators.append h) hfirst hothers

theorem Sequence.append (h : Sequence phrase earlier (later ++ follow) as)
    (hlater : Sequence phrase later follow bs) :
    Sequence phrase (earlier ++ later) follow (as ++ bs) := by
  generalize hbehind : later ++ follow = behind at h
  induction h with
  | nil hseparators => exact hlater.separated hseparators
  | cons hseparators hfirst hothers ih =>
    subst hbehind
    rw [List.append_assoc]
    rw [← List.append_assoc] at hfirst
    exact .cons hseparators hfirst (ih rfl)

/-- One more phrase behind the ones that were read. -/
theorem Sequence.snoc
    (h : Sequence phrase earlier (separators ++ (first ++ (later ++ follow))) as)
    (hseparators : Separators separators) (hfirst : phrase first (later ++ follow) a) :
    Sequence phrase (earlier ++ (separators ++ first)) (later ++ follow) (as ++ [a]) := by
  have hread : Sequence phrase (separators ++ first ++ []) (later ++ follow) [a] :=
    .cons hseparators hfirst (.nil separators_nil)
  rw [List.append_nil] at hread
  rw [← List.append_assoc] at h
  exact h.append hread

section Apart

variable {opening : Token} {before : List Lexeme} {open' : Lexeme} (hopen : open'.token = opening)
  (hearlier : Sequence phrase earlier (separators ++ (first ++ (later ++ follow))) as)
  (hseparators : Separators separators) (hfirst : phrase first (later ++ follow) a)
  (hothers : Sequence phrase later follow bs)
  (h : ∀ between, ConsecutiveIn opening phrase
    (before ++ open' :: (earlier ++ (separators ++ (first ++ (later ++ follow))))) between →
      between ≠ [])
include hopen hearlier hseparators hfirst hothers h

/-- Where consecutive phrases are apart, none starts directly behind another one. -/
theorem Sequence.startsMember_eq_false {y : Lexeme} (hy : y ∈ later.head?) :
    y.token.startsMember = false := by
  cases hothers with
  | nil hlater => exact hlater.startsMember_eq_false (List.mem_of_mem_head? hy)
  | @cons between second rest _ b _ hbetween hsecond hrest =>
    by_cases hnil : between = []
    · subst hnil
      have hread : Sequence phrase (earlier ++ separators)
          (first ++ [] ++ second ++ (rest ++ follow)) (as ++ []) := by
        simpa only [List.append_assoc, List.nil_append] using hearlier.append (.nil hseparators)
      have hfirst' : phrase first ([] ++ second ++ (rest ++ follow)) a := by
        simpa only [List.append_assoc, List.nil_append] using hfirst
      have htouch : ConsecutiveIn opening phrase (before ++ open' ::
          (earlier ++ separators ++ first ++ [] ++ second ++ (rest ++ follow))) [] :=
        .intro hopen hread hfirst' separators_nil hsecond
      simp only [List.append_assoc, List.nil_append] at h htouch
      exact absurd rfl (h [] htouch)
    · rw [List.append_assoc, List.head?_append_of_ne_nil _ hnil] at hy
      exact hbetween.startsMember_eq_false (List.mem_of_mem_head? hy)

/-- Phrases with separators between them do not touch. -/
theorem Sequence.noneTouch (hinside : NoneTouch first) (hlater : NoneTouch later) :
    NoneTouch (separators ++ first ++ later) := by
  have hapart := hinside.append hlater fun y =>
    startsMember_eq_false hopen hearlier hseparators hfirst hothers h
  rw [List.append_assoc]
  exact hapart.separators hseparators

end Apart

end Sequence

/-- The text between brackets is apart from them. -/
theorem NoneTouch.enclosed {open' close : Lexeme} {ts : List Lexeme} (h : NoneTouch ts)
    (hopen : open'.token.endsMember = false) (hclose : close.token.startsMember = false) :
    NoneTouch (open' :: (ts ++ [close])) := by
  refine (h.append (.singleton close) fun y hy => ?_).cons hopen
  rw [← Option.some.inj hy, hclose]

mutual

/-- Where no two items of a list follow each other without a separator, no tokens of an item touch.
    What stands before the item is carried along, since the items of an array are told from the
    opening bracket on. One case for each rule of the grammar. -/
theorem Item.noneTouch {ts follow : List Lexeme} {v : Document} :
    Item ts follow v → ∀ before, SeparatesMembers (before ++ (ts ++ follow)) → NoneTouch ts
  | .implied _ hfields => hfields.noneTouch
  | .value _ hvalue => hvalue.noneTouch

theorem Value.noneTouch {ts follow : List Lexeme} {v : Document} :
    Value ts follow v → ∀ before, SeparatesMembers (before ++ (ts ++ follow)) → NoneTouch ts
  | .scalar _, _, _ => .singleton _
  | .object hopen hfields hclose, before, h => by
    rw [List.cons_append, List.append_assoc, List.singleton_append] at h
    have hnone : Separators [] := List.forall_mem_nil _
    have hinside := hfields.noneTouch before _ [] [] hopen (.nil hnone) h
    exact hinside.enclosed (by rw [hopen]; rfl) (by rw [hclose]; rfl)
  | .array hopen hitems hclose, before, h => by
    rw [List.cons_append, List.append_assoc, List.singleton_append] at h
    have hnone : Separators [] := List.forall_mem_nil _
    have hinside := hitems.noneTouch before _ [] [] hopen (.nil hnone) h
    exact hinside.enclosed (by rw [hopen]; rfl) (by rw [hclose]; rfl)

/-- A key does not touch its colon, and the value is an item. -/
theorem Entry.noneTouch {column : Nat} {ts follow : List Lexeme} {e : String × Document} :
    Entry column ts follow e → ∀ before, SeparatesMembers (before ++ (ts ++ follow)) → NoneTouch ts
  | @Entry.intro x colon _ breaks ts _ _ hkey hcolon hbreaks _ hitem, before, h => by
    have hinside : NoneTouch ts := by
      apply hitem.noneTouch (before ++ x :: colon :: breaks)
      simpa only [List.append_assoc, List.cons_append] using h
    have hvalue : NoneTouch (colon :: (breaks ++ ts)) :=
      (hinside.separators hbreaks.separators).cons (by rw [hcolon]; rfl)
    refine (NoneTouch.singleton x).append hvalue fun y hy => ?_
    rw [← Option.some.inj hy, hcolon]
    rfl

/-- The entries of an implied object stand on lines of their own, so they do not touch. -/
theorem Implied.noneTouch {column : Nat} {ts follow : List Lexeme}
    {fields : List (String × Document)} :
    Implied column ts follow fields →
      ∀ before, SeparatesMembers (before ++ (ts ++ follow)) → NoneTouch ts
  | .last hentry _, before, h => hentry.noneTouch before h
  | @Implied.more _ first breaks later _ _ _ hentry hsome hbreaks hothers, before, h => by
    have hfirst : NoneTouch first := by
      apply hentry.noneTouch before
      simpa only [List.append_assoc] using h
    have hlater : NoneTouch later := by
      apply hothers.noneTouch (before ++ first ++ breaks)
      simpa only [List.append_assoc] using h
    -- entries of an implied object stand on lines of their own
    rw [List.append_assoc]
    refine hfirst.append (hlater.separators hbreaks.separators) fun y hy => ?_
    rw [List.head?_append_of_ne_nil _ hsome] at hy
    exact hbreaks.separators.startsMember_eq_false (List.mem_of_mem_head? hy)

/-- The items read so far are part of what stands before the next one. -/
theorem Items.noneTouch {ts follow : List Lexeme} {items : List Document} :
    Items ts follow items → ∀ (before : List Lexeme) (open' : Lexeme) (earlier : List Lexeme)
      (vs : List Document), open'.token = .openBracket →
      Sequence Item earlier (ts ++ follow) vs →
      SeparatesMembers (before ++ open' :: (earlier ++ (ts ++ follow))) → NoneTouch ts
  | .nil hseparators, _, _, _, _, _, _, _ => by
    simpa using NoneTouch.nil.separators hseparators
  | @Items.cons separators first later _ v _ hseparators hitem hothers, before, open', earlier, vs,
      hopen, hearlier, h => by
    simp only [List.append_assoc] at h hearlier
    have hfirst : NoneTouch first := by
      apply hitem.noneTouch (before ++ open' :: (earlier ++ separators))
      simpa only [List.append_assoc, List.cons_append] using h
    have hlater : NoneTouch later := by
      apply hothers.noneTouch before open' _ _ hopen (hearlier.snoc hseparators hitem)
      simpa only [List.append_assoc] using h
    exact Sequence.noneTouch hopen hearlier hseparators hitem hothers.sequence
      (fun between hitems => h between (.inl hitems)) hfirst hlater

theorem Fields.noneTouch {ts follow : List Lexeme} {fields : List (String × Document)} :
    Fields ts follow fields → ∀ (before : List Lexeme) (open' : Lexeme) (earlier : List Lexeme)
      (es : List (String × Document)), open'.token = .openBrace →
      Sequence AnyEntry earlier (ts ++ follow) es →
      SeparatesMembers (before ++ open' :: (earlier ++ (ts ++ follow))) → NoneTouch ts
  | .nil hseparators, _, _, _, _, _, _, _ => by
    simpa using NoneTouch.nil.separators hseparators
  | @Fields.cons column separators first later _ e _ hseparators hentry hothers, before, open',
      earlier, es, hopen, hearlier, h => by
    simp only [List.append_assoc] at h hearlier
    have hany : AnyEntry first (later ++ _) e := ⟨column, hentry⟩
    have hfirst : NoneTouch first := by
      apply hentry.noneTouch (before ++ open' :: (earlier ++ separators))
      simpa only [List.append_assoc, List.cons_append] using h
    have hlater : NoneTouch later := by
      apply hothers.noneTouch before open' _ _ hopen (hearlier.snoc hseparators hany)
      simpa only [List.append_assoc] using h
    exact Sequence.noneTouch hopen hearlier hseparators hany hothers.sequence
      (fun between hentries => h between (.inr hentries)) hfirst hlater

end

/-- In an accepted list no two tokens touch exactly if there is a separator between any two
    consecutive items and entries: tokens touch only where one item ends and the next one starts. -/
theorem separatesMembers_iff_noneTouch {size : Nat} {ts : List Lexeme} {v : Document}
    (hread : documentOfTokens size ts = .ok v) : SeparatesMembers ts ↔ NoneTouch ts := by
  refine ⟨fun h => ?_, NoneTouch.separatesMembers⟩
  obtain ⟨hbefore, hitem, hafter⟩ := derives_of_documentOfTokens hread
  rename_i before taken after
  have htaken : NoneTouch taken := by
    apply hitem.noneTouch before
    simpa only [List.append_assoc] using h
  have hlast : NoneTouch after := by simpa using NoneTouch.nil.separators hafter.separators
  rw [List.append_assoc]
  refine (htaken.append hlast fun y hy => ?_).separators hbefore.separators
  exact hafter.separators.startsMember_eq_false (List.mem_of_mem_head? hy)

/-- All separators are there, and no literal in double quotes has the mark of an interpolation. -/
structure SpelledOut (source : List Char) (ts : List Lexeme) : Prop where
  separated : SeparatesMembers ts
  plain : ∀ delimiter ∈ [Delimiter.double, .tripleDouble], ∀ raw,
    HasLiteral source delimiter raw → interpolates raw = false

/-- Only data is accepted: each text is a key or a value. But where the tokens around it tell two items
    apart, a comma may be left out, and an interpolation is taken for the characters it is written
    with. So a source is spelled out where no comma and no backslash is to be added. -/
theorem parse_onlyData {source : String} {ts : List Lexeme}
    (htokens : tokens source.toList = .ok ts) (v : Document) :
    (parse source = .ok v ↔ documentOfTokens source.utf8ByteSize (withCommas ts) = .ok v) ∧
    SeparatesMembers (withCommas ts) ∧
    (parse source = .ok v →
      OnlyData ts ∧
        (SpelledOut source.toList ts ↔
          withCommas ts = ts ∧
            ∀ delimiter ∈ [Delimiter.double, .tripleDouble], ∀ raw,
              HasLiteral source.toList delimiter raw → escapeInterpolations raw = raw)) ∧
    ∀ s delimiter raw, LexesTo source.toList s → StartsLiteral s delimiter raw →
      interpolates (escapeInterpolations raw) = false ∧
        ∃ rest,
          step (lex? s) =
            some (some (.string (literalText delimiter raw)),
              delimiter.text ++ raw ++ delimiter.text, rest) ∧
          step (lex? (delimiter.text ++ escapeInterpolations raw ++ delimiter.text ++ rest)) =
            some (some (.string (literalText delimiter raw)),
              delimiter.text ++ escapeInterpolations raw ++ delimiter.text, rest) := by
  have hparse : parse source = documentOfTokens source.utf8ByteSize ts := by rw [parse, htokens]
  rw [hparse]
  refine ⟨documentOfTokens_withCommas.symm, (noneTouch_withCommas ts).separatesMembers,
    fun hread => ⟨onlyData_of_documentOfTokens hread, ?_⟩, fun s delimiter raw _ hliteral =>
      ⟨interpolates_escapeInterpolations raw, step_lex?_escapeInterpolations hliteral⟩⟩
  rw [withCommas_eq_self_iff, ← separatesMembers_iff_noneTouch hread]
  simp only [escapeInterpolations_eq_self_iff]
  exact ⟨fun h => ⟨h.separated, h.plain⟩, fun h => ⟨h.1, h.2⟩⟩

/-- The tokens of `[5-3]`. -/
def differenceTokens : List Lexeme :=
  [⟨.openBracket, ⟨0, 0⟩⟩, ⟨.number "5", ⟨1, 1⟩⟩, ⟨.number "-3", ⟨2, 2⟩⟩, ⟨.closeBracket, ⟨4, 4⟩⟩]

/-- Two numbers that touch. -/
theorem parse_onlyData_difference :
    documentOfTokens 5 (withCommas differenceTokens) = .ok (.array [.int 5, .int (-3)]) ∧
      SeparatesMembers (withCommas differenceTokens) ∧ OnlyData differenceTokens ∧
      ¬SpelledOut "[5-3]".toList differenceTokens := by
  have htokens : tokens "[5-3]".toList = .ok differenceTokens := by cbv
  have hread : parse "[5-3]" = .ok (.array [.int 5, .int (-3)]) := by cbv
  obtain ⟨hcommas, hseparated, hdata, -⟩ := parse_onlyData htokens (.array [.int 5, .int (-3)])
  have hmore : withCommas differenceTokens ≠ differenceTokens := by decide
  exact ⟨hcommas.1 hread, hseparated, (hdata hread).1, fun h => hmore ((hdata hread).2.1 h).1⟩

/-- In an accepted source items may touch, and a literal may have the mark of an interpolation. -/
theorem not_forall_parse_separated :
    (¬∀ (source : String) (v : Document) (ts : List Lexeme), parse source = .ok v →
      tokens source.toList = .ok ts → SeparatesMembers ts) ∧
    ¬∀ (source : String) (v : Document) (delimiter : Delimiter) (raw : List Char),
      parse source = .ok v → HasLiteral source.toList delimiter raw →
        delimiter ∈ [Delimiter.double, .tripleDouble] → interpolates raw = false := by
  constructor
  · intro hforall
    have hread : parse "[5-3]" = .ok (.array [.int 5, .int (-3)]) := by cbv
    have htokens : tokens "[5-3]".toList = .ok differenceTokens := by cbv
    have hfive : Scalar (.number "5") (.int 5) := .number (by cbv)
    have hthree : Scalar (.number "-3") (.int (-3)) := .number (by cbv)
    have htouch : ConsecutiveIn .openBracket Item
        ([] ++ ⟨.openBracket, ⟨0, 0⟩⟩ :: ([] ++ [⟨.number "5", ⟨1, 1⟩⟩] ++ [] ++
          [⟨.number "-3", ⟨2, 2⟩⟩] ++ [⟨.closeBracket, ⟨4, 4⟩⟩])) [] := by
      refine .intro rfl (.nil separators_nil) (.value ?_ (.scalar hfive)) separators_nil
        (.value ?_ (.scalar hthree))
      all_goals
        rintro _ ⟨-, hcolon⟩
        cases hcolon
    exact hforall _ _ _ hread htokens [] (.inl htouch) rfl
  · intro hforall
    have hread : parse "\"#\x7bx\x7d\"" = .ok (.string "#\x7bx\x7d") := by cbv
    have hliteral : HasLiteral "\"#\x7bx\x7d\"".toList .double ['#', '\x7b', 'x', '\x7d'] :=
      ⟨_, .start, _, [], rfl, by cbv⟩
    have hplain := hforall _ _ _ _ hread hliteral List.mem_cons_self
    exact absurd hplain (by decide)

end RuleGraph.Cson
