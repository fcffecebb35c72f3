import Mathlib.Data.List.DropRight
import RuleGraph.Proofs.Cson.Simulation

namespace RuleGraph.Cson

/-- The lists have the same first `n` tokens, and end at the same place if they end before. -/
def SameFront (n : Nat) (ts ts' : List Lexeme) : Prop :=
  ts'.take n = ts.take n

/-- How many tokens are looked at behind a phrase that may go on. -/
def horizon (ts : List Lexeme) : Nat :=
  (ts.takeWhile isNewline).length + 2

/-- The error is reported at the token with an index, or behind the last token at the end of the
source. -/
inductive ReportedAt (size : Nat) (ts : List Lexeme) (e : Error) : Nat → Prop where
  | token {p : Nat} {x : Lexeme} (hx : ts[p]? = some x) (hoffset : e.offset = x.place.offset) :
      ReportedAt size ts e p
  | ending (hoffset : e.offset = size) : ReportedAt size ts e ts.length

/-- What is read from the tokens stays the same for all lists that are the same up to the horizon of
what is left over, or up to the token behind the error. These have at least the first `least` tokens
in common. -/
inductive Settled (size least : Nat) {α : Type}
    (read : List Lexeme → Except Error (α × List Lexeme)) : List Lexeme → Prop where
  | ok (a : α) {taken rest : List Lexeme} (hleast : least ≤ taken.length + horizon rest)
      (h : ∀ rest', SameFront (horizon rest) rest rest' → read (taken ++ rest') = .ok (a, rest')) :
      Settled size least read (taken ++ rest)
  | error {e : Error} {p : Nat} {ts : List Lexeme} (hat : ReportedAt size ts e p)
      (hleast : least ≤ p + 2) (h : ∀ ts', SameFront (p + 2) ts ts' → read ts' = .error e) :
      Settled size least read ts

theorem dropWhile_takeWhile_append (p : Lexeme → Bool) (ts rest : List Lexeme) :
    (ts.takeWhile p ++ rest).dropWhile p = rest.dropWhile p :=
  List.dropWhile_append_of_pos fun x hx => List.all_eq_true.1 List.all_takeWhile x hx

/-- Skipping stops at a token that is not skipped. -/
theorem dropWhile_cons_of_dropWhile_eq {p : Lexeme → Bool} {x : Lexeme} {ts later : List Lexeme}
    (h : ts.dropWhile p = x :: later) (rest : List Lexeme) :
    (x :: rest).dropWhile p = x :: rest := by
  have hhead := List.head?_dropWhile_not p ts
  rw [h] at hhead
  exact List.dropWhile_cons_of_neg (by simpa using hhead)

namespace SameFront

variable {n : Nat} {ts ts' : List Lexeme}

theorem refl (n : Nat) (ts : List Lexeme) : SameFront n ts ts :=
  rfl

theorem of_getElem? (h : ∀ i < n, ts'[i]? = ts[i]?) : SameFront n ts ts' := by
  refine List.ext_getElem? fun i => ?_
  rw [List.getElem?_take, List.getElem?_take]
  split
  · exact h i ‹_›
  · rfl

theorem mono {m : Nat} (h : SameFront n ts ts') (hle : m ≤ n) : SameFront m ts ts' := by
  have htake := congrArg (List.take m) h
  rwa [List.take_take, List.take_take, Nat.min_eq_left hle] at htake

theorem append (taken : List Lexeme) (h : SameFront n ts ts') :
    SameFront (taken.length + n) (taken ++ ts) (taken ++ ts') := by
  rw [SameFront, List.take_length_add_append, List.take_length_add_append, h]

/-- A list with the same front begins with all that stands in it. -/
theorem exists_append {taken : List Lexeme} (h : SameFront (taken.length + n) (taken ++ ts) ts') :
    ∃ rest', ts' = taken ++ rest' ∧ SameFront n ts rest' := by
  have hprefix : taken <+: ts' := by
    have htake : ts'.take taken.length = taken := by
      rw [h.mono (Nat.le_add_right _ n), List.take_left]
    exact htake ▸ List.take_prefix _ _
  obtain ⟨rest', rfl⟩ := hprefix
  refine ⟨rest', rfl, ?_⟩
  rw [SameFront, List.take_length_add_append, List.take_length_add_append] at h
  exact List.append_cancel_left h

theorem exists_cons {x : Lexeme} (h : SameFront (n + 1) (x :: ts) ts') :
    ∃ rest', ts' = x :: rest' ∧ SameFront n ts rest' := by
  rw [Nat.add_comm] at h
  have happend : SameFront ([x].length + n) ([x] ++ ts) ts' := h
  exact happend.exists_append

/-- A list that ends within the common front ends there in both. -/
theorem eq_nil (h : SameFront (n + 1) [] ts') : ts' = [] := by
  rw [SameFront, List.take_nil, List.take_eq_nil_iff] at h
  exact h.resolve_left (Nat.succ_ne_zero n)

/-- The same tokens are skipped in both lists, and behind them the front is the same as well. -/
theorem dropWhile {p : Lexeme → Bool}
    (h : SameFront ((ts.takeWhile p).length + (n + 1)) ts ts') :
    ts' = ts.takeWhile p ++ ts'.dropWhile p ∧
      SameFront (n + 1) (ts.dropWhile p) (ts'.dropWhile p) := by
  have hsplit : ts.takeWhile p ++ ts.dropWhile p = ts := List.takeWhile_append_dropWhile
  obtain ⟨rest', rfl, hrest⟩ : ∃ rest', ts' = ts.takeWhile p ++ rest' ∧
      SameFront (n + 1) (ts.dropWhile p) rest' := exists_append (hsplit.symm ▸ h)
  have hstop : rest'.dropWhile p = rest' := by
    cases hlater : ts.dropWhile p with
    | nil =>
      rw [hlater] at hrest
      rw [hrest.eq_nil, List.dropWhile_nil]
    | cons x later =>
      rw [hlater] at hrest
      obtain ⟨later', rfl, -⟩ := hrest.exists_cons
      exact dropWhile_cons_of_dropWhile_eq hlater later'
  rw [dropWhile_takeWhile_append, hstop]
  exact ⟨rfl, hrest⟩

/-- Whether a key stands here is decided by two tokens, the second of them the colon. -/
theorem keyColumn? (h : SameFront 2 ts ts') : keyColumn? ts' = Cson.keyColumn? ts := by
  match ts with
  | [] => rw [h.eq_nil]
  | [x] =>
    obtain ⟨rest', rfl, hrest⟩ := h.exists_cons
    rw [hrest.eq_nil]
  | x :: y :: ts =>
    obtain ⟨rest', rfl, hrest⟩ := h.exists_cons
    obtain ⟨rest'', rfl, -⟩ := hrest.exists_cons
    rfl

/-- Whether the next token stands deeper than a column is decided by that token. -/
theorem isDeeper (h : SameFront (n + 1) ts ts') (column : Nat) :
    isDeeper column ts' = Cson.isDeeper column ts := by
  cases ts with
  | nil => rw [h.eq_nil]
  | cons x ts =>
    obtain ⟨rest', rfl, -⟩ := h.exists_cons
    rfl

theorem crossesLine_iff (h : SameFront (n + 1) ts ts') : CrossesLine ts' ↔ CrossesLine ts := by
  cases ts with
  | nil => rw [h.eq_nil]
  | cons x ts =>
    obtain ⟨rest', rfl, -⟩ := h.exists_cons
    rw [crossesLine_cons, crossesLine_cons]

/-- Up to the horizon, the same line ends are skipped, and the next key is the same. -/
theorem newlines (h : SameFront (horizon ts) ts ts') :
    (CrossesLine ts' ↔ CrossesLine ts) ∧
      SameFront 2 (ts.dropWhile isNewline) (ts'.dropWhile isNewline) :=
  ⟨h.crossesLine_iff, (SameFront.dropWhile (n := 1) h).2⟩

/-- An error at the next token, or at the end of the source, is the same for a common front. -/
theorem wantedAt (h : SameFront (n + 1) ts ts') (wanted : Wanted) (size : Nat) :
    wantedAt wanted size ts' = Cson.wantedAt wanted size ts := by
  cases ts with
  | nil => rw [h.eq_nil]
  | cons x ts =>
    obtain ⟨rest', rfl, -⟩ := h.exists_cons
    rfl

end SameFront

variable {size least : Nat} {ts : List Lexeme} {e : Error}

theorem two_le_horizon (ts : List Lexeme) : 2 ≤ horizon ts :=
  Nat.le_add_left 2 _

/-- Line ends are among the separators. -/
theorem horizon_le (ts : List Lexeme) : horizon ts ≤ (ts.takeWhile isSeparator).length + 2 := by
  induction ts with
  | nil => exact Nat.le_refl 2
  | cons x ts ih =>
    rw [horizon] at ih ⊢
    cases hx : isNewline x with
    | true =>
      rw [List.takeWhile_cons_of_pos hx, List.takeWhile_cons_of_pos (isSeparator_of_isNewline hx),
        List.length_cons, List.length_cons]
      omega
    | false =>
      rw [List.takeWhile_cons_of_neg (by simp [hx]), List.length_nil]
      omega

/-- What is wanted is reported at the next token. -/
theorem reportedAt_wantedAt (wanted : Wanted) (size : Nat) (ts : List Lexeme) :
    ReportedAt size ts (wantedAt wanted size ts) 0 := by
  cases ts with
  | nil => exact .ending rfl
  | cons x ts => exact .token rfl rfl

/-- Tokens in front move the place of an error behind them. -/
theorem ReportedAt.append {p : Nat} (taken : List Lexeme) (h : ReportedAt size ts e p) :
    ReportedAt size (taken ++ ts) e (taken.length + p) := by
  cases h with
  | token hx hoffset =>
    refine .token ?_ hoffset
    rwa [List.getElem?_append_right (Nat.le_add_right _ p), Nat.add_sub_cancel_left]
  | ending hoffset =>
    rw [← List.length_append]
    exact .ending hoffset

namespace Settled

variable {α β : Type} {read read' : List Lexeme → Except Error (α × List Lexeme)}

/-- The bound on how many tokens have to be in common may be lowered. -/
theorem mono {more : Nat} (h : Settled size more read ts) (hle : least ≤ more) :
    Settled size least read ts := by
  cases h with
  | ok a hleast h => exact .ok a (Nat.le_trans hle hleast) h
  | error hat hleast h => exact .error hat (Nat.le_trans hle hleast) h

/-- Readers that are the same on all lists with the same front are settled alike. -/
theorem congr (h : Settled size least read' ts)
    (hsame : ∀ ts', SameFront least ts ts' → read ts' = read' ts') : Settled size least read ts := by
  cases h with
  | @ok a taken rest hleast h =>
    refine .ok a hleast fun rest' hrest => ?_
    rw [hsame _ ((hrest.append taken).mono hleast)]
    exact h rest' hrest
  | error hat hleast h =>
    refine .error hat hleast fun ts' hts => ?_
    rw [hsame ts' (hts.mono hleast)]
    exact h ts' hts

/-- A reader that wants something else is settled by the next token. -/
theorem wanted (wanted : Wanted) (size : Nat) (ts : List Lexeme) :
    Settled size 2 (fun ts => (.error (wantedAt wanted size ts) : Except Error (α × List Lexeme)))
      ts :=
  .error (reportedAt_wantedAt wanted size ts) (Nat.le_refl 2) fun _ hts => by
    rw [hts.wantedAt]

/-- A reader that takes nothing looks no further than whoever reads on. -/
theorem pure (a : α) (size : Nat) (ts : List Lexeme) :
    Settled size (horizon ts) (fun rest => pure (a, rest)) ts :=
  @Settled.ok size _ α _ a [] ts (Nat.le_add_left _ _) fun _ _ => rfl

/-- What is read behind something that was read looks at least as far as that did. -/
theorem bind {f : α × List Lexeme → Except Error (β × List Lexeme)}
    (h : Settled size least read ts)
    (hnext : ∀ a rest, read ts = .ok (a, rest) →
      Settled size (horizon rest) (fun rest => f (a, rest)) rest) :
    Settled size least (fun ts => read ts >>= f) ts := by
  cases h with
  | @error e p _ hat hleast h =>
    refine .error hat hleast fun ts' hts => ?_
    rw [h ts' hts]
    rfl
  | @ok a taken rest hleast h =>
    have hread (rest' : List Lexeme) (hrest : SameFront (horizon rest) rest rest') :
        (read (taken ++ rest') >>= f) = f (a, rest') := by
      rw [h rest' hrest]
      rfl
    have hlater := hnext a rest (h rest (.refl _ rest))
    cases hlater with
    | @ok b later last hhorizon hfound =>
      rw [← List.append_assoc]
      refine .ok b ?_ fun last' hlast => ?_
      · rw [List.length_append]
        omega
      · rw [List.append_assoc, hread _ ((hlast.append later).mono hhorizon)]
        exact hfound last' hlast
    | @error e p _ hat hhorizon hfailed =>
      refine .error (hat.append taken) (by omega) fun ts' hts => ?_
      rw [Nat.add_assoc] at hts
      obtain ⟨rest', rfl, hrest⟩ := hts.exists_append
      rw [hread rest' (hrest.mono hhorizon)]
      exact hfailed rest' hrest

theorem map (h : Settled size least read ts) (f : α → β) :
    Settled size least (fun ts => (read ts).map fun (a, rest) => (f a, rest)) ts := by
  have hbind := h.bind (f := fun (a, rest) => .ok (f a, rest)) fun a rest _ => .pure (f a) size rest
  refine hbind.congr fun ts' _ => ?_
  cases read ts' <;> rfl

/-- A token in front that is taken in any case. -/
theorem cons {x : Lexeme} (h : Settled size 2 read ts) (hread : ∀ rest, read' (x :: rest) = read rest) :
    Settled size 2 read' (x :: ts) := by
  cases h with
  | @ok a taken rest hleast h =>
    rw [← List.cons_append]
    refine .ok a (by rw [List.length_cons]; omega) fun rest' hrest => ?_
    rw [List.cons_append, hread]
    exact h rest' hrest
  | @error e p _ hat hleast h =>
    refine .error (hat.append [x]) (by omega) fun ts' hts => ?_
    rw [List.length_singleton, Nat.add_assoc, Nat.add_comm] at hts
    obtain ⟨rest', rfl, hrest⟩ := hts.exists_cons
    rw [hread]
    exact h rest' hrest

/-- A reader that takes the first token and no other. -/
theorem first {x : Lexeme} (a : α) (h : ∀ rest, read (x :: rest) = .ok (a, rest)) (ts : List Lexeme) :
    Settled size 2 read (x :: ts) :=
  ((Settled.pure a size ts).mono (two_le_horizon ts)).cons h

/-- A reader that fails at the first token. -/
theorem failed {x : Lexeme} {e : Error} (hoffset : e.offset = x.place.offset)
    (h : ∀ rest, read (x :: rest) = .error e) (ts : List Lexeme) :
    Settled size 2 read (x :: ts) := by
  refine .error (.token rfl hoffset) (Nat.le_refl 2) fun ts' hts => ?_
  obtain ⟨rest', rfl, -⟩ := hts.exists_cons
  exact h rest'

/-- A reader that wants another token than the first one. -/
theorem refused {x : Lexeme} (wanted : Wanted)
    (h : ∀ rest, read (x :: rest) = .error (wantedAt wanted size (x :: rest))) (ts : List Lexeme) :
    Settled size 2 read (x :: ts) :=
  .failed (e := wantedAt wanted size [x]) rfl h ts

/-- A reader that wants a token where there is none. -/
theorem refused_end (wanted : Wanted) (h : read [] = .error (wantedAt wanted size [])) :
    Settled size 2 read [] := by
  refine (Settled.wanted wanted size []).congr fun ts' hts => ?_
  rw [hts.eq_nil]
  exact h

/-- Tokens in front that are skipped. Something is read behind them, so they are skipped in all lists
with the same front. -/
theorem skip {p : Lexeme → Bool} (h : Settled size 2 read (ts.dropWhile p))
    (hshorter : ∀ a rest, read (ts.dropWhile p) = .ok (a, rest) →
      rest.length < (ts.dropWhile p).length) :
    Settled size ((ts.takeWhile p).length + 2) (fun ts => read (ts.dropWhile p)) ts := by
  generalize hlater : ts.dropWhile p = later at h hshorter
  have hsplit : ts.takeWhile p ++ later = ts := hlater ▸ List.takeWhile_append_dropWhile
  cases h with
  | @ok a taken rest hleast h =>
    have hless := hshorter a rest (h rest (.refl _ rest))
    rw [List.length_append] at hless
    obtain ⟨x, taken, rfl⟩ := List.exists_cons_of_length_pos (by omega : 0 < taken.length)
    have hsettled : Settled size ((ts.takeWhile p).length + 2) (fun ts => read (ts.dropWhile p))
        ((ts.takeWhile p ++ x :: taken) ++ rest) := by
      refine .ok a ?_ fun rest' hrest => ?_
      · have hhorizon := two_le_horizon rest
        rw [List.length_append]
        omega
      · rw [List.append_assoc, dropWhile_takeWhile_append, List.cons_append,
          dropWhile_cons_of_dropWhile_eq hlater]
        exact h rest' hrest
    rwa [List.append_assoc, hsplit] at hsettled
  | @error e q _ hat hleast h =>
    have hreported := hat.append (ts.takeWhile p)
    rw [hsplit] at hreported
    refine .error hreported (by omega) fun ts' hts => ?_
    have hfront := (SameFront.dropWhile (n := q + 1) hts).2
    rw [hlater] at hfront
    exact h _ hfront

/-- The members of an object or an array are settled if each of them is. -/
theorem members {close : Token} {wanted : Wanted}
    {first : Lexeme → List Lexeme → Except Error (α × List Lexeme)}
    {read : List Lexeme → Except Error (List α × List Lexeme)}
    (hread : ∀ ts, read ts = Cson.members size wanted close first read ts)
    (hshorter : ∀ {ts found rest}, read ts = .ok (found, rest) → rest.length < ts.length)
    (hfirst : ∀ x rest, (x :: rest).length ≤ ts.length → Settled size 2 (first x) (x :: rest))
    (hothers : ∀ {x rest a later}, (x :: rest).length ≤ ts.length →
      first x (x :: rest) = .ok (a, later) → Settled size (horizon later) read later) :
    Settled size (horizon ts) read ts := by
  have hskip (ts' : List Lexeme) : read ts' = read (ts'.dropWhile isSeparator) := by
    rw [hread, hread, Cson.members, Cson.members, List.dropWhile_idempotent]
  suffices hlater : Settled size 2 read (ts.dropWhile isSeparator) from
    ((hlater.skip fun _ _ => hshorter).congr fun ts' _ => hskip ts').mono (horizon_le ts)
  cases hstart : ts.dropWhile isSeparator with
  | nil => exact .refused_end wanted (hread [])
  | cons x rest =>
    have hle : (x :: rest).length ≤ ts.length := hstart ▸ (List.dropWhile_sublist _).length_le
    have hkeep : isSeparator x = false := by
      have hhead := List.head?_dropWhile_not isSeparator ts
      rw [hstart] at hhead
      simpa using hhead
    by_cases hclose : x.token = close
    · exact .first [] (fun rest => by rw [hread, members_cons hkeep, if_pos hclose]) rest
    · have hlater (a : α) (later : List Lexeme) (hfound : first x (x :: rest) = .ok (a, later)) :
          Settled size (horizon later)
            (fun rest => read rest >>= fun found => .ok (a :: found.1, found.2)) later :=
        (hothers hle hfound).bind fun found last _ => .pure (a :: found) size last
      have hmember := (hfirst x rest hle).bind
        (f := fun member => read member.2 >>= fun found => .ok (member.1 :: found.1, found.2)) hlater
      refine hmember.congr fun ts' hts => ?_
      obtain ⟨rest', rfl, -⟩ := hts.exists_cons
      rw [hread, members_cons hkeep, if_neg hclose]
      rfl

end Settled

end RuleGraph.Cson
