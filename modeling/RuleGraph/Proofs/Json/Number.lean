import Mathlib.Data.List.TakeWhile
import RuleGraph.Json.Number
import RuleGraph.Proofs.Document.Numbers

namespace RuleGraph.Json

/-- What stands behind the whole part of a number, up to the given rest: a fraction or none, and a
    power of ten with a sign, without one, or no power at all. -/
inductive Tail : List Char → List Char → Prop where
  | unsigned {run rest : List Char} (hrun : ∀ c ∈ run, isDigit c = true ∨ c ∈ ['.', 'e', 'E']) :
      Tail (run ++ rest) rest
  | signed {run more rest : List Char} {e sign : Char}
      (hrun : ∀ c ∈ run, isDigit c = true ∨ c = '.') (he : e = 'e' ∨ e = 'E')
      (hsign : sign = '+' ∨ sign = '-') : Tail (run ++ e :: sign :: more) rest

/-- The worth of a number aside, all numbers are the same. -/
theorem withoutNumbers_floatOf? {negative : Bool} {digits : Nat} {exponent : Int} {d : Document}
    (h : floatOf? negative digits exponent = some d) : d.withoutNumbers = .int 0 := by
  simp only [floatOf?] at h
  split at h
  · split at h
    · obtain rfl := Option.some.inj h
      rw [Document.withoutNumbers]
    · cases h
  · cases h

/-- Digits and a point in front of a tail belong to it. -/
theorem Tail.append {run s rest : List Char} (hrun : ∀ c ∈ run, isDigit c = true ∨ c = '.')
    (h : Tail s rest) : Tail (run ++ s) rest := by
  cases h with
  | @unsigned more _ hmore =>
    rw [← List.append_assoc]
    refine .unsigned fun c hc => ?_
    rcases List.mem_append.1 hc with hc | hc
    · exact (hrun c hc).imp id fun h => by simp [h]
    · exact hmore c hc
  | @signed more _ _ _ _ hmore he hsign =>
    rw [← List.append_assoc]
    refine .signed (fun c hc => ?_) he hsign
    rcases List.mem_append.1 hc with hc | hc
    · exact hrun c hc
    · exact hmore c hc

theorem takeWhile_isDigit {s : List Char} : ∀ c ∈ s.takeWhile isDigit, isDigit c = true :=
  fun _ hc => List.mem_takeWhile_imp hc

/-- A power of ten runs to the end of its digits. -/
theorem tail_cons_of_isExponent {e : Char} (he : e = 'e' ∨ e = 'E') (t : List Char) :
    Tail (e :: t) ((Decimal.splitSign t).2.dropWhile isDigit) := by
  unfold Decimal.splitSign
  split
  · exact .signed (List.forall_mem_nil _) he (.inr rfl)
  · exact .signed (List.forall_mem_nil _) he (.inl rfl)
  · have hrun : Tail (e :: t.takeWhile isDigit ++ t.dropWhile isDigit) (t.dropWhile isDigit) := by
      refine .unsigned fun c hc => ?_
      rcases List.mem_cons.1 hc with rfl | hc
      · exact .inr (by simpa using .inr he)
      · exact .inl (takeWhile_isDigit c hc)
    rwa [List.cons_append, List.takeWhile_append_dropWhile] at hrun

theorem Tail.refl (s : List Char) : Tail s s :=
  .unsigned (List.forall_mem_nil _)

/-- A power of ten takes nothing but its own text. -/
theorem tail_of_withExponent? {negative : Bool} {digits : Nat} {exponent : Int}
    {s rest : List Char} {d : Document}
    (h : withExponent? negative digits exponent s = some (d, rest)) :
    d.withoutNumbers = .int 0 ∧ Tail s rest := by
  have hfloat : ∀ {x? : Option Document} {r : List Char},
      (∀ x, x? = some x → x.withoutNumbers = .int 0) → x?.map (·, r) = some (d, rest) →
        d.withoutNumbers = .int 0 ∧ r = rest := by
    intro x? r hx hmap
    obtain ⟨x, hfound, heq⟩ := Option.map_eq_some_iff.1 hmap
    obtain ⟨rfl, rfl⟩ := Prod.mk.inj heq
    exact ⟨hx x hfound, rfl⟩
  unfold withExponent? at h
  split at h
  · rename_i c t
    split at h
    · rename_i hc
      have htail := tail_cons_of_isExponent hc t
      dsimp only at h
      split at h
      · cases h
      · split at h
        · obtain ⟨hd, rfl⟩ := hfloat (fun x => withoutNumbers_floatOf?) h
          exact ⟨hd, htail⟩
        · split at h
          · obtain ⟨rfl, rfl⟩ := Prod.mk.inj (Option.some.inj h)
            exact ⟨by rw [Document.withoutNumbers], htail⟩
          · cases h
    · obtain ⟨hd, rfl⟩ := hfloat (fun x => withoutNumbers_floatOf?) h
      exact ⟨hd, .refl _⟩
  · obtain ⟨hd, rfl⟩ := hfloat (fun x => withoutNumbers_floatOf?) h
    exact ⟨hd, .refl _⟩

/-- Digits beyond 64 bits are skipped, so what follows all digits is the same. -/
theorem dropWhile_takeDigits (number taken : Nat) (s : List Char) :
    (takeDigits number taken s).2.2.dropWhile isDigit = s.dropWhile isDigit := by
  induction s generalizing number taken with
  | nil => rfl
  | cons c s ih =>
    simp only [takeDigits]
    split
    · rename_i hc
      split
      · rw [ih, List.dropWhile_cons_of_pos hc]
      · rfl
    · rfl

/-- A fraction takes nothing but its own text. -/
theorem tail_of_withFraction? {negative : Bool} {whole exponent : Nat} {s rest : List Char}
    {d : Document} (h : withFraction? negative whole exponent s = some (d, rest)) :
    d.withoutNumbers = .int 0 ∧ Tail s rest := by
  unfold withFraction? at h
  split at h
  · rename_i t
    dsimp only at h
    split at h
    · cases h
    · rw [dropWhile_takeDigits] at h
      obtain ⟨hd, htail⟩ := tail_of_withExponent? h
      have hfraction : ∀ c ∈ '.' :: t.takeWhile isDigit, isDigit c = true ∨ c = '.' := by
        intro c hc
        rcases List.mem_cons.1 hc with rfl | hc
        · exact .inr rfl
        · exact .inl (takeWhile_isDigit c hc)
      have hrun := htail.append hfraction
      rw [List.cons_append, List.takeWhile_append_dropWhile] at hrun
      exact ⟨hd, hrun⟩
  · exact tail_of_withExponent? h

/-- The text of a number without its sign: digits, a fraction or none, and a power of ten or none.
    -/
theorem tail_of_unsigned? {negative : Bool} {s rest : List Char} {d : Document}
    (h : unsigned? negative s = some (d, rest)) :
    d.withoutNumbers = .int 0 ∧ s.takeWhile isDigit ≠ [] ∧ Tail (s.dropWhile isDigit) rest := by
  unfold unsigned? at h
  split at h
  · cases h
  · rename_i c t
    split at h
    · cases h
    · rename_i hc
      have hdigit : isDigit c = true := by
        cases hd : isDigit c with
        | true => rfl
        | false => simp [hd] at hc
      have hsome : (c :: t).takeWhile isDigit ≠ [] := by
        rw [List.takeWhile_cons_of_pos hdigit]
        exact List.cons_ne_nil _ _
      dsimp only at h
      rw [dropWhile_takeDigits] at h
      split at h
      · split at h
        · obtain ⟨rfl, rfl⟩ := Prod.mk.inj (Option.some.inj h)
          exact ⟨by rw [Document.withoutNumbers], hsome, .refl _⟩
        · split at h
          · obtain ⟨x, hx, heq⟩ := Option.map_eq_some_iff.1 h
            obtain ⟨rfl, rfl⟩ := Prod.mk.inj heq
            exact ⟨withoutNumbers_floatOf? hx, hsome, .refl _⟩
          · obtain ⟨rfl, rfl⟩ := Prod.mk.inj (Option.some.inj h)
            exact ⟨by rw [Document.withoutNumbers], hsome, .refl _⟩
      · obtain ⟨hd, htail⟩ := tail_of_withFraction? h
        exact ⟨hd, hsome, htail⟩

/-- A number is a sign or none, digits, and what follows them. -/
theorem exists_of_number? {s : List Char} {p : Parsed Document s} (h : number? s = some p) :
    p.value.withoutNumbers = .int 0 ∧
      ∃ sign r, s = sign ++ r ∧ (sign = [] ∧ r.head? ≠ some '-' ∨ sign = ['-']) ∧
        r.takeWhile isDigit ≠ [] ∧ Tail (r.dropWhile isDigit) p.rest := by
  unfold number? at h
  split at h
  · rename_i t
    split at h
    · rename_i d rest hd
      obtain rfl := Option.some.inj h
      obtain ⟨hnumber, hdigits, htail⟩ := tail_of_unsigned? hd
      exact ⟨hnumber, ['-'], t, rfl, .inr rfl, hdigits, htail⟩
    · cases h
  · rename_i hminus
    split at h
    · rename_i d rest hd
      obtain rfl := Option.some.inj h
      obtain ⟨hnumber, hdigits, htail⟩ := tail_of_unsigned? hd
      refine ⟨hnumber, [], s, rfl, .inl ⟨rfl, ?_⟩, hdigits, htail⟩
      intro hhead
      obtain ⟨t, rfl⟩ := List.head?_eq_some_iff.1 hhead
      exact hminus t rfl
    · cases h

end RuleGraph.Json
