import TypedExtraction.Proofs.Repetition.Expression

/-!
# Normal forms of expressions

The expression for a repetition need not be the one that it was parsed from:
members are escaped only where they have to be, bounds lose their leading zeros,
and the largest count is left out. Parsing the new expression gives the same
repetition (`parse_written_of_parse`). What could go wrong is that an interval
begins with a quote and something behind it closes a quoted text now. But there
are only intervals behind it, and these are written as they were.
-/

namespace TypedExtraction

open Text Extraction

namespace Member

section
variable {last : Char} {before rest rest' : Cursor} {ss : List Spelling}

/-! ## Intervals that begin with a quote -/

theorem fits_quote_iff : (Spelling.interval '\'' last).Fits rest ↔
    (Quoted.body? '\'' ('-' :: last :: rest)).isSome = false := by
  have hs : Quoted.scan? '\'' ('\'' :: '-' :: last :: rest) = none ↔
      (Quoted.body? '\'' ('-' :: last :: rest)).isSome = false := by
    rw [Quoted.scan?, if_pos rfl, ← Option.isNone_iff_eq_none, ← Option.isSome_eq_false_iff,
      Option.isSome_map]
  rw [← hs]
  exact ⟨Spelling.scan?_eq_none_of_fits, Spelling.fits_interval_of_scan?⟩

/-- What has no quotes in it can be exchanged for something else without quotes. -/
theorem fits_quote_append (h : (Spelling.interval '\'' last).Fits (before ++ rest))
    (hq : '\'' ∉ rest) (hq' : '\'' ∉ rest') :
    (Spelling.interval '\'' last).Fits (before ++ rest') := by
  rw [fits_quote_iff] at h ⊢
  have hb := Quoted.isSome_body?_append_of_not_mem (by decide) ('-' :: last :: before) hq
  have hb' := Quoted.isSome_body?_append_of_not_mem (by decide) ('-' :: last :: before) hq'
  exact hb'.trans (hb.symm.trans h)

/-- **Behind an interval that begins with a quote there are only intervals.** The quotes of a
literal would close the text that the interval opens, whatever is escaped before them. -/
theorem exists_interval_of_fits (h : (Spelling.interval '\'' last).Fits (spell ss ++ rest))
    (hrow : Row ss rest) : ∀ s ∈ ss, ∃ first last, s = .interval first last := by
  intro s hs
  cases s with
  | interval first last => exact ⟨first, last, rfl⟩
  | literal es =>
    exfalso
    obtain ⟨front, after, rfl⟩ := List.append_of_mem hs
    have hes : Quoted.Valid '\'' es := hrow front _ after rfl
    have hsome := Quoted.isSome_body?_append_quote (by decide) hes
      ('-' :: last :: spell front) (spell after ++ rest)
    have hspell : spell (front ++ .literal es :: after) ++ rest =
        spell front ++ (Quoted.quote '\'' es ++ (spell after ++ rest)) := by
      simp [spell, Spelling.written]
    rw [hspell, fits_quote_iff] at h
    rw [List.cons_append, List.cons_append, h] at hsome
    cases hsome

/-! ## Rows -/

/-- **Each member of a row can be written in its own way.** -/
theorem row_map_ofMember (h : Row ss rest) (hq : '\'' ∉ rest) (hq' : '\'' ∉ rest') :
    Row (ss.map fun s => Spelling.ofMember s.member) rest' := by
  induction ss with
  | nil => exact row_nil rest'
  | cons s ss ih =>
    obtain ⟨hs, hrow⟩ := row_cons_iff.1 h
    refine row_cons_iff.2 ⟨?_, ih hrow⟩
    cases s with
    | literal es => exact Quoted.valid_map_ofChar '\'' _
    | interval first last =>
      by_cases hfirst : first = '\''
      · subst hfirst
        have hmap : ss.map (fun s => Spelling.ofMember s.member) = ss := by
          refine (List.map_congr_left fun s hm => ?_).trans (List.map_id ss)
          obtain ⟨first, last, rfl⟩ := exists_interval_of_fits hs hrow s hm
          rfl
        rw [hmap]
        exact fits_quote_append hs hq hq'
      · exact fun h => absurd h hfirst

end

end Member

namespace Repetition

/-! ## Repetitions as expressions -/

namespace Expression

/-- The expression in which a repetition is written. -/
def ofRepetition (r : Repetition) : Expression :=
  ⟨r.members.map Member.Spelling.ofMember, Decimal.write r.min,
    if r.isUnbounded then [] else Decimal.write r.max⟩

variable (r : Repetition)

theorem written_ofRepetition : (ofRepetition r).written = r.written := by
  simp [written, bounds, ofRepetition, Repetition.written, Member.spell_map_ofMember]

@[simp] theorem members_ofRepetition : (ofRepetition r).members = r.members := by
  rw [members, ofRepetition, List.map_map]
  exact List.map_id'' Member.Spelling.member_ofMember r.members

theorem ofDigitChars_write_mod {n : Nat} (h : n ≤ unbounded) :
    Nat.ofDigitChars 10 (Decimal.write n) 0 % 2 ^ 64 = n := by
  rw [Decimal.ofDigitChars_write]
  exact Nat.mod_eq_of_lt (le_unbounded_iff.1 h)

@[simp] theorem min_ofRepetition : (ofRepetition r).min = r.min := by
  rw [min, ofRepetition, if_neg (Decimal.write_ne_nil r.min)]
  exact ofDigitChars_write_mod (Nat.le_trans r.min_le_max r.max_le_unbounded)

@[simp] theorem max_ofRepetition : (ofRepetition r).max = r.max := by
  rw [max, ofRepetition]
  by_cases hu : r.isUnbounded
  · rw [if_pos hu, if_pos rfl]
    exact (beq_iff_eq.1 hu).symm
  · rw [if_neg hu, if_neg (Decimal.write_ne_nil r.max)]
    exact ofDigitChars_write_mod r.max_le_unbounded

theorem quote_not_mem_bounds {e : Expression} (hmin : Decimal.Digits e.minDigits)
    (hmax : Decimal.Digits e.maxDigits) : '\'' ∉ e.bounds := by
  have hdigit : ∀ {ds}, Decimal.Digits ds → '\'' ∉ ds := fun hd hm =>
    absurd (hd '\'' hm) (by decide)
  simp [bounds, hdigit hmin, hdigit hmax]

theorem digits_max_ofRepetition : Decimal.Digits (ofRepetition r).maxDigits := by
  unfold ofRepetition
  dsimp only
  split
  · exact List.forall_mem_nil _
  · exact Decimal.digits_write r.max

variable {r}

/-- The bounds of a repetition are always well written, so it is the members that decide. -/
theorem wellFormed_ofRepetition_iff : (ofRepetition r).WellFormed ↔
    r.members ≠ [] ∧
      Member.Row (r.members.map Member.Spelling.ofMember) (ofRepetition r).bounds := by
  constructor
  · intro h
    exact ⟨fun hnil => h.spellings_ne_nil (List.map_eq_nil_iff.2 hnil), h.row⟩
  · rintro ⟨hne, hrow⟩
    exact ⟨mt List.map_eq_nil_iff.1 hne, hrow, Decimal.digits_write r.min,
      digits_max_ofRepetition r, .inl (Decimal.write_ne_nil r.min)⟩

theorem wellFormed_ofRepetition {e : Expression} (he : e.WellFormed)
    (hm : r.members = e.members) : (ofRepetition r).WellFormed := by
  have hspell : r.members.map Member.Spelling.ofMember =
      e.spellings.map fun s => Member.Spelling.ofMember s.member := by
    rw [hm, members, List.map_map]
    rfl
  rw [wellFormed_ofRepetition_iff, hspell, hm]
  exact ⟨mt List.map_eq_nil_iff.1 he.spellings_ne_nil,
    Member.row_map_ofMember he.row (quote_not_mem_bounds he.digits_min he.digits_max)
      (quote_not_mem_bounds (Decimal.digits_write r.min) (digits_max_ofRepetition r))⟩

end Expression

/-! ## Normal forms -/

def normalForm (input : Cursor) : Except Failure (List Char) := (parse input).map written

theorem parse_written_of_wellFormed {r : Repetition}
    (h : (Expression.ofRepetition r).WellFormed) : parse r.written = .ok r := by
  rw [← Expression.written_ofRepetition, parse_written h,
    ofBounds_eq_ok_iff (Expression.max_le_unbounded _)]
  simp

/-- **Parsing the expression for what was parsed changes nothing.** The same members, minimum and
maximum come back, so the expression for them is a normal form. -/
theorem parse_written_of_parse {input : Cursor} {r : Repetition} (h : parse input = .ok r) :
    parse r.written = .ok r ∧ normalForm input = .ok r.written ∧
      normalForm r.written = .ok r.written := by
  obtain ⟨e, he, -, hm, -⟩ := exists_of_parse_eq_ok h
  have hr := parse_written_of_wellFormed (Expression.wellFormed_ofRepetition he hm)
  exact ⟨hr, by rw [normalForm, h]; rfl, by rw [normalForm, hr]; rfl⟩

/-- An escape too many, an interval from a quote to a backslash, an interval that follows it, zeros
in front of a minimum and the largest count as the maximum. -/
theorem parse_written_of_parse_quote :
    let r : Repetition := ⟨[.literal "ab", .interval '\'' '\\', .interval ':' '}'], 7, unbounded,
      by decide, by decide⟩
    parse "\x7b'a\\b''-\\:-\x7d:007:18446744073709551615\x7d".toList = .ok r ∧
      r.written = "\x7b'ab''-\\:-\x7d:7:\x7d".toList ∧ parse r.written = .ok r ∧
      normalForm r.written = .ok r.written := by
  intro r
  let e : Expression := ⟨[.literal [.plain 'a', .escaped 'b'], .interval '\'' '\\',
    .interval ':' '}'], "007".toList, "18446744073709551615".toList⟩
  have he : e.WellFormed := by decide +kernel
  have hp : parse e.written = .ok r := by
    rw [parse_written he, ofBounds_eq_ok_iff e.max_le_unbounded]
    decide
  obtain ⟨hr, -, hn⟩ := parse_written_of_parse hp
  exact ⟨hp, by decide, hr, hn⟩

end Repetition

end TypedExtraction
