import TypedExtraction.Proofs.Repetition.NormalForm

/-!
# Which repetitions can be read back

Not every repetition comes back from its own expression. A class list without
members has none, and an interval that begins with a quote can be taken for the
beginning of a literal. These are the only ways to lose a repetition
(`parse_written_iff`): what is read back is spelled as it was written
(`Member.eq_map_ofMember`), so its expression is well-formed, and that is a
condition on the places where an interval begins with a quote
(`Member.row_map_ofMember_iff`).
-/

namespace TypedExtraction

open Text

namespace Member

section
variable {ms : List Member} {rest rest' : Cursor} {ss : List Spelling}

/-- The written form of a member can be read as another one only if it is an interval that begins
with a quote. -/
theorem fits_ofMember_iff {m : Member} : (Spelling.ofMember m).Fits rest ↔
    ∀ last, m = .interval '\'' last → Quoted.scan? '\'' (m.written ++ rest) = none := by
  cases m with
  | literal text =>
    constructor
    · exact fun _ _ h => nomatch h
    · exact fun _ => Quoted.valid_map_ofChar '\'' text.toList
  | interval first last =>
    constructor
    · exact fun h _ _ => Spelling.scan?_eq_none_of_fits h
    · rintro h rfl
      exact Spelling.fits_interval_of_scan? (h last rfl) rfl

theorem row_map_ofMember_iff : Row (ms.map Spelling.ofMember) rest ↔
    ∀ (i : Nat) (last : Char), ms[i]? = some (.interval '\'' last) →
      Quoted.scan? '\'' ((ms.drop i).flatMap written ++ rest) = none := by
  induction ms with
  | nil =>
    constructor
    · exact fun _ _ _ h => nomatch h
    · exact fun _ => row_nil rest
  | cons m ms ih =>
    rw [List.map_cons, row_cons_iff, fits_ofMember_iff, ih, spell_map_ofMember, ← List.append_assoc,
      ← List.flatMap_cons]
    constructor
    · rintro ⟨h, htail⟩ i last hi
      cases i with
      | zero => exact h last (Option.some.inj hi)
      | succ i => exact htail i last hi
    · intro h
      exact ⟨fun last hm => h 0 last (congrArg some hm), fun i last hi => h (i + 1) last hi⟩

/-- **What is read back as the members that were written is spelled as they were.** -/
theorem eq_map_ofMember (hrow : Row ss rest) (hm : ss.map Spelling.member = ms)
    (h : spell ss ++ rest = spell (ms.map Spelling.ofMember) ++ rest') :
    ss = ms.map Spelling.ofMember ∧ rest = rest' := by
  induction ss generalizing ms with
  | nil =>
    subst hm
    exact ⟨rfl, h⟩
  | cons s ss ih =>
    subst hm
    obtain ⟨hs, hrow⟩ := row_cons_iff.1 hrow
    rw [List.map_cons, List.map_cons, spell_cons_append, spell_cons_append] at h
    have hhead : s = Spelling.ofMember s.member ∧
        spell ss ++ rest = spell ((ss.map Spelling.member).map Spelling.ofMember) ++ rest' := by
      -- a literal could have been read with other escapes, but not from what was written
      cases s with
      | literal es => exact Spelling.written_append_inj hs (Quoted.valid_map_ofChar '\'' _) h
      | interval first last => exact ⟨rfl, List.append_cancel_left h⟩
    obtain ⟨htail, hrest⟩ := ih hrow rfl hhead.2
    exact ⟨by rw [List.map_cons, List.map_cons, ← hhead.1, ← htail], hrest⟩

end

end Member

namespace Repetition

/-- Where the `i`-th member begins in the expression for a repetition. -/
def memberOffset (r : Repetition) (i : Nat) : Nat :=
  1 + ((r.members.take i).flatMap Member.written).length

theorem drop_memberOffset (r : Repetition) (i : Nat) : r.written.drop (r.memberOffset i) =
    (r.members.drop i).flatMap Member.written ++ (Expression.ofRepetition r).bounds := by
  have hsplit : r.members.flatMap Member.written =
      (r.members.take i).flatMap Member.written ++ (r.members.drop i).flatMap Member.written := by
    rw [← List.flatMap_append, List.take_append_drop]
  rw [← Expression.written_ofRepetition, Expression.written, Expression.ofRepetition,
    Member.spell_map_ofMember, hsplit, List.append_assoc, memberOffset, Nat.add_comm,
    List.drop_succ_cons, List.drop_left]

/-- **A repetition comes back from its expression if its expression is well-formed.** -/
theorem parse_written_iff_wellFormed {r : Repetition} :
    parse r.written = .ok r ↔ (Expression.ofRepetition r).WellFormed := by
  refine ⟨fun h => ?_, parse_written_of_wellFormed⟩
  obtain ⟨e, he, hwritten, hm, -, -⟩ := exists_of_parse_eq_ok h
  rw [← Expression.written_ofRepetition] at hwritten
  obtain ⟨hspellings, hbounds⟩ :=
    Member.eq_map_ofMember he.row hm.symm (List.cons.inj hwritten).2
  refine Expression.wellFormed_ofRepetition_iff.2 ⟨?_, ?_⟩
  · rintro hnil
    rw [hnil] at hspellings
    exact he.spellings_ne_nil hspellings
  · rw [← hspellings, ← hbounds]
    exact he.row

/-- **Which repetitions come back from their expressions.** There has to be a member, and where an
interval begins with a quote, no quoted text may begin in the expression. A class list in which no
interval begins with a quote is always read back, whatever its bounds. -/
theorem parse_written_iff (members : List Member) {min max : Nat} (h : min ≤ max)
    (hmax : max ≤ unbounded) :
    ∃ r, ofBounds members min max = .ok r ∧
      (parse r.written = .ok r ↔ members ≠ [] ∧
        ∀ (i : Nat) (last : Char), members[i]? = some (.interval '\'' last) →
          Quoted.scan? '\'' (r.written.drop (r.memberOffset i)) = none) ∧
      (members ≠ [] → (∀ first last, .interval first last ∈ members → first ≠ '\'') →
        parse r.written = .ok r) := by
  let r : Repetition := ⟨members, min, max, h, hmax⟩
  have hiff : parse r.written = .ok r ↔ members ≠ [] ∧
      ∀ (i : Nat) (last : Char), members[i]? = some (.interval '\'' last) →
        Quoted.scan? '\'' (r.written.drop (r.memberOffset i)) = none := by
    rw [parse_written_iff_wellFormed, Expression.wellFormed_ofRepetition_iff,
      Member.row_map_ofMember_iff]
    simp only [drop_memberOffset]
    rfl
  refine ⟨r, ofBounds_of_le hmax h, hiff, fun hne hquote => hiff.2 ⟨hne, fun i last hi => ?_⟩⟩
  exact absurd rfl (hquote '\'' last (List.mem_of_getElem? hi))

/-- Behind a literal, an interval that begins with a quote is read back; in front of one it is lost,
because the quote of the literal closes the text that the interval opens. -/
theorem parse_written_iff_quote :
    let kept : List Member := [.literal "it's", .interval '\'' '\\', .interval ':' '}']
    let lost : List Member := [.interval '\'' '\\', .interval ':' '}', .literal "it's"]
    2 ≤ unbounded ∧ unbounded ≤ unbounded ∧
      (∃ r, ofBounds kept 2 unbounded = .ok r ∧ parse r.written = .ok r) ∧
      (∃ r, ofBounds lost 2 unbounded = .ok r ∧ parse r.written ≠ .ok r) := by
  intro kept lost
  refine ⟨by decide, Nat.le_refl _, ?_, ?_⟩
  · obtain ⟨r, hr, hiff, -⟩ := parse_written_iff kept (by decide : 2 ≤ unbounded) (Nat.le_refl _)
    refine ⟨r, hr, hiff.2 ⟨List.cons_ne_nil _ _, fun i last hi => ?_⟩⟩
    rw [ofBounds_of_le (Nat.le_refl _) (by decide)] at hr
    cases hr
    match i with
    | 0 => cases hi
    | 1 => decide +kernel
    | 2 => cases hi
    | i + 3 => cases hi
  · obtain ⟨r, hr, hiff, -⟩ := parse_written_iff lost (by decide : 2 ≤ unbounded) (Nat.le_refl _)
    refine ⟨r, hr, fun hparse => ?_⟩
    have hscan := (hiff.1 hparse).2 0 '\\' rfl
    rw [ofBounds_of_le (Nat.le_refl _) (by decide)] at hr
    cases hr
    revert hscan
    decide +kernel

end Repetition

end TypedExtraction
