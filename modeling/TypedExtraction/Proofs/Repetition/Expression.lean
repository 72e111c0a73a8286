import TypedExtraction.Proofs.Extraction.Outcome
import TypedExtraction.Proofs.Member
import TypedExtraction.Proofs.Reader.Integers
import TypedExtraction.Repetition.Form

/-!
# The grammar of expressions

An `Expression` is what is written between the braces: the spellings of its
members and the digits of its two bounds. The expressions that can be parsed are
exactly the well-formed ones, each has one reading, and the repetition is the one
that the reading stands for (`parse_exact`). A form reads the expressions that give
its bounds and no others (`Form.read?_eq_some_iff`), so that no expression has two
forms and the order in which the forms are tried is immaterial (`parseForms_order`).
-/

namespace TypedExtraction

open Text Extraction

/-! ## Parts of an expression -/

theorem Extraction.Piece.digits_of_reads {literal word : List Char} {width : Nat}
    {value : BitVec width} {rest : Cursor}
    (h : Piece.Reads ⟨literal, .unsigned width, value, word⟩ rest) :
    Decimal.Digits word ∧ word ≠ [] ∧ value = Decimal.wrapped width word := by
  have hr : (Reader.unsigned width).read? (word ++ rest) = some ⟨value, word.length⟩ := h.1
  obtain ⟨ds, hnum, hv⟩ := Reader.read?_unsigned_eq_some_iff.1 hr
  obtain ⟨hvalue, hlen⟩ := Reading.mk.inj hv
  obtain ⟨after, heq, -⟩ := hnum.exists_rest
  rw [List.nil_append] at heq
  obtain ⟨rfl, -⟩ := List.append_inj heq hlen
  exact ⟨hnum.digits, hnum.ne_nil, hvalue⟩

theorem Extraction.Piece.reads_of_digits (literal : List Char) {word : List Char} (width : Nat)
    (hd : Decimal.Digits word) (hne : word ≠ []) {rest : Cursor}
    (hrest : Decimal.NoDigitAhead rest) :
    Piece.Reads ⟨literal, .unsigned width, Decimal.wrapped width word, word⟩ rest :=
  ⟨Reader.read?_unsigned_append hd hne hrest width, fun _ => hne⟩

/-- A class list takes a row of spellings that nothing continues. -/
theorem Extraction.Piece.row_of_reads {literal word : List Char} {members : List Member}
    {rest : Cursor} (h : Piece.Reads ⟨literal, .classList, members, word⟩ rest) :
    ∃ ss, ss ≠ [] ∧ word = Member.spell ss ∧ Member.Row ss rest ∧
      members = ss.map Member.Spelling.member := by
  have hr : Member.listReader.read? (word ++ rest) = some ⟨members, word.length⟩ := h.1
  rw [Member.read?_listReader] at hr
  split at hr
  · cases hr
  · rename_i hne
    obtain ⟨ss, tail, heq, hrow, htail⟩ := Member.exists_row (word ++ rest)
    have hrun := Member.run_spell hrow htail
    rw [← heq, Option.some.inj hr] at hrun
    obtain ⟨hm, hlen⟩ := Reading.mk.inj hrun
    obtain ⟨rfl, rfl⟩ := List.append_inj heq hlen
    refine ⟨ss, ?_, rfl, hrow, hm⟩
    rintro rfl
    rw [Option.some.inj hr, hm] at hne
    exact hne rfl

theorem Extraction.Piece.reads_of_row (literal : List Char) {ss : List Member.Spelling}
    {rest : Cursor} (hne : ss ≠ []) (hrow : Member.Row ss rest) (hrest : Member.read? rest = none) :
    Piece.Reads ⟨literal, .classList, ss.map Member.Spelling.member, Member.spell ss⟩ rest := by
  have hr : Member.listReader.read? (Member.spell ss ++ rest) =
      some ⟨ss.map Member.Spelling.member, (Member.spell ss).length⟩ := by
    rw [Member.read?_listReader, Member.run_spell hrow hrest,
      if_neg (mt List.map_eq_nil_iff.1 hne)]
  refine ⟨hr, fun _ hw => ?_⟩
  have hpos := Member.lawful_listReader.length_pos rfl hr
  rw [show Member.spell ss = [] from hw] at hpos
  exact Nat.lt_irrefl 0 hpos

namespace Repetition

theorem le_unbounded_iff {n : Nat} : n ≤ unbounded ↔ n < 2 ^ 64 :=
  Nat.lt_succ_iff.symm

/-- An expression as it is written. -/
structure Expression where
  spellings : List Member.Spelling
  minDigits : List Char
  maxDigits : List Char
  deriving DecidableEq, Repr

namespace Expression

def bounds (e : Expression) : List Char :=
  ':' :: (e.minDigits ++ ':' :: (e.maxDigits ++ ['}']))

def written (e : Expression) : List Char := '{' :: (Member.spell e.spellings ++ e.bounds)

/-- There are members, each stands where it is, and the bounds are digits, not both missing. -/
structure WellFormed (e : Expression) : Prop where
  spellings_ne_nil : e.spellings ≠ []
  row : Member.Row e.spellings e.bounds
  digits_min : Decimal.Digits e.minDigits
  digits_max : Decimal.Digits e.maxDigits
  digits_ne_nil : e.minDigits ≠ [] ∨ e.maxDigits ≠ []

instance (e : Expression) : Decidable e.WellFormed :=
  decidable_of_iff (e.spellings ≠ [] ∧ Member.Row e.spellings e.bounds ∧
      e.minDigits.all Char.isDigit ∧ e.maxDigits.all Char.isDigit ∧
      (e.minDigits ≠ [] ∨ e.maxDigits ≠ []))
    ⟨fun ⟨hs, hrow, hmin, hmax, hne⟩ =>
        ⟨hs, hrow, List.all_eq_true.1 hmin, List.all_eq_true.1 hmax, hne⟩,
      fun h => ⟨h.spellings_ne_nil, h.row, List.all_eq_true.2 h.digits_min,
        List.all_eq_true.2 h.digits_max, h.digits_ne_nil⟩⟩

def members (e : Expression) : List Member := e.spellings.map Member.Spelling.member

/-- The minimum, modulo `2 ^ 64`; a missing one is 0. -/
def min (e : Expression) : Nat :=
  if e.minDigits = [] then 0 else Nat.ofDigitChars 10 e.minDigits 0 % 2 ^ 64

/-- The maximum, modulo `2 ^ 64`; a missing one is `unbounded`. -/
def max (e : Expression) : Nat :=
  if e.maxDigits = [] then unbounded else Nat.ofDigitChars 10 e.maxDigits 0 % 2 ^ 64

def HasForm (e : Expression) : Form → Prop
  | .bothBounds => e.minDigits ≠ [] ∧ e.maxDigits ≠ []
  | .onlyMin => e.minDigits ≠ [] ∧ e.maxDigits = []
  | .onlyMax => e.minDigits = [] ∧ e.maxDigits ≠ []

theorem exists_hasForm {e : Expression} (h : e.WellFormed) : ∃ f, e.HasForm f := by
  by_cases hmin : e.minDigits = []
  · exact ⟨.onlyMax, hmin, h.digits_ne_nil.resolve_left (absurd hmin)⟩
  · by_cases hmax : e.maxDigits = []
    · exact ⟨.onlyMin, hmin, hmax⟩
    · exact ⟨.bothBounds, hmin, hmax⟩

theorem hasForm_unique {e : Expression} {f g : Form} (hf : e.HasForm f) (hg : e.HasForm g) :
    f = g := by
  cases f <;> cases g <;> simp_all [HasForm]

theorem max_le_unbounded (e : Expression) : e.max ≤ unbounded := by
  unfold max
  split
  · exact Nat.le_refl unbounded
  · exact le_unbounded_iff.2 (Nat.mod_lt _ (by decide))

theorem read?_bounds {e : Expression} (h : Decimal.Digits e.minDigits) :
    Member.read? e.bounds = none := by
  cases hr : Member.read? e.bounds with
  | none => rfl
  | some r =>
    exfalso
    obtain ⟨s, rest, heq, -, -⟩ := Member.Spelling.exists_of_read? hr
    cases s with
    | literal es => cases (List.cons.inj heq).1
    | interval first last =>
      have htail := (List.cons.inj heq).2
      cases hd : e.minDigits with
      | nil =>
        rw [hd] at htail
        cases (List.cons.inj htail).1
      | cons d ds =>
        rw [hd] at htail h
        have := h d List.mem_cons_self
        rw [(List.cons.inj htail).1] at this
        cases this

theorem colon_not_mem {ds : List Char} (h : Decimal.Digits ds) : ':' ∉ ds := fun hm =>
  absurd (h ':' hm) (by decide)

/-- **An expression can be read in one way only.** -/
theorem written_inj {e e' : Expression} (h : e.WellFormed) (h' : e'.WellFormed)
    (heq : e.written = e'.written) : e = e' := by
  obtain ⟨hs, hb⟩ := Member.row_unique h.row h'.row (read?_bounds h.digits_min)
    (read?_bounds h'.digits_min) (List.cons.inj heq).2
  obtain ⟨hmin, hmax⟩ := Cursor.append_cons_inj (colon_not_mem h.digits_min)
    (colon_not_mem h'.digits_min) (List.cons.inj hb).2
  cases e
  cases e'
  obtain rfl := hs
  obtain rfl := hmin
  obtain rfl := List.append_cancel_right hmax
  rfl

/-! ## Expressions and forms -/

/-- The members of an expression behind some literal text. -/
def listPiece (literal : List Char) (ss : List Member.Spelling) : Piece :=
  ⟨literal, .classList, ss.map Member.Spelling.member, Member.spell ss⟩

/-- The digits of a bound behind some literal text. -/
def boundPiece (literal digits : List Char) : Piece :=
  ⟨literal, Form.boundType, Decimal.wrapped 64 digits, digits⟩

/-- The values that an expression has for a form. -/
def pieces (e : Expression) : Form → List Piece
  | .bothBounds =>
    [listPiece ['{'] e.spellings, boundPiece [':'] e.minDigits, boundPiece [':'] e.maxDigits]
  | .onlyMin => [listPiece ['{'] e.spellings, boundPiece [':'] e.minDigits]
  | .onlyMax => [listPiece ['{'] e.spellings, boundPiece [':', ':'] e.maxDigits]

section
variable {joker : Char} {literal t t' : List Char} {input input' : Cursor} {ps : List Piece}
  {types : List ValueType}

theorem exists_listPiece (h : Walk joker ps (literal ++ joker :: t) input t' input')
    (hj : joker ∉ literal) (ht : ps.map Piece.type = .classList :: types) :
    ∃ ss i qs, ps = listPiece literal ss :: qs ∧ input = literal ++ (Member.spell ss ++ i) ∧
      ss ≠ [] ∧ Member.Row ss i ∧ qs.map Piece.type = types ∧ Walk joker qs t i t' input' := by
  obtain ⟨members, word, i, qs, rfl, hi, hr, hts, hw⟩ := h.exists_cons hj ht
  obtain ⟨ss, hne, rfl, hrow, rfl⟩ := Piece.row_of_reads hr
  exact ⟨ss, i, qs, rfl, hi, hne, hrow, hts, hw⟩

theorem exists_boundPiece (h : Walk joker ps (literal ++ joker :: t) input t' input')
    (hj : joker ∉ literal) (ht : ps.map Piece.type = Form.boundType :: types) :
    ∃ digits i qs, ps = boundPiece literal digits :: qs ∧ input = literal ++ (digits ++ i) ∧
      Decimal.Digits digits ∧ digits ≠ [] ∧ qs.map Piece.type = types ∧
      Walk joker qs t i t' input' := by
  obtain ⟨value, digits, i, qs, rfl, hi, hr, hts, hw⟩ := h.exists_cons hj ht
  obtain ⟨hd, hne, rfl⟩ := Piece.digits_of_reads hr
  exact ⟨digits, i, qs, rfl, hi, hd, hne, hts, hw⟩

theorem walk_listPiece {ss : List Member.Spelling} (hj : joker ∉ literal) (hne : ss ≠ [])
    (hrow : Member.Row ss input) (hread : Member.read? input = none)
    (h : Walk joker ps t input t' input') :
    Walk joker (listPiece literal ss :: ps) (literal ++ joker :: t)
      (literal ++ (Member.spell ss ++ input)) t' input' :=
  walk_cons_iff.2 ⟨t, input, rfl, rfl, hj, Piece.reads_of_row literal hne hrow hread, h⟩

theorem walk_boundPiece {digits : List Char} {c : Char} (hj : joker ∉ literal)
    (hd : Decimal.Digits digits) (hne : digits ≠ []) (hc : c.isDigit = false)
    (h : Walk joker ps t (c :: input) t' input') :
    Walk joker (boundPiece literal digits :: ps) (literal ++ joker :: t)
      (literal ++ (digits ++ c :: input)) t' input' := by
  have hrest : Decimal.NoDigitAhead (c :: input) := fun _ ha => Option.some.inj ha ▸ hc
  exact walk_cons_iff.2
    ⟨t, c :: input, rfl, rfl, hj, Piece.reads_of_digits literal 64 hd hne hrest, h⟩

end

theorem exists_of_decomposes {f : Form} {input : Cursor} {ps : List Piece} {last : List Char}
    (h : Decomposes f.template input (f.slots.map Slot.type) ps last) :
    ∃ e : Expression, e.WellFormed ∧ e.HasForm f ∧ e.written = input := by
  cases f with
  | bothBounds =>
    have hw : Walk '$' ps (['{'] ++ '$' :: ([':'] ++ '$' :: ([':'] ++ '$' :: ['}']))) input
      last last := h.walk
    obtain ⟨ss, i, qs, rfl, rfl, hne, hrow, hts, hw⟩ := exists_listPiece hw (by decide) h.types_eq
    obtain ⟨min, i, qs, rfl, rfl, hmin, hmin0, hts, hw⟩ := exists_boundPiece hw (by decide) hts
    obtain ⟨max, i, qs, rfl, rfl, hmax, hmax0, hts, hw⟩ := exists_boundPiece hw (by decide) hts
    obtain rfl := List.map_eq_nil_iff.1 hts
    obtain ⟨rfl, rfl⟩ := walk_nil_iff.1 hw
    exact ⟨⟨ss, min, max⟩, ⟨hne, hrow, hmin, hmax, .inl hmin0⟩, ⟨hmin0, hmax0⟩, rfl⟩
  | onlyMin =>
    have hw : Walk '$' ps (['{'] ++ '$' :: ([':'] ++ '$' :: [':', '}'])) input last last :=
      h.walk
    obtain ⟨ss, i, qs, rfl, rfl, hne, hrow, hts, hw⟩ := exists_listPiece hw (by decide) h.types_eq
    obtain ⟨min, i, qs, rfl, rfl, hmin, hmin0, hts, hw⟩ := exists_boundPiece hw (by decide) hts
    obtain rfl := List.map_eq_nil_iff.1 hts
    obtain ⟨rfl, rfl⟩ := walk_nil_iff.1 hw
    exact ⟨⟨ss, min, []⟩, ⟨hne, hrow, hmin, List.forall_mem_nil _, .inl hmin0⟩, ⟨hmin0, rfl⟩, rfl⟩
  | onlyMax =>
    have hw : Walk '$' ps (['{'] ++ '$' :: ([':', ':'] ++ '$' :: ['}'])) input last last :=
      h.walk
    obtain ⟨ss, i, qs, rfl, rfl, hne, hrow, hts, hw⟩ := exists_listPiece hw (by decide) h.types_eq
    obtain ⟨max, i, qs, rfl, rfl, hmax, hmax0, hts, hw⟩ := exists_boundPiece hw (by decide) hts
    obtain rfl := List.map_eq_nil_iff.1 hts
    obtain ⟨rfl, rfl⟩ := walk_nil_iff.1 hw
    exact ⟨⟨ss, [], max⟩, ⟨hne, hrow, List.forall_mem_nil _, hmax, .inr hmax0⟩, ⟨rfl, hmax0⟩, rfl⟩

theorem exists_decomposes {e : Expression} {f : Form} (h : e.WellFormed) (hf : e.HasForm f) :
    ∃ last, Decomposes f.template e.written (f.slots.map Slot.type) (e.pieces f) last := by
  obtain ⟨ss, min, max⟩ := e
  have hread := read?_bounds h.digits_min
  cases f with
  | bothBounds =>
    refine ⟨['}'], rfl, ?_, by decide⟩
    refine walk_listPiece (by decide) h.spellings_ne_nil h.row hread ?_
    refine walk_boundPiece (by decide) h.digits_min hf.1 (by decide) ?_
    refine walk_boundPiece (by decide) h.digits_max hf.2 (by decide) ?_
    exact walk_nil_iff.2 ⟨rfl, rfl⟩
  | onlyMin =>
    obtain ⟨hmin, rfl⟩ : min ≠ [] ∧ max = [] := hf
    refine ⟨[':', '}'], rfl, ?_, by decide⟩
    refine walk_listPiece (by decide) h.spellings_ne_nil h.row hread ?_
    refine walk_boundPiece (by decide) h.digits_min hmin (by decide) ?_
    exact walk_nil_iff.2 ⟨rfl, rfl⟩
  | onlyMax =>
    obtain ⟨rfl, hmax⟩ : min = [] ∧ max ≠ [] := hf
    refine ⟨['}'], rfl, ?_, by decide⟩
    refine walk_listPiece (by decide) h.spellings_ne_nil h.row hread ?_
    refine walk_boundPiece (by decide) h.digits_max hmax (by decide) ?_
    exact walk_nil_iff.2 ⟨rfl, rfl⟩

theorem read?_written {e : Expression} {f : Form} (h : e.WellFormed) (hf : e.HasForm f) :
    f.read? e.written = some (e.members, e.min, e.max) := by
  obtain ⟨last, hd⟩ := exists_decomposes h hf
  have hreport : f.report e.written =
      ⟨.ok, (e.pieces f).map Piece.slot, consumedEvents 0 (e.pieces f)⟩ := hd.extract_eq
  rw [Form.read?, hreport]
  cases f with
  | bothBounds =>
    obtain ⟨hmin, hmax⟩ : e.minDigits ≠ [] ∧ e.maxDigits ≠ [] := hf
    rw [min, max, if_neg hmin, if_neg hmax, ← Decimal.toNat_wrapped, ← Decimal.toNat_wrapped]
    rfl
  | onlyMin =>
    obtain ⟨hmin, hmax⟩ : e.minDigits ≠ [] ∧ e.maxDigits = [] := hf
    rw [min, max, if_neg hmin, if_pos hmax, ← Decimal.toNat_wrapped]
    rfl
  | onlyMax =>
    obtain ⟨hmin, hmax⟩ : e.minDigits = [] ∧ e.maxDigits ≠ [] := hf
    rw [min, max, if_pos hmin, if_neg hmax, ← Decimal.toNat_wrapped]
    rfl

end Expression

section
variable {input : Cursor} {members : List Member} {min max : Nat}

/-- **A form reads the expressions that give its bounds, and no others.** -/
theorem Form.read?_eq_some_iff {f : Form} :
    f.read? input = some (members, min, max) ↔ ∃ e : Expression, e.WellFormed ∧ e.HasForm f ∧
      e.written = input ∧ e.members = members ∧ e.min = min ∧ e.max = max := by
  constructor
  · intro h
    have hok : (f.report input).outcome = .ok := by
      by_contra hne
      rw [Form.read?, if_neg (by simpa [Outcome.isOk] using hne)] at h
      cases h
    obtain ⟨pieces, last, hd⟩ := Extraction.exists_decomposes hok
    obtain ⟨e, he, hf, rfl⟩ := Expression.exists_of_decomposes hd
    rw [Expression.read?_written he hf] at h
    cases h
    exact ⟨e, he, hf, rfl, rfl, rfl, rfl⟩
  · rintro ⟨e, he, hf, rfl, rfl, rfl, rfl⟩
    exact Expression.read?_written he hf

/-- No input is an expression of two forms. -/
theorem Form.eq_of_read? {f g : Form} {x y : List Member × Nat × Nat}
    (hf : f.read? input = some x) (hg : g.read? input = some y) : f = g := by
  obtain ⟨members, min, max⟩ := x
  obtain ⟨members', min', max'⟩ := y
  obtain ⟨e, he, hef, rfl, -⟩ := Form.read?_eq_some_iff.1 hf
  obtain ⟨e', he', heg, heq, -⟩ := Form.read?_eq_some_iff.1 hg
  obtain rfl := Expression.written_inj he' he heq
  exact Expression.hasForm_unique hef heg

/-- What one of some forms reads is what they read together, as no other form reads anything. -/
theorem readForms?_eq_some_iff_exists {forms : List Form} {x : List Member × Nat × Nat} :
    readForms? forms input = some x ↔ ∃ f ∈ forms, f.read? input = some x := by
  constructor
  · exact List.exists_of_findSome?_eq_some
  · rintro ⟨f, hmem, hf⟩
    have hsome : (readForms? forms input).isSome := by
      rw [readForms?, List.isSome_findSome?, List.any_eq_true]
      exact ⟨f, hmem, by rw [hf]; rfl⟩
    obtain ⟨y, hy⟩ := Option.isSome_iff_exists.1 hsome
    obtain ⟨g, -, hg⟩ := List.exists_of_findSome?_eq_some hy
    obtain rfl := Form.eq_of_read? hf hg
    rw [hy, ← hg, hf]

theorem Form.mem_all (f : Form) : f ∈ Form.all := by cases f <;> decide

theorem ofBounds_of_le (hmax : max ≤ unbounded) (h : min ≤ max) :
    ofBounds members min max = .ok ⟨members, min, max, h, hmax⟩ := by
  have heq : Nat.min max unbounded = max := Nat.min_eq_left hmax
  simp only [ofBounds, heq, dif_pos h]

theorem ofBounds_of_lt (hmax : max ≤ unbounded) (h : max < min) :
    ofBounds members min max = .error .reversedBounds := by
  have heq : Nat.min max unbounded = max := Nat.min_eq_left hmax
  simp only [ofBounds, heq, dif_neg (Nat.not_le.2 h)]

theorem ofBounds_eq_ok_iff (hmax : max ≤ unbounded) {r : Repetition} :
    ofBounds members min max = .ok r ↔ r.members = members ∧ r.min = min ∧ r.max = max := by
  constructor
  · intro h
    rcases Nat.lt_or_ge max min with hlt | hle
    · rw [ofBounds_of_lt hmax hlt] at h
      cases h
    · rw [ofBounds_of_le hmax hle] at h
      cases h
      exact ⟨rfl, rfl, rfl⟩
  · rintro ⟨rfl, rfl, rfl⟩
    exact ofBounds_of_le hmax r.min_le_max

/-! ## The parser -/

theorem parseForms_of_read? {f : Form} (hf : f.read? input = some (members, min, max))
    {forms : List Form} (hmem : f ∈ forms) :
    parseForms forms input = ofBounds members min max := by
  rw [parseForms, readForms?_eq_some_iff_exists.2 ⟨f, hmem, hf⟩]

theorem exists_of_parseForms_ne {forms : List Form}
    (h : parseForms forms input ≠ .error .malformed) :
    ∃ f ∈ forms, ∃ members min max, f.read? input = some (members, min, max) := by
  cases hr : readForms? forms input with
  | none => rw [parseForms, hr] at h; exact absurd rfl h
  | some x =>
    obtain ⟨f, hmem, hf⟩ := readForms?_eq_some_iff_exists.1 hr
    exact ⟨f, hmem, x.1, x.2.1, x.2.2, hf⟩

theorem parse_written {e : Expression} (h : e.WellFormed) :
    parse e.written = ofBounds e.members e.min e.max := by
  obtain ⟨f, hf⟩ := Expression.exists_hasForm h
  exact parseForms_of_read? (Expression.read?_written h hf) (Form.mem_all f)

theorem exists_of_parse_ne (h : parse input ≠ .error .malformed) :
    ∃ e : Expression, e.WellFormed ∧ e.written = input := by
  obtain ⟨f, -, members, min, max, hf⟩ := exists_of_parseForms_ne h
  obtain ⟨e, he, -, heq, -⟩ := Form.read?_eq_some_iff.1 hf
  exact ⟨e, he, heq⟩

theorem exists_of_parse_eq_ok {r : Repetition} (h : parse input = .ok r) :
    ∃ e : Expression, e.WellFormed ∧ e.written = input ∧
      r.members = e.members ∧ r.min = e.min ∧ r.max = e.max := by
  have hne : parse input ≠ .error .malformed := by
    rw [h]
    exact fun heq => nomatch heq
  obtain ⟨e, he, rfl⟩ := exists_of_parse_ne hne
  rw [parse_written he, ofBounds_eq_ok_iff e.max_le_unbounded] at h
  exact ⟨e, he, rfl, h⟩

/-- **The parser reads the well-formed expressions, and no others.** Each text is that of one
well-formed expression at most, and the parser finds its members in their order and its bounds; it
fails where these are reversed. -/
theorem parse_exact (input : Cursor) :
    (parse input ≠ .error .malformed ↔ ∃ e : Expression, e.WellFormed ∧ e.written = input) ∧
    (∀ e e' : Expression, e.WellFormed → e'.WellFormed → e.written = input → e'.written = input →
      e = e') ∧
    (∀ e : Expression, e.WellFormed → e.written = input →
      (e.min ≤ e.max → ∃ r, parse input = .ok r ∧
        r.members = e.members ∧ r.min = e.min ∧ r.max = e.max) ∧
      (e.max < e.min → parse input = .error .reversedBounds)) := by
  refine ⟨⟨exists_of_parse_ne, ?_⟩, ?_, ?_⟩
  · rintro ⟨e, he, rfl⟩
    rw [parse_written he]
    rcases Nat.lt_or_ge e.max e.min with h | h
    · rw [ofBounds_of_lt e.max_le_unbounded h]
      exact fun heq => nomatch heq
    · rw [ofBounds_of_le e.max_le_unbounded h]
      exact fun heq => nomatch heq
  · rintro e e' he he' rfl heq
    exact Expression.written_inj he he' heq.symm
  · rintro e he rfl
    rw [parse_written he]
    constructor
    · intro h
      exact ⟨_, ofBounds_of_le e.max_le_unbounded h, rfl, rfl, rfl⟩
    · exact ofBounds_of_lt e.max_le_unbounded

/-! ## The order of the forms -/

theorem parseForms_congr {forms forms' : List Form} (h : ∀ f, f ∈ forms ↔ f ∈ forms')
    (input : Cursor) : parseForms forms input = parseForms forms' input := by
  have hread : readForms? forms input = readForms? forms' input := by
    refine Option.ext fun x => ?_
    rw [readForms?_eq_some_iff_exists, readForms?_eq_some_iff_exists]
    exact exists_congr fun f => and_congr_left' (h f)
  rw [parseForms, parseForms, hread]

/-- **The order of the forms makes no difference.** No input is read by two of them, so they can be
tried in any order with the same result, and what is refused by one of them for its bounds is
accepted by none, however they are put together. -/
theorem parseForms_order (input : Cursor) :
    (∀ (f g : Form) x y, f.read? input = some x → g.read? input = some y → f = g) ∧
    (∀ forms : List Form, forms.Perm Form.all → parseForms forms input = parse input) ∧
    (∀ f, parseForms [f] input = .error .reversedBounds →
      ∀ forms r, parseForms forms input ≠ .ok r) := by
  refine ⟨fun f g x y => Form.eq_of_read?, fun forms hperm => ?_, fun f hf forms r hok => ?_⟩
  · exact parseForms_congr (fun f => hperm.mem_iff) input
  · have hne : parseForms forms input ≠ .error .malformed := by simp [hok]
    have hne' : parseForms [f] input ≠ .error .malformed := by simp [hf]
    obtain ⟨g, hmem, members, min, max, hg⟩ := exists_of_parseForms_ne hne
    obtain ⟨f', hmem', members', min', max', hf'⟩ := exists_of_parseForms_ne hne'
    -- both read the same members and bounds, as they are of one form
    obtain rfl := List.mem_singleton.1 hmem'
    obtain rfl := Form.eq_of_read? hf' hg
    rw [parseForms_of_read? hf' hmem'] at hf
    rw [parseForms_of_read? hf' hmem, hf] at hok
    cases hok

/-- A colon is a member, and the bounds are reversed. -/
theorem parseForms_order_reversed :
    let input : Cursor := "\x7b':'a-z:5:2\x7d".toList
    parseForms [.bothBounds] input = .error .reversedBounds ∧
      parseForms [.onlyMax, .bothBounds, .onlyMin] input = parse input ∧
      ∀ r, parseForms [.onlyMin, .onlyMax] input ≠ .ok r := by
  intro input
  let e : Expression := ⟨[.literal [.plain ':'], .interval 'a' 'z'], ['5'], ['2']⟩
  have he : e.WellFormed := by decide +kernel
  have hread : Form.bothBounds.read? input = some (e.members, e.min, e.max) :=
    Expression.read?_written he ⟨by decide, by decide⟩
  have hreversed : parseForms [.bothBounds] input = .error .reversedBounds := by
    rw [parseForms_of_read? hread List.mem_cons_self]
    decide
  obtain ⟨-, horder, hrefused⟩ := parseForms_order input
  exact ⟨hreversed, horder _ (by decide), hrefused _ hreversed _⟩

end

end Repetition

end TypedExtraction
