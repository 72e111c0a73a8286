import Mathlib.Data.Nat.Find
import TypedExtraction.Proofs.Extraction.Run

/-!
# What an outcome says about template and input

An extraction succeeds exactly where template and input decompose into the same
literal texts, with the values of the slots between them
(`outcome_eq_ok_iff_decomposes`). Otherwise its outcome names the first cause of
failure: with the jokers counted, it is told by the longest walk that the slots
allow and by what is left of the input behind it (`outcome_first_cause`).
-/

namespace TypedExtraction.Extraction

open Text

/-- `pieces` fill as many slots of the given types, `literal` is the next literal text of the
template and `rest` is left of the input. -/
structure Reaches (template : Template) (input : Cursor) (types : List ValueType)
    (pieces : List Piece) (literal : List Char) (rest : Cursor) : Prop where
  types_prefix : pieces.map Piece.type <+: types
  walk : ∃ template', Walk template.joker pieces template.chars input template' rest ∧
    IsLiteral template.joker template' literal

/-- No other pieces fill more slots. -/
structure Furthest (template : Template) (input : Cursor) (types : List ValueType)
    (pieces : List Piece) (literal : List Char) (rest : Cursor) : Prop where
  reaches : Reaches template input types pieces literal rest
  length_le : ∀ pieces' literal' rest', Reaches template input types pieces' literal' rest' →
    pieces'.length ≤ pieces.length

/-- Template and input are made of the pieces and a last literal text, and nothing else. -/
structure Decomposes (template : Template) (input : Cursor) (types : List ValueType)
    (pieces : List Piece) (last : List Char) : Prop where
  types_eq : pieces.map Piece.type = types
  walk : Walk template.joker pieces template.chars input last last
  joker_not_mem : template.joker ∉ last

section
variable {template : Template} {input rest rest' : Cursor} {types : List ValueType}
  {slots : List Slot} {pieces pieces' : List Piece} {literal literal' : List Char}

/-! ## Extraction and run -/

theorem outcome_extract_of_lt (h : template.jokerCount < slots.length) :
    (extract template input slots).outcome = .tooFewJokers := by
  simp [extract, h, Report.settle, Outcome.isOk]

theorem outcome_extract_of_gt (h : slots.length < template.jokerCount) :
    (extract template input slots).outcome = .tooManyJokers := by
  simp [extract, h, Nat.lt_asymm h, Report.settle, Outcome.isOk]

theorem outcome_settle (r : Report) : (r.settle template).outcome = r.outcome := by
  unfold Report.settle
  split <;> rfl

theorem extract_of_count_eq (h : template.jokerCount = slots.length) :
    extract template input slots =
      (run template.joker 0 slots template.chars input).settle template := by
  simp [extract, h]

theorem outcome_extract_of_count_eq (h : template.jokerCount = slots.length) :
    (extract template input slots).outcome =
      (run template.joker 0 slots template.chars input).outcome := by
  rw [extract_of_count_eq h, outcome_settle]

/-! ## The longest walk -/

theorem reaches_nil (template : Template) (input : Cursor) (types : List ValueType) :
    ∃ literal, Reaches template input types [] literal input := by
  obtain ⟨literal, hl⟩ := exists_isLiteral template.joker template.chars
  exact ⟨literal, List.nil_prefix, template.chars, walk_nil_iff.2 ⟨rfl, rfl⟩, hl⟩

theorem Reaches.length_le (h : Reaches template input types pieces literal rest) :
    pieces.length ≤ types.length := by
  have := h.types_prefix.length_le
  rwa [List.length_map] at this

theorem exists_furthest (template : Template) (input : Cursor) (types : List ValueType) :
    ∃ pieces literal rest, Furthest template input types pieces literal rest := by
  classical
  let P (k : Nat) : Prop :=
    ∃ pieces literal rest, Reaches template input types pieces literal rest ∧ pieces.length = k
  have h0 : P 0 := by
    obtain ⟨literal, h⟩ := reaches_nil template input types
    exact ⟨[], literal, input, h, rfl⟩
  obtain ⟨pieces, literal, rest, h, hk⟩ := Nat.findGreatest_spec (Nat.zero_le types.length) h0
  refine ⟨pieces, literal, rest, h, fun pieces' literal' rest' h' => ?_⟩
  rw [hk]
  exact Nat.le_findGreatest h'.length_le ⟨pieces', literal', rest', h', rfl⟩

theorem Reaches.unique (h : Reaches template input types pieces literal rest)
    (h' : Reaches template input types pieces' literal' rest')
    (hlen : pieces.length = pieces'.length) :
    pieces = pieces' ∧ literal = literal' ∧ rest = rest' := by
  have ht : pieces.map Piece.type = pieces'.map Piece.type := by
    rw [List.prefix_iff_eq_take.1 h.types_prefix, List.prefix_iff_eq_take.1 h'.types_prefix,
      List.length_map, List.length_map, hlen]
  obtain ⟨t, hw, hl⟩ := h.walk
  obtain ⟨t', hw', hl'⟩ := h'.walk
  obtain ⟨rfl, rfl, rfl⟩ := hw.eq_of_types hw' ht
  exact ⟨rfl, hl.unique hl', rfl⟩

theorem Furthest.unique (h : Furthest template input types pieces literal rest)
    (h' : Furthest template input types pieces' literal' rest') :
    pieces = pieces' ∧ literal = literal' ∧ rest = rest' :=
  h.reaches.unique h'.reaches
    (Nat.le_antisymm (h'.length_le _ _ _ h.reaches) (h.length_le _ _ _ h'.reaches))

/-! ## Runs behind a walk -/

theorem Reaches.map_type_take
    (h : Reaches template input (slots.map Slot.type) pieces literal rest) :
    (slots.take pieces.length).map Slot.type = pieces.map Piece.type := by
  rw [List.prefix_iff_eq_take.1 h.types_prefix, List.length_map, List.map_take]

/-- The slots that a walk does not fill are those that the rest of the template has jokers for, and
the run goes on with them. -/
theorem Reaches.exists_run (h : Reaches template input (slots.map Slot.type) pieces literal rest)
    (hc : template.jokerCount = slots.length) :
    ∃ t, Walk template.joker pieces template.chars input t rest ∧
      IsLiteral template.joker t literal ∧
      t.count template.joker = (slots.drop pieces.length).length ∧
      run template.joker 0 slots template.chars input =
        let more := run template.joker pieces.length (slots.drop pieces.length) t rest
        ⟨more.outcome, pieces.map Piece.slot ++ more.slots,
          consumedEvents 0 pieces ++ more.events⟩ := by
  obtain ⟨t, hw, hl⟩ := h.walk
  refine ⟨t, hw, hl, ?_, ?_⟩
  · have hcount : template.jokerCount = pieces.length + t.count template.joker := hw.count_eq
    rw [List.length_drop]
    omega
  · have hrun := run_of_walk hw 0 h.map_type_take (slots.drop pieces.length)
    rwa [List.take_append_drop, Nat.zero_add] at hrun

theorem Reaches.snoc (h : Reaches template input (slots.map Slot.type) pieces literal rest)
    (hc : template.jokerCount = slots.length) {slot : Slot} {more : List Slot}
    (hs : slots.drop pieces.length = slot :: more) {p : Piece} (ht : p.type = slot.type)
    (hl : p.literal = literal) {after : Cursor} (hr : rest = p.literal ++ (p.word ++ after))
    (hp : p.Reads after) :
    ∃ literal', Reaches template input (slots.map Slot.type) (pieces ++ [p]) literal' after := by
  obtain ⟨t, hw, hlit, hcount, -⟩ := h.exists_run hc
  obtain ⟨t', rfl⟩ := hlit.exists_of_count_pos (by rw [hcount, hs]; exact Nat.succ_pos _)
  obtain ⟨literal', hlit'⟩ := exists_isLiteral template.joker t'
  refine ⟨literal', ?_, t',
    hw.append (walk_cons_iff.2 ⟨t', after, by rw [hl], hr, ?_, hp, ?_⟩), hlit'⟩
  · have htypes : slots.map Slot.type =
        pieces.map Piece.type ++ slot.type :: more.map Slot.type := by
      rw [← h.map_type_take, ← List.map_cons, ← hs, ← List.map_append, List.take_append_drop]
    rw [htypes, List.map_append, List.map_singleton, ht]
    exact (List.prefix_append_right_inj _).2 ⟨more.map Slot.type, rfl⟩
  · rw [hl]
    exact hlit.1
  · exact walk_nil_iff.2 ⟨rfl, rfl⟩

/-- **The outcome is told by what stops the longest walk.** -/
theorem Furthest.outcome_eq_iff
    (h : Furthest template input (slots.map Slot.type) pieces literal rest)
    (hc : template.jokerCount = slots.length) {outcome : Outcome} :
    (extract template input slots).outcome = outcome ↔
      Stop (slots.drop pieces.length) literal rest outcome := by
  obtain ⟨t, -, hlit, hcount, hrun⟩ := h.reaches.exists_run hc
  rw [outcome_extract_of_count_eq hc, hrun]
  constructor
  · rintro rfl
    rcases exists_stop_or_reads (slots.drop pieces.length) literal rest with
      ⟨outcome, hstop⟩ | ⟨slot, more, p, after, hs, ht, hl, hr, hp⟩
    · rwa [(run_of_stop _ hlit hcount hstop).1]
    · -- one more piece would make the walk longer than the longest
      obtain ⟨literal', h'⟩ := h.reaches.snoc hc hs ht hl hr hp
      have hle := h.length_le _ _ _ h'
      rw [List.length_append] at hle
      exact absurd hle (Nat.not_succ_le_self _)
  · exact fun hstop => (run_of_stop _ hlit hcount hstop).1

/-! ## Success -/

theorem Decomposes.jokerCount_eq
    (h : Decomposes template input (slots.map Slot.type) pieces literal) :
    template.jokerCount = slots.length := by
  have hcount := h.walk.count_eq
  have hlen := congrArg List.length h.types_eq
  rw [List.count_eq_zero.2 h.joker_not_mem] at hcount
  rw [List.length_map, List.length_map] at hlen
  exact hcount.trans hlen

theorem Decomposes.extract_eq (h : Decomposes template input (slots.map Slot.type) pieces literal) :
    extract template input slots = ⟨.ok, pieces.map Piece.slot, consumedEvents 0 pieces⟩ := by
  have hrun := run_of_walk h.walk 0 h.types_eq.symm []
  have hend := matchLiterals_end h.joker_not_mem []
  rw [List.append_nil] at hrun hend
  rw [extract_of_count_eq h.jokerCount_eq, hrun, run_nil_of_ok hend]
  simp [Report.settle, Outcome.isOk]

theorem Decomposes.unique {literal' : List Char}
    (h : Decomposes template input types pieces literal)
    (h' : Decomposes template input types pieces' literal') :
    pieces = pieces' ∧ literal = literal' := by
  obtain ⟨hp, hl, -⟩ := h.walk.eq_of_types h'.walk (h.types_eq.trans h'.types_eq.symm)
  exact ⟨hp, hl⟩

theorem exists_decomposes (hok : (extract template input slots).outcome = .ok) :
    ∃ pieces last, Decomposes template input (slots.map Slot.type) pieces last := by
  have hc : template.jokerCount = slots.length := by
    rcases Nat.lt_trichotomy template.jokerCount slots.length with h | h | h
    · rw [outcome_extract_of_lt h] at hok
      cases hok
    · exact h
    · rw [outcome_extract_of_gt h] at hok
      cases hok
  obtain ⟨pieces, literal, rest, h⟩ := exists_furthest template input (slots.map Slot.type)
  cases (h.outcome_eq_iff hc).1 hok with
  | ok hs hr =>
    obtain ⟨t, hw, hlit, hcount, -⟩ := h.reaches.exists_run hc
    rw [hs, List.length_nil] at hcount
    obtain rfl := hlit.eq_of_count_eq_zero hcount
    subst hr
    refine ⟨pieces, rest, ?_, hw, hlit.1⟩
    rw [← h.reaches.map_type_take, List.take_of_length_le (List.drop_eq_nil_iff.1 hs)]

/-! ## Causes -/

/-- What an outcome says where the longest walk fills the first `filled` slots, `literal` is the
next literal text of the template and `rest` is left of the input. -/
structure NamesCause (outcome : Outcome) (slots : List Slot) (filled : Nat) (literal : List Char)
    (rest : Cursor) : Prop where
  literalMismatch : outcome = .literalMismatch ↔ Differ rest literal
  templateRemains : outcome = .templateRemains ↔ rest <+: literal ∧ rest ≠ literal
  inputExhausted : outcome = .inputExhausted ↔
    ∃ after, rest = literal ++ after ∧ filled < slots.length ∧ after = []
  not_isTail : outcome = .inputExhausted → ∀ slot, slots[filled]? = some slot → slot.isTail = false
  unreadableValue : outcome = .unreadableValue ↔
    ∃ after slot, rest = literal ++ after ∧ slots[filled]? = some slot ∧ after ≠ [] ∧
      slot.type.reader.read? after = none
  inputRemains : outcome = .inputRemains ↔
    ∃ after, rest = literal ++ after ∧ filled = slots.length ∧ after ≠ []
  ok : outcome = .ok ↔ filled = slots.length ∧ rest = literal

theorem not_differ_append (literal after : List Char) : ¬ Differ (literal ++ after) literal := by
  rintro ⟨i, x, y, hx, hy, hne⟩
  obtain ⟨hi, -⟩ := List.getElem?_eq_some_iff.1 hy
  rw [List.getElem?_append_left hi, hy] at hx
  exact hne (Option.some.inj hx).symm

theorem drop_eq_cons_iff {k : Nat} {slot : Slot} :
    (∃ more, slots.drop k = slot :: more) ↔ slots[k]? = some slot := by
  rw [← List.head?_drop]
  cases slots.drop k with
  | nil => simp
  | cons s more => simp

theorem Stop.eq_inputExhausted {outcome : Outcome} {literal : List Char} {slots : List Slot}
    (h : Stop slots literal literal outcome) (hs : slots ≠ []) : outcome = .inputExhausted := by
  have hself : ∀ {after : List Char}, literal = literal ++ after → after = [] :=
    List.self_eq_append_right.1
  cases h with
  | literalMismatch h => exact absurd h (by simpa using not_differ_append literal [])
  | templateRemains h hne => exact absurd rfl hne
  | inputExhausted => rfl
  | unreadableValue _ hi hne => exact absurd (hself hi) hne
  | inputRemains h => exact absurd h hs
  | ok h => exact absurd h hs

theorem namesCause_of_stop {outcome : Outcome} {k : Nat} (hk : k ≤ slots.length)
    (h : ∀ o, outcome = o ↔ Stop (slots.drop k) literal rest o) :
    NamesCause outcome slots k literal rest where
  literalMismatch := by
    rw [h]
    exact ⟨fun hs => by cases hs; assumption, .literalMismatch⟩
  templateRemains := by
    rw [h]
    exact ⟨fun hs => by cases hs; exact ⟨‹_›, ‹_›⟩, fun ⟨hp, hne⟩ => .templateRemains hp hne⟩
  inputExhausted := by
    constructor
    · intro ho
      cases (h _).1 ho with
      | inputExhausted hs _ hi =>
        obtain ⟨hlt, -⟩ := List.getElem?_eq_some_iff.1 (drop_eq_cons_iff.1 ⟨_, hs⟩)
        exact ⟨[], by rw [hi, List.append_nil], hlt, rfl⟩
    · rintro ⟨_, rfl, hlt, rfl⟩
      have hstop := (h outcome).1 rfl
      rw [List.append_nil] at hstop
      exact hstop.eq_inputExhausted (mt List.drop_eq_nil_iff.1 (Nat.not_le.2 hlt))
  not_isTail := by
    intro ho slot hslot
    cases (h _).1 ho with
    | inputExhausted hs ht _ =>
      obtain rfl := Option.some.inj (hslot.symm.trans (drop_eq_cons_iff.1 ⟨_, hs⟩))
      exact ht
  unreadableValue := by
    rw [h]
    constructor
    · intro hs
      cases hs with
      | unreadableValue hs hi hne hr => exact ⟨_, _, hi, drop_eq_cons_iff.1 ⟨_, hs⟩, hne, hr⟩
    · rintro ⟨after, slot, hi, hslot, hne, hr⟩
      obtain ⟨more, hs⟩ := drop_eq_cons_iff.2 hslot
      exact .unreadableValue hs hi hne hr
  inputRemains := by
    rw [h]
    constructor
    · intro hs
      cases hs with
      | inputRemains hs hi hne =>
        exact ⟨_, hi, Nat.le_antisymm hk (List.drop_eq_nil_iff.1 hs), hne⟩
    · rintro ⟨after, hi, rfl, hne⟩
      exact .inputRemains List.drop_length hi hne
  ok := by
    rw [h]
    constructor
    · intro hs
      cases hs with
      | ok hs hi => exact ⟨Nat.le_antisymm hk (List.drop_eq_nil_iff.1 hs), hi⟩
    · rintro ⟨rfl, hi⟩
      exact .ok List.drop_length hi

/-! ## The outcome -/

/-- A template is made of some literal texts with a joker behind each and of a last one, none of
them with a joker in it. -/
structure Splits (template : Template) (literals : List (List Char)) (last : List Char) : Prop where
  chars_eq : template.chars = literals.flatMap (fun l => l ++ [template.joker]) ++ last
  joker_not_mem : ∀ l ∈ literals, template.joker ∉ l
  joker_not_mem_last : template.joker ∉ last

theorem Splits.jokerCount_eq {literals : List (List Char)} {last : List Char}
    (h : Splits template literals last) : template.jokerCount = literals.length := by
  rw [Template.jokerCount, h.chars_eq, List.count_append, List.count_eq_zero.2 h.joker_not_mem_last,
    Nat.add_zero]
  have hl := h.joker_not_mem
  clear h
  induction literals with
  | nil => rfl
  | cons l literals ih =>
    rw [List.flatMap_cons, List.count_append, List.count_append,
      List.count_eq_zero.2 (hl l List.mem_cons_self), List.count_singleton_self,
      ih fun l' hl' => hl l' (List.mem_cons_of_mem _ hl'), List.length_cons]
    omega

theorem exists_splits (template : Template) : ∃ literals last, Splits template literals last := by
  have go : ∀ chars : List Char, ∃ (literals : List (List Char)) (last : List Char),
      chars = literals.flatMap (fun l => l ++ [template.joker]) ++ last ∧
      (∀ l ∈ literals, template.joker ∉ l) ∧ template.joker ∉ last := by
    intro chars
    induction chars with
    | nil => exact ⟨[], [], rfl, List.forall_mem_nil _, List.not_mem_nil⟩
    | cons c chars ih =>
      obtain ⟨literals, last, rfl, hl, hlast⟩ := ih
      by_cases hc : template.joker = c
      · refine ⟨[] :: literals, last, ?_, List.forall_mem_cons.2 ⟨List.not_mem_nil, hl⟩, hlast⟩
        rw [hc]
        rfl
      · cases literals with
        | nil => exact ⟨[], c :: last, rfl, hl, List.not_mem_cons_of_ne_of_not_mem hc hlast⟩
        | cons l literals =>
          obtain ⟨hl0, hl⟩ := List.forall_mem_cons.1 hl
          exact ⟨(c :: l) :: literals, last, rfl,
            List.forall_mem_cons.2 ⟨List.not_mem_cons_of_ne_of_not_mem hc hl0, hl⟩, hlast⟩
  obtain ⟨literals, last, h, hl, hlast⟩ := go template.chars
  exact ⟨literals, last, h, hl, hlast⟩

/-- **Success is a decomposition of the whole template and the whole input.** The template has as
many jokers as there are slots, and the literal texts that lie between its jokers lie also between
the words of the input, where each word is what the reader of its slot takes there. There is at most
one such decomposition, and the slots hold its values. -/
theorem outcome_eq_ok_iff_decomposes (template : Template) (input : Cursor) (slots : List Slot) :
    ((extract template input slots).outcome = .ok ↔ template.jokerCount = slots.length ∧
      ∃ pieces last, Decomposes template input (slots.map Slot.type) pieces last) ∧
    (template.jokerCount = slots.length ↔
      ∃ literals last, literals.length = slots.length ∧ Splits template literals last) ∧
    (∀ pieces last pieces' last', Decomposes template input (slots.map Slot.type) pieces last →
      Decomposes template input (slots.map Slot.type) pieces' last' →
      pieces = pieces' ∧ last = last') ∧
    (∀ pieces last, Decomposes template input (slots.map Slot.type) pieces last →
      (extract template input slots).slots = pieces.map Piece.slot) := by
  refine ⟨⟨fun hok => ?_, ?_⟩, ⟨fun hc => ?_, ?_⟩, ?_, ?_⟩
  · obtain ⟨pieces, last, h⟩ := exists_decomposes hok
    exact ⟨h.jokerCount_eq, pieces, last, h⟩
  · rintro ⟨-, pieces, last, h⟩
    rw [h.extract_eq]
  · obtain ⟨literals, last, h⟩ := exists_splits template
    exact ⟨literals, last, by rw [← h.jokerCount_eq, hc], h⟩
  · rintro ⟨literals, last, hlen, h⟩
    rw [h.jokerCount_eq, hlen]
  · intro pieces last pieces' last' h h'
    exact h.unique h'
  · intro pieces last h
    rw [h.extract_eq]

theorem Furthest.namesCause (h : Furthest template input (slots.map Slot.type) pieces literal rest)
    (hc : template.jokerCount = slots.length) :
    NamesCause (extract template input slots).outcome slots pieces.length literal rest := by
  have hle := h.reaches.length_le
  rw [List.length_map] at hle
  exact namesCause_of_stop hle fun _ => h.outcome_eq_iff hc

theorem namesCause_of_no_joker (input : Cursor) (hj : template.joker ∉ template.chars) :
    NamesCause (extract template input []).outcome [] 0 template.chars input := by
  have hc : template.jokerCount = ([] : List Slot).length := List.count_eq_zero.2 hj
  obtain ⟨pieces, literal, rest, h⟩ := exists_furthest template input []
  obtain ⟨t, hw, hl⟩ := h.reaches.walk
  obtain rfl := List.length_eq_zero_iff.1 (Nat.le_zero.1 h.reaches.length_le)
  obtain ⟨rfl, rfl⟩ := walk_nil_iff.1 hw
  obtain rfl := hl.eq_of_count_eq_zero hc
  exact h.namesCause hc

theorem outcome_joker_count (template : Template) (input : Cursor) (slots : List Slot) :
    ((extract template input slots).outcome = .tooFewJokers ↔
      template.jokerCount < slots.length) ∧
    ((extract template input slots).outcome = .tooManyJokers ↔
      slots.length < template.jokerCount) := by
  rcases Nat.lt_trichotomy template.jokerCount slots.length with h | h | h
  · simp [outcome_extract_of_lt h, h, Nat.lt_asymm h]
  · obtain ⟨pieces, literal, rest, hf⟩ := exists_furthest template input (slots.map Slot.type)
    rw [hf.outcome_eq_iff h, hf.outcome_eq_iff h, h]
    exact ⟨⟨(nomatch ·), fun hlt => absurd hlt (Nat.lt_irrefl _)⟩,
      ⟨(nomatch ·), fun hlt => absurd hlt (Nat.lt_irrefl _)⟩⟩
  · simp [outcome_extract_of_gt h, h, Nat.lt_asymm h]

/-- **The outcome names the first cause.** The jokers are counted first; with as many jokers as
slots, the longest walk through template and input leaves one cause, and the outcome is the one that
belongs to it. A template without jokers is met, differs, or is longer or shorter than the input. -/
theorem outcome_first_cause (template : Template) (input : Cursor) (slots : List Slot) :
    ((extract template input slots).outcome = .tooFewJokers ↔
      template.jokerCount < slots.length) ∧
    ((extract template input slots).outcome = .tooManyJokers ↔
      slots.length < template.jokerCount) ∧
    (template.jokerCount = slots.length → ∃ pieces literal rest,
      Furthest template input (slots.map Slot.type) pieces literal rest ∧
      (∀ pieces' literal' rest',
        Furthest template input (slots.map Slot.type) pieces' literal' rest' →
        pieces = pieces' ∧ literal = literal' ∧ rest = rest') ∧
      NamesCause (extract template input slots).outcome slots pieces.length literal rest) ∧
    (template.joker ∉ template.chars →
      ((extract template input []).outcome = .ok ↔ input = template.chars) ∧
      ((extract template input []).outcome = .inputRemains ↔
        template.chars <+: input ∧ template.chars ≠ input) ∧
      ((extract template input []).outcome = .templateRemains ↔
        input <+: template.chars ∧ input ≠ template.chars) ∧
      ((extract template input []).outcome = .literalMismatch ↔ Differ input template.chars)) := by
  obtain ⟨hfew, hmany⟩ := outcome_joker_count template input slots
  refine ⟨hfew, hmany, fun hc => ?_, fun hj => ?_⟩
  · obtain ⟨pieces, literal, rest, h⟩ := exists_furthest template input (slots.map Slot.type)
    exact ⟨pieces, literal, rest, h, fun _ _ _ h' => h.unique h', h.namesCause hc⟩
  · have h := namesCause_of_no_joker input hj
    refine ⟨?_, ?_, h.templateRemains, h.literalMismatch⟩
    · rw [h.ok]
      exact and_iff_right rfl
    · rw [h.inputRemains]
      constructor
      · rintro ⟨after, rfl, -, hne⟩
        exact ⟨List.prefix_append _ _, by simpa using hne⟩
      · rintro ⟨⟨after, rfl⟩, hne⟩
        exact ⟨after, rfl, rfl, by simpa using hne⟩

end

end TypedExtraction.Extraction
