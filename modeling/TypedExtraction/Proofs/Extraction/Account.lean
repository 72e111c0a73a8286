import TypedExtraction.Proofs.Extraction.Outcome
import TypedExtraction.Proofs.Text.Escaped

/-!
# What the journal of an extraction accounts for

A walk takes from the input the words of its values and the literal characters
of the template that it passes, and nothing else (`Walk.length_eq`). The events
of an extraction tell the lengths of those words, the slot that found no value
and how much was left for it, and the outcome if it is a failure
(`Furthest.events_eq`), and each record tells its event
(`Event.eq_of_record_eq`). So with the literal characters of the template the
records account for every character of the input (`records_account_for_input`).
-/

namespace TypedExtraction.Extraction

open Text

/-- The number of characters of a template that stand for themselves. -/
def literalCount (joker : Char) (template : List Char) : Nat := template.countP (· ≠ joker)

/-- The number of characters that the values of some pieces take. -/
def takenCount : List Piece → Nat
  | [] => 0
  | p :: ps => p.word.length + takenCount ps

section
variable {joker : Char} {template template' literal after : List Char} {input input' rest : Cursor}
  {pieces : List Piece}

/-! ## The characters of a walk -/

theorem literalCount_of_not_mem (h : joker ∉ literal) :
    literalCount joker literal = literal.length := by
  refine List.countP_eq_length.2 fun c hc => decide_eq_true ?_
  rintro rfl
  exact h hc

theorem literalCount_gap (h : joker ∉ literal) (template : List Char) :
    literalCount joker (literal ++ joker :: template) =
      literal.length + literalCount joker template := by
  rw [← literalCount_of_not_mem h]
  simp [literalCount]

/-- **A walk takes the words of its values and the literal characters that it passes.** -/
theorem Walk.length_eq (h : Walk joker pieces template input template' input') :
    takenCount pieces + literalCount joker template + input'.length =
      input.length + literalCount joker template' := by
  induction pieces generalizing template input with
  | nil =>
    obtain ⟨rfl, rfl⟩ := walk_nil_iff.1 h
    simp [takenCount, Nat.add_comm]
  | cons p ps ih =>
    obtain ⟨t, i, rfl, rfl, hj, -, hw⟩ := walk_cons_iff.1 h
    have hsum := ih hw
    rw [takenCount, literalCount_gap hj, List.length_append, List.length_append]
    omega

/-- A walk does not depend on what the template goes on with. -/
theorem Walk.exists_before (h : Walk joker pieces template input (literal ++ after) rest) :
    ∃ before, template = before ++ after ∧ Walk joker pieces before input literal rest :=
  ⟨pieces.flatMap (Piece.pattern joker) ++ literal, by rw [List.append_assoc, h.template_eq], rfl,
    h.input_eq, h.joker_not_mem, h.reads⟩

theorem failed_not_mem_consumedEvents (text : String) (outcome : Outcome) (index : Nat) :
    .failed text outcome ∉ consumedEvents index pieces := by
  induction pieces generalizing index with
  | nil => exact List.not_mem_nil
  | cons p ps ih =>
    rw [consumedEvents, List.mem_cons]
    rintro (h | h)
    · cases h
    · exact ih _ h

theorem map_record_consumedEvents (index : Nat) (pieces : List Piece) :
    (consumedEvents index pieces).map Event.record = pieces.mapIdx fun i p =>
      ⟨.trace, "patex::driver",
        "slot " ++ toString (index + i) ++ " consumed " ++ toString p.word.length⟩ := by
  induction pieces generalizing index with
  | nil => rfl
  | cons p ps ih =>
    rw [consumedEvents, List.map_cons, ih, List.mapIdx_cons]
    simp only [Event.record, Nat.add_zero, Nat.add_assoc, Nat.add_comm 1]

end

section
variable {template : Template} {input rest : Cursor} {slots : List Slot} {pieces : List Piece}
  {literal : List Char}

/-! ## The events of an extraction -/

theorem events_settle (r : Report) : (r.settle template).events =
    r.events ++ if r.outcome = .ok then [] else [.failed template.text r.outcome] := by
  unfold Report.settle
  by_cases h : r.outcome = .ok
  · simp [h, Outcome.isOk]
  · simp [h, Outcome.isOk]

/-- With too few or too many jokers nothing but the outcome is told. -/
theorem events_extract_of_count_ne (h : template.jokerCount ≠ slots.length) :
    (extract template input slots).events =
      [.failed template.text (extract template input slots).outcome] := by
  rcases Nat.lt_or_gt_of_ne h with hlt | hgt
  · simp [extract, hlt, Report.settle, Outcome.isOk]
  · simp [extract, hgt, Nat.lt_asymm hgt, Report.settle, Outcome.isOk]

theorem outcome_extract_counts_jokers_iff (template : Template) (input : Cursor)
    (slots : List Slot) :
    (extract template input slots).outcome = .tooFewJokers ∨
      (extract template input slots).outcome = .tooManyJokers ↔
        template.jokerCount ≠ slots.length := by
  obtain ⟨hfew, hmany⟩ := outcome_joker_count template input slots
  rw [hfew, hmany, ne_iff_lt_or_gt]

/-- **The events of an extraction are those of the longest walk and of its end.** -/
theorem Furthest.events_eq
    (h : Furthest template input (slots.map Slot.type) pieces literal rest)
    (hc : template.jokerCount = slots.length) :
    let outcome := (extract template input slots).outcome
    (extract template input slots).events =
      consumedEvents 0 pieces ++ endEvents pieces.length (rest.length - literal.length) outcome ++
        if outcome = .ok then [] else [.failed template.text outcome] := by
  intro outcome
  obtain ⟨t, -, hlit, hcount, hrun⟩ := h.reaches.exists_run hc
  have hstop : Stop (slots.drop pieces.length) literal rest outcome :=
    (h.outcome_eq_iff hc).1 rfl
  obtain ⟨hout, hevents⟩ := run_of_stop pieces.length hlit hcount hstop
  rw [extract_of_count_eq hc, hrun, events_settle]
  simp only [hout, hevents]

/-- The last event names the outcome if it is a failure, and otherwise names none. -/
theorem outcome_extract_eq_iff {outcome : Outcome} (ho : outcome ≠ .ok) :
    (extract template input slots).outcome = outcome ↔
      (extract template input slots).events.getLast? = some (.failed template.text outcome) := by
  by_cases hok : (extract template input slots).outcome = .ok
  · obtain ⟨pieces, last, h⟩ := exists_decomposes hok
    have hmem : .failed template.text outcome ∉ (extract template input slots).events := by
      rw [h.extract_eq]
      exact failed_not_mem_consumedEvents _ _ 0
    exact ⟨fun h => absurd (h.symm.trans hok) ho, fun h => absurd (List.mem_of_getLast? h) hmem⟩
  · have hlast : (extract template input slots).events.getLast? =
        some (.failed template.text (extract template input slots).outcome) := by
      rw [extract, outcome_settle] at hok
      rw [extract, events_settle, outcome_settle, if_neg hok, List.getLast?_concat]
    rw [hlast]
    exact ⟨fun h => by rw [h], fun h => (Event.failed.inj (Option.some.inj h)).2⟩

/-! ## Records -/

/-- A number with a blank behind it is told apart from every other. -/
theorem write_blank_inj {m n : Nat} {rest rest' : Cursor}
    (h : Decimal.write m ++ ' ' :: rest = Decimal.write n ++ ' ' :: rest') :
    m = n ∧ rest = rest' := by
  have hblank : ∀ rest, Decimal.NoDigitAhead (' ' :: rest) := fun _ c hc => by cases hc; rfl
  obtain ⟨hn, hrest⟩ := Decimal.write_append_inj (hblank rest) (hblank rest') h
  exact ⟨hn, (List.cons.inj hrest).2⟩

/-- **A record tells its event.** -/
theorem Event.eq_of_record_eq {e e' : Event} (h : e.record = e'.record) : e = e' := by
  have hlevel := congrArg Record.level h
  have htext := congrArg Record.text h
  have hchars := congrArg String.toList htext
  cases e with
  | consumed i m =>
    cases e' with
    | consumed j n =>
      simp only [Event.record, String.toList_append, Decimal.toList_toString, List.append_assoc,
        List.append_cancel_left_eq] at hchars
      obtain ⟨rfl, hrest⟩ := write_blank_inj hchars
      rw [Decimal.write_inj (List.append_cancel_left hrest)]
    | rejected j n | failed t o => cases hlevel
  | rejected i m =>
    cases e' with
    | consumed j n => cases hlevel
    | rejected j n =>
      simp only [Event.record, String.toList_append, Decimal.toList_toString, List.append_assoc,
        List.append_cancel_left_eq] at hchars
      obtain ⟨rfl, hrest⟩ := write_blank_inj hchars
      rw [(write_blank_inj (List.append_cancel_left hrest)).1]
    | failed t o =>
      simp only [Event.record, String.toList_append, List.append_assoc] at hchars
      cases (List.cons.inj hchars).1
  | failed t o =>
    cases e' with
    | consumed j n => cases hlevel
    | rejected j n =>
      simp only [Event.record, String.toList_append, List.append_assoc] at hchars
      cases (List.cons.inj hchars).1
    | failed t' o' =>
      simp only [Event.record, String.append_assoc, String.append_right_inj] at htext
      obtain ⟨rfl, hname⟩ := Escaped.ofString_append_inj htext
      rw [Outcome.eq_of_name_eq ((String.append_right_inj _).1 hname)]

/-! ## The account -/

/-- What the records of an extraction tell about its template and its input, where the values of
`pieces` were read and `remaining` is left of the input for a slot that finds none. -/
structure Accounts (template : Template) (input : Cursor) (slots : List Slot) (report : Report)
    (pieces : List Piece) (remaining : Nat) : Prop where
  records_eq : report.events.map Event.record =
    pieces.mapIdx (fun i p => ⟨.trace, "patex::driver",
      "slot " ++ toString i ++ " consumed " ++ toString p.word.length⟩) ++
    (if report.outcome = .unreadableValue then
      [⟨.debug, "patex::driver", "slot " ++ toString pieces.length ++ " rejected input at " ++
        toString remaining ++ " remaining"⟩] else []) ++
    (if report.outcome = .ok then [] else
      [⟨.debug, "patex::driver",
        "extract " ++ Escaped.ofString template.text ++ ": " ++ report.outcome.name⟩])
  ok : report.outcome = .ok → pieces.length = slots.length ∧
    takenCount pieces + literalCount template.joker template.chars = input.length
  unreadableValue : report.outcome = .unreadableValue → 0 < remaining ∧
    ∃ before after, template.chars = before ++ template.joker :: after ∧
      before.count template.joker = pieces.length ∧
      takenCount pieces + literalCount template.joker before + remaining = input.length
  inputRemains : report.outcome = .inputRemains → pieces.length = slots.length ∧
    takenCount pieces + literalCount template.joker template.chars < input.length

theorem Furthest.accounts (h : Furthest template input (slots.map Slot.type) pieces literal rest)
    (hc : template.jokerCount = slots.length) :
    Accounts template input slots (extract template input slots) pieces
      (rest.length - literal.length) := by
  obtain ⟨t, hw, hlit, hcount, -⟩ := h.reaches.exists_run hc
  have hliteral := literalCount_of_not_mem hlit.1
  have hle : pieces.length ≤ slots.length := by
    have := h.reaches.length_le
    rwa [List.length_map] at this
  have hstop : ∀ {outcome}, (extract template input slots).outcome = outcome →
      Stop (slots.drop pieces.length) literal rest outcome := (h.outcome_eq_iff hc).1
  -- where all slots are filled, the template ends with its last literal text
  have hall : slots.drop pieces.length = [] → pieces.length = slots.length ∧
      takenCount pieces + literalCount template.joker template.chars + rest.length =
        input.length + literal.length := by
    intro hs
    rw [hs] at hcount
    rw [hlit.eq_of_count_eq_zero hcount] at hw
    exact ⟨Nat.le_antisymm hle (List.drop_eq_nil_iff.1 hs), by rw [hw.length_eq, hliteral]⟩
  refine ⟨?_, fun ho => ?_, fun ho => ?_, fun ho => ?_⟩
  · rw [h.events_eq hc, List.map_append, List.map_append, map_record_consumedEvents]
    simp only [Nat.zero_add]
    cases (extract template input slots).outcome <;> rfl
  · cases hstop ho with
    | ok hs hi =>
      obtain ⟨hlen, hsum⟩ := hall hs
      rw [hi] at hsum
      exact ⟨hlen, Nat.add_right_cancel hsum⟩
  · cases hstop ho with
    | @unreadableValue slot more left hs hi hne _ =>
      have hpos := List.length_pos_iff.2 hne
      rw [hs] at hcount
      obtain ⟨t', rfl⟩ := hlit.exists_of_count_pos (by rw [hcount]; exact Nat.succ_pos _)
      obtain ⟨before, hbefore, hw⟩ := hw.exists_before
      have hsum := hw.length_eq
      rw [hliteral, hi, List.length_append] at hsum
      rw [hi, List.length_append]
      refine ⟨by omega, before, t', hbefore, ?_, by omega⟩
      rw [hw.count_eq, List.count_eq_zero.2 hlit.1, Nat.add_zero]
  · cases hstop ho with
    | inputRemains hs hi hne =>
      have hpos := List.length_pos_iff.2 hne
      obtain ⟨hlen, hsum⟩ := hall hs
      rw [hi, List.length_append] at hsum
      exact ⟨hlen, by omega⟩

/-- **The records account for the input.** With too few or too many jokers the outcome is all that
is told. Otherwise the records tell, slot by slot, the length of each value of the longest walk,
then the slot that finds no value and how much is left for it, and at last the outcome if it is a
failure. On success the lengths of the values and the literal characters of the template make up the
input; where a slot finds no value, so do those in front of its joker together with what is left;
and where the input is longer than the template, they fall short of it. The last record names a
failure just where it is the outcome. -/
theorem records_account_for_input (template : Template) (input : Cursor) (slots : List Slot) :
    let report := extract template input slots
    let records := report.events.map Event.record
    (report.outcome = .tooFewJokers ∨ report.outcome = .tooManyJokers ↔
      template.jokerCount ≠ slots.length) ∧
    (template.jokerCount ≠ slots.length → records = [⟨.debug, "patex::driver",
      "extract " ++ Escaped.ofString template.text ++ ": " ++ report.outcome.name⟩]) ∧
    (template.jokerCount = slots.length → ∃ pieces literal rest remaining,
      Furthest template input (slots.map Slot.type) pieces literal rest ∧
        Accounts template input slots report pieces remaining) ∧
    (∀ outcome name, (outcome, name) ∈ [(Outcome.literalMismatch, "MismatchInputPattern"),
        (.unreadableValue, "ParsingFailed"), (.inputExhausted, "EmptyInputTail"),
        (.inputRemains, "NotEmptyInputTail"), (.templateRemains, "NotEmptyPatternTail"),
        (.tooFewJokers, "PatternMissingJoker"), (.tooManyJokers, "PatternTooManyJoker")] →
      (report.outcome = outcome ↔ records.getLast? = some ⟨.debug, "patex::driver",
        "extract " ++ Escaped.ofString template.text ++ ": " ++ name⟩)) := by
  intro report records
  refine ⟨outcome_extract_counts_jokers_iff template input slots, fun hc => ?_, fun hc => ?_,
    fun outcome name hname => ?_⟩
  · exact congrArg (List.map Event.record) (events_extract_of_count_ne hc)
  · obtain ⟨pieces, literal, rest, h⟩ := exists_furthest template input (slots.map Slot.type)
    exact ⟨pieces, literal, rest, _, h, h.accounts hc⟩
  · have hfailure : outcome ≠ .ok ∧ outcome.name = name := by
      simp only [List.mem_cons, Prod.mk.injEq, List.not_mem_nil, or_false] at hname
      rcases hname with ⟨rfl, rfl⟩ | ⟨rfl, rfl⟩ | ⟨rfl, rfl⟩ | ⟨rfl, rfl⟩ | ⟨rfl, rfl⟩ |
        ⟨rfl, rfl⟩ | ⟨rfl, rfl⟩ <;> exact ⟨by decide, rfl⟩
    obtain ⟨ho, rfl⟩ := hfailure
    rw [outcome_extract_eq_iff ho, List.getLast?_map]
    constructor
    · intro hlast
      rw [hlast]
      rfl
    · intro hlast
      obtain ⟨e, he, hrecord⟩ := Option.map_eq_some_iff.1 hlast
      have hevent : e.record = Event.record (.failed template.text outcome) := hrecord
      rw [he, Event.eq_of_record_eq hevent]

end

end TypedExtraction.Extraction
