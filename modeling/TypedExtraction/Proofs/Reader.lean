import TypedExtraction.Proofs.Text.Decimal
import TypedExtraction.Proofs.Text.Quoted
import TypedExtraction.Slot

/-!
# Laws of readers

`Reader.Lawful` is what every reader promises: the probe is the length of the
value, the value does not depend on what lies behind it, and only a reader that
takes the rest has values without characters. Most readers look for one of some
words (`Reader.lawful_of_words`) or for a run of characters
(`Reader.lawful_of_run`). Every type of slot has a lawful reader
(`ValueType.lawful_reader`), so a slot may be filled from the probed characters
alone (`Slot.fill_eq`, `ValueType.readings_agree`).
-/

namespace TypedExtraction

open Text

/-- What a reader promises. -/
structure Reader.Lawful {α : Type} (r : Reader α) : Prop where
  probe_eq : ∀ input, r.probe input = Reading.lengthOf (r.read? input)
  probe_le : ∀ input, r.probe input ≤ input.length
  read?_take : ∀ {input n}, r.probe input ≤ n → r.read? (input.take n) = r.read? input
  length_pos : r.takesRest = false → ∀ {input v}, r.read? input = some v → 0 < v.length
  isSome_read? : r.takesRest = true → ∀ input, (r.read? input).isSome

namespace Reader

section
variable {α β : Type} {r : Reader α}

theorem read?_map_eq_some_iff {f : α → β} {input : Cursor} {v : Reading β} :
    (r.map f).read? input = some v ↔ ∃ w, r.read? input = some w ∧ w.map f = v :=
  Option.map_eq_some_iff

namespace Lawful

theorem bounded?_eq (h : r.Lawful) (input : Cursor) : r.bounded? input = r.read? input :=
  h.read?_take (Nat.le_refl _)

theorem length_le (h : r.Lawful) {input : Cursor} {v : Reading α} (hv : r.read? input = some v) :
    v.length ≤ input.length := by
  have := h.probe_le input
  rwa [h.probe_eq, hv] at this

theorem takesRest_eq_false (h : r.Lawful) {input : Cursor} (hr : r.read? input = none) :
    r.takesRest = false := by
  cases ht : r.takesRest with
  | false => rfl
  | true =>
    have := h.isSome_read? ht input
    rw [hr] at this
    cases this

theorem lengthOf_eq_zero_iff (h : r.Lawful) (ht : r.takesRest = false) (input : Cursor) :
    Reading.lengthOf (r.read? input) = 0 ↔ r.read? input = none := by
  cases hv : r.read? input with
  | none => simp
  | some v =>
    have hpos := h.length_pos ht hv
    simp only [Reading.lengthOf_some, reduceCtorEq, iff_false]
    omega

theorem lengthOf_eq {s : Reader β} (hr : r.Lawful) (hs : s.Lawful) (hprobe : r.probe = s.probe)
    (input : Cursor) : Reading.lengthOf (r.read? input) = Reading.lengthOf (s.read? input) := by
  rw [← hr.probe_eq, ← hs.probe_eq, hprobe]

theorem map (h : r.Lawful) (f : α → β) : (r.map f).Lawful where
  probe_eq input := (h.probe_eq input).trans (Reading.lengthOf_map f _).symm
  probe_le := h.probe_le
  read?_take hn := congrArg (Option.map (Reading.map f)) (h.read?_take hn)
  length_pos ht input v hv := by
    obtain ⟨w, hw, rfl⟩ := read?_map_eq_some_iff.1 hv
    exact h.length_pos ht hw
  isSome_read? ht input := by
    rw [Reader.map, Option.isSome_map]
    exact h.isSome_read? ht input

end Lawful

/-- A reader is lawful if its values are those of some words, wherever one is at the front. -/
theorem lawful_of_words (words : List Char → α → Prop) (hne : ∀ w a, words w a → w ≠ [])
    (htail : r.takesRest = false)
    (hprobe : ∀ input, r.probe input = Reading.lengthOf (r.read? input))
    (hread : ∀ input v, r.read? input = some v ↔
      ∃ w rest a, input = w ++ rest ∧ words w a ∧ v = ⟨a, w.length⟩) : r.Lawful where
  probe_eq := hprobe
  probe_le input := by
    rw [hprobe]
    cases hv : r.read? input with
    | none => exact Nat.zero_le _
    | some v =>
      obtain ⟨w, rest, a, rfl, -, rfl⟩ := (hread _ _).1 hv
      simp
  read?_take := by
    intro input n hn
    rw [hprobe] at hn
    cases hv : r.read? input with
    | none =>
      -- a word at the front of the beginning is at the front of the whole
      refine Option.eq_none_iff_forall_ne_some.2 fun v ht => ?_
      obtain ⟨w, rest, a, hw, hwords, rfl⟩ := (hread _ _).1 ht
      have hs : r.read? input = some ⟨a, w.length⟩ := by
        refine (hread _ _).2 ⟨w, rest ++ input.drop n, a, ?_, hwords, rfl⟩
        rw [← List.append_assoc, ← hw, List.take_append_drop]
      rw [hv] at hs
      cases hs
    | some v =>
      obtain ⟨w, rest, a, rfl, hwords, rfl⟩ := (hread _ _).1 hv
      rw [hv, Reading.lengthOf_some] at hn
      refine (hread _ _).2 ⟨w, rest.take (n - w.length), a, ?_, hwords, rfl⟩
      rw [List.take_append, List.take_of_length_le hn]
  length_pos _ input v hv := by
    obtain ⟨w, rest, a, -, hwords, rfl⟩ := (hread _ _).1 hv
    exact List.length_pos_iff.2 (hne _ _ hwords)
  isSome_read? ht := by
    rw [htail] at ht
    cases ht

/-- A reader is lawful if it takes a run of characters whose length does not depend on what lies
behind it, and builds its value from that run. -/
theorem lawful_of_run {run : Cursor → Nat} (value : List Char → α)
    (htail : r.takesRest = false) (hprobe : r.probe = run)
    (hread : ∀ input, r.read? input =
      if run input = 0 then none else some ⟨value (input.take (run input)), run input⟩)
    (hle : ∀ input, run input ≤ input.length)
    (htake : ∀ {input n}, run input ≤ n → run (input.take n) = run input) : r.Lawful where
  probe_eq input := by
    rw [hread, hprobe]
    split
    · assumption
    · rfl
  probe_le input := by
    rw [hprobe]
    exact hle input
  read?_take := by
    intro input n hn
    rw [hprobe] at hn
    rw [hread, hread, htake hn, List.take_take, Nat.min_eq_left hn]
  length_pos _ input v hv := by
    rw [hread] at hv
    split at hv
    · cases hv
    · cases hv
      exact Nat.pos_of_ne_zero ‹_›
  isSome_read? ht := by
    rw [htail] at ht
    cases ht

end

/-! ## Plain values -/

theorem lawful_char : Reader.char.Lawful := by
  refine lawful_of_words (fun w c => w = [c]) (fun w c h => ?_) rfl ?_ ?_
  · rw [h]
    exact List.cons_ne_nil c []
  · intro input
    cases input <;> rfl
  · intro input v
    cases input with
    | nil => simp [Reader.char, Cursor.peek?]
    | cons c input =>
      constructor
      · intro h
        cases h
        exact ⟨[c], input, c, rfl, rfl, rfl⟩
      · rintro ⟨_, rest, a, h, rfl, rfl⟩
        obtain ⟨rfl, rfl⟩ := List.cons.inj h
        rfl

theorem lawful_quoted {delimiter : Char} (hd : delimiter ≠ '\\') :
    (Reader.quoted delimiter).Lawful := by
  refine lawful_of_words (fun w text => ∃ es, Quoted.Valid delimiter es ∧
    w = Quoted.quote delimiter es ∧ text = String.ofList (es.map Quoted.Element.value)) ?_ rfl ?_ ?_
  · rintro w text ⟨es, -, rfl, -⟩
    exact List.cons_ne_nil _ _
  · intro input
    exact (Reading.lengthOf_map _ _).symm
  · intro input v
    constructor
    · intro h
      obtain ⟨r, hr, rfl⟩ := Option.map_eq_some_iff.1 h
      obtain ⟨es, rest, hes, rfl, rfl⟩ := Quoted.exists_quote_of_scan? hr
      exact ⟨_, rest, _, rfl, ⟨es, hes, rfl, rfl⟩, rfl⟩
    · rintro ⟨_, rest, _, rfl, ⟨es, hes, rfl, rfl⟩, rfl⟩
      exact Option.map_eq_some_iff.2 ⟨_, Quoted.scan?_quote hd hes rest, rfl⟩

theorem read?_unsigned (width : Nat) (input : Cursor) :
    (Reader.unsigned width).read? input =
      if Decimal.digitRun input = 0 then none
      else some ⟨Decimal.wrapped width (input.take (Decimal.digitRun input)),
        Decimal.digitRun input⟩ := by
  simp only [Reader.unsigned]
  split
  · rename_i h; rw [if_pos h]
  · rename_i h; rw [if_neg h]; rfl

theorem read?_signed (width : Nat) (input : Cursor) :
    (Reader.signed width).read? input =
      if Decimal.signedRun input = 0 then none
      else some ⟨Decimal.signedWrapped width (input.take (Decimal.signedRun input)),
        Decimal.signedRun input⟩ := by
  simp only [Reader.signed]
  split
  · rename_i h; rw [if_pos h]
  · rename_i h; rw [if_neg h]; rfl

theorem read?_unsigned_append {ds : List Char} (hd : Decimal.Digits ds) (hne : ds ≠ [])
    {rest : Cursor} (hrest : Decimal.NoDigitAhead rest) (width : Nat) :
    (Reader.unsigned width).read? (ds ++ rest) = some ⟨Decimal.wrapped width ds, ds.length⟩ := by
  rw [read?_unsigned, Decimal.digitRun_append hd hrest,
    if_neg (mt List.length_eq_zero_iff.1 hne), List.take_left]

theorem read?_signed_append {sign ds : List Char} (hs : Decimal.IsSign sign)
    (hd : Decimal.Digits ds) (hne : ds ≠ []) {rest : Cursor} (hrest : Decimal.NoDigitAhead rest)
    (width : Nat) :
    (Reader.signed width).read? (sign ++ ds ++ rest) =
      some ⟨Decimal.signedWrapped width (sign ++ ds), (sign ++ ds).length⟩ := by
  have hpos : sign.length + ds.length ≠ 0 := by
    have := List.length_pos_iff.2 hne
    omega
  have hrun := Decimal.signedRun_append hs hd hne hrest
  rw [← List.append_assoc] at hrun
  rw [read?_signed, hrun, if_neg hpos, ← List.length_append, List.take_left]

theorem lawful_unsigned (width : Nat) : (Reader.unsigned width).Lawful :=
  lawful_of_run _ rfl rfl (read?_unsigned width) Decimal.digitRun_le_length fun hn =>
    (Decimal.digitRun_take _ _).trans (Nat.min_eq_right hn)

theorem lawful_signed (width : Nat) : (Reader.signed width).Lawful :=
  lawful_of_run _ rfl rfl (read?_signed width) Decimal.signedRun_le_length Decimal.signedRun_take

theorem lawful_bool : Reader.bool.Lawful := by
  refine lawful_of_words (fun w b => w = boolWord b) ?_ rfl ?_ ?_
  · rintro w b rfl
    cases b <;> exact List.cons_ne_nil _ _
  · intro input
    simp only [Reader.bool]
    split
    · rfl
    · split <;> rfl
  · intro input v
    simp only [Reader.bool]
    constructor
    · intro h
      split at h
      · rename_i ht
        obtain ⟨rest, rfl⟩ := Cursor.startsWith_eq_true_iff.1 ht
        cases h
        exact ⟨_, rest, true, rfl, rfl, rfl⟩
      · split at h
        · rename_i hf
          obtain ⟨rest, rfl⟩ := Cursor.startsWith_eq_true_iff.1 hf
          cases h
          exact ⟨_, rest, false, rfl, rfl, rfl⟩
        · cases h
    · rintro ⟨_, rest, b, rfl, rfl, rfl⟩
      cases b <;> rfl

theorem lawful_rest : Reader.rest.Lawful where
  probe_eq _ := rfl
  probe_le _ := Nat.le_refl _
  read?_take hn := by rw [List.take_of_length_le hn]
  length_pos ht := nomatch ht
  isSome_read? _ _ := rfl

end Reader

/-! ## Class members -/

namespace Member

theorem read?_intervalReader_eq_some_iff {input : Cursor} {v : Reading (Char × Char)} :
    intervalReader.read? input = some v ↔
      ∃ first last rest, input = first :: '-' :: last :: rest ∧ v = ⟨(first, last), 3⟩ := by
  constructor
  · intro h
    simp only [intervalReader] at h
    split at h
    · cases h
      exact ⟨_, _, _, rfl, rfl⟩
    · cases h
  · rintro ⟨first, last, rest, rfl, rfl⟩
    rfl

theorem lawful_intervalReader : intervalReader.Lawful := by
  refine Reader.lawful_of_words (fun w v => w = [v.1, '-', v.2]) ?_ rfl ?_ ?_
  · rintro w v rfl
    exact List.cons_ne_nil _ _
  · intro input
    simp only [intervalReader]
    split <;> rfl
  · intro input v
    rw [read?_intervalReader_eq_some_iff]
    constructor
    · rintro ⟨first, last, rest, rfl, rfl⟩
      exact ⟨[first, '-', last], rest, (first, last), rfl, rfl, rfl⟩
    · rintro ⟨_, rest, ⟨first, last⟩, rfl, rfl, rfl⟩
      exact ⟨first, last, rest, rfl, rfl⟩

/-- Whether a literal stands at the front can be told from the member that is found. -/
theorem read?_take {input : Cursor} {n : Nat} (hn : Reading.lengthOf (read? input) ≤ n) :
    read? (input.take n) = read? input := by
  have hq : (Reader.quoted '\'').Lawful := Reader.lawful_quoted (by decide)
  unfold read? at hn ⊢
  cases hs : (Reader.quoted '\'').read? input with
  | some r =>
    rw [hs] at hn
    rw [hq.read?_take (by rw [hq.probe_eq, hs]; exact hn), hs]
  | none =>
    rw [hs] at hn
    rw [hq.read?_take (by rw [hq.probe_eq, hs]; exact Nat.zero_le n), hs]
    dsimp only at hn ⊢
    rw [Reading.lengthOf_map, ← lawful_intervalReader.probe_eq] at hn
    rw [lawful_intervalReader.read?_take hn]

theorem length_le_of_read? {input : Cursor} {r : Reading Member} (h : read? input = some r) :
    r.length ≤ input.length := by
  unfold read? at h
  split at h
  · rename_i s hs
    cases h
    exact (Reader.lawful_quoted (by decide)).length_le hs
  · obtain ⟨s, hs, rfl⟩ := Option.map_eq_some_iff.1 h
    exact lawful_intervalReader.length_le hs

/-! ## Class lists -/

theorem run_of_none {input : Cursor} (h : read? input = none) : run input = ⟨[], 0⟩ := by
  rw [run]
  split
  · rfl
  · rename_i r hr
    rw [h] at hr
    cases hr

theorem run_of_some {input : Cursor} {r : Reading Member} (h : read? input = some r) :
    run input = ⟨r.value :: (run (input.drop r.length)).value,
      r.length + (run (input.drop r.length)).length⟩ := by
  rw [run]
  split
  · rename_i hr
    rw [h] at hr
    cases hr
  · rename_i s hs
    rw [h] at hs
    cases hs
    rfl

theorem length_run_le (input : Cursor) : (run input).length ≤ input.length := by
  fun_induction run input with
  | case1 => exact Nat.zero_le _
  | case2 input r h more ih =>
    have hr := length_le_of_read? h
    have hm : more.length ≤ input.length - r.length := by rwa [Cursor.length_advance] at ih
    dsimp only
    omega

theorem run_take {input : Cursor} {n : Nat} (hn : (run input).length ≤ n) :
    run (input.take n) = run input := by
  cases h : read? input with
  | none =>
    rw [run_of_none h]
    refine run_of_none ?_
    rw [read?_take (by rw [h]; exact Nat.zero_le n), h]
  | some r =>
    have hpos := two_le_length_of_read? h
    have hle := length_le_of_read? h
    rw [run_of_some h] at hn ⊢
    dsimp only at hn
    have hr : read? (input.take n) = some r := by
      rw [read?_take (by rw [h, Reading.lengthOf_some]; omega), h]
    rw [run_of_some hr, List.drop_take, run_take (by omega)]
termination_by input.length
decreasing_by
  rw [List.length_drop]
  omega

theorem value_run_eq_nil_iff {input : Cursor} :
    (run input).value = [] ↔ (run input).length = 0 := by
  cases h : read? input with
  | none => simp [run_of_none h]
  | some r =>
    have := two_le_length_of_read? h
    simp only [run_of_some h, List.cons_ne_nil, false_iff]
    omega

theorem read?_listReader (input : Cursor) :
    listReader.read? input = if (run input).value = [] then none else some (run input) := by
  simp only [listReader]
  split
  · rename_i h
    rw [if_pos (by rw [h])]
  · rename_i h
    rw [if_neg]
    intro hv
    exact h (run input).length (by rw [← hv])

theorem lawful_listReader : listReader.Lawful where
  probe_eq input := by
    rw [read?_listReader]
    split
    · rename_i h
      exact value_run_eq_nil_iff.1 h
    · rfl
  probe_le := length_run_le
  read?_take hn := by rw [read?_listReader, read?_listReader, run_take hn]
  length_pos _ input v hv := by
    rw [read?_listReader] at hv
    split at hv
    · cases hv
    · rename_i h
      cases hv
      exact Nat.pos_of_ne_zero (mt value_run_eq_nil_iff.2 h)
  isSome_read? ht := nomatch ht

end Member

/-! ## Slots -/

theorem Kind.lawful_reader (kind : Kind) : kind.reader.Lawful := by
  cases kind with
  | char => exact Reader.lawful_char.map _
  | str => exact (Reader.lawful_quoted (by decide)).map _
  | unsigned => exact (Reader.lawful_unsigned 64).map _
  | signed => exact (Reader.lawful_signed 64).map _
  | bool => exact Reader.lawful_bool.map _
  | tail => exact Reader.lawful_rest.map _

theorem ValueType.lawful_reader (t : ValueType) : t.reader.Lawful := by
  cases t with
  | char => exact Reader.lawful_char
  | string => exact Reader.lawful_quoted (by decide)
  | unsigned width => exact Reader.lawful_unsigned width
  | signed width => exact Reader.lawful_signed width
  | bool => exact Reader.lawful_bool
  | tail => exact Reader.lawful_rest
  | literal => exact Reader.lawful_quoted (by decide)
  | interval => exact Member.lawful_intervalReader
  | classList => exact Member.lawful_listReader
  | dynamic kind => exact kind.lawful_reader

/-- **A slot holds what its reader finds in the whole input,** though it is filled from the probed
characters alone. -/
theorem Slot.fill_eq (s : Slot) (input : Cursor) :
    s.fill input = (⟨s.type, (s.type.reader.read? input).map Reading.value⟩,
      Reading.lengthOf (s.type.reader.read? input)) := by
  rw [Slot.fill, s.type.lawful_reader.bounded?_eq]

theorem Slot.fill_of_none {s : Slot} {input : Cursor} (h : s.type.reader.read? input = none) :
    s.fill input = (.empty s.type, 0) := by
  rw [Slot.fill_eq, h]
  rfl

theorem ValueType.takesRest_eq_false {t : ValueType} (h : t ≠ .tail) (hd : t ≠ .dynamic .tail) :
    t.reader.takesRest = false := by
  cases t with
  | tail => exact absurd rfl h
  | dynamic kind =>
    cases kind with
    | tail => exact absurd rfl hd
    | _ => rfl
  | _ => rfl

/-- **Probing, reading and reading from the beginning agree,** for every type and every input: the
probe is the number of characters that the value takes, and as soon as these can be seen the value
is the same, or its absence. Only a tail can be there and take nothing. So a slot, whatever it held,
holds and tells just what its reader finds in the whole input. -/
theorem ValueType.readings_agree (t : ValueType) (input : Cursor) :
    t.reader.probe input = Reading.lengthOf (t.reader.read? input) ∧
    t.reader.probe input ≤ input.length ∧
    (∀ n, t.reader.probe input ≤ n → t.reader.read? (input.limit n) = t.reader.read? input) ∧
    (t ≠ .tail → t ≠ .dynamic .tail →
      (Reading.lengthOf (t.reader.read? input) = 0 ↔ t.reader.read? input = none)) ∧
    ∀ content : Option t.Carrier,
      Slot.fill ⟨t, content⟩ input = (⟨t, (t.reader.read? input).map Reading.value⟩,
        Reading.lengthOf (t.reader.read? input)) ∧
      (t.reader.read? input = none → Slot.fill ⟨t, content⟩ input = (.empty t, 0)) := by
  have h := t.lawful_reader
  refine ⟨h.probe_eq input, h.probe_le input, fun n hn => h.read?_take hn, ?_, ?_⟩
  · intro ht hd
    exact h.lengthOf_eq_zero_iff (ValueType.takesRest_eq_false ht hd) input
  · intro content
    exact ⟨Slot.fill_eq ⟨t, content⟩ input, Slot.fill_of_none (s := ⟨t, content⟩)⟩

end TypedExtraction
