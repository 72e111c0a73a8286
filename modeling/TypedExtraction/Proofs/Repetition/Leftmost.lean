import Mathlib.Data.Nat.Find
import TypedExtraction.Proofs.Repetition.Positions

/-!
# The first match that scanning finds

`StandsAt r input o m` says that at place `o` of an input a match `m` is made
that is not empty, and `IsLeftmost` that no such match is made further to the
left. Scanning finds just that one, and finds it from every place in front of it
as well (`find?_of_isLeftmost`). If there is none, scanning is matching at the
front, and there only an empty match can be made (`matchAt?_of_not_standsAt`).
-/

namespace TypedExtraction.Repetition

open Text

/-- A match that is not empty is made at place `o` of an input. -/
structure StandsAt (r : Repetition) (input : Cursor) (o : Nat) (m : Match) : Prop where
  lt_length : o < input.length
  matchAt?_eq : r.matchAt? (input.drop o) = some m
  not_isEmpty : m.isEmpty = false

/-- The text of a match is the part of the input that its offset and its length tell. -/
structure IsPartOf (m : Match) (input : Cursor) : Prop where
  le_length : m.offset + m.length ≤ input.length
  toList_text : m.text.toList = (input.drop m.offset).take m.length

/-- The match at place `o` is the first one that is not empty. -/
structure IsLeftmost (r : Repetition) (input : Cursor) (o : Nat) (m : Match) : Prop where
  standsAt : r.StandsAt input o m
  le : ∀ o' m', r.StandsAt input o' m' → o ≤ o'

section
variable {r : Repetition} {input rest : Cursor} {o j : Nat} {m : Match} {c : Char}

theorem standsAt_drop_iff : r.StandsAt (input.drop j) o m ↔ r.StandsAt input (j + o) m := by
  constructor
  · rintro ⟨hlt, hm, he⟩
    rw [List.drop_drop] at hm
    rw [List.length_drop] at hlt
    exact ⟨by omega, hm, he⟩
  · rintro ⟨hlt, hm, he⟩
    refine ⟨?_, ?_, he⟩
    · rw [List.length_drop]
      omega
    · rw [List.drop_drop]
      exact hm

theorem exists_isLeftmost (h : r.StandsAt input o m) : ∃ o m, r.IsLeftmost input o m := by
  classical
  have hex : ∃ o m, r.StandsAt input o m := ⟨o, m, h⟩
  obtain ⟨m, hm⟩ := Nat.find_spec hex
  exact ⟨Nat.find hex, m, hm, fun o' m' h' => Nat.find_min' hex ⟨m', h'⟩⟩

theorem StandsAt.drop (h : r.StandsAt input o m) (hj : j ≤ o) :
    r.StandsAt (input.drop j) (o - j) m := by
  rw [standsAt_drop_iff, Nat.add_sub_cancel' hj]
  exact h

/-- From a place in front of it, the first match is the first match still. -/
theorem IsLeftmost.drop (h : r.IsLeftmost input o m) (hj : j ≤ o) :
    r.IsLeftmost (input.drop j) (o - j) m where
  standsAt := h.standsAt.drop hj
  le o' m' h' := by
    have := h.le _ _ (standsAt_drop_iff.1 h')
    omega

/-! ## Scanning -/

theorem findFrom?_of_standsAt (h : r.StandsAt (c :: rest) 0 m) (offset : Nat) :
    r.findFrom? offset (c :: rest) = some { m with offset := offset } := by
  have hm := h.matchAt?_eq
  rw [List.drop_zero] at hm
  simp [findFrom?, hm, h.not_isEmpty]

theorem findFrom?_of_not_standsAt (h : ∀ m, ¬ r.StandsAt (c :: rest) 0 m) (offset : Nat) :
    r.findFrom? offset (c :: rest) = r.findFrom? (offset + 1) rest := by
  rw [findFrom?]
  split
  · rename_i m hm
    rw [if_pos]
    by_contra he
    exact h m ⟨Nat.succ_pos _, hm, Bool.eq_false_iff.2 he⟩
  · rfl

theorem findFrom?_of_isLeftmost (h : r.IsLeftmost input o m) (offset : Nat) :
    r.findFrom? offset input = some { m with offset := offset + o } := by
  induction input generalizing o offset with
  | nil => exact absurd h.standsAt.lt_length (Nat.not_lt_zero o)
  | cons c rest ih =>
    cases o with
    | zero => exact findFrom?_of_standsAt h.standsAt offset
    | succ o =>
      have hno : ∀ m', ¬ r.StandsAt (c :: rest) 0 m' := fun m' h' => by
        have := h.le 0 m' h'
        omega
      have hrest : r.IsLeftmost rest o m := h.drop (Nat.succ_pos o)
      rw [findFrom?_of_not_standsAt hno, ih hrest, Nat.add_right_comm, Nat.add_assoc]

theorem findFrom?_eq_none (h : ∀ o m, ¬ r.StandsAt input o m) (offset : Nat) :
    r.findFrom? offset input = none := by
  induction input generalizing offset with
  | nil => rfl
  | cons c rest ih =>
    have hrest : ∀ o m, ¬ r.StandsAt ((c :: rest).drop 1) o m := by
      intro o m
      rw [standsAt_drop_iff]
      exact h (1 + o) m
    rw [findFrom?_of_not_standsAt (h 0)]
    exact ih hrest (offset + 1)

/-- **Scanning finds the first match that is not empty,** from each place up to it. -/
theorem find?_of_isLeftmost (h : r.IsLeftmost input o m) (hj : j ≤ o) :
    r.find? (input.drop j) = some { m with offset := o - j } := by
  rw [find?, findFrom?_of_isLeftmost (h.drop hj), Nat.zero_add]
  rfl

theorem find?_of_not_standsAt (h : ∀ o m, ¬ r.StandsAt input o m) :
    r.find? input = r.matchAt? input := by
  rw [find?, findFrom?_eq_none h]
  rfl

theorem findFrom?_congr {r' : Repetition}
    (h : ∀ n, r'.matchAt? (input.drop n) = r.matchAt? (input.drop n)) (offset : Nat) :
    r'.findFrom? offset input = r.findFrom? offset input := by
  induction input generalizing offset with
  | nil => rfl
  | cons c rest ih =>
    have hfront : r'.matchAt? (c :: rest) = r.matchAt? (c :: rest) := h 0
    have hrest := ih fun n => h (n + 1)
    simp only [findFrom?, hfront, hrest]

theorem matchIn_congr {r' : Repetition}
    (h : ∀ n, r'.matchAt? (input.drop n) = r.matchAt? (input.drop n)) (mode : Mode) :
    r'.matchIn mode input = r.matchIn mode input := by
  have hfront : r'.matchAt? input = r.matchAt? input := h 0
  cases mode with
  | anchored => simp only [matchIn, matchIn?, hfront]
  | scanning => simp only [matchIn, matchIn?, find?, hfront, findFrom?_congr h]

/-! ## Where nothing is found -/

theorem exists_positions_of_matchAt? (h : r.matchAt? input = some m) :
    ∃ ps stop, Positions r.members r.max input 0 ps stop ∧
      ¬ stop.repetitions ps.length r.min < r.min ∧
      m = ⟨0, String.ofList (input.take (ps.getLastD 0)), ps.getLastD 0,
        stop.repetitions ps.length r.min⟩ := by
  obtain ⟨ps, stop, hps⟩ := exists_positions r.members r.max input 0
  rw [hps.matchAt?_eq] at h
  split at h
  · cases h
  · rename_i hge
    exact ⟨ps, stop, hps, hge, (Option.some.inj h).symm⟩

theorem front_of_matchAt? (h : r.matchAt? input = some m) :
    m.offset = 0 ∧ m.length ≤ input.length ∧ m.text.toList = input.take m.length := by
  obtain ⟨ps, stop, hps, -, rfl⟩ := exists_positions_of_matchAt? h
  exact ⟨rfl, hps.getLastD_le (Nat.zero_le _), String.toList_ofList⟩

theorem isEmpty_of_not_standsAt (h : ∀ m, ¬ r.StandsAt input o m)
    (hm : r.matchAt? (input.drop o) = some m) : m.isEmpty = true := by
  by_contra he
  have hlen : m.length ≠ 0 := by simpa [Match.isEmpty] using he
  have hle := (front_of_matchAt? hm).2.1
  rw [List.length_drop] at hle
  exact h m ⟨by omega, hm, Bool.eq_false_iff.2 he⟩

theorem exists_of_matchIn? {mode : Mode} (h : r.matchIn? mode input = some m) :
    ∃ m', r.matchAt? (input.drop m.offset) = some m' ∧ m.offset ≤ input.length ∧
      m = { m' with offset := m.offset } := by
  have hfront : ∀ {m}, r.matchAt? input = some m →
      ∃ m', r.matchAt? (input.drop m.offset) = some m' ∧ m.offset ≤ input.length ∧
        m = { m' with offset := m.offset } := by
    intro m hm
    have ho := (front_of_matchAt? hm).1
    rw [ho]
    exact ⟨m, hm, Nat.zero_le _, by rw [← ho]⟩
  cases mode with
  | anchored => exact hfront h
  | scanning =>
    by_cases hex : ∃ o m, r.StandsAt input o m
    · obtain ⟨o, m', hm'⟩ := hex
      obtain ⟨o, m', hleft⟩ := exists_isLeftmost hm'
      have hfind := find?_of_isLeftmost hleft (Nat.zero_le o)
      rw [List.drop_zero, Nat.sub_zero] at hfind
      obtain rfl := Option.some.inj (h.symm.trans hfind)
      exact ⟨m', hleft.standsAt.matchAt?_eq, Nat.le_of_lt hleft.standsAt.lt_length, rfl⟩
    · have hno : ∀ o m, ¬ r.StandsAt input o m := fun o m hm => hex ⟨o, m, hm⟩
      exact hfront ((find?_of_not_standsAt hno).symm.trans h)

theorem isPartOf_of_matchIn? {mode : Mode} (h : r.matchIn? mode input = some m) :
    IsPartOf m input := by
  obtain ⟨m', hm', hoffset, hm⟩ := exists_of_matchIn? h
  obtain ⟨-, hlen, htext⟩ := front_of_matchAt? hm'
  rw [List.length_drop] at hlen
  rw [hm]
  refine ⟨?_, htext⟩
  dsimp only
  omega

theorem repetitions_of_matchIn? {mode : Mode} (h : r.matchIn? mode input = some m) :
    r.min ≤ m.repetitions ∧ m.repetitions ≤ r.max := by
  obtain ⟨m', hm', -, hm⟩ := exists_of_matchIn? h
  obtain ⟨ps, stop, hps, hge, rfl⟩ := exists_positions_of_matchAt? hm'
  rw [hm]
  exact ⟨Nat.not_lt.1 hge, hps.repetitions_le⟩

/-- Where no match but an empty one can be made, the front is where it is made, provided that
nothing has to be repeated or the empty literal can be. -/
theorem matchAt?_of_not_standsAt (h : ∀ m, ¬ r.StandsAt input 0 m) :
    (∀ m, r.matchAt? input = some m → m = ⟨0, "", 0, m.repetitions⟩) ∧
      ((r.matchAt? input).isSome = true ↔
        r.min = 0 ∨ Member.IsFirst r.members input (.literal "") []) := by
  have hempty : ∀ m, r.matchAt? input = some m → m.length = 0 := by
    intro m hm
    simpa [Match.isEmpty] using isEmpty_of_not_standsAt h hm
  refine ⟨fun m hm => ?_, ?_, ?_⟩
  · obtain ⟨ho, -, ht⟩ := front_of_matchAt? hm
    have hl := hempty m hm
    obtain ⟨offset, text, length, repetitions⟩ := m
    obtain rfl : offset = 0 := ho
    obtain rfl : length = 0 := hl
    obtain rfl : text = "" := String.toList_eq_nil_iff.1 ht
    rfl
  · intro hsome
    obtain ⟨m, hm⟩ := Option.isSome_iff_exists.1 hsome
    obtain ⟨ps, stop, hps, -, rfl⟩ := exists_positions_of_matchAt? hm
    obtain rfl := hps.eq_nil_of_getLastD_eq (hempty _ hm)
    rcases hps.isSome_matchAt?_iff.1 hsome with rfl | hmin
    · exact .inr (positions_nil_iff.1 hps).2
    · exact .inl (Nat.le_zero.1 hmin)
  · intro hfront
    obtain ⟨ps, stop, hps⟩ := exists_positions r.members r.max input 0
    by_cases hmin : r.min = 0
    · exact hps.isSome_matchAt?_iff.2 (.inr (by omega))
    · -- something has to be repeated, so the maximum does not stop before the empty literal does
      have hmax : 0 < r.max := by
        have := r.min_le_max
        omega
      have hzero : Positions r.members r.max input 0 [] .emptyMember :=
        positions_nil_iff.2 ⟨hmax, hfront.resolve_left hmin⟩
      exact hzero.isSome_matchAt?_iff.2 (.inl rfl)

/-! ## Failures -/

theorem matchIn_eq_ok_iff {mode : Mode} :
    r.matchIn mode input = .ok m ↔ r.matchIn? mode input = some m := by
  unfold matchIn
  cases r.matchIn? mode input <;> simp

theorem eq_noMatch_of_matchIn {mode : Mode} {f : Failure} (h : r.matchIn mode input = .error f) :
    f = .noMatch := by
  unfold matchIn at h
  cases hm : r.matchIn? mode input with
  | none =>
    rw [hm] at h
    cases h
    rfl
  | some m =>
    rw [hm] at h
    cases h

theorem parse_ne_noMatch (expression : Cursor) : parse expression ≠ .error .noMatch := by
  unfold parse parseForms
  split
  · exact fun h => nomatch h
  · unfold ofBounds
    split
    · exact fun h => nomatch h
    · exact fun h => nomatch h

theorem search_eq_error_iff {mode : Mode} {expression : Cursor} {f : Failure} (hf : f ≠ .noMatch) :
    search mode expression input = .error f ↔ parse expression = .error f := by
  unfold search
  cases parse expression with
  | error e =>
    constructor <;>
      · intro h
        cases h
        rfl
  | ok r => exact iff_of_false (fun h => hf (eq_noMatch_of_matchIn h)) (fun h => nomatch h)

end

/-- **Scanning finds the leftmost match.** Where a match that is not empty can be made at some
place, there is a first such place, and scanning finds the match there, from the front and from each
place up to it. Where none can be made, scanning is matching at the front, which fails or matches
nothing: it matches if nothing has to be repeated or the empty literal comes first. What is wrong
with an expression never comes out of matching, and is the same for every input. -/
theorem find_leftmost (r : Repetition) (input : Cursor) :
    (∀ o m, r.StandsAt input o m → ∃ o m, r.IsLeftmost input o m) ∧
    (∀ o m, r.IsLeftmost input o m →
      (∀ j ≤ o, r.matchIn .scanning (input.drop j) = .ok { m with offset := o - j }) ∧
      r.matchIn .anchored (input.drop o) = .ok m ∧
      m.text.toList = (input.drop o).take m.length ∧ m.text.toList.length = m.length) ∧
    ((∀ o m, ¬ r.StandsAt input o m) →
      r.matchIn .scanning input = r.matchIn .anchored input ∧
      (r.matchIn .anchored input = .error .noMatch ∨
        ∃ count, r.matchIn .anchored input = .ok ⟨0, "", 0, count⟩) ∧
      ((∃ m, r.matchIn .anchored input = .ok m) ↔
        r.min = 0 ∨ Member.IsFirst r.members input (.literal "") [])) ∧
    (∀ mode f, r.matchIn mode input = .error f → f = .noMatch) ∧
    (∀ mode expression f, f ≠ .noMatch →
      (search mode expression input = .error f ↔ parse expression = .error f)) := by
  refine ⟨fun o m h => exists_isLeftmost h, fun o m h => ?_, fun h => ?_,
    fun mode f => eq_noMatch_of_matchIn, fun mode expression f => search_eq_error_iff⟩
  · obtain ⟨-, hlen, htext⟩ := front_of_matchAt? h.standsAt.matchAt?_eq
    refine ⟨fun j hj => matchIn_eq_ok_iff.2 (find?_of_isLeftmost h hj),
      matchIn_eq_ok_iff.2 h.standsAt.matchAt?_eq, htext, ?_⟩
    rw [htext, List.length_take_of_le hlen]
  · obtain ⟨hempty, hsome⟩ := matchAt?_of_not_standsAt (h 0)
    refine ⟨?_, ?_, ?_⟩
    · rw [matchIn, matchIn, matchIn?, matchIn?, find?_of_not_standsAt h]
    · cases hm : r.matchAt? input with
      | none => exact .inl (by rw [matchIn, matchIn?, hm])
      | some m =>
        have hm' : r.matchAt? input = some ⟨0, "", 0, m.repetitions⟩ := by rw [hm, ← hempty m hm]
        exact .inr ⟨m.repetitions, matchIn_eq_ok_iff.2 hm'⟩
    · rw [← hsome, Option.isSome_iff_exists]
      exact exists_congr fun m => matchIn_eq_ok_iff

end TypedExtraction.Repetition
