import TypedExtraction.Proofs.Repetition.Expression
import TypedExtraction.Proofs.Repetition.Leftmost
import TypedExtraction.Repetition.Trace

/-!
# What is told of a search is what it does

Parsing tells the forms up to the one that reads the expression, and then what
that one has read (`parseRecords_written`). Matching tells the numbers of the
match (`matchAtRecords_of_matchAt?`). Scanning tells the places up to the first
match that is not empty, and then where this is (`findRecords_of_isLeftmost`). So
a place is told just where scanning finds such a match, and it is the place of
the match (`filter_findRecords`).
-/

namespace TypedExtraction.Repetition

open Text Extraction

/-- What is told of an attempt to read an expression of a form. -/
def Form.records (input : Cursor) (f : Form) : List Record :=
  (f.report input).events.map Event.record

/-- The record of an answer of scanning, if it is a match that is not empty. -/
def answerRecords (r : Repetition) : Option Match → List Record
  | some m => if m.isEmpty then [] else [r.foundRecord m.offset]
  | none => []

/-! ## Parsing -/

section
variable {input : Cursor} {forms before after : List Form} {f : Form}

theorem readFormsRecords_of_none (h : ∀ f ∈ forms, f.read? input = none) :
    readFormsRecords forms input = forms.flatMap (Form.records input) := by
  induction forms with
  | nil => rfl
  | cons f forms ih =>
    obtain ⟨hf, hforms⟩ := List.forall_mem_cons.1 h
    rw [readFormsRecords, hf, ih hforms, List.flatMap_cons]
    rfl

theorem readFormsRecords_of_read? (hbefore : ∀ g ∈ before, g.read? input = none)
    (hf : (f.read? input).isSome) :
    readFormsRecords (before ++ f :: after) input =
      (before ++ [f]).flatMap (Form.records input) := by
  induction before with
  | nil =>
    rw [List.nil_append, readFormsRecords, if_pos hf, List.nil_append, List.flatMap_singleton,
      List.append_nil]
    rfl
  | cons g before ih =>
    obtain ⟨hg, hbefore⟩ := List.forall_mem_cons.1 hbefore
    rw [List.cons_append, readFormsRecords, hg, ih hbefore, List.cons_append, List.flatMap_cons]
    rfl

/-- **The forms up to the right one are told, and then the members and bounds.** -/
theorem parseRecords_written {e : Expression} (h : e.WellFormed) (hf : e.HasForm f)
    (hall : Form.all = before ++ f :: after) (hnotin : f ∉ before) :
    parseRecords e.written = (before ++ [f]).flatMap (Form.records e.written) ++
      [boundsRecord e.members e.min e.max] := by
  have hread := Expression.read?_written h hf
  have hbefore : ∀ g ∈ before, g.read? e.written = none := by
    intro g hg
    cases hr : g.read? e.written with
    | none => rfl
    | some x => exact absurd (Form.eq_of_read? hr hread ▸ hg) hnotin
  have hforms : readForms? Form.all e.written = some (e.members, e.min, e.max) :=
    readForms?_eq_some_iff_exists.2 ⟨f, f.mem_all, hread⟩
  rw [parseRecords, hforms, hall, readFormsRecords_of_read? hbefore (by rw [hread]; rfl)]

/-- Of an expression that is of no form nothing is told but the attempts to read it. -/
theorem parseRecords_of_malformed (h : parse input = .error .malformed) :
    parseRecords input = Form.all.flatMap (Form.records input) := by
  have hforms : readForms? Form.all input = none := by
    cases hr : readForms? Form.all input with
    | none => rfl
    | some x =>
      rw [parse, parseForms, hr] at h
      dsimp only [ofBounds] at h
      split at h <;> cases h
  have hnone : ∀ f ∈ Form.all, f.read? input = none := List.findSome?_eq_none_iff.1 hforms
  rw [parseRecords, hforms, readFormsRecords_of_none hnone, List.append_nil]

end

/-! ## Matching -/

section
variable {r : Repetition} {input rest : Cursor} {o : Nat} {m : Match} {c : Char}

/-- **Matching tells the numbers of the match,** unless only the empty match is allowed. -/
theorem matchAtRecords_of_matchAt? (h : r.matchAt? input = some m) (hmax : r.max ≠ 0) :
    r.matchAtRecords input = [⟨.trace, "patex::regex::matcher", String.ofList r.written ++ ": " ++
      toString m.repetitions ++ " repetition(s), " ++ toString m.length ++ " char(s)"⟩] := by
  have hno : ¬ (r.min = 0 ∧ r.max = 0) := fun h0 => hmax h0.2
  rw [matchAt?, if_neg hno] at h
  dsimp only at h
  split at h
  · cases h
  · cases h
    rw [matchAtRecords, if_neg hno]

theorem filter_matchAtRecords (r : Repetition) (input : Cursor) :
    (r.matchAtRecords input).filter (·.level = .debug) = [] := by
  unfold matchAtRecords
  split <;> rfl

theorem filter_places (r : Repetition) (input : Cursor) (places : List Nat) :
    (places.flatMap fun k => r.matchAtRecords (input.drop k)).filter (·.level = .debug) = [] := by
  simp [List.filter_flatMap, filter_matchAtRecords]

/-! ## Scanning -/

theorem findFromRecords_of_standsAt (h : r.StandsAt (c :: rest) 0 m) (offset : Nat) :
    r.findFromRecords offset (c :: rest) =
      r.matchAtRecords (c :: rest) ++ [r.foundRecord offset] := by
  have hm := h.matchAt?_eq
  rw [List.drop_zero] at hm
  simp [findFromRecords, hm, h.not_isEmpty]

theorem findFromRecords_of_not_standsAt (h : ∀ m, ¬ r.StandsAt (c :: rest) 0 m) (offset : Nat) :
    r.findFromRecords offset (c :: rest) =
      r.matchAtRecords (c :: rest) ++ r.findFromRecords (offset + 1) rest := by
  rw [findFromRecords]
  split
  · rename_i m hm
    have hempty : m.isEmpty = true := isEmpty_of_not_standsAt (o := 0) h hm
    rw [if_pos hempty]
  · rfl

theorem findFromRecords_of_isLeftmost (h : r.IsLeftmost input o m) (offset : Nat) :
    r.findFromRecords offset input =
      (List.range (o + 1)).flatMap (fun k => r.matchAtRecords (input.drop k)) ++
        [r.foundRecord (offset + o)] := by
  induction input generalizing o offset with
  | nil => exact absurd h.standsAt.lt_length (Nat.not_lt_zero o)
  | cons c rest ih =>
    cases o with
    | zero =>
      rw [findFromRecords_of_standsAt h.standsAt]
      simp
    | succ o =>
      have hno : ∀ m', ¬ r.StandsAt (c :: rest) 0 m' := fun m' h' => by
        have := h.le 0 m' h'
        omega
      have hrest : r.IsLeftmost rest o m := h.drop (Nat.succ_pos o)
      rw [findFromRecords_of_not_standsAt hno, ih hrest, List.range_succ_eq_map (n := o + 1),
        List.flatMap_cons, List.flatMap_map, Nat.add_right_comm, Nat.add_assoc, List.append_assoc]
      rfl

theorem findFromRecords_eq (h : ∀ o m, ¬ r.StandsAt input o m) (offset : Nat) :
    r.findFromRecords offset input =
      (List.range input.length).flatMap fun k => r.matchAtRecords (input.drop k) := by
  induction input generalizing offset with
  | nil => rfl
  | cons c rest ih =>
    have hrest : ∀ o m, ¬ r.StandsAt ((c :: rest).drop 1) o m := by
      intro o m
      rw [standsAt_drop_iff]
      exact h (1 + o) m
    rw [findFromRecords_of_not_standsAt (h 0), ih hrest, List.length_cons, List.range_succ_eq_map,
      List.flatMap_cons, List.flatMap_map]
    rfl

/-- **The places up to the first match that is not empty are told, and then its own.** -/
theorem findRecords_of_isLeftmost (h : r.IsLeftmost input o m) :
    r.findRecords input =
      (List.range (o + 1)).flatMap (fun k => r.matchAtRecords (input.drop k)) ++
        [r.foundRecord o] := by
  rw [findRecords, findFromRecords_of_isLeftmost h, findFrom?_of_isLeftmost h, Nat.zero_add]
  exact List.append_nil _

/-- Where there is no such match, all places are told, and the front once more. -/
theorem findRecords_of_not_standsAt (h : ∀ o m, ¬ r.StandsAt input o m) :
    r.findRecords input =
      (List.range input.length).flatMap (fun k => r.matchAtRecords (input.drop k)) ++
        r.matchAtRecords input := by
  rw [findRecords, findFromRecords_eq h, findFrom?_eq_none h]
  rfl

/-- **A place is told just where scanning finds a match that is not empty.** -/
theorem filter_findRecords (r : Repetition) (input : Cursor) :
    (r.findRecords input).filter (·.level = .debug) = r.answerRecords (r.find? input) := by
  by_cases hex : ∃ o m, r.StandsAt input o m
  · obtain ⟨o, m, h⟩ := hex
    obtain ⟨o, m, h⟩ := exists_isLeftmost h
    have hfind := find?_of_isLeftmost h (Nat.zero_le o)
    rw [List.drop_zero, Nat.sub_zero] at hfind
    have hfound : ({ m with offset := o } : Match).isEmpty = false := h.standsAt.not_isEmpty
    rw [findRecords_of_isLeftmost h, hfind, List.filter_append, filter_places, answerRecords,
      hfound]
    rfl
  · have hno : ∀ o m, ¬ r.StandsAt input o m := fun o m h => hex ⟨o, m, h⟩
    rw [findRecords_of_not_standsAt hno, find?_of_not_standsAt hno, List.filter_append,
      filter_places, filter_matchAtRecords]
    cases hm : r.matchAt? input with
    | none => rfl
    | some m => rw [answerRecords, if_pos (isEmpty_of_not_standsAt (hno 0) hm), List.append_nil]

theorem filter_findAllRecords (r : Repetition) (limit : Nat) (input : Cursor) :
    (r.findAllRecords limit input).filter (·.level = .debug) =
      (r.findAll limit input).flatMap r.answerRecords := by
  induction limit generalizing input with
  | zero => rfl
  | succ limit ih =>
    rw [findAllRecords, findAll, List.filter_append, filter_findRecords]
    cases hm : r.find? input with
    | none => rfl
    | some m =>
      dsimp only
      split
      · rw [List.filter_nil, List.flatMap_singleton]
        exact List.append_nil _
      · rw [ih, List.flatMap_cons]

end

end TypedExtraction.Repetition
