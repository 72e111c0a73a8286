import TypedExtraction.CommandLine.Run

/-!
# What a user is told of a failure

A message tells its failure (`Failure.eq_of_message_eq`), but for a read
failure, which is told in the words of the system (`ReadFailure.Says`). A report
that succeeds or tells a cause (`Report.Tells`) can be read back: it is the one
that belongs to a failure just where this is a cause (`Report.Tells.eq_iff`).
-/

namespace TypedExtraction.CommandLine

/-- The words of the system for a read failure. -/
def ReadFailure.Says (cause : ReadFailure) (text : String) : Prop :=
  (cause, text) ∈ [(.notFound, "No such file or directory (os error 2)"),
    (.notADirectory, "Not a directory (os error 20)"),
    (.isADirectory, "Is a directory (os error 21)"),
    (.nameTooLong, "File name too long (os error 36)"),
    (.notText, "stream did not contain valid UTF-8"), (.other text, text)]

theorem ReadFailure.says_iff {cause : ReadFailure} {text : String} :
    cause.Says text ↔ cause.message = text := by
  cases cause <;> simp [Says, message, eq_comm]

namespace Failure

/-! ## Messages -/

theorem intercalate_names : ", ".intercalate (Kind.names.map Prod.fst) =
    "bool, char, i64, int, rest, str, string, tail, u64, uint" := by
  decide +kernel

theorem message_unknownKind (name : String) : (unknownKind name).message =
    "Unknown value kind '" ++ (name ++ ("', expected one of: " ++
      ("bool, char, i64, int, rest, str, string, tail, u64, uint" ++ "."))) := by
  rw [← intercalate_names, ← String.append_assoc, ← String.append_assoc, ← String.append_assoc]
  rfl

theorem message_unreadable (source : Source) (cause : ReadFailure) :
    (unreadable source cause).message =
      "Failed to read " ++ (source.name ++ (": " ++ cause.message)) := by
  rw [← String.append_assoc, ← String.append_assoc]
  rfl

theorem message_extraction (outcome : Outcome) :
    (extraction outcome).message = outcome.message ++ "." := rfl

theorem message_search (f : Repetition.Failure) : (search f).message = f.message ++ "." := rfl

/-! ## How messages begin -/

/-- The beginning of a message, from which its cause can be told. -/
def opening (f : Failure) : List Char := f.message.toList.take 3

theorem take_append {s : String} (h : 3 ≤ s.toList.length) (t : String) :
    (s ++ t).toList.take 3 = s.toList.take 3 := by
  rw [String.toList_append, List.take_append_of_le_length h]

theorem opening_unknownKind (name : String) : (unknownKind name).opening = ['U', 'n', 'k'] := by
  rw [opening, message_unknownKind, take_append (by decide +kernel)]
  decide +kernel

theorem opening_unreadable (source : Source) (cause : ReadFailure) :
    (unreadable source cause).opening = ['F', 'a', 'i'] := by
  rw [opening, message_unreadable, take_append (by decide +kernel)]
  decide +kernel

theorem opening_extraction (outcome : Outcome) :
    (extraction outcome).opening ∉ [['U', 'n', 'k'], ['F', 'a', 'i']] := by
  cases outcome <;> decide +kernel

theorem opening_search (f : Repetition.Failure) :
    (search f).opening ∉ [['U', 'n', 'k'], ['F', 'a', 'i']] := by
  cases f <;> decide +kernel

theorem message_extraction_ne (outcome : Outcome) (f : Repetition.Failure) :
    (extraction outcome).message ≠ (search f).message := by
  rw [message_extraction, message_search, ne_eq, String.append_left_inj]
  cases outcome <;> cases f <;> decide +kernel

theorem message_ne_of_opening {f : Failure}
    (h : f.opening ∉ [['U', 'n', 'k'], ['F', 'a', 'i']]) :
    (∀ name, f.message ≠ (unknownKind name).message) ∧
      ∀ source cause, f.message ≠ (unreadable source cause).message := by
  have hne : ∀ {g : Failure}, g.opening ∈ [['U', 'n', 'k'], ['F', 'a', 'i']] →
      f.message ≠ g.message := by
    intro g hg heq
    have hopening : f.opening = g.opening := congrArg (fun m => m.toList.take 3) heq
    exact h (hopening ▸ hg)
  refine ⟨fun name => hne ?_, fun source cause => hne ?_⟩
  · rw [opening_unknownKind]
    exact List.mem_cons_self
  · rw [opening_unreadable]
    exact List.mem_cons_of_mem _ List.mem_cons_self

/-- **A message tells its failure.** -/
theorem eq_of_message_eq {f g : Failure} (hf : ∀ source cause, f ≠ .unreadable source cause)
    (h : f.message = g.message) : f = g := by
  cases f with
  | unknownKind name =>
    cases g with
    | unknownKind name' =>
      rw [message_unknownKind, message_unknownKind, String.append_right_inj,
        String.append_left_inj] at h
      rw [h]
    | unreadable source cause =>
      have hopening := congrArg (fun m => m.toList.take 3) h
      exact absurd ((opening_unknownKind name).symm.trans
        (hopening.trans (opening_unreadable source cause))) (by decide)
    | extraction outcome =>
      exact absurd h.symm ((message_ne_of_opening (opening_extraction outcome)).1 name)
    | search g => exact absurd h.symm ((message_ne_of_opening (opening_search g)).1 name)
  | unreadable source cause => exact absurd rfl (hf source cause)
  | extraction outcome =>
    obtain ⟨hname, hread⟩ := message_ne_of_opening (opening_extraction outcome)
    cases g with
    | unknownKind name => exact absurd h (hname name)
    | unreadable source cause => exact absurd h (hread source cause)
    | extraction outcome' =>
      rw [Outcome.eq_of_message_eq ((String.append_left_inj _).1 h)]
    | search g => exact absurd h (message_extraction_ne outcome g)
  | search f =>
    obtain ⟨hname, hread⟩ := message_ne_of_opening (opening_search f)
    cases g with
    | unknownKind name => exact absurd h (hname name)
    | unreadable source cause => exact absurd h (hread source cause)
    | extraction outcome => exact absurd h.symm (message_extraction_ne outcome f)
    | search g =>
      rw [Repetition.Failure.eq_of_message_eq ((String.append_left_inj _).1 h)]

end Failure

/-! ## Reports of failures -/

namespace Report

theorem ofResult_unknownKind (name : String) :
    ofResult [] (.error (.unknownKind name)) = ⟨1, "", "Unknown value kind '" ++ name ++
      "', expected one of: bool, char, i64, int, rest, str, string, tail, u64, uint.\n", []⟩ := by
  have hend : "', expected one of: bool, char, i64, int, rest, str, string, tail, u64, uint.\n" =
      "', expected one of: " ++ ("bool, char, i64, int, rest, str, string, tail, u64, uint" ++
        ("." ++ "\n")) := by
    decide +kernel
  rw [ofResult, Failure.message_unknownKind, hend]
  simp only [String.append_assoc]

theorem ofResult_unreadable (source : Source) (cause : ReadFailure) :
    ofResult [] (.error (.unreadable source cause)) =
      ⟨1, "", "Failed to read " ++ source.name ++ ": " ++ cause.message ++ "\n", []⟩ := rfl

theorem ofResult_extraction (outcome : Outcome) :
    ofResult [] (.error (.extraction outcome)) = ⟨1, "", outcome.message ++ ".\n", []⟩ := by
  rw [ofResult, Failure.message_extraction, String.append_assoc]
  rfl

theorem ofResult_search (f : Repetition.Failure) :
    ofResult [] (.error (.search f)) = ⟨1, "", f.message ++ ".\n", []⟩ := by
  rw [ofResult, Failure.message_search, String.append_assoc]
  rfl

structure Tells (report : Report) (Cause : Failure → Prop) : Prop where
  eq_of_cause : ∀ {f : Failure}, Cause f → report = .ofResult [] (.error f)
  succeeds_or_cause : report.exitCode = 0 ∨ ∃ f, Cause f

section
variable {report : Report} {Cause : Failure → Prop} {f : Failure}

theorem Tells.failed (h : report.Tells Cause) (hno : report.exitCode ≠ 0) :
    report.exitCode = 1 ∧ report.stdout = "" := by
  obtain ⟨f, hf⟩ := h.succeeds_or_cause.resolve_left hno
  rw [h.eq_of_cause hf]
  exact ⟨rfl, rfl⟩

theorem Tells.not_cause (h : report.Tells Cause) (hzero : report.exitCode = 0) : ¬ Cause f := by
  intro hf
  rw [h.eq_of_cause hf] at hzero
  cases hzero

theorem Tells.exists_of_eq (h : report.Tells Cause) (heq : report = .ofResult [] (.error f)) :
    ∃ g, Cause g ∧ f.message = g.message := by
  rcases h.succeeds_or_cause with hzero | ⟨g, hg⟩
  · rw [heq] at hzero
    cases hzero
  · have hstderr := congrArg Report.stderr (heq.symm.trans (h.eq_of_cause hg))
    exact ⟨g, hg, (String.append_left_inj _).1 hstderr⟩

/-- **What is told is a cause.** -/
theorem Tells.eq_iff (h : report.Tells Cause)
    (hf : ∀ source cause, f ≠ .unreadable source cause) :
    report = .ofResult [] (.error f) ↔ Cause f := by
  constructor
  · intro heq
    obtain ⟨g, hg, hmessage⟩ := h.exists_of_eq heq
    rwa [Failure.eq_of_message_eq hf hmessage]
  · exact h.eq_of_cause

theorem Tells.unreadable_iff {source : Source} {text : String} (h : report.Tells Cause)
    (hsource : ∀ {source' cause}, Cause (.unreadable source' cause) → source' = source) :
    report = ⟨1, "", "Failed to read " ++ source.name ++ ": " ++ text ++ "\n", []⟩ ↔
      ∃ cause, Cause (.unreadable source cause) ∧ cause.Says text := by
  have htold : (⟨1, "", "Failed to read " ++ source.name ++ ": " ++ text ++ "\n", []⟩ : Report) =
    .ofResult [] (.error (.unreadable source (.other text))) := rfl
  rw [htold]
  constructor
  · intro heq
    obtain ⟨g, hg, hmessage⟩ := h.exists_of_eq heq
    by_cases hread : ∃ source' cause, g = .unreadable source' cause
    · obtain ⟨source', cause, rfl⟩ := hread
      obtain rfl := hsource hg
      rw [Failure.message_unreadable, Failure.message_unreadable, String.append_right_inj,
        String.append_right_inj, String.append_right_inj] at hmessage
      exact ⟨cause, hg, ReadFailure.says_iff.2 hmessage.symm⟩
    · have hf := Failure.eq_of_message_eq (fun s c hgs => hread ⟨s, c, hgs⟩) hmessage.symm
      exact absurd ⟨_, _, hf⟩ hread
  · rintro ⟨cause, hcause, hsays⟩
    rw [h.eq_of_cause hcause, ofResult_unreadable, ReadFailure.says_iff.1 hsays, htold]

end

end Report

end TypedExtraction.CommandLine
