import TypedExtraction.CommandLine.Run

/-!
# How a command runs

What the runs of all commands have in common. Of the input, one line break at the
end is left out and no more (`dropLineBreak_eq_iff`). Names stand for kinds one
by one, and the first that stands for none is told (`kindsNamed_of_unknown`). A
command whose arguments are wrong does not read its input (`run_of_task_error`),
any other reads it once (`run_of_task_ok`).
-/

namespace TypedExtraction.CommandLine

open Text

/-! ## Line breaks -/

/-- `input` is `text` without the line break at its end, if there is one. -/
inductive WithoutLineBreak : (text input : Cursor) → Prop where
  | returnAndFeed (input : Cursor) : WithoutLineBreak (input ++ ['\r', '\n']) input
  | feed {input : Cursor} (h : input.getLast? ≠ some '\r') :
    WithoutLineBreak (input ++ ['\n']) input
  | nothing {input : Cursor} (h : input.getLast? ≠ some '\n') : WithoutLineBreak input input

theorem withoutLineBreak_dropLineBreak (text : Cursor) :
    WithoutLineBreak text (dropLineBreak text) := by
  unfold dropLineBreak
  split
  · rename_i rest h
    rw [show text = rest.reverse ++ ['\r', '\n'] by simpa using congrArg List.reverse h]
    exact .returnAndFeed _
  · rename_i rest hno h
    rw [show text = rest.reverse ++ ['\n'] by simpa using congrArg List.reverse h]
    refine .feed fun hl => ?_
    rw [List.getLast?_reverse] at hl
    obtain ⟨rest, rfl⟩ := List.head?_eq_some_iff.1 hl
    exact hno rest rfl
  · rename_i hno
    refine .nothing fun hl => ?_
    rw [List.getLast?_eq_head?_reverse] at hl
    obtain ⟨rest, hrest⟩ := List.head?_eq_some_iff.1 hl
    exact hno rest hrest

theorem dropLineBreak_eq_iff {text input : Cursor} :
    dropLineBreak text = input ↔ WithoutLineBreak text input := by
  constructor
  · rintro rfl
    exact withoutLineBreak_dropLineBreak text
  · intro h
    cases h with
    | returnAndFeed => simp [dropLineBreak]
    | feed h =>
      rw [List.getLast?_eq_head?_reverse] at h
      simp only [dropLineBreak, List.reverse_append, List.reverse_cons, List.reverse_nil,
        List.nil_append, List.cons_append]
      split
      · rename_i rest heq
        rw [(List.cons.inj heq).2] at h
        exact absurd rfl h
      · rename_i rest _ heq
        rw [← (List.cons.inj heq).2, List.reverse_reverse]
      · rename_i hno
        exact absurd rfl (hno input.reverse)
    | nothing h =>
      rw [List.getLast?_eq_head?_reverse] at h
      unfold dropLineBreak
      split
      · rename_i heq
        rw [heq] at h
        exact absurd rfl h
      · rename_i heq
        rw [heq] at h
        exact absurd rfl h
      · rfl

/-! ## Kinds by name -/

def kindFor? (name : String) : Option Kind := Kind.ofName? (trim name)

section
variable {names before after : List String} {name : String} {kinds : List Kind}

theorem kindNamed_of_some {kind : Kind} (h : kindFor? name = some kind) :
    kindNamed name = .ok kind := by
  unfold kindFor? at h
  simp only [kindNamed, h]

theorem kindNamed_of_none (h : kindFor? name = none) :
    kindNamed name = .error (.unknownKind (trim name)) := by
  unfold kindFor? at h
  simp only [kindNamed, h]

theorem kindsNamed_cons_of_some {kind : Kind} (h : kindFor? name = some kind) :
    kindsNamed (name :: names) = (kindsNamed names).map (kind :: ·) := by
  simp only [kindsNamed, List.mapM_cons, kindNamed_of_some h]
  cases List.mapM kindNamed names <;> rfl

/-- The names stand for kinds, each for one. -/
theorem kindsNamed_of_known (h : names.map kindFor? = kinds.map some) :
    kindsNamed names = .ok kinds := by
  induction names generalizing kinds with
  | nil =>
    rw [List.map_eq_nil_iff.1 h.symm]
    rfl
  | cons name names ih =>
    cases kinds with
    | nil => cases h
    | cons kind kinds =>
      obtain ⟨hname, hnames⟩ := List.cons.inj h
      rw [kindsNamed_cons_of_some hname, ih hnames]
      rfl

theorem kindsNamed_of_unknown (hbefore : ∀ n ∈ before, (kindFor? n).isSome = true)
    (h : kindFor? name = none) :
    kindsNamed (before ++ name :: after) = .error (.unknownKind (trim name)) := by
  induction before with
  | nil =>
    simp only [kindsNamed, List.nil_append, List.mapM_cons, kindNamed_of_none h]
    rfl
  | cons n before ih =>
    obtain ⟨hn, hbefore⟩ := List.forall_mem_cons.1 hbefore
    obtain ⟨kind, hkind⟩ := Option.isSome_iff_exists.1 hn
    rw [List.cons_append, kindsNamed_cons_of_some hkind, ih hbefore]
    rfl

theorem known_or_unknown (names : List String) :
    (∃ kinds : List Kind, names.map kindFor? = kinds.map some) ∨
      ∃ before name after, names = before ++ name :: after ∧
        (∀ n ∈ before, (kindFor? n).isSome = true) ∧ kindFor? name = none := by
  induction names with
  | nil => exact .inl ⟨[], rfl⟩
  | cons name names ih =>
    cases hname : kindFor? name with
    | none => exact .inr ⟨[], name, names, rfl, by simp, hname⟩
    | some kind =>
      rcases ih with ⟨kinds, hkinds⟩ | ⟨before, n, after, rfl, hbefore, hn⟩
      · exact .inl ⟨kind :: kinds, by simp [hname, hkinds]⟩
      · refine .inr ⟨name :: before, n, after, rfl, ?_, hn⟩
        exact List.forall_mem_cons.2 ⟨by rw [hname]; rfl, hbefore⟩

end

/-! ## Tasks -/

section
variable {m : Type → Type} [Monad m] {read : Source → m (Except ReadFailure String)}
  {command : Command}

/-- With wrong arguments the input is not read. -/
theorem run_of_task_error {failure : Failure} (h : command.task = .error failure) :
    command.run read = pure (.ofResult [] (.error failure)) := by
  simp only [Command.run, h]

theorem run_of_task_ok {task : Task} (h : command.task = .ok task) :
    command.run read = do return task.report (← read task.source) := by
  simp only [Command.run, h]

end

theorem shownAt_zero_ofResult (records : List Record) (result : Except Failure String) :
    (Report.ofResult records result).shownAt 0 = Report.ofResult [] result := by
  have hhidden : records.filter (·.level.isShown 0) = [] :=
    List.filter_eq_nil_iff.2 fun r _ => by cases r.level <;> exact Bool.false_ne_true
  cases result <;> simp only [Report.ofResult, Report.shownAt, hhidden]

theorem shownAt_zero_report_of_error (task : Task) (cause : ReadFailure) :
    (task.report (.error cause)).shownAt 0 =
      .ofResult [] (.error (.unreadable task.source cause)) :=
  shownAt_zero_ofResult _ _

theorem shownAt_zero_report_of_ok (task : Task) {text : String} {input : Cursor}
    (h : WithoutLineBreak (Cursor.ofString text) input) :
    (task.report (.ok text)).shownAt 0 = .ofResult [] (task.lines input) := by
  rw [← dropLineBreak_eq_iff.2 h]
  exact shownAt_zero_ofResult _ _

end TypedExtraction.CommandLine
