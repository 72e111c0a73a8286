import TypedExtraction.Text.Bank

/-!
# Windows

A cursor shows the characters of the text on which it began from one place up to
another. Such a `Window` is moved by the rules of `Window.move`, and a bank of
cursors goes through its steps just as a row of windows does (`run_map_shown`).

A cursor may be made from another one; `origin` tells from which. On the way from
its origin a window only gets narrower (`Windows.within_run`), so the places that
are read along this way lie one behind the other (`places_run`).
-/

namespace TypedExtraction.Text

/-- The places of a text from `start` up to `stop`, without `stop`. -/
structure Window (text : Cursor) where
  start : Nat
  stop : Nat
  start_le_stop : start ≤ stop
  stop_le_length : stop ≤ text.length

namespace Window

variable {text : Cursor}

def whole (text : Cursor) : Window text := ⟨0, text.length, Nat.zero_le _, Nat.le_refl _⟩

def nothing (text : Cursor) : Window text := ⟨0, 0, Nat.le_refl 0, Nat.zero_le _⟩

/-- The characters at the places of a window. -/
def shown (w : Window text) : Cursor := (text.take w.stop).drop w.start

def limit (w : Window text) (n : Nat) : Window text :=
  ⟨w.start, min w.stop (w.start + n), Nat.le_min.2 ⟨w.start_le_stop, Nat.le_add_right _ _⟩,
    Nat.le_trans (Nat.min_le_left _ _) w.stop_le_length⟩

/-- The places behind the first `n`. -/
def advance (w : Window text) (n : Nat) : Window text :=
  ⟨min w.stop (w.start + n), w.stop, Nat.min_le_left _ _, w.stop_le_length⟩

def place? (w : Window text) : Option Nat := if w.start < w.stop then some w.start else none

/-- The places behind the first one; without a first one nothing moves. -/
def next (w : Window text) : Window text :=
  if h : w.start < w.stop then ⟨w.start + 1, w.stop, h, w.stop_le_length⟩ else w

/-- The place that a move reads, if it reads one, and the window that it makes. -/
def move (w : Window text) : Move → Option Nat × Window text
  | .next => (w.place?, w.next)
  | .nth n => ((w.advance n).place?, (w.advance n).next)
  | .limit n => (none, w.limit n)
  | .advance n => (none, w.advance n)
  | .copy => (none, w)

/-- A window is within another one if it begins no earlier and ends no later. -/
structure Within (w v : Window text) : Prop where
  start_le : v.start ≤ w.start
  stop_le : w.stop ≤ v.stop

/-! ## What is shown -/

@[simp] theorem shown_whole (text : Cursor) : (whole text).shown = text := by
  simp [whole, shown]

@[simp] theorem shown_nothing (text : Cursor) : (nothing text).shown = [] := by
  simp [nothing, shown]

theorem shown_eq_nil {w : Window text} (h : ¬ w.start < w.stop) : w.shown = [] := by
  refine List.drop_eq_nil_of_le (Nat.le_trans (List.length_take_le _ _) ?_)
  omega

theorem shown_eq_cons {w : Window text} (h : w.start < w.stop) :
    ∃ c, text[w.start]? = some c ∧ w.shown = c :: w.next.shown := by
  have hlt : w.start < (text.take w.stop).length := by
    have := w.stop_le_length
    rw [List.length_take]
    omega
  refine ⟨(text.take w.stop)[w.start], ?_, ?_⟩
  · rw [← List.getElem?_eq_getElem hlt, List.getElem?_take_of_lt h]
  · rw [shown, List.drop_eq_getElem_cons hlt, next, dif_pos h, shown]

theorem limit_shown (w : Window text) (n : Nat) : w.shown.limit n = (w.limit n).shown := by
  rw [Cursor.limit, shown, List.take_drop, List.take_take, Nat.min_comm]
  rfl

theorem advance_shown (w : Window text) (n : Nat) : w.shown.advance n = (w.advance n).shown := by
  rw [Cursor.advance, shown, List.drop_drop]
  have hshown : (w.advance n).shown = (text.take w.stop).drop (min w.stop (w.start + n)) := rfl
  by_cases h : w.start + n ≤ w.stop
  · rw [hshown, Nat.min_eq_right h]
  · -- nothing is left either way
    have hle : w.stop ≤ w.start + n := by omega
    have hlen := List.length_take_le w.stop text
    rw [hshown, Nat.min_eq_left hle, List.drop_eq_nil_of_le hlen,
      List.drop_eq_nil_of_le (Nat.le_trans hlen hle)]

theorem next_shown (w : Window text) :
    w.shown.next = (w.place?.bind (text[·]?), w.next.shown) := by
  by_cases h : w.start < w.stop
  · obtain ⟨c, hc, hs⟩ := shown_eq_cons h
    simp [hs, Cursor.next, place?, h, hc]
  · simp [shown_eq_nil h, Cursor.next, place?, next, h]

/-! ## Narrowing -/

theorem Within.refl (w : Window text) : w.Within w := ⟨Nat.le_refl _, Nat.le_refl _⟩

theorem Within.trans {u v w : Window text} (h : u.Within v) (h' : v.Within w) : u.Within w :=
  ⟨Nat.le_trans h'.start_le h.start_le, Nat.le_trans h.stop_le h'.stop_le⟩

theorem within_limit (w : Window text) (n : Nat) : (w.limit n).Within w :=
  ⟨Nat.le_refl _, Nat.min_le_left _ _⟩

theorem within_advance (w : Window text) (n : Nat) : (w.advance n).Within w :=
  ⟨Nat.le_min.2 ⟨w.start_le_stop, Nat.le_add_right _ _⟩, Nat.le_refl _⟩

theorem within_next (w : Window text) : w.next.Within w := by
  unfold next
  split
  · exact ⟨Nat.le_succ _, Nat.le_refl _⟩
  · exact .refl w

theorem within_move (w : Window text) (m : Move) : (w.move m).2.Within w := by
  cases m with
  | next => exact w.within_next
  | nth n => exact (w.advance n).within_next.trans (w.within_advance n)
  | limit n => exact w.within_limit n
  | advance n => exact w.within_advance n
  | copy => exact .refl w

theorem lt_start_next {w : Window text} {p : Nat} (h : w.place? = some p) :
    w.start ≤ p ∧ p < w.next.start := by
  unfold place? at h
  split at h
  · rename_i hlt
    cases h
    simp [next, hlt]
  · cases h

/-- **The place that a move reads lies in front of the window that it makes.** -/
theorem lt_start_move {w : Window text} {m : Move} {p : Nat} (h : (w.move m).1 = some p) :
    w.start ≤ p ∧ p < (w.move m).2.start := by
  cases m with
  | next => exact lt_start_next h
  | nth n =>
    obtain ⟨hle, hlt⟩ := lt_start_next h
    exact ⟨Nat.le_trans (w.within_advance n).start_le hle, hlt⟩
  | limit n | advance n | copy => cases h

theorem lt_length_of_move {w : Window text} {m : Move} {p : Nat} (h : (w.move m).1 = some p) :
    p < text.length := by
  have hlt := (lt_start_move h).2
  have hstart := (w.move m).2.start_le_stop
  have hstop := (w.move m).2.stop_le_length
  omega

end Window

/-! ## Rows of windows -/

namespace Step

def changed (s : Step) : Nat :=
  match s.move with
  | .next | .nth _ => s.source
  | .limit _ | .advance _ | .copy => s.target

/-- The cursor from which a step makes the one at a position. -/
def origin (s : Step) (i : Nat) : Nat := if i = s.changed then s.source else i

/-- A step is about cursors that there are. -/
def IsProper (size : Nat) (s : Step) : Prop := s.source < size ∧ s.target < size

theorem IsProper.changed_lt {size : Nat} {s : Step} (h : s.IsProper size) : s.changed < size := by
  unfold changed
  cases s.move with
  | next | nth n => exact h.1
  | limit n | advance n | copy => exact h.2

end Step

namespace Bank

/-- The cursor from which a row of steps makes the one at a position. -/
def origin : List Step → Nat → Nat
  | [], i => i
  | s :: steps, i => s.origin (origin steps i)

theorem getElem?_step_of_ne {s : Step} {i : Nat} (h : i ≠ s.changed) (bank : Bank) :
    (bank.step s).2[i]? = bank[i]? := by
  obtain ⟨move, source, target⟩ := s
  cases move <;> exact List.getElem?_set_ne h.symm

/-- Skipping characters to take one is moving behind them first. -/
theorem step_nth {bank : Bank} {i : Nat} (hi : i < bank.length) (n : Nat) :
    bank.step ⟨.nth n, i, i⟩ = Bank.step (bank.step ⟨.advance n, i, i⟩).2 ⟨.next, i, i⟩ := by
  have hcursor : Bank.cursor (bank.set i ((bank.cursor i).advance n)) i =
      (bank.cursor i).advance n := by
    simp [cursor, hi]
  simp only [step, hcursor, Cursor.nth_eq_next_advance, List.set_set]

/-- The characters that are read on the way to the cursor at a position. -/
def readAlong (bank : Bank) : List Step → Nat → List Char
  | [], _ => []
  | s :: steps, i =>
    (if origin steps i = s.changed then (bank.step s).1.toList else []) ++
      readAlong (bank.step s).2 steps i

end Bank

abbrev Windows (text : Cursor) := List (Window text)

namespace Windows

variable {text : Cursor} {ws : Windows text} {s : Step} {steps : List Step} {i : Nat}

/-- `size` windows that show all of a text. -/
def start (size : Nat) (text : Cursor) : Windows text := List.replicate size (.whole text)

/-- The window at a position; where there is none, one that shows nothing. -/
def window (ws : Windows text) (i : Nat) : Window text := ws.getD i (.nothing text)

/-- The place that a step reads, if it reads one, and the windows after it. -/
def step (ws : Windows text) (s : Step) : Option Nat × Windows text :=
  (((ws.window s.source).move s.move).1, ws.set s.changed ((ws.window s.source).move s.move).2)

def run (ws : Windows text) (steps : List Step) : Windows text :=
  steps.foldl (fun ws s => (ws.step s).2) ws

/-- The places that are read on the way to the window at a position. -/
def placesAlong (ws : Windows text) : List Step → Nat → List Nat
  | [], _ => []
  | s :: steps, i =>
    (if Bank.origin steps i = s.changed then (ws.step s).1.toList else []) ++
      placesAlong (ws.step s).2 steps i

theorem run_cons (ws : Windows text) (s : Step) (steps : List Step) :
    ws.run (s :: steps) = Windows.run (ws.step s).2 steps := rfl

theorem length_step (ws : Windows text) (s : Step) : (ws.step s).2.length = ws.length :=
  List.length_set

theorem length_run (ws : Windows text) (steps : List Step) :
    (ws.run steps).length = ws.length := by
  induction steps generalizing ws with
  | nil => rfl
  | cons s steps ih => rw [run_cons, ih, length_step]

theorem window_step_changed (h : s.changed < ws.length) :
    Windows.window (ws.step s).2 s.changed = ((ws.window s.source).move s.move).2 := by
  simp [window, step, h]

theorem window_step_of_ne (h : i ≠ s.changed) :
    Windows.window (ws.step s).2 i = ws.window i := by
  simp [window, step, h.symm]

/-! ## Cursors show windows -/

theorem cursor_map_shown (ws : Windows text) (i : Nat) :
    Bank.cursor (ws.map Window.shown) i = (ws.window i).shown := by
  rw [Bank.cursor, window, List.getD_eq_getElem?_getD, List.getD_eq_getElem?_getD,
    List.getElem?_map]
  cases ws[i]? with
  | none => exact (Window.shown_nothing text).symm
  | some w => rfl

/-- **A step does to cursors what it does to their windows.** -/
theorem step_map_shown (ws : Windows text) (s : Step) :
    Bank.step (ws.map Window.shown) s =
      ((ws.step s).1.bind (text[·]?), (ws.step s).2.map Window.shown) := by
  obtain ⟨move, source, target⟩ := s
  cases move with
  | next =>
    simp only [Bank.step, cursor_map_shown, Window.next_shown, step, Window.move, Step.changed,
      List.map_set]
  | nth n =>
    simp only [Bank.step, cursor_map_shown, Cursor.nth_eq_next_advance, Window.advance_shown,
      Window.next_shown, step, Window.move, Step.changed, List.map_set]
  | limit n =>
    simp only [Bank.step, cursor_map_shown, Window.limit_shown, step, Window.move, Step.changed,
      List.map_set, Option.bind_none]
  | advance n =>
    simp only [Bank.step, cursor_map_shown, Window.advance_shown, step, Window.move, Step.changed,
      List.map_set, Option.bind_none]
  | copy =>
    simp only [Bank.step, cursor_map_shown, step, Window.move, Step.changed, List.map_set,
      Option.bind_none]

/-- **Cursors show windows all along.** -/
theorem run_map_shown (ws : Windows text) (steps : List Step) :
    Bank.run (ws.map Window.shown) steps = (ws.run steps).map Window.shown := by
  induction steps generalizing ws with
  | nil => rfl
  | cons s steps ih =>
    rw [run_cons, ← ih, Bank.run, List.foldl_cons, step_map_shown]
    rfl

theorem map_shown_start (size : Nat) (text : Cursor) :
    (start size text).map Window.shown = Bank.start size text := by
  rw [start, List.map_replicate, Window.shown_whole, Bank.start]

/-! ## The way of a cursor -/

theorem within_step (hs : s.IsProper ws.length) (i : Nat) :
    (Windows.window (ws.step s).2 i).Within (ws.window (s.origin i)) := by
  unfold Step.origin
  split
  · rename_i hi
    rw [hi, window_step_changed hs.changed_lt]
    exact Window.within_move _ _
  · rename_i hi
    rw [window_step_of_ne hi]
    exact .refl _

/-- **On its way a window only gets narrower.** -/
theorem within_run (h : ∀ s ∈ steps, s.IsProper ws.length) (i : Nat) :
    ((ws.run steps).window i).Within (ws.window (Bank.origin steps i)) := by
  induction steps generalizing ws with
  | nil => exact .refl _
  | cons s steps ih =>
    obtain ⟨hs, hsteps⟩ := List.forall_mem_cons.1 h
    rw [← length_step ws s] at hsteps
    exact (ih hsteps).trans (within_step hs _)

theorem places_run (h : ∀ s ∈ steps, s.IsProper ws.length) (i : Nat) :
    (∀ p ∈ ws.placesAlong steps i,
      (ws.window (Bank.origin steps i)).start ≤ p ∧ p < ((ws.run steps).window i).start) ∧
    (ws.placesAlong steps i).Pairwise (· < ·) := by
  induction steps generalizing ws with
  | nil => exact ⟨List.forall_mem_nil _, .nil⟩
  | cons s steps ih =>
    obtain ⟨hs, hsteps⟩ := List.forall_mem_cons.1 h
    rw [← length_step ws s] at hsteps
    obtain ⟨hbounds, hpairwise⟩ := ih hsteps
    have hstep := within_step hs (Bank.origin steps i)
    have hrun := within_run hsteps i
    have hmore : ∀ p ∈ Windows.placesAlong (ws.step s).2 steps i,
        (ws.window (s.origin (Bank.origin steps i))).start ≤ p ∧
          p < (Windows.window (Windows.run (ws.step s).2 steps) i).start := fun p hp =>
      ⟨Nat.le_trans hstep.start_le (hbounds p hp).1, (hbounds p hp).2⟩
    rw [placesAlong, run_cons, Bank.origin]
    by_cases ho : Bank.origin steps i = s.changed
    · rw [if_pos ho]
      cases hread : (ws.step s).1 with
      | none => exact ⟨hmore, hpairwise⟩
      | some p =>
        obtain ⟨hle, hlt⟩ := Window.lt_start_move hread
        rw [← window_step_changed hs.changed_lt, ← ho] at hlt
        have horigin : s.origin (Bank.origin steps i) = s.source := if_pos ho
        refine ⟨List.forall_mem_cons.2 ⟨⟨?_, Nat.lt_of_lt_of_le hlt hrun.start_le⟩, hmore⟩,
          List.pairwise_cons.2 ⟨fun q hq => ?_, hpairwise⟩⟩
        · rw [horigin]
          exact hle
        · exact Nat.lt_of_lt_of_le hlt (hbounds q hq).1
    · rw [if_neg ho]
      exact ⟨hmore, hpairwise⟩

theorem readAlong_map_shown (ws : Windows text) (steps : List Step) (i : Nat) :
    (Bank.readAlong (ws.map Window.shown) steps i).map some =
      (ws.placesAlong steps i).map (text[·]?) := by
  induction steps generalizing ws with
  | nil => rfl
  | cons s steps ih =>
    rw [Bank.readAlong, placesAlong, step_map_shown, List.map_append, List.map_append, ih]
    congr 1
    split
    · cases hread : (ws.step s).1 with
      | none => rfl
      | some p =>
        have hlt : p < text.length := Window.lt_length_of_move hread
        simp [List.getElem?_eq_getElem hlt]
    · rfl

end Windows

/-- **Cursors are windows of the text.** After every row of steps, each cursor shows the characters
of its window, and a step reads the character at the place that the window gives and makes the
cursor of the window that its move makes. No other cursor is changed, and skipping characters to take
one is moving behind them first. On the way from the cursor that it was made from, a window only
gets narrower, so the characters that are read along this way stand at places that lie one behind
the other. -/
theorem Bank.shows_windows (text : Cursor) (size : Nat) (steps : List Step)
    (h : ∀ s ∈ steps, s.IsProper size) :
    let bank := (Bank.start size text).run steps
    let windows := (Windows.start size text).run steps
    bank = windows.map Window.shown ∧ windows.length = size ∧
    (∀ s, bank.step s = ((windows.step s).1.bind (text[·]?), (windows.step s).2.map Window.shown)) ∧
    (∀ s i, i ≠ s.changed → (bank.step s).2[i]? = bank[i]?) ∧
    (∀ i n, i < size →
      bank.step ⟨.nth n, i, i⟩ = Bank.step (bank.step ⟨.advance n, i, i⟩).2 ⟨.next, i, i⟩) ∧
    (∀ before after, steps = before ++ after → ∀ i,
      (windows.window i).Within
        (((Windows.start size text).run before).window (Bank.origin after i))) ∧
    ∀ i, ∃ places : List Nat, places.Pairwise (· < ·) ∧
      (∀ p ∈ places, p < (windows.window i).start) ∧
      ((Bank.start size text).readAlong steps i).map some = places.map (text[·]?) := by
  intro bank windows
  have hstart : (Windows.start size text).length = size := List.length_replicate
  have hlength : windows.length = size := (Windows.length_run _ _).trans hstart
  have hbank : bank = windows.map Window.shown := by
    rw [← Windows.run_map_shown, Windows.map_shown_start]
  refine ⟨hbank, hlength, fun s => ?_, fun s i hi => Bank.getElem?_step_of_ne hi bank,
    fun i n hi => ?_, ?_, fun i => ?_⟩
  · rw [hbank]
    exact Windows.step_map_shown windows s
  · refine Bank.step_nth ?_ n
    rw [hbank, List.length_map, hlength]
    exact hi
  · rintro before after rfl i
    have hafter : ∀ s ∈ after, s.IsProper ((Windows.start size text).run before).length := by
      rw [Windows.length_run, hstart]
      exact fun s hs => h s (List.mem_append_right before hs)
    have hrun : windows = ((Windows.start size text).run before).run after := List.foldl_append
    rw [hrun]
    exact Windows.within_run hafter i
  · rw [← hstart] at h
    obtain ⟨hbounds, hpairwise⟩ := Windows.places_run h i
    refine ⟨_, hpairwise, fun p hp => (hbounds p hp).2, ?_⟩
    rw [← Windows.map_shown_start]
    exact Windows.readAlong_map_shown _ steps i

/-- The second cursor is cut off from the first one at the largest count there is, and goes its own
way; what is read along its way was read in part with the first one. -/
theorem Bank.shows_windows_copies :
    let text : Cursor := "abcba".toList
    let steps : List Step := [⟨.next, 0, 0⟩, ⟨.limit 18446744073709551615, 0, 1⟩, ⟨.nth 1, 1, 1⟩,
      ⟨.limit 1, 0, 0⟩, ⟨.advance 18446744073709551615, 0, 0⟩, ⟨.next, 0, 0⟩]
    let bank := (Bank.start 2 text).run steps
    (∀ s ∈ steps, s.IsProper 2) ∧ bank = [[], ['b', 'a']] ∧
      (Bank.start 2 text).readAlong steps 1 = ['a', 'c'] ∧
      (∃ windows : Windows text, bank = windows.map Window.shown ∧ windows.length = 2) ∧
      ∃ places : List Nat, places.Pairwise (· < ·) ∧ [some 'a', some 'c'] = places.map (text[·]?) := by
  intro text steps bank
  have hproper : ∀ s ∈ steps, s.IsProper 2 := by
    simp [steps, Step.IsProper]
  have hread : (Bank.start 2 text).readAlong steps 1 = ['a', 'c'] := by decide +kernel
  obtain ⟨hbank, hlength, -, -, -, -, hplaces⟩ := Bank.shows_windows text 2 steps hproper
  obtain ⟨places, hpairwise, -, hchars⟩ := hplaces 1
  rw [hread] at hchars
  exact ⟨hproper, by decide +kernel, hread, ⟨_, hbank, hlength⟩, places, hpairwise, hchars⟩

end TypedExtraction.Text
