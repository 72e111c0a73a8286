/-!
# Cursors

A `Cursor` is what is left of a text, one character after the other. Reading
moves it forward with `next`, `nth` and `advance`; `limit` hides the end of
it. Counts saturate: past the end there is nothing left to take or to skip.
-/

namespace TypedExtraction.Text

abbrev Cursor := List Char

namespace Cursor

def ofString (text : String) : Cursor := text.toList

def toText (c : Cursor) : String := String.ofList c

def peek? (c : Cursor) : Option Char := c.head?

/-- The character at the front and the cursor behind it; at the end nothing moves. -/
def next : Cursor → Option Char × Cursor
  | [] => (none, [])
  | c :: rest => (some c, rest)

def limit (c : Cursor) (n : Nat) : Cursor := c.take n

/-- What is left behind the first `n` characters. -/
def advance (c : Cursor) (n : Nat) : Cursor := c.drop n

/-- Skips `n` characters one by one and takes the next; a cursor that runs out is left empty. -/
def nth (c : Cursor) : Nat → Option Char × Cursor
  | 0 => c.next
  | n + 1 =>
    match c.next with
    | (none, rest) => (none, rest)
    | (some _, rest) => nth rest n

def startsWith (c : Cursor) (text : List Char) : Bool := text.isPrefixOf c

@[simp] theorem length_advance (c : Cursor) (n : Nat) :
    (c.advance n).length = c.length - n := by
  simp [advance]

@[simp] theorem startsWith_eq_true_iff {c : Cursor} {text : List Char} :
    c.startsWith text = true ↔ text <+: c := by
  simp [startsWith]

/-- A text is split in one way at the first place of a character. -/
theorem append_cons_inj {a : Char} {l l' t t' : List Char} (hl : a ∉ l) (hl' : a ∉ l')
    (h : l ++ a :: t = l' ++ a :: t') : l = l' ∧ t = t' := by
  induction l generalizing l' with
  | nil =>
    cases l' with
    | nil => exact ⟨rfl, (List.cons.inj h).2⟩
    | cons c l' => exact absurd ((List.cons.inj h).1 ▸ List.mem_cons_self) hl'
  | cons c l ih =>
    cases l' with
    | nil => exact absurd ((List.cons.inj h).1 ▸ List.mem_cons_self) hl
    | cons c' l' =>
      obtain ⟨rfl, ht⟩ := List.cons.inj h
      obtain ⟨rfl, rfl⟩ := ih (fun hm => hl (List.mem_cons_of_mem _ hm))
        (fun hm => hl' (List.mem_cons_of_mem _ hm)) ht
      exact ⟨rfl, rfl⟩

theorem nth_eq_next_advance (c : Cursor) (n : Nat) : c.nth n = (c.advance n).next := by
  induction n generalizing c with
  | zero => rfl
  | succ n ih =>
    cases c with
    | nil => rfl
    | cons a rest => exact ih rest

end Cursor

end TypedExtraction.Text
