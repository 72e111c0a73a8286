import Mathlib.Tactic.SplitIfs
import TypedExtraction.Text.Cursor
import TypedExtraction.Text.Escaped

/-!
# Escaped texts are told apart

Between quotes, the characters of a text are written in a prefix code
(`unit_append_inj`), and none of them begins like the quote that ends the text.
So an escaped text tells the text and where it ends (`ofString_append_inj`).
-/

namespace TypedExtraction.Text.Escaped

/-- The character that a letter behind a backslash stands for. -/
def escaped? : Char → Option Char
  | '0' => some '\x00'
  | 't' => some '\t'
  | 'r' => some '\r'
  | 'n' => some '\n'
  | '\'' => some '\''
  | '"' => some '"'
  | '\\' => some '\\'
  | _ => none

def IsQuote (c : Char) : Prop := c = '\'' ∨ c = '"'

section
variable {delimiter c c' : Char} {rest rest' : List Char}

/-! ## Code points -/

theorem digitChar_inj : ∀ m < 16, ∀ n < 16, Nat.digitChar m = Nat.digitChar n → m = n := by
  decide

theorem toDigits_eq (n : Nat) : Nat.toDigits 16 n =
    if n < 16 then [n.digitChar] else Nat.toDigits 16 (n / 16) ++ [(n % 16).digitChar] :=
  Nat.toDigits_eq_if (by decide)

theorem toDigits_inj {m n : Nat} (h : Nat.toDigits 16 m = Nat.toDigits 16 n) : m = n := by
  induction m using Nat.strongRecOn generalizing n with
  | ind m ih =>
    rw [toDigits_eq m, toDigits_eq n] at h
    by_cases hm : m < 16
    · by_cases hn : n < 16
      · rw [if_pos hm, if_pos hn] at h
        exact digitChar_inj m hm n hn (List.cons.inj h).1
      · rw [if_pos hm, if_neg hn] at h
        exact absurd (List.append_eq_singleton_iff.1 h.symm) (by simp [Nat.toDigits_ne_nil])
    · by_cases hn : n < 16
      · rw [if_neg hm, if_pos hn] at h
        exact absurd (List.append_eq_singleton_iff.1 h) (by simp [Nat.toDigits_ne_nil])
      · rw [if_neg hm, if_neg hn] at h
        obtain ⟨hdiv, hmod⟩ := List.append_inj' h rfl
        have hq := ih (m / 16) (Nat.div_lt_self (by omega) (by decide)) hdiv
        have hr := digitChar_inj _ (Nat.mod_lt m (by decide)) _ (Nat.mod_lt n (by decide))
          (List.cons.inj hmod).1
        omega

theorem brace_not_mem_toDigits (n : Nat) : '}' ∉ Nat.toDigits 16 n := by
  induction n using Nat.strongRecOn with
  | ind n ih =>
    rw [toDigits_eq]
    split
    · simp [(Nat.digitChar_ne '}' (by decide)).symm]
    · have hlt : n / 16 < n := Nat.div_lt_self (by omega) (by decide)
      simp [ih _ hlt, (Nat.digitChar_ne '}' (by decide)).symm]

theorem codePoint_append_inj (h : codePoint c ++ rest = codePoint c' ++ rest') :
    c = c' ∧ rest = rest' := by
  simp only [codePoint, List.append_assoc, List.append_cancel_left_eq] at h
  obtain ⟨hdigits, hrest⟩ :=
    Cursor.append_cons_inj (brace_not_mem_toDigits _) (brace_not_mem_toDigits _) h
  exact ⟨Char.toNat_inj.1 (toDigits_inj hdigits), hrest⟩

/-! ## One character -/

/-- The three ways in which a character is written. -/
theorem unit_cases (hd : IsQuote delimiter) (c : Char) :
    (unit delimiter c = [c] ∧ c ≠ '\\' ∧ c ≠ delimiter) ∨
      (∃ e, unit delimiter c = ['\\', e] ∧ escaped? e = some c) ∨
      unit delimiter c = codePoint c := by
  unfold unit
  split_ifs with h0 ht hr hn hself hcode
  · exact .inr (.inl ⟨'0', rfl, by rw [h0]; rfl⟩)
  · exact .inr (.inl ⟨'t', rfl, by rw [ht]; rfl⟩)
  · exact .inr (.inl ⟨'r', rfl, by rw [hr]; rfl⟩)
  · exact .inr (.inl ⟨'n', rfl, by rw [hn]; rfl⟩)
  · refine .inr (.inl ⟨c, rfl, ?_⟩)
    rcases hself with rfl | rfl
    · rcases hd with rfl | rfl <;> rfl
    · rfl
  · exact .inr (.inr rfl)
  · exact .inl ⟨rfl, fun h => hself (.inr h), fun h => hself (.inl h)⟩

/-- **No written character is the beginning of another one.** -/
theorem unit_append_inj (hd : IsQuote delimiter)
    (h : unit delimiter c ++ rest = unit delimiter c' ++ rest') : c = c' ∧ rest = rest' := by
  rcases unit_cases hd c with ⟨hc, hne, -⟩ | ⟨e, hc, he⟩ | hc <;>
    rcases unit_cases hd c' with ⟨hc', hne', -⟩ | ⟨e', hc', he'⟩ | hc' <;> rw [hc, hc'] at h
  · exact List.cons.inj h
  · exact absurd (List.cons.inj h).1 hne
  · exact absurd (List.cons.inj h).1 hne
  · exact absurd (List.cons.inj h).1.symm hne'
  · obtain ⟨rfl, hrest⟩ := List.cons.inj (List.cons.inj h).2
    exact ⟨Option.some.inj (he.symm.trans he'), hrest⟩
  · obtain ⟨rfl, -⟩ := List.cons.inj (List.cons.inj h).2
    cases he
  · exact absurd (List.cons.inj h).1.symm hne'
  · obtain ⟨rfl, -⟩ := List.cons.inj (List.cons.inj h).2
    cases he'
  · exact codePoint_append_inj h

theorem unit_append_ne (hd : IsQuote delimiter) (c : Char) (rest rest' : List Char) :
    unit delimiter c ++ rest ≠ delimiter :: rest' := by
  have hslash : '\\' ≠ delimiter := by
    rcases hd with rfl | rfl <;> decide
  intro h
  rcases unit_cases hd c with ⟨hc, -, hne⟩ | ⟨e, hc, -⟩ | hc <;> rw [hc] at h
  · exact hne (List.cons.inj h).1
  · exact hslash (List.cons.inj h).1
  · exact hslash (List.cons.inj h).1

/-! ## Texts -/

theorem enclose_append_inj (hd : IsQuote delimiter) {text text' : List Char}
    (h : enclose delimiter text ++ rest = enclose delimiter text' ++ rest') :
    text = text' ∧ rest = rest' := by
  simp only [enclose, List.cons_append, List.append_assoc, List.nil_append] at h
  replace h := (List.cons.inj h).2
  induction text generalizing text' with
  | nil =>
    cases text' with
    | nil => exact ⟨rfl, (List.cons.inj h).2⟩
    | cons c' text' =>
      rw [List.flatMap_cons, List.append_assoc] at h
      exact absurd h.symm (unit_append_ne hd c' _ _)
  | cons c text ih =>
    rw [List.flatMap_cons, List.append_assoc] at h
    cases text' with
    | nil => exact absurd h (unit_append_ne hd c _ _)
    | cons c' text' =>
      rw [List.flatMap_cons, List.append_assoc] at h
      obtain ⟨rfl, htail⟩ := unit_append_inj hd h
      obtain ⟨rfl, hrest⟩ := ih htail
      exact ⟨rfl, hrest⟩

end

/-- **An escaped text tells the text and where it ends.** -/
theorem ofString_append_inj {text text' rest rest' : String}
    (h : ofString text ++ rest = ofString text' ++ rest') : text = text' ∧ rest = rest' := by
  have hlist := congrArg String.toList h
  simp only [ofString, String.toList_append, String.toList_ofList] at hlist
  obtain ⟨htext, hrest⟩ := enclose_append_inj (.inr rfl) hlist
  exact ⟨String.toList_inj.1 htext, String.toList_inj.1 hrest⟩

end TypedExtraction.Text.Escaped
