import TypedExtraction.Text.Cursor
import TypedExtraction.Text.Reading

/-!
# Quoted text

A quoted text stands between two delimiters. Inside, a backslash gives the
character behind it literally, so a delimiter or a backslash can be part of
the text. `scan?` reads a quoted text at the front of a cursor, `encode`
writes one.
-/

namespace TypedExtraction.Text.Quoted

/-- The text up to the closing delimiter, which counts for the length. -/
def body? (delimiter : Char) : Cursor → Option (Reading (List Char))
  | [] => none
  | c :: rest =>
    if c = delimiter then some ⟨[], 1⟩
    else if c = '\\' then
      match rest with
      | [] => none
      | e :: rest => (body? delimiter rest).map fun r => ⟨e :: r.value, r.length + 2⟩
    else (body? delimiter rest).map fun r => ⟨c :: r.value, r.length + 1⟩

/-- The quoted text at the front; both delimiters count for the length. -/
def scan? (delimiter : Char) : Cursor → Option (Reading (List Char))
  | [] => none
  | c :: rest =>
    if c = delimiter then (body? delimiter rest).map fun r => ⟨r.value, r.length + 1⟩ else none

/-- Puts a backslash before each delimiter and each backslash. -/
def escape (delimiter : Char) : List Char → List Char
  | [] => []
  | c :: rest =>
    if c = delimiter ∨ c = '\\' then '\\' :: c :: escape delimiter rest
    else c :: escape delimiter rest

def encode (delimiter : Char) (text : List Char) : List Char :=
  delimiter :: (escape delimiter text ++ [delimiter])

theorem length_pos_of_body? {delimiter : Char} {c : Cursor} {r : Reading (List Char)}
    (h : body? delimiter c = some r) : 0 < r.length := by
  fun_induction body? delimiter c generalizing r with
  | case1 => cases h
  | case2 => cases h; simp
  | case3 => cases h
  | case4 | case5 => obtain ⟨s, -, rfl⟩ := Option.map_eq_some_iff.1 h; simp

theorem two_le_length_of_scan? {delimiter : Char} {c : Cursor} {r : Reading (List Char)}
    (h : scan? delimiter c = some r) : 2 ≤ r.length := by
  unfold scan? at h
  split at h
  · cases h
  · split at h
    · obtain ⟨s, hs, rfl⟩ := Option.map_eq_some_iff.1 h
      have := length_pos_of_body? hs
      simp only; omega
    · cases h

end TypedExtraction.Text.Quoted
