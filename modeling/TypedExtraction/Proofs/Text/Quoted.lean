import TypedExtraction.Text.Quoted

/-!
# The grammar of quoted texts

An `Element` is one character of a quoted text as it is written: plain, or
behind a backslash. A quoted text is a delimiter, a row of elements and the
delimiter once more (`quote`). `scan?` finds such a text wherever one is at the
front, and nothing else (`scan?_eq_some_iff`); where it ends and what its
elements are is determined (`quote_append_inj`).
-/

namespace TypedExtraction.Text.Quoted

/-- One character of a quoted text as it is written. -/
inductive Element where
  | plain (c : Char)
  | escaped (c : Char)
  deriving DecidableEq, Repr

namespace Element

def value : Element → Char
  | .plain c => c
  | .escaped c => c

def written : Element → List Char
  | .plain c => [c]
  | .escaped c => ['\\', c]

/-- A plain character is neither the delimiter nor a backslash. -/
def IsValid (delimiter : Char) : Element → Prop
  | .plain c => c ≠ delimiter ∧ c ≠ '\\'
  | .escaped _ => True

instance (delimiter : Char) : (e : Element) → Decidable (e.IsValid delimiter)
  | .plain c => inferInstanceAs (Decidable (c ≠ delimiter ∧ c ≠ '\\'))
  | .escaped _ => isTrue trivial

def ofChar (delimiter c : Char) : Element :=
  if c = delimiter ∨ c = '\\' then .escaped c else .plain c

@[simp] theorem value_ofChar (delimiter c : Char) : (ofChar delimiter c).value = c := by
  unfold ofChar; split <;> rfl

theorem isValid_ofChar (delimiter c : Char) : (ofChar delimiter c).IsValid delimiter := by
  unfold ofChar
  split
  · trivial
  · rename_i h
    exact not_or.1 h

end Element

/-- The elements of a quoted text with the closing delimiter. -/
def closed (delimiter : Char) (es : List Element) : List Char :=
  es.flatMap Element.written ++ [delimiter]

def quote (delimiter : Char) (es : List Element) : List Char := delimiter :: closed delimiter es

abbrev Valid (delimiter : Char) (es : List Element) : Prop := ∀ e ∈ es, e.IsValid delimiter

section
variable {delimiter : Char}

theorem escape_eq_flatMap (delimiter : Char) (text : List Char) :
    escape delimiter text = (text.map (Element.ofChar delimiter)).flatMap Element.written := by
  induction text with
  | nil => rfl
  | cons c text ih =>
    by_cases h : c = delimiter ∨ c = '\\' <;> simp [escape, Element.ofChar, Element.written, h, ih]

theorem encode_eq_quote (delimiter : Char) (text : List Char) :
    encode delimiter text = quote delimiter (text.map (Element.ofChar delimiter)) := by
  rw [encode, escape_eq_flatMap]; rfl

theorem valid_map_ofChar (delimiter : Char) (text : List Char) :
    Valid delimiter (text.map (Element.ofChar delimiter)) := by
  intro e he
  obtain ⟨c, -, rfl⟩ := List.mem_map.1 he
  exact Element.isValid_ofChar delimiter c

/-! ## Single steps -/

theorem body?_delimiter (rest : Cursor) : body? delimiter (delimiter :: rest) = some ⟨[], 1⟩ := by
  rw [body?.eq_def]
  simp

theorem body?_plain {c : Char} (hc : c ≠ delimiter ∧ c ≠ '\\') (rest : Cursor) :
    body? delimiter (c :: rest) =
      (body? delimiter rest).map fun r => ⟨c :: r.value, r.length + 1⟩ := by
  rw [body?.eq_def]
  simp only [if_neg hc.1, if_neg hc.2]

theorem body?_escaped (hd : delimiter ≠ '\\') (c : Char) (rest : Cursor) :
    body? delimiter ('\\' :: c :: rest) =
      (body? delimiter rest).map fun r => ⟨c :: r.value, r.length + 2⟩ := by
  rw [body?.eq_def]
  simp only [if_neg hd.symm, if_pos]

/-! ## The text up to the closing delimiter -/

theorem body?_closed (hd : delimiter ≠ '\\') {es : List Element} (hes : Valid delimiter es)
    (rest : Cursor) :
    body? delimiter (closed delimiter es ++ rest) =
      some ⟨es.map Element.value, (closed delimiter es).length⟩ := by
  induction es with
  | nil => exact body?_delimiter rest
  | cons e es ih =>
    have he := hes e List.mem_cons_self
    have ih := ih fun x hx => hes x (List.mem_cons_of_mem _ hx)
    cases e with
    | plain c =>
      have hw : closed delimiter (.plain c :: es) ++ rest =
        c :: (closed delimiter es ++ rest) := rfl
      rw [hw, body?_plain he, ih]
      rfl
    | escaped c =>
      have hw : closed delimiter (.escaped c :: es) ++ rest =
        '\\' :: c :: (closed delimiter es ++ rest) := rfl
      rw [hw, body?_escaped hd, ih]
      rfl

theorem exists_closed_of_body? {c : Cursor} {r : Reading (List Char)}
    (h : body? delimiter c = some r) :
    ∃ es rest, Valid delimiter es ∧ c = closed delimiter es ++ rest ∧
      r = ⟨es.map Element.value, (closed delimiter es).length⟩ := by
  fun_induction body? delimiter c generalizing r with
  | case1 => cases h
  | case2 rest =>
    cases h
    exact ⟨[], rest, List.forall_mem_nil _, rfl, rfl⟩
  | case3 => cases h
  | case4 e rest _ ih =>
    obtain ⟨s, hs, rfl⟩ := Option.map_eq_some_iff.1 h
    obtain ⟨es, rest, hes, rfl, rfl⟩ := ih hs
    refine ⟨.escaped e :: es, rest, ?_, rfl, rfl⟩
    exact List.forall_mem_cons.2 ⟨trivial, hes⟩
  | case5 c rest hd hb ih =>
    obtain ⟨s, hs, rfl⟩ := Option.map_eq_some_iff.1 h
    obtain ⟨es, rest, hes, rfl, rfl⟩ := ih hs
    refine ⟨.plain c :: es, rest, ?_, rfl, rfl⟩
    exact List.forall_mem_cons.2 ⟨⟨hd, hb⟩, hes⟩

/-- A closing delimiter is found in every text that contains a quoted text, wherever it is. -/
theorem isSome_body?_append_quote (hd : delimiter ≠ '\\') {es : List Element}
    (hes : Valid delimiter es) (before rest : List Char) :
    (body? delimiter (before ++ (quote delimiter es ++ rest))).isSome := by
  fun_induction body? delimiter before with
  | case1 => exact Option.isSome_of_eq_some (body?_delimiter _)
  | case2 before => exact Option.isSome_of_eq_some (body?_delimiter _)
  | case3 =>
    -- the backslash takes the opening delimiter, so the closing one ends the text
    have hw : ['\\'] ++ (quote delimiter es ++ rest) =
      '\\' :: delimiter :: (closed delimiter es ++ rest) := rfl
    rw [hw, body?_escaped hd, body?_closed hd hes]
    rfl
  | case4 e before _ ih =>
    rw [List.cons_append, List.cons_append, body?_escaped hd, Option.isSome_map]
    exact ih
  | case5 c before h1 h2 ih =>
    rw [List.cons_append, body?_plain ⟨h1, h2⟩, Option.isSome_map]
    exact ih

theorem body?_eq_none_of_not_mem {plain : Cursor} (hp : delimiter ∉ plain) :
    body? delimiter plain = none := by
  cases h : body? delimiter plain with
  | none => rfl
  | some r =>
    obtain ⟨es, rest, -, rfl, -⟩ := exists_closed_of_body? h
    simp [closed] at hp

theorem isSome_body?_append_of_not_mem (hd : delimiter ≠ '\\') (before : List Char)
    {plain : List Char} (hp : delimiter ∉ plain) :
    (body? delimiter (before ++ plain)).isSome = (body? delimiter before).isSome := by
  fun_induction body? delimiter before with
  | case1 => rw [List.nil_append, body?_eq_none_of_not_mem hp]
  | case2 before => rw [List.cons_append, body?_delimiter]
  | case3 =>
    cases plain with
    | nil => simp [body?, hd.symm]
    | cons e plain =>
      have hp' : delimiter ∉ plain := fun h => hp (List.mem_cons_of_mem _ h)
      rw [List.singleton_append, body?_escaped hd, body?_eq_none_of_not_mem hp']
      rfl
  | case4 e before _ ih =>
    rw [List.cons_append, List.cons_append, body?_escaped hd, Option.isSome_map, ih,
      Option.isSome_map]
  | case5 c before h1 h2 ih =>
    rw [List.cons_append, body?_plain ⟨h1, h2⟩, Option.isSome_map, ih, Option.isSome_map]

/-! ## The text with both delimiters -/

theorem scan?_quote (hd : delimiter ≠ '\\') {es : List Element} (hes : Valid delimiter es)
    (rest : Cursor) :
    scan? delimiter (quote delimiter es ++ rest) =
      some ⟨es.map Element.value, (quote delimiter es).length⟩ := by
  have hw : quote delimiter es ++ rest = delimiter :: (closed delimiter es ++ rest) := rfl
  rw [hw, scan?, if_pos rfl, body?_closed hd hes]
  rfl

theorem exists_quote_of_scan? {c : Cursor} {r : Reading (List Char)}
    (h : scan? delimiter c = some r) :
    ∃ es rest, Valid delimiter es ∧ c = quote delimiter es ++ rest ∧
      r = ⟨es.map Element.value, (quote delimiter es).length⟩ := by
  unfold scan? at h
  split at h
  · cases h
  · rename_i c rest
    split at h
    · rename_i hc
      obtain ⟨s, hs, rfl⟩ := Option.map_eq_some_iff.1 h
      obtain ⟨es, rest, hes, rfl, rfl⟩ := exists_closed_of_body? hs
      exact ⟨es, rest, hes, by rw [hc]; rfl, rfl⟩
    · cases h

/-- **An encoded text is read back,** whatever stands behind it. -/
theorem scan?_encode (hd : delimiter ≠ '\\') (text : List Char) (rest : Cursor) :
    scan? delimiter (encode delimiter text ++ rest) =
      some ⟨text, (encode delimiter text).length⟩ := by
  have hvalue : (text.map (Element.ofChar delimiter)).map Element.value = text := by
    simp [Function.comp_def]
  rw [encode_eq_quote, scan?_quote hd (valid_map_ofChar delimiter text), hvalue]

/-- **Scanning finds exactly the quoted texts.** -/
theorem scan?_eq_some_iff (hd : delimiter ≠ '\\') {c : Cursor} {r : Reading (List Char)} :
    scan? delimiter c = some r ↔ ∃ es rest, Valid delimiter es ∧
      c = quote delimiter es ++ rest ∧
      r = ⟨es.map Element.value, (quote delimiter es).length⟩ := by
  constructor
  · exact exists_quote_of_scan?
  · rintro ⟨es, rest, hes, rfl, rfl⟩
    exact scan?_quote hd hes rest

theorem scan?_eq_none_iff (hd : delimiter ≠ '\\') {c : Cursor} :
    scan? delimiter c = none ↔ ∀ es, Valid delimiter es → ¬ quote delimiter es <+: c := by
  constructor
  · rintro h es hes ⟨rest, rfl⟩
    rw [scan?_quote hd hes] at h
    cases h
  · intro h
    cases hc : scan? delimiter c with
    | none => rfl
    | some r =>
      obtain ⟨es, rest, hes, rfl, -⟩ := exists_quote_of_scan? hc
      exact absurd (List.prefix_append _ rest) (h es hes)

/-! ## Elements -/

theorem closed_append_inj {es fs : List Element} (hes : Valid delimiter es)
    (hfs : Valid delimiter fs) (hd : delimiter ≠ '\\') {rest rest' : List Char}
    (h : closed delimiter es ++ rest = closed delimiter fs ++ rest') : es = fs ∧ rest = rest' := by
  induction es generalizing fs with
  | nil =>
    cases fs with
    | nil => exact ⟨rfl, (List.cons.inj h).2⟩
    | cons f fs =>
      have hf := hfs f List.mem_cons_self
      cases f with
      | plain c => exact absurd (List.cons.inj h).1.symm hf.1
      | escaped c => exact absurd (List.cons.inj h).1 hd
  | cons e es ih =>
    have he := hes e List.mem_cons_self
    have hes' : Valid delimiter es := fun x hx => hes x (List.mem_cons_of_mem _ hx)
    cases fs with
    | nil =>
      cases e with
      | plain c => exact absurd (List.cons.inj h).1 he.1
      | escaped c => exact absurd (List.cons.inj h).1.symm hd
    | cons f fs =>
      have hf := hfs f List.mem_cons_self
      have hfs' : Valid delimiter fs := fun x hx => hfs x (List.mem_cons_of_mem _ hx)
      cases e with
      | plain c =>
        cases f with
        | plain c' =>
          obtain ⟨rfl, ht⟩ := List.cons.inj h
          obtain ⟨rfl, hr⟩ := ih hes' hfs' ht
          exact ⟨rfl, hr⟩
        | escaped c' => exact absurd (List.cons.inj h).1 he.2
      | escaped c =>
        cases f with
        | plain c' => exact absurd (List.cons.inj h).1.symm hf.2
        | escaped c' =>
          obtain ⟨rfl, ht⟩ := List.cons.inj (List.cons.inj h).2
          obtain ⟨rfl, hr⟩ := ih hes' hfs' ht
          exact ⟨rfl, hr⟩

theorem quote_append_inj (hd : delimiter ≠ '\\') {es fs : List Element}
    (hes : Valid delimiter es) (hfs : Valid delimiter fs) {rest rest' : List Char}
    (h : quote delimiter es ++ rest = quote delimiter fs ++ rest') : es = fs ∧ rest = rest' :=
  closed_append_inj hes hfs hd (List.cons.inj h).2

end

end TypedExtraction.Text.Quoted
