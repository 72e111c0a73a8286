import Mathlib.Data.List.Basic
import TypedExtraction.Extraction
import TypedExtraction.Proofs.Reader

/-!
# Walks through template and input

A `Piece` is a literal text of a template together with the value that the
joker behind it stands for. `Walk joker pieces template input template' input'`
says that `pieces` lead through template and input to what is left of both. A
walk drives the extraction (`run_of_walk`): its pieces are consumed one after the
other, and the run goes on where the walk ends. Template, input and types leave
no choice between walks (`Walk.eq_of_types`).
-/

namespace TypedExtraction.Extraction

open Text

/-- A literal text of a template and the value that the joker behind it stands for. -/
structure Piece where
  literal : List Char
  type : ValueType
  value : type.Carrier
  /-- The characters that are the value. -/
  word : List Char

namespace Piece

def pattern (joker : Char) (p : Piece) : List Char := p.literal ++ [joker]

def text (p : Piece) : List Char := p.literal ++ p.word

def slot (p : Piece) : Slot := ⟨p.type, some p.value⟩

/-- The word of a piece is just what the reader of its type takes where `rest` lies behind the word;
only a reader that takes the rest may take nothing. -/
def Reads (p : Piece) (rest : Cursor) : Prop :=
  p.type.reader.read? (p.word ++ rest) = some ⟨p.value, p.word.length⟩ ∧
    (p.type.reader.takesRest = false → p.word ≠ [])

theorem Reads.eq {p q : Piece} {rest rest' : Cursor} (hp : p.Reads rest) (hq : q.Reads rest')
    (hl : p.literal = q.literal) (ht : p.type = q.type) (h : p.word ++ rest = q.word ++ rest') :
    p = q ∧ rest = rest' := by
  obtain ⟨pl, pt, pv, pw⟩ := p
  obtain ⟨ql, qt, qv, qw⟩ := q
  obtain rfl : pl = ql := hl
  obtain rfl : pt = qt := ht
  have hr : some (⟨pv, pw.length⟩ : Reading pt.Carrier) = some ⟨qv, qw.length⟩ := by
    rw [← hp.1, ← hq.1, h]
  cases Reading.mk.inj (Option.some.inj hr) with
  | intro hv hw =>
    obtain ⟨rfl, rfl⟩ := List.append_inj h hw
    exact ⟨by rw [hv], rfl⟩

theorem exists_reads {t : ValueType} {input : Cursor} {r : Reading t.Carrier}
    (h : t.reader.read? input = some r) (literal : List Char) :
    ∃ word rest, input = word ++ rest ∧ Reads ⟨literal, t, r.value, word⟩ rest := by
  have hle := t.lawful_reader.length_le h
  have hlen : (input.take r.length).length = r.length := List.length_take_of_le hle
  refine ⟨input.take r.length, input.drop r.length, (List.take_append_drop _ _).symm, ?_, ?_⟩
  · rw [List.take_append_drop, hlen]
    exact h
  · intro htail (hw : input.take r.length = [])
    have hpos := t.lawful_reader.length_pos htail h
    rw [← hlen, hw] at hpos
    exact Nat.lt_irrefl 0 hpos

end Piece

/-- `pieces` lead through `template` and `input` to `template'` and `input'`. -/
structure Walk (joker : Char) (pieces : List Piece) (template : List Char) (input : Cursor)
    (template' : List Char) (input' : Cursor) : Prop where
  template_eq : template = pieces.flatMap (Piece.pattern joker) ++ template'
  input_eq : input = pieces.flatMap Piece.text ++ input'
  joker_not_mem : ∀ p ∈ pieces, joker ∉ p.literal
  reads : ∀ before p after, pieces = before ++ p :: after →
    p.Reads (after.flatMap Piece.text ++ input')

section
variable {joker : Char} {template template' template'' : List Char} {input input' input'' : Cursor}

theorem walk_nil_iff :
    Walk joker [] template input template' input' ↔ template = template' ∧ input = input' := by
  constructor
  · exact fun h => ⟨h.template_eq, h.input_eq⟩
  · rintro ⟨rfl, rfl⟩
    exact ⟨rfl, rfl, by simp, by simp⟩

theorem walk_cons_iff {p : Piece} {ps : List Piece} :
    Walk joker (p :: ps) template input template' input' ↔
      ∃ t i, template = p.literal ++ joker :: t ∧ input = p.literal ++ (p.word ++ i) ∧
        joker ∉ p.literal ∧ p.Reads i ∧ Walk joker ps t i template' input' := by
  constructor
  · intro h
    refine ⟨ps.flatMap (Piece.pattern joker) ++ template', ps.flatMap Piece.text ++ input', ?_, ?_,
      h.joker_not_mem p List.mem_cons_self, h.reads [] p ps rfl, rfl, rfl,
      fun q hq => h.joker_not_mem q (List.mem_cons_of_mem _ hq), ?_⟩
    · rw [h.template_eq]
      simp [Piece.pattern]
    · rw [h.input_eq]
      simp [Piece.text]
    · intro before q after heq
      exact h.reads (p :: before) q after (congrArg (p :: ·) heq)
  · rintro ⟨t, i, rfl, rfl, hj, hp, h⟩
    refine ⟨?_, ?_, ?_, ?_⟩
    · rw [h.template_eq]
      simp [Piece.pattern]
    · rw [h.input_eq]
      simp [Piece.text]
    · exact List.forall_mem_cons.2 ⟨hj, h.joker_not_mem⟩
    · intro before q after heq
      cases before with
      | nil =>
        obtain ⟨rfl, rfl⟩ := List.cons.inj heq
        rw [← h.input_eq]
        exact hp
      | cons b before => exact h.reads before q after (List.cons.inj heq).2

theorem Walk.exists_cons {ps : List Piece} {literal t : List Char} {type : ValueType}
    {types : List ValueType} (h : Walk joker ps (literal ++ joker :: t) input template' input')
    (hj : joker ∉ literal) (ht : ps.map Piece.type = type :: types) :
    ∃ value word i qs, ps = ⟨literal, type, value, word⟩ :: qs ∧ input = literal ++ (word ++ i) ∧
      Piece.Reads ⟨literal, type, value, word⟩ i ∧ qs.map Piece.type = types ∧
      Walk joker qs t i template' input' := by
  cases ps with
  | nil => cases ht
  | cons p ps =>
    obtain ⟨l, pt, value, word⟩ := p
    obtain ⟨rfl, hts⟩ := List.cons.inj ht
    obtain ⟨t', i, htemplate, rfl, hj', hp, hw⟩ := walk_cons_iff.1 h
    obtain ⟨rfl, rfl⟩ := Cursor.append_cons_inj hj hj' htemplate
    exact ⟨value, word, i, ps, rfl, rfl, hp, hts, hw⟩

theorem Walk.append {ps qs : List Piece} (h : Walk joker ps template input template' input')
    (h' : Walk joker qs template' input' template'' input'') :
    Walk joker (ps ++ qs) template input template'' input'' := by
  induction ps generalizing template input with
  | nil =>
    obtain ⟨rfl, rfl⟩ := walk_nil_iff.1 h
    exact h'
  | cons p ps ih =>
    obtain ⟨t, i, ht, hi, hj, hp, hw⟩ := walk_cons_iff.1 h
    exact walk_cons_iff.2 ⟨t, i, ht, hi, hj, hp, ih hw⟩

theorem Walk.count_eq {ps : List Piece} (h : Walk joker ps template input template' input') :
    template.count joker = ps.length + template'.count joker := by
  induction ps generalizing template input with
  | nil =>
    obtain ⟨rfl, rfl⟩ := walk_nil_iff.1 h
    simp
  | cons p ps ih =>
    obtain ⟨t, i, rfl, rfl, hj, hp, hw⟩ := walk_cons_iff.1 h
    rw [List.count_append, List.count_eq_zero.2 hj, List.count_cons_self, ih hw, List.length_cons]
    omega

/-- **There is no choice on a walk.** -/
theorem Walk.eq_of_types {ps qs : List Piece} (h : Walk joker ps template input template' input')
    (h' : Walk joker qs template input template'' input'')
    (ht : ps.map Piece.type = qs.map Piece.type) :
    ps = qs ∧ template' = template'' ∧ input' = input'' := by
  induction ps generalizing qs template input with
  | nil =>
    obtain rfl := List.map_eq_nil_iff.1 ht.symm
    obtain ⟨rfl, rfl⟩ := walk_nil_iff.1 h
    exact ⟨rfl, walk_nil_iff.1 h'⟩
  | cons p ps ih =>
    cases qs with
    | nil => cases ht
    | cons q qs =>
      obtain ⟨hpq, hts⟩ := List.cons.inj ht
      obtain ⟨t, i, rfl, rfl, hj, hp, hw⟩ := walk_cons_iff.1 h
      obtain ⟨t', i', htemplate, hinput, hj', hp', hw'⟩ := walk_cons_iff.1 h'
      obtain ⟨hl, rfl⟩ := Cursor.append_cons_inj hj hj' htemplate
      rw [hl] at hinput
      obtain ⟨rfl, rfl⟩ := hp.eq hp' hl hpq (List.append_cancel_left hinput)
      obtain ⟨rfl, hend⟩ := ih hw hw' hts
      exact ⟨rfl, hend⟩

end

end TypedExtraction.Extraction
