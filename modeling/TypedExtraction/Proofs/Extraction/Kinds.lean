import TypedExtraction.Proofs.Extraction.Slots

/-!
# Kinds chosen while the program runs

For each kind there is a type that could have been fixed in advance
(`Kind.type`), and a slot for the kind reads just what a slot of that type
reads, wrapped as a value (`Kind.reader_eq_map`). A `Holding` stands for both
slots at once. A run with the slots of one sort mirrors the run with the slots
of the other, step by step (`mirrors_run`), and so do the extractions.
-/

namespace TypedExtraction

open Text Extraction

namespace Kind

/-- The type that could have been fixed in advance for the values of a kind. -/
def type : Kind → ValueType
  | .char => .char
  | .str => .string
  | .unsigned => .unsigned 64
  | .signed => .signed 64
  | .bool => .bool
  | .tail => .tail

/-- What has the type of a kind, as a value of the kind. -/
def wrap : (kind : Kind) → kind.type.Carrier → Value
  | .char => .char
  | .str => .str
  | .unsigned => .unsigned
  | .signed => .signed
  | .bool => .bool
  | .tail => .tail

@[simp] theorem kind_wrap (kind : Kind) (v : kind.type.Carrier) : (kind.wrap v).kind = kind := by
  cases kind <;> rfl

theorem reader_eq_map (kind : Kind) : kind.reader = kind.type.reader.map kind.wrap := by
  cases kind <;> rfl

end Kind

structure Holding where
  kind : Kind
  content : Option kind.type.Carrier

namespace Holding

def fixed (h : Holding) : Slot := ⟨h.kind.type, h.content⟩

def chosen (h : Holding) : Slot := ⟨.dynamic h.kind, h.content.map h.kind.wrap⟩

def clear (h : Holding) : Holding := ⟨h.kind, none⟩

def found (h : Holding) (input : Cursor) : Option (Reading h.kind.type.Carrier) :=
  h.kind.type.reader.read? input

/-- What was held is lost, also where nothing is found. -/
def fill (h : Holding) (input : Cursor) : Holding := ⟨h.kind, (h.found input).map Reading.value⟩

theorem clear_fixed (h : Holding) : h.fixed.clear = h.clear.fixed := rfl

theorem clear_chosen (h : Holding) : h.chosen.clear = h.clear.chosen := rfl

/-- A run-time test for the kind tells a tail as the type does. -/
theorem isTail_chosen (h : Holding) : h.chosen.isTail = h.fixed.isTail := by
  show h.kind.reader.takesRest = h.kind.type.reader.takesRest
  rw [h.kind.reader_eq_map]
  rfl

theorem fill_fixed (h : Holding) (input : Cursor) :
    h.fixed.fill input = ((h.fill input).fixed, Reading.lengthOf (h.found input)) :=
  Slot.fill_eq _ _

theorem fill_chosen (h : Holding) (input : Cursor) :
    h.chosen.fill input = ((h.fill input).chosen, Reading.lengthOf (h.found input)) := by
  have hread : (ValueType.dynamic h.kind).reader.read? input =
      (h.found input).map (Reading.map h.kind.wrap) := by
    show h.kind.reader.read? input = _
    rw [h.kind.reader_eq_map]
    rfl
  show (Slot.fill ⟨.dynamic h.kind, _⟩ input) = _
  rw [Slot.fill_eq, hread, Reading.lengthOf_map]
  simp only [chosen, fill, Option.map_map, Function.comp_def, Reading.value_map]

end Holding

namespace Extraction

/-- Two reports that tell the same, the one of slots for the chosen kinds and the other of slots of
their types. -/
structure Report.Mirrors (chosen fixed : Report) (kinds : List Kind) : Prop where
  outcome_eq : chosen.outcome = fixed.outcome
  events_eq : chosen.events = fixed.events
  exists_row : ∃ row : List Holding, row.map Holding.kind = kinds ∧
    chosen.slots = row.map Holding.chosen ∧ fixed.slots = row.map Holding.fixed

section
variable {kinds : List Kind} {template : Template} {input : Cursor}

theorem Report.mirrors_row (outcome : Outcome) (row : List Holding) (events : List Event) :
    Mirrors ⟨outcome, row.map Holding.chosen, events⟩ ⟨outcome, row.map Holding.fixed, events⟩
      (row.map Holding.kind) :=
  ⟨rfl, rfl, row, rfl, rfl, rfl⟩

theorem Report.Mirrors.settle {chosen fixed : Report} (h : chosen.Mirrors fixed kinds)
    (template : Template) : (chosen.settle template).Mirrors (fixed.settle template) kinds := by
  obtain ⟨row, hkinds, hchosen, hfixed⟩ := h.exists_row
  unfold Report.settle
  rw [h.outcome_eq, h.events_eq]
  split
  · exact h
  · refine ⟨rfl, rfl, row.map Holding.clear, ?_, ?_, ?_⟩
    · rw [List.map_map, ← hkinds]
      rfl
    · rw [hchosen, List.map_map, List.map_map]
      exact List.map_congr_left fun g _ => g.clear_chosen
    · rw [hfixed, List.map_map, List.map_map]
      exact List.map_congr_left fun g _ => g.clear_fixed

/-- **Slots for chosen kinds and slots of their types go through a run alike.** -/
theorem mirrors_run (joker : Char) (index : Nat) (row : List Holding) (template : List Char)
    (input : Cursor) :
    (run joker index (row.map Holding.chosen) template input).Mirrors
      (run joker index (row.map Holding.fixed) template input) (row.map Holding.kind) := by
  induction row generalizing index template input with
  | nil =>
    have hnil := List.map_eq_nil_iff.1 (map_type_run joker index [] template input)
    exact ⟨rfl, rfl, [], rfl, hnil, hnil⟩
  | cons g row ih =>
    -- one step: both slots of `g` are tails or both are not, and both take the same characters
    simp only [List.map_cons, run, g.isTail_chosen, g.fill_chosen, g.fill_fixed]
    split
    · exact Report.mirrors_row _ (g :: row) _
    · split
      · exact Report.mirrors_row _ (g :: row) _
      · split
        · exact Report.mirrors_row _ (g.fill _ :: row) _
        · rename_i template' input' _ _ _
          have hmore := ih (index + 1) template'
            (input'.advance (Reading.lengthOf (g.found input')))
          obtain ⟨more, hkinds, hchosen, hfixed⟩ := hmore.exists_row
          refine ⟨hmore.outcome_eq, ?_, g.fill input' :: more, ?_, ?_, ?_⟩
          · simp only [hmore.events_eq]
          · simp [hkinds, Holding.fill]
          · simp only [hchosen, List.map_cons]
          · simp only [hfixed, List.map_cons]

theorem mirrors_extract (template : Template) (input : Cursor) (kinds : List Kind) :
    (extractKinds template input kinds).Mirrors
      (extract template input (kinds.map fun kind => .empty kind.type)) kinds := by
  obtain ⟨row, hkinds, hchosen, hfixed⟩ : ∃ row : List Holding, row.map Holding.kind = kinds ∧
      (kinds.map fun kind => Slot.empty (.dynamic kind)) = row.map Holding.chosen ∧
      (kinds.map fun kind => Slot.empty kind.type) = row.map Holding.fixed := by
    refine ⟨kinds.map fun kind => ⟨kind, none⟩, ?_, ?_, ?_⟩ <;> rw [List.map_map]
    · exact List.map_id kinds
    · rfl
    · rfl
  rw [extractKinds, hchosen, hfixed]
  subst hkinds
  unfold extract
  simp only [List.length_map]
  apply Report.Mirrors.settle
  split
  · exact Report.mirrors_row _ row _
  · split
    · exact Report.mirrors_row _ row _
    · exact mirrors_run _ _ row _ _

theorem isSome_content_iff {row : List Holding} {g : Holding}
    (hrow : (extractKinds template input kinds).slots = row.map Holding.chosen) (hg : g ∈ row) :
    g.content.isSome = true ↔ (extractKinds template input kinds).outcome = .ok := by
  have hmem : g.chosen ∈ (extractKinds template input kinds).slots := by
    rw [hrow]
    exact List.mem_map_of_mem hg
  have hfull := isFull_of_mem_slots_extract hmem
  rwa [Slot.isFull, Holding.chosen, Option.isSome_map] at hfull

theorem exists_values_of_row {row : List Holding} (h : ∀ g ∈ row, g.content.isSome = true) :
    ∃ values : List Value, values.map Value.kind = row.map Holding.kind ∧
      (row.map Holding.chosen).map Slot.value? = values.map some := by
  induction row with
  | nil => exact ⟨[], rfl, rfl⟩
  | cons g row ih =>
    obtain ⟨hg, hrow⟩ := List.forall_mem_cons.1 h
    obtain ⟨v, hv⟩ := Option.isSome_iff_exists.1 hg
    obtain ⟨values, hkinds, hvalues⟩ := ih hrow
    refine ⟨g.kind.wrap v :: values, ?_, ?_⟩
    · simp [hkinds]
    · simp [hvalues, Holding.chosen, Slot.value?, hv]

theorem exists_values_extractKinds (h : (extractKinds template input kinds).outcome = .ok) :
    ∃ values : List Value, values.map Value.kind = kinds ∧
      (extractKinds template input kinds).slots.map Slot.value? = values.map some := by
  obtain ⟨row, hkinds, hchosen, -⟩ := (mirrors_extract template input kinds).exists_row
  have hfull : ∀ g ∈ row, g.content.isSome = true := fun g hg =>
    (isSome_content_iff hchosen hg).2 h
  obtain ⟨values, hv, hvalues⟩ := exists_values_of_row hfull
  exact ⟨values, hv.trans hkinds, by rw [hchosen, hvalues]⟩

end

/-- **Choosing kinds while the program runs is as good as fixing types in advance.** The outcome is
that of the extraction into empty slots of the types of the kinds. There is one value for each kind,
in order: what the slot of its type holds, wrapped as a value of the kind. So on success each value
is there and of its kind, and on any other outcome none is. -/
theorem extractKinds_eq_fixed (template : Template) (input : Cursor) (kinds : List Kind) :
    let fixed := extract template input (kinds.map fun kind => .empty kind.type)
    let chosen := extractKinds template input kinds
    let values := chosen.slots.map Slot.value?
    chosen.outcome = fixed.outcome ∧ fixed.slots.length = kinds.length ∧
      values.length = kinds.length ∧
      ∀ (i : Nat) (kind : Kind), kinds[i]? = some kind → ∃ content : Option kind.type.Carrier,
        fixed.slots[i]? = some ⟨kind.type, content⟩ ∧
        values[i]? = some (content.map kind.wrap) ∧
        (chosen.outcome = .ok → ∃ v : Value, values[i]? = some (some v) ∧ v.kind = kind) ∧
        (chosen.outcome ≠ .ok → values[i]? = some none) := by
  intro fixed chosen values
  have hm : chosen.Mirrors fixed kinds := mirrors_extract template input kinds
  obtain ⟨row, hkinds, hchosen, hfixed⟩ := hm.exists_row
  have hvalues : values = (row.map Holding.chosen).map Slot.value? := by rw [← hchosen]
  refine ⟨hm.outcome_eq, ?_, ?_, fun i kind hi => ?_⟩
  · rw [hfixed, ← hkinds, List.length_map, List.length_map]
  · rw [hvalues, ← hkinds, List.length_map, List.length_map, List.length_map]
  · rw [← hkinds, List.getElem?_map] at hi
    obtain ⟨g, hg, rfl⟩ := Option.map_eq_some_iff.1 hi
    have hv : values[i]? = some (g.content.map g.kind.wrap) := by
      rw [hvalues, List.getElem?_map, List.getElem?_map, hg]
      rfl
    have hsome := isSome_content_iff hchosen (List.mem_of_getElem? hg)
    refine ⟨g.content, ?_, hv, fun hok => ?_, fun hno => ?_⟩
    · rw [hfixed, List.getElem?_map, hg]
      rfl
    · obtain ⟨v, hcontent⟩ := Option.isSome_iff_exists.1 (hsome.2 hok)
      rw [hcontent] at hv
      exact ⟨g.kind.wrap v, hv, g.kind.kind_wrap v⟩
    · have hnone : g.content = none := by simpa using mt hsome.1 hno
      rw [hv, hnone]
      rfl

end Extraction

end TypedExtraction
