import TypedExtraction.Proofs.Repetition.Language

/-!
# Unambiguous class lists

In general the member declared first decides, and matching may miss texts of the
language or cut them short. A class list is `Unambiguous` on an input if
wherever several members match they take the same number of characters. Then
there is at most one way to cut the input into words, a sweep goes along it, and
so it finds what there is to be found (`Positions.le_of_mem_pow`). The order of the
members makes no difference (`matchAt?_perm`).
-/

namespace TypedExtraction

open Text

namespace Member

/-- All members that match at the same place of an input take the same number of characters. -/
def Unambiguous (members : List Member) (input : Cursor) : Prop :=
  ∀ suffix, suffix <:+ input → ∀ m ∈ members, ∀ m' ∈ members, ∀ n n',
    m.lengthAt? suffix = some n → m'.lengthAt? suffix = some n' → n = n'

section
variable {members members' : List Member} {input : Cursor} {word word' text : List Char} {n : Nat}

theorem Unambiguous.drop (h : Unambiguous members input) (n : Nat) :
    Unambiguous members (input.drop n) :=
  fun suffix hs => h suffix (hs.trans (List.drop_suffix n input))

theorem Unambiguous.eq_of_isPrefix (h : Unambiguous members input) (hw : word ∈ words members)
    (hw' : word' ∈ words members) (hp : word <+: input) (hp' : word' <+: input) : word = word' := by
  obtain ⟨m, hm, hw⟩ := hw
  obtain ⟨m', hm', hw'⟩ := hw'
  have hlen : word.length = word'.length :=
    h input List.suffix_rfl m hm m' hm' _ _ (lengthAt?_eq_some_iff.2 ⟨word, hw, hp, rfl⟩)
      (lengthAt?_eq_some_iff.2 ⟨word', hw', hp', rfl⟩)
  exact (List.prefix_of_prefix_length_le hp hp' (Nat.le_of_eq hlen)).eq_of_length hlen

/-- A class list none of whose words begins with another one is unambiguous everywhere. -/
theorem unambiguous_of_prefixFree
    (h : ∀ word ∈ words members, ∀ word' ∈ words members, word <+: word' → word = word')
    (input : Cursor) : Unambiguous members input := by
  intro suffix _ m hm m' hm' n n' hn hn'
  obtain ⟨word, hw, hp, rfl⟩ := lengthAt?_eq_some_iff.1 hn
  obtain ⟨word', hw', hp', rfl⟩ := lengthAt?_eq_some_iff.1 hn'
  rcases List.prefix_or_prefix_of_prefix hp hp' with hle | hle
  · rw [h word ⟨m, hm, hw⟩ word' ⟨m', hm', hw'⟩ hle]
  · rw [h word' ⟨m', hm', hw'⟩ word ⟨m, hm, hw⟩ hle]

/-- Where the empty literal is a member, no other word is at any place. -/
theorem Unambiguous.eq_nil_of_mem_pow (h : Unambiguous members input) (hempty : [] ∈ words members)
    (ht : text ∈ words members ^ n) (hp : text <+: input) : text = [] := by
  induction n generalizing text with
  | zero => exact mem_pow_zero.1 ht
  | succ n ih =>
    obtain ⟨word, hw, more, hm, rfl⟩ := mem_pow_succ.1 ht
    obtain rfl := h.eq_of_isPrefix hempty hw List.nil_prefix ((List.prefix_append _ _).trans hp)
    exact ih hm hp

theorem firstLength?_perm (hperm : members'.Perm members) (h : Unambiguous members input) :
    firstLength? members' input = firstLength? members input := by
  cases hn : firstLength? members input with
  | none =>
    rw [firstLength?_eq_none_iff] at hn ⊢
    exact fun m hm => hn m (hperm.mem_iff.1 hm)
  | some n =>
    obtain ⟨m, hm, hmn⟩ := List.exists_of_findSome?_eq_some hn
    cases hn' : firstLength? members' input with
    | none =>
      have hno := List.findSome?_eq_none_iff.1 hn' m (hperm.mem_iff.2 hm)
      rw [hno] at hmn
      cases hmn
    | some n' =>
      obtain ⟨m', hm', hmn'⟩ := List.exists_of_findSome?_eq_some hn'
      rw [h input List.suffix_rfl m' (hperm.mem_iff.1 hm') m hm _ _ hmn' hmn]

end

end Member

namespace Repetition

open Member

section
variable {members : List Member} {max p count : Nat} {input : Cursor} {ps : List Nat}
  {stop : Stop} {text : List Char}

/-- **No concatenation of words leads further than the positions.** Unless an empty literal stops
them, it has no more words than there are strides. -/
theorem Positions.le_of_mem_pow (h : Positions members max input p ps stop)
    (hu : Unambiguous members (input.drop p)) (ht : text ∈ words members ^ count)
    (hp : text <+: input.drop p) (hc : count ≤ max) :
    text.length ≤ ps.getLastD p - p ∧ (stop = .emptyMember ∨ count ≤ ps.length) := by
  -- where a stride is made, the first word of the text is the word of the stride
  induction count generalizing max p ps text with
  | zero =>
    obtain rfl := mem_pow_zero.1 ht
    exact ⟨Nat.zero_le _, .inr (Nat.zero_le _)⟩
  | succ count ih =>
    obtain ⟨word, hw, more, hm, heq⟩ := mem_pow_succ.1 ht
    have hfront : word <+: input.drop p := (heq ▸ List.prefix_append word more).trans hp
    cases ps with
    | nil =>
      have hstop := positions_nil_iff.1 h
      cases stop with
      | atMax =>
        have : 0 = max := hstop
        omega
      | noMember =>
        obtain ⟨m, hmem, hword⟩ := hw
        exact absurd ⟨word, hword, hfront⟩ (hstop m hmem)
      | emptyMember =>
        rw [hu.eq_nil_of_mem_pow hstop.2.mem_words ht hp]
        exact ⟨Nat.zero_le _, .inl rfl⟩
    | cons q ps =>
      obtain ⟨max, rfl, hpq, h⟩ := h.exists_of_cons
      obtain ⟨word', hw', hlen, hdrop⟩ := hpq.exists_word
      obtain rfl : word = word' := hu.eq_of_isPrefix hw hw' hfront ⟨_, hdrop.symm⟩
      have hle := h.le_getLastD
      have hlt := hpq.1
      have huq : Unambiguous members (input.drop q) := by
        have := hu.drop (q - p)
        rwa [List.drop_drop, Nat.add_sub_cancel' (Nat.le_of_lt hlt)] at this
      rw [← heq, hdrop, List.prefix_append_right_inj] at hp
      obtain ⟨hmore, hcount⟩ := ih h huq hm hp (Nat.le_of_succ_le_succ hc)
      rw [← heq, List.getLastD_cons, List.length_append, List.length_cons]
      exact ⟨by omega, hcount.imp id Nat.succ_le_succ⟩

end

variable {r r' : Repetition} {input : Cursor} {m : Match}

theorem matchAt?_perm (hu : Unambiguous r.members input) (hperm : r'.members.Perm r.members)
    (hmin : r'.min = r.min) (hmax : r'.max = r.max) : r'.matchAt? input = r.matchAt? input := by
  rw [matchAt?_eq_sweep, matchAt?_eq_sweep, hmin, hmax,
    sweep_congr fun n => firstLength?_perm hperm (hu.drop n)]

/-- **Matching with an unambiguous class list is complete and finds the longest match.** There is a
match at the front just where some text there is accepted, its length is the greatest one of such a
text, and what is matched in either mode does not depend on the order of the members. -/
theorem matchIn_of_unambiguous (r : Repetition) (input : Cursor)
    (hu : Unambiguous r.members input) :
    ((∃ m, r.matchIn .anchored input = .ok m) ↔ ∃ text count, r.Accepts input text count) ∧
    (∀ m, r.matchIn .anchored input = .ok m →
      IsGreatest {n | ∃ text count, r.Accepts input text count ∧ text.length = n} m.length) ∧
    (∀ r' : Repetition, r'.members.Perm r.members → r'.min = r.min → r'.max = r.max →
      ∀ mode, r'.matchIn mode input = r.matchIn mode input) := by
  refine ⟨⟨?_, ?_⟩, fun m hm => ⟨?_, ?_⟩, fun r' hperm hmin hmax mode => ?_⟩
  · rintro ⟨m, hm⟩
    exact ⟨_, _, accepts_of_matchAt? (matchIn_eq_ok_iff.1 hm)⟩
  · rintro ⟨text, count, hpre, hpow, hmin, hmax⟩
    obtain ⟨ps, stop, hps⟩ := exists_positions r.members r.max input 0
    obtain ⟨-, hcount⟩ := hps.le_of_mem_pow hu hpow hpre hmax
    have hsome : (r.matchAt? input).isSome = true :=
      hps.isSome_matchAt?_iff.2 (hcount.imp id (Nat.le_trans hmin))
    obtain ⟨m, hm⟩ := Option.isSome_iff_exists.1 hsome
    exact ⟨m, matchIn_eq_ok_iff.2 hm⟩
  · have hm := matchIn_eq_ok_iff.1 hm
    obtain ⟨-, hlen, htext⟩ := front_of_matchAt? hm
    refine ⟨_, _, accepts_of_matchAt? hm, ?_⟩
    rw [htext, List.length_take_of_le hlen]
  · rintro _ ⟨text, count, ⟨hpre, hpow, -, hmax⟩, rfl⟩
    obtain ⟨ps, stop, hps, -, rfl⟩ := exists_positions_of_matchAt? (matchIn_eq_ok_iff.1 hm)
    exact (hps.le_of_mem_pow hu hpow hpre hmax).1
  · exact matchIn_congr (fun n => matchAt?_perm (hu.drop n) hperm hmin hmax) mode

/-- Two literals and an interval, none of whose words begins with another one, in any order. -/
theorem matchIn_of_unambiguous_digits :
    let r : Repetition := ⟨[.literal "ab", .literal "ac", .interval '0' '9'], 2, 5, by decide,
      by decide⟩
    let r' : Repetition := ⟨[.interval '0' '9', .literal "ac", .literal "ab"], 2, 5, by decide,
      by decide⟩
    let input := "ab1ac7ab0.".toList
    Unambiguous r.members input ∧ r'.members.Perm r.members ∧
      (∃ m, r.matchIn .anchored input = .ok m ∧ m.length = 8 ∧
        IsGreatest {n | ∃ text count, r.Accepts input text count ∧ text.length = n} m.length) ∧
      r'.matchIn .scanning input = r.matchIn .scanning input := by
  intro r r' input
  have hwords : ∀ word, word ∈ words r.members ↔
      word = ['a', 'b'] ∨ word = ['a', 'c'] ∨ ∃ c, word = [c] ∧ '0' ≤ c ∧ c ≤ '9' := by
    intro word
    simp [r, mem_words, IsWord]
  have hletter : ¬ 'a' ≤ '9' := by decide
  have hu : Unambiguous r.members input := by
    refine unambiguous_of_prefixFree (fun word hw word' hw' hp => ?_) input
    rw [hwords] at hw hw'
    rcases hw with rfl | rfl | ⟨c, rfl, hc⟩ <;> rcases hw' with rfl | rfl | ⟨c', rfl, hc'⟩ <;>
      simp_all
  have hperm : r'.members.Perm r.members := by decide
  have hm : r.matchIn .anchored input = .ok ⟨0, "ab1ac7ab", 8, 5⟩ := by decide +kernel
  obtain ⟨-, hlongest, hany⟩ := matchIn_of_unambiguous r input hu
  exact ⟨hu, hperm, ⟨_, hm, rfl, hlongest _ hm⟩, hany r' hperm rfl rfl .scanning⟩

end Repetition

end TypedExtraction
