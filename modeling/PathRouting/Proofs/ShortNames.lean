import PathRouting.TypeName

/-!
# Short type names

The short name of a type is what follows the last `::` of its full name. In a run of colons the last
`::` is at the end of the run, overlapping the one before it, so no other is left behind it. A name
that opens a compound keeps all its parts.
-/

namespace PathRouting.TypeName
set_option autoImplicit false

/-- There is a mark in the name with the rest right after it. -/
def Leaves (full rest : String) : Prop := ∃ modules, full = modules ++ "::" ++ rest

/-- There is a mark somewhere in the name. -/
def Marked (full : String) : Prop := ∃ rest, Leaves full rest

/-- A character of the name opens a list of arguments, a tuple, an array or a reference. -/
def Compound (full : String) : Prop := ∃ c ∈ full.toList, c ∈ ['<', '(', '[', '&']

/-- The characters end with a mark and the rest. -/
def FollowsMark (cs rest : List Char) : Prop := ':' :: ':' :: rest <:+ cs

theorem followsMark_toList_iff {full rest : String} :
    FollowsMark full.toList rest.toList ↔ Leaves full rest := by
  constructor
  · rintro ⟨modules, h⟩
    refine ⟨String.ofList modules, String.toList_inj.mp ?_⟩
    rw [← h]
    simp
  · rintro ⟨modules, rfl⟩
    exact ⟨modules.toList, by simp⟩

section
variable {cs rest other : List Char}

theorem followsMark_cons_iff {c : Char} :
    FollowsMark (c :: cs) rest ↔ (c = ':' ∧ cs = ':' :: rest) ∨ FollowsMark cs rest := by
  rw [FollowsMark, List.suffix_cons_iff, List.cons.injEq]
  simp only [FollowsMark, eq_comm]

theorem FollowsMark.length_lt (h : FollowsMark cs rest) : rest.length + 1 < cs.length := h.length_le

theorem FollowsMark.suffix (h : FollowsMark cs rest) : rest <:+ cs :=
  (List.suffix_append [':', ':'] rest).trans h

theorem FollowsMark.trans (h : FollowsMark cs rest) (hother : FollowsMark rest other) :
    FollowsMark cs other := List.IsSuffix.trans hother h.suffix

theorem afterLastMark_cons_of_some (h : afterLastMark cs = some rest) (c : Char) :
    afterLastMark (c :: cs) = some rest := by
  rw [afterLastMark, h]

theorem afterLastMark_cons_of_none (h : afterLastMark cs = none) (c : Char) :
    afterLastMark (c :: cs) = if c = ':' ∧ cs.head? = some ':' then some cs.tail else none := by
  rw [afterLastMark, h]

theorem afterLastMark_cases (cs : List Char) :
    (afterLastMark cs = none ∧ ∀ rest, ¬FollowsMark cs rest) ∨
    ∃ rest, afterLastMark cs = some rest ∧ FollowsMark cs rest ∧
      ∀ other, FollowsMark cs other → rest.length ≤ other.length := by
  induction cs with
  | nil => exact Or.inl ⟨rfl, fun rest h => absurd h.length_lt (Nat.not_lt_zero _)⟩
  | cons c cs ih =>
    rcases ih with ⟨hnone, hunmarked⟩ | ⟨rest, hsome, hrest, hleast⟩
    · rw [afterLastMark_cons_of_none hnone]
      by_cases hmark : c = ':' ∧ cs.head? = some ':'
      · obtain ⟨rfl, hhead⟩ := hmark
        obtain ⟨rest, rfl⟩ := List.head?_eq_some_iff.mp hhead
        refine Or.inr ⟨rest, rfl, followsMark_cons_iff.mpr (Or.inl ⟨rfl, rfl⟩), ?_⟩
        intro other hother
        rcases followsMark_cons_iff.mp hother with ⟨-, hsame⟩ | hlater
        · cases hsame
          exact Nat.le_refl _
        · exact absurd hlater (hunmarked other)
      · refine Or.inl ⟨if_neg hmark, ?_⟩
        intro rest hrest
        rcases followsMark_cons_iff.mp hrest with ⟨rfl, rfl⟩ | hlater
        · exact hmark ⟨rfl, rfl⟩
        · exact hunmarked rest hlater
    · rw [afterLastMark_cons_of_some hsome]
      refine Or.inr ⟨rest, rfl, followsMark_cons_iff.mpr (Or.inr hrest), ?_⟩
      intro other hother
      rcases followsMark_cons_iff.mp hother with ⟨-, rfl⟩ | hlater
      · -- A mark at the front can share its second colon with the mark before the rest.
        have hlength := hrest.length_lt
        rw [List.length_cons] at hlength
        omega
      · exact hleast other hlater

end

variable {full : String}

theorem any_opensCompound_iff : full.toList.any opensCompound ↔ Compound full := by
  simp [Compound, opensCompound, or_assoc]

theorem short_of_compound (h : Compound full) : short full = full :=
  if_pos (any_opensCompound_iff.mpr h)

theorem short_of_not_compound (h : ¬Compound full) :
    short full = match afterLastMark full.toList with
      | some rest => String.ofList rest
      | none => full :=
  if_neg (mt any_opensCompound_iff.mp h)

theorem short_of_not_marked (h : ¬Marked full) : short full = full := by
  by_cases hcompound : Compound full
  · exact short_of_compound hcompound
  · rw [short_of_not_compound hcompound]
    rcases afterLastMark_cases full.toList with ⟨hnone, -⟩ | ⟨rest, -, hrest, -⟩
    · rw [hnone]
    · rw [← String.toList_ofList (l := rest), followsMark_toList_iff] at hrest
      exact absurd ⟨_, hrest⟩ h

theorem short_of_marked (hcompound : ¬Compound full) (h : Marked full) :
    Leaves full (short full) ∧ ∀ rest, Leaves full rest → (short full).length ≤ rest.length := by
  obtain ⟨other, hother⟩ := h
  rw [short_of_not_compound hcompound]
  rcases afterLastMark_cases full.toList with ⟨-, hunmarked⟩ | ⟨last, hlast, hmarked, hleast⟩
  · exact absurd (followsMark_toList_iff.mpr hother) (hunmarked _)
  · rw [hlast]
    constructor
    · rw [← followsMark_toList_iff, String.toList_ofList]
      exact hmarked
    · intro rest hrest
      rw [← String.length_toList, ← String.length_toList, String.toList_ofList]
      exact hleast _ (followsMark_toList_iff.mpr hrest)

theorem Leaves.length_lt {rest : String} (h : Leaves full rest) : rest.length < full.length := by
  obtain ⟨modules, rfl⟩ := h
  simp only [String.length_append]
  have hmark : "::".length = 2 := rfl
  omega

theorem Leaves.trans {rest other : String} (h : Leaves full rest) (hother : Leaves rest other) :
    Leaves full other := by
  rw [← followsMark_toList_iff] at h hother ⊢
  exact h.trans hother

theorem not_marked_short (hcompound : ¬Compound full) : ¬Marked (short full) := by
  by_cases h : Marked full
  · -- What follows a mark in the short name follows one in the full name, and would be shorter.
    obtain ⟨hshort, hleast⟩ := short_of_marked hcompound h
    rintro ⟨rest, hrest⟩
    exact absurd (hleast rest (hshort.trans hrest)) (Nat.not_le.mpr hrest.length_lt)
  · rwa [short_of_not_marked h]

theorem exists_eq_append_short (full : String) : ∃ dropped, full = dropped ++ short full := by
  by_cases h : Marked full ∧ ¬Compound full
  · obtain ⟨modules, hmodules⟩ := (short_of_marked h.2 h.1).1
    exact ⟨modules ++ "::", hmodules⟩
  · have hkept : short full = full := by
      by_cases hcompound : Compound full
      · exact short_of_compound hcompound
      · exact short_of_not_marked fun hmarked => h ⟨hmarked, hcompound⟩
    exact ⟨"", by rw [hkept, String.empty_append]⟩

theorem short_short (full : String) : short (short full) = short full := by
  by_cases h : Compound full
  · rw [short_of_compound h, short_of_compound h]
  · exact short_of_not_marked (not_marked_short h)

/-- A short name is the shortest end of the full name that follows a mark, unless the name is compound
or without a mark. -/
theorem short_drops_the_qualification (full : String) :
    (∃ dropped, full = dropped ++ short full) ∧
    (Compound full → short full = full) ∧
    (¬Compound full →
      (Marked full →
        Leaves full (short full) ∧ ∀ rest, Leaves full rest → (short full).length ≤ rest.length) ∧
      (¬Marked full → short full = full) ∧
      ¬Marked (short full)) ∧
    short (short full) = short full := by
  refine ⟨exists_eq_append_short full, short_of_compound, ?simple, short_short full⟩
  case simple =>
    intro hcompound
    exact ⟨short_of_marked hcompound, short_of_not_marked, not_marked_short hcompound⟩

example : ["a:::b", "a::b::", "alloc::vec::Vec<u8>"].map short =
    ["b", "", "alloc::vec::Vec<u8>"] := by decide

end PathRouting.TypeName
