/-!
# Paths

A path is a list of segments. A segment is a text that holds at least one character and no
separator, so a path has one written form: its segments with a single `/` between them.
Reading a text keeps its non-empty pieces between separators, in order.
-/

namespace PathRouting
set_option autoImplicit false

/-- A text that can stand between two separators. -/
def IsSegment (s : String) : Prop := s ≠ "" ∧ '/' ∉ s.toList

instance (s : String) : Decidable (IsSegment s) := inferInstanceAs (Decidable (_ ∧ _))

/-- The non-empty pieces of a text between separators, in order. -/
def pieces (s : String) : List String :=
  ((s.toList.splitOn '/').filter (· ≠ [])).map String.ofList

theorem not_mem_of_mem_splitOn {sep : Char} {cs piece : List Char}
    (h : piece ∈ cs.splitOn sep) : sep ∉ piece := by
  induction cs generalizing piece with
  | nil =>
    rw [List.splitOn_nil] at h
    rw [List.mem_singleton.mp h]
    exact List.not_mem_nil
  | cons c cs ih =>
    rw [List.splitOn_cons_eq_if_modifyHead] at h
    split at h
    · rcases List.mem_cons.mp h with rfl | h
      · exact List.not_mem_nil
      · exact ih h
    · rename_i hne
      cases hs : cs.splitOn sep with
      | nil => rw [hs] at h; simp at h
      | cons p ps =>
        rw [hs] at h ih
        rcases List.mem_cons.mp h with rfl | h
        · simp only [List.mem_cons, not_or]
          exact ⟨fun heq => hne (by simp [heq]), ih List.mem_cons_self⟩
        · exact ih (List.mem_cons_of_mem _ h)

theorem isSegment_of_mem_pieces {s piece : String} (h : piece ∈ pieces s) : IsSegment piece := by
  obtain ⟨cs, hcs, rfl⟩ := List.mem_map.mp h
  obtain ⟨hmem, hne⟩ := List.mem_filter.mp hcs
  constructor
  · intro hempty
    have : cs = [] := by simpa using congrArg String.toList hempty
    simp [this] at hne
  · rw [String.toList_ofList]
    exact not_mem_of_mem_splitOn hmem

/-- A slash-separated path in normal form: the list of its segments. -/
structure Path where
  segments : List String
  isSegment : ∀ s ∈ segments, IsSegment s := by decide
deriving DecidableEq

namespace Path

/-- Reads a path, dropping leading, trailing and repeated separators. -/
def ofText (s : String) : Path := ⟨pieces s, fun _ => isSegment_of_mem_pieces⟩

/-- The written form: the segments with one separator between them. -/
def text (p : Path) : String := "/".intercalate p.segments

def root : Path := ⟨[], by simp⟩

def segmentCount (p : Path) : Nat := p.segments.length

def isEmpty (p : Path) : Bool := p.segments.isEmpty

def join (p : Path) (tail : String) : Path :=
  ⟨p.segments ++ pieces tail, by
    intro s hs
    rcases List.mem_append.mp hs with hs | hs
    · exact p.isSegment s hs
    · exact isSegment_of_mem_pieces hs⟩

/-- Paths are ordered as their written forms, character by character. -/
instance : LE Path := ⟨fun p q => p.text ≤ q.text⟩

instance (p q : Path) : Decidable (p ≤ q) := inferInstanceAs (Decidable (p.text ≤ q.text))

def sort (ps : List Path) : List Path := ps.mergeSort (fun p q => decide (p ≤ q))

def distinctCount (ps : List Path) : Nat := ps.eraseDups.length

end Path

end PathRouting
