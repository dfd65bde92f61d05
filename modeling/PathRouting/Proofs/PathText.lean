import PathRouting.Path

/-!
# Written paths

Cutting a text at separators and writing segments with one separator between them undo each other on
lists of segments. So a path is read back from its written form, and the written form of what was
read holds the same pieces.
-/

namespace PathRouting
set_option autoImplicit false

theorem toList_separator : "/".toList = ['/'] := rfl

theorem toList_ne_nil_of_isSegment {s : String} (h : IsSegment s) : s.toList ≠ [] := by
  intro hnil
  exact h.1 (String.toList_eq_nil_iff.mp hnil)

theorem not_isSegment_iff {s : String} : ¬IsSegment s ↔ s = "" ∨ '/' ∈ s.toList := by
  rw [IsSegment, Decidable.not_and_iff_not_or_not]
  simp

theorem splitOn_intercalate_unbroken {ss : List String} (h : ∀ s ∈ ss, '/' ∉ s.toList)
    (hne : ss ≠ []) : ("/".intercalate ss).toList.splitOn '/' = ss.map String.toList := by
  rw [String.toList_intercalate, toList_separator]
  apply List.splitOn_intercalate
  · intro cs hcs
    obtain ⟨s, hs, rfl⟩ := List.mem_map.mp hcs
    exact h s hs
  · simpa using hne

theorem filter_toList_segments {ss : List String} (h : ∀ s ∈ ss, IsSegment s) :
    (ss.map String.toList).filter (· ≠ []) = ss.map String.toList := by
  apply List.filter_eq_self.mpr
  intro cs hcs
  obtain ⟨s, hs, rfl⟩ := List.mem_map.mp hcs
  exact decide_eq_true (toList_ne_nil_of_isSegment (h s hs))

theorem pieces_intercalate {ss : List String} (h : ∀ s ∈ ss, IsSegment s) :
    pieces ("/".intercalate ss) = ss := by
  by_cases hne : ss = []
  · subst ss
    rfl
  · unfold pieces
    rw [splitOn_intercalate_unbroken (fun s hs => (h s hs).2) hne, filter_toList_segments h,
      List.map_map]
    simp [Function.comp_def]

theorem pieces_of_isSegment {s : String} (h : IsSegment s) : pieces s = [s] := by
  have hwritten : "/".intercalate [s] = s := String.intercalate_singleton
  have hpieces : pieces ("/".intercalate [s]) = [s] := pieces_intercalate (by simpa using h)
  rwa [hwritten] at hpieces

namespace Path

@[simp] theorem segments_ofText (s : String) : (ofText s).segments = pieces s := rfl

theorem pieces_text (p : Path) : pieces p.text = p.segments := pieces_intercalate p.isSegment

theorem ofText_text (p : Path) : ofText p.text = p := by
  cases p with
  | mk segments isSegment =>
    simp only [ofText, Path.mk.injEq]
    exact pieces_intercalate isSegment

end Path

end PathRouting
