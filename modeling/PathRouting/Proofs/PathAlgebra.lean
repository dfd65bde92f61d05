import PathRouting.Config.Decode
import PathRouting.Proofs.PathText
import PathRouting.Router.Resolution

/-!
# The algebra of paths

A text divides into parts at its separators in exactly one way, and a path keeps the parts that are
not empty. So a path is as good as the list of its segments: joining puts two lists together, and
the path without segments is neutral. The written paths are the texts without a separator at either
end and without two in a row. Joining two of these is writing one separator between them, unless one
of them is empty.
-/

namespace PathRouting
set_option autoImplicit false

/-- The parts are the texts between the separators of a text, empty ones included. -/
structure DividesInto (s : String) (parts : List String) : Prop where
  nonempty : parts ≠ []
  unbroken : ∀ part ∈ parts, '/' ∉ part.toList
  joined : "/".intercalate parts = s

theorem exists_dividesInto (s : String) : ∃ parts, DividesInto s parts := by
  have hread : String.toList ∘ String.ofList = id := funext fun _ => String.toList_ofList
  refine ⟨(s.toList.splitOn '/').map String.ofList, ?_, ?_, ?_⟩
  · simp
  · intro part hpart
    obtain ⟨cs, hcs, rfl⟩ := List.mem_map.mp hpart
    rw [String.toList_ofList]
    exact not_mem_of_mem_splitOn hcs
  · apply String.toList_inj.mp
    rw [String.toList_intercalate, toList_separator, List.map_map, hread, List.map_id,
      List.intercalate_splitOn]

theorem DividesInto.splitOn_eq {s : String} {parts : List String} (h : DividesInto s parts) :
    s.toList.splitOn '/' = parts.map String.toList := by
  rw [← h.joined]
  exact splitOn_intercalate_unbroken h.unbroken h.nonempty

theorem DividesInto.unique {s : String} {parts others : List String} (h : DividesInto s parts)
    (hothers : DividesInto s others) : parts = others := by
  have hlists := h.splitOn_eq.symm.trans hothers.splitOn_eq
  exact (List.map_inj_right fun _ _ => String.toList_inj.mp).mp hlists

theorem DividesInto.pieces_eq {s : String} {parts : List String} (h : DividesInto s parts) :
    pieces s = parts.filter (· ≠ "") := by
  have hwritten : String.ofList ∘ String.toList = id := funext fun _ => String.ofList_toList
  rw [pieces, h.splitOn_eq, List.filter_map, List.map_map, hwritten, List.map_id]
  apply List.filter_congr
  intro part _
  simp

theorem pieces_append (s t : String) : pieces (s ++ "/" ++ t) = pieces s ++ pieces t := by
  have hlist : (s ++ "/" ++ t).toList = s.toList ++ '/' :: t.toList := by
    simp [toList_separator]
  rw [pieces, hlist, List.splitOn_append_cons_self, List.filter_append, List.map_append]
  rfl

/-- There is no separator at either end of a text, and there are no two in a row. -/
structure Normal (s : String) : Prop where
  leading : ¬ ['/'] <+: s.toList
  trailing : ¬ ['/'] <:+ s.toList
  doubled : ¬ ['/', '/'] <:+: s.toList

theorem Normal.nonempty_parts {s : String} {parts : List String} (hs : Normal s) (hne : s ≠ "")
    (h : DividesInto s parts) : "" ∉ parts := by
  intro hempty
  obtain ⟨before, after, rfl⟩ := List.append_of_mem hempty
  -- An empty part puts a separator at the end where no other part stands, or two in a row.
  have hjoined := h.joined
  by_cases hbefore : before = []
  · subst hbefore
    rw [List.nil_append] at hjoined
    by_cases hafter : after = []
    · subst hafter
      exact hne hjoined.symm
    · rw [String.intercalate_cons_of_ne_nil hafter] at hjoined
      apply hs.leading
      rw [← hjoined]
      simp [toList_separator]
  · rw [String.intercalate_append_of_ne_nil hbefore (List.cons_ne_nil _ _)] at hjoined
    by_cases hafter : after = []
    · subst hafter
      apply hs.trailing
      rw [← hjoined]
      simp [toList_separator]
    · rw [String.intercalate_cons_of_ne_nil hafter] at hjoined
      apply hs.doubled
      refine ⟨("/".intercalate before).toList, ("/".intercalate after).toList, ?_⟩
      rw [← hjoined]
      simp [toList_separator]

namespace Path

theorem eq_iff_segments {p q : Path} : p = q ↔ p.segments = q.segments := by
  cases p
  cases q
  simp

theorem eq_iff_text {p q : Path} : p = q ↔ p.text = q.text := by
  constructor
  · rintro rfl
    rfl
  · intro h
    rw [← p.ofText_text, h, q.ofText_text]

theorem text_eq_empty_iff {p : Path} : p.text = "" ↔ p.segments = [] := by
  constructor
  · intro h
    rw [← p.pieces_text, h]
    rfl
  · intro h
    rw [text, h]
    rfl

theorem splitOn_separator_cons (cs : List Char) :
    ('/' :: cs).splitOn '/' = [] :: cs.splitOn '/' :=
  List.splitOn_append_cons_self_of_not_mem List.not_mem_nil cs

theorem nil_notMem_splitOn_text {p : Path} (h : p.segments ≠ []) :
    [] ∉ p.text.toList.splitOn '/' := by
  rw [text, splitOn_intercalate_unbroken (fun s hs => (p.isSegment s hs).2) h]
  intro hmem
  obtain ⟨s, hs, hnil⟩ := List.mem_map.mp hmem
  exact toList_ne_nil_of_isSegment (p.isSegment s hs) hnil

theorem normal_text (p : Path) : Normal p.text := by
  by_cases hroot : p.segments = []
  · rw [text_eq_empty_iff.mpr hroot]
    exact ⟨by decide, by decide, by decide⟩
  · -- Each separator too many would leave an empty part.
    have hparts := nil_notMem_splitOn_text hroot
    constructor
    · rintro ⟨later, hlist⟩
      rw [← hlist, List.singleton_append, splitOn_separator_cons] at hparts
      exact hparts List.mem_cons_self
    · rintro ⟨earlier, hlist⟩
      rw [← hlist, List.splitOn_append_cons_self] at hparts
      simp at hparts
    · rintro ⟨earlier, later, hlist⟩
      rw [← hlist, List.append_assoc, List.cons_append, List.singleton_append,
        List.splitOn_append_cons_self, splitOn_separator_cons] at hparts
      exact hparts (List.mem_append_right _ List.mem_cons_self)

theorem normal_iff_text_ofText {s : String} : Normal s ↔ (ofText s).text = s := by
  constructor
  · intro hs
    by_cases hne : s = ""
    · subst hne
      rfl
    · obtain ⟨parts, hparts⟩ := exists_dividesInto s
      have hkept : parts.filter (· ≠ "") = parts := by
        apply List.filter_eq_self.mpr
        intro part hpart
        have hpart' : part ≠ "" := fun heq => hs.nonempty_parts hne hparts (heq ▸ hpart)
        exact decide_eq_true hpart'
      rw [text, segments_ofText, hparts.pieces_eq, hkept, hparts.joined]
  · intro h
    rw [← h]
    exact (ofText s).normal_text

@[simp] theorem segments_join (p : Path) (t : String) :
    (p.join t).segments = p.segments ++ pieces t := rfl

theorem join_eq_ofText (p : Path) (t : String) : p.join t = ofText (p.text ++ "/" ++ t) := by
  rw [eq_iff_segments, segments_join, segments_ofText, pieces_append, pieces_text]

/-- A path is joined to another by one separator between their written forms. A side without
segments leaves the other one as it is. -/
theorem text_join (p : Path) (t : String) :
    (p.join t).text =
      if p.text = "" then (ofText t).text
      else if (ofText t).text = "" then p.text
      else p.text ++ "/" ++ (ofText t).text := by
  simp only [text_eq_empty_iff, segments_ofText]
  by_cases hp : p.segments = []
  · rw [if_pos hp, text, segments_join, hp, List.nil_append]
    rfl
  · by_cases ht : pieces t = []
    · rw [if_neg hp, if_pos ht, text, segments_join, ht, List.append_nil]
      rfl
    · rw [if_neg hp, if_neg ht, text, segments_join, String.intercalate_append_of_ne_nil hp ht]
      rfl

theorem join_assoc (p : Path) (t u : String) :
    (p.join t).join u = p.join ((ofText t).join u).text := by
  rw [eq_iff_segments, segments_join, segments_join, segments_join, pieces_text, segments_join,
    segments_ofText, List.append_assoc]

theorem join_root (p : Path) : p.join root.text = p := by
  rw [eq_iff_segments, segments_join, pieces_text]
  exact List.append_nil p.segments

theorem root_join (p : Path) : root.join p.text = p := by
  rw [eq_iff_segments, segments_join, pieces_text]
  exact List.nil_append p.segments

theorem isEmpty_iff {p : Path} : p.isEmpty ↔ p.segments = [] := List.isEmpty_iff

/-- A path is the list of its segments: equality, joining and resolution depend on nothing else. -/
theorem paths_are_lists_of_segments [UserTypes] :
    (∀ s, ∃ parts, DividesInto s parts ∧ (∀ others, DividesInto s others → others = parts) ∧
      (ofText s).segments = parts.filter (· ≠ "")) ∧
    (∀ s, ofText (ofText s).text = ofText s) ∧
    (∀ p q : Path, (p = q ↔ p.segments = q.segments) ∧ (p = q ↔ p.text = q.text)) ∧
    (∀ p : Path, Normal p.text ∧ ofText p.text = p) ∧
    (∀ s, Normal s → (ofText s).text = s) ∧
    (∀ s, ofData? (.text s) = some (ofText s)) ∧
    (∀ s t, (ofText s).segments = (ofText t).segments →
      (∀ (r : DataType) (router : Router r),
        router.resolve (ofText s) = router.resolve (ofText t)) ∧
      ∀ (ts : List Scalar) (template : Template ts),
        template.tryMatch (ofText s) = template.tryMatch (ofText t)) ∧
    (∀ (p : Path) (t : String),
      p.join t = ofText (p.text ++ "/" ++ t) ∧
      (p.join t).segments = p.segments ++ (ofText t).segments ∧
      (p.join t).segmentCount = p.segmentCount + (ofText t).segmentCount ∧
      (p.join t).text =
        if p.text = "" then (ofText t).text
        else if (ofText t).text = "" then p.text
        else p.text ++ "/" ++ (ofText t).text) ∧
    (∀ (p : Path) (t u : String), (p.join t).join u = p.join ((ofText t).join u).text) ∧
    (∀ p : Path, root.join p.text = p ∧ p.join root.text = p) ∧
    (∀ p : Path, (p.isEmpty ↔ p.segments = []) ∧ (p.isEmpty ↔ p.text = "")) := by
  refine ⟨?parts, ?again, ?equal, ?normal, ?written, ?data, ?spelled, ?joined, join_assoc, ?units,
    ?empty⟩
  case parts =>
    intro s
    obtain ⟨parts, hparts⟩ := exists_dividesInto s
    exact ⟨parts, hparts, fun _ hothers => hothers.unique hparts, hparts.pieces_eq⟩
  case again => exact fun s => (ofText s).ofText_text
  case equal => exact fun p q => ⟨eq_iff_segments, eq_iff_text⟩
  case normal => exact fun p => ⟨p.normal_text, p.ofText_text⟩
  case written => exact fun s hs => normal_iff_text_ofText.mp hs
  case data => exact fun s => rfl
  case spelled =>
    intro s t hsegments
    rw [eq_iff_segments.mpr hsegments]
    exact ⟨fun _ _ => rfl, fun _ _ => rfl⟩
  case joined =>
    intro p t
    exact ⟨p.join_eq_ofText t, rfl, List.length_append, p.text_join t⟩
  case units => exact fun p => ⟨p.root_join, p.join_root⟩
  case empty => exact fun p => ⟨isEmpty_iff, isEmpty_iff.trans text_eq_empty_iff.symm⟩

end Path

end PathRouting
