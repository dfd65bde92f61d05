import PathRouting.Proofs.PathText
import PathRouting.Template.Draft

/-!
# Written templates

A template is read from exactly the texts whose pieces read as its segments. Rendering what was read
gives the pieces back, so reading loses nothing but redundant separators. Reading what was rendered
gives the segments back except for literals that start with a backslash and a colon: these are
written as they stand, and read as the escaped form of another literal.
-/

namespace PathRouting
set_option autoImplicit false

/-- The literal that a piece without a leading colon stands for. -/
def unescape (text : String) : String :=
  match text.toList with
  | '\\' :: ':' :: cs => String.ofList (':' :: cs)
  | _ => text

theorem unescape_escaped {text : String} {cs : List Char} (h : text.toList = '\\' :: ':' :: cs) :
    unescape text = String.ofList (':' :: cs) := by
  simp [unescape, h]

theorem unescape_plain {text : String} (h : ¬ ['\\', ':'] <+: text.toList) :
    unescape text = text := by
  unfold unescape
  split
  · rename_i cs hcs
    exact absurd ⟨cs, hcs.symm⟩ h
  · rfl

theorem unescape_eq_self_iff (text : String) :
    unescape text = text ↔ ¬ ['\\', ':'] <+: text.toList := by
  refine ⟨fun heq hesc => ?_, unescape_plain⟩
  obtain ⟨cs, hcs⟩ := hesc
  have hlist := congrArg String.toList heq
  rw [unescape_escaped hcs.symm, String.toList_ofList, ← hcs] at hlist
  simp at hlist

theorem isSegment_unescape {text : String} (h : IsSegment text) : IsSegment (unescape text) := by
  by_cases hesc : ['\\', ':'] <+: text.toList
  · obtain ⟨cs, hcs⟩ := hesc
    have hsep : '/' ∉ text.toList := h.2
    rw [← hcs] at hsep
    rw [unescape_escaped hcs.symm]
    refine ⟨fun hempty => ?_, ?_⟩
    · simpa using congrArg String.toList hempty
    · rw [String.toList_ofList]
      exact fun hmem => hsep (List.mem_cons_of_mem _ hmem)
  · rw [unescape_plain hesc]
    exact h

theorem isSegment_of_toList_cons {s t : String} {c : Char} (hs : s.toList = c :: t.toList)
    (hc : c ≠ '/') (ht : IsSegment t) : IsSegment s := by
  constructor
  · intro hempty
    rw [hempty] at hs
    cases hs
  · rw [hs]
    intro hmem
    rcases List.mem_cons.mp hmem with heq | hmem
    · exact hc heq.symm
    · exact ht.2 hmem

namespace Segment
variable [UserTypes]

/-- What the written form of a segment is read as. -/
def reread : Segment → Segment
  | literal text => literal (unescape text)
  | placeholder name type => placeholder name type

theorem reread_eq_self_iff (s : Segment) :
    s.reread = s ↔ ∀ text, s = literal text → ¬ ['\\', ':'] <+: text.toList := by
  cases s with
  | literal text => simp [reread, unescape_eq_self_iff]
  | placeholder name type => simp [reread]

@[simp] theorem type?_reread (s : Segment) : s.reread.type? = s.type? := by cases s <;> rfl

@[simp] theorem name?_reread (s : Segment) : s.reread.name? = s.name? := by cases s <;> rfl

theorem isSegment_label_reread {s : Segment} (h : IsSegment s.label) : IsSegment s.reread.label := by
  cases s with
  | literal text => exact isSegment_unescape h
  | placeholder name type => exact h

theorem toList_render_marked {text : String} (h : text.toList.head? = some ':') :
    (literal text).render.toList = '\\' :: text.toList := by
  simp [render, h]

theorem render_unmarked {text : String} (h : text.toList.head? ≠ some ':') :
    (literal text).render = text := by
  simp [render, h]

theorem toList_render_placeholder (name : String) (type : Scalar) :
    (placeholder name type).render.toList = ':' :: name.toList := by
  simp [render]

/-- A piece without a leading colon is the written form of the literal that it stands for. -/
theorem render_unescape {piece : String} (h : piece.toList.head? ≠ some ':') :
    (literal (unescape piece)).render = piece := by
  by_cases hesc : ['\\', ':'] <+: piece.toList
  · obtain ⟨cs, hcs⟩ := hesc
    apply String.toList_inj.mp
    rw [unescape_escaped hcs.symm, toList_render_marked (by simp), String.toList_ofList, ← hcs]
    rfl
  · rw [unescape_plain hesc, render_unmarked h]

theorem head?_render_literal (text : String) :
    (literal text).render.toList.head? ≠ some ':' := by
  by_cases hmark : text.toList.head? = some ':'
  · simp [toList_render_marked hmark]
  · rwa [render_unmarked hmark]

theorem unescape_render_literal (text : String) :
    unescape (literal text).render = unescape text := by
  by_cases hmark : text.toList.head? = some ':'
  · obtain ⟨cs, hcs⟩ := List.head?_eq_some_iff.mp hmark
    have hlist : (literal text).render.toList = '\\' :: ':' :: cs := by
      rw [toList_render_marked hmark, hcs]
    have hplain : ¬ ['\\', ':'] <+: text.toList := by
      rw [hcs]
      simp
    rw [unescape_escaped hlist, unescape_plain hplain, ← hcs, String.ofList_toList]
  · rw [render_unmarked hmark]

theorem isSegment_render {s : Segment} (h : IsSegment s.label) : IsSegment s.render := by
  cases s with
  | literal text =>
    by_cases hmark : text.toList.head? = some ':'
    · exact isSegment_of_toList_cons (toList_render_marked hmark) (by decide) h
    · rw [render_unmarked hmark]
      exact h
  | placeholder name type =>
    exact isSegment_of_toList_cons (toList_render_placeholder name type) (by decide) h

end Segment

namespace Segments
variable [UserTypes]

theorem read_cons_marked {ts : List Scalar} {piece : String} {cs : List Char} (rest : List String)
    (h : piece.toList = ':' :: cs) :
    read ts (piece :: rest) =
      .placeholder (String.ofList cs) (ts.headD .text) :: read ts.tail rest := by
  simp [read, h]

theorem read_cons_unmarked {ts : List Scalar} {piece : String} (rest : List String)
    (h : piece.toList.head? ≠ some ':') :
    read ts (piece :: rest) = .literal (unescape piece) :: read ts rest := by
  rw [read]
  split
  · rename_i cs hcs
    rw [unescape_escaped hcs]
  · rename_i cs hcs
    simp [hcs] at h
  · rename_i hesc _
    rw [unescape_plain]
    rintro ⟨cs, hcs⟩
    exact hesc cs hcs.symm

theorem map_render_read (ts : List Scalar) (ps : List String) :
    (read ts ps).map Segment.render = ps := by
  induction ps generalizing ts with
  | nil => rfl
  | cons piece rest ih =>
    by_cases hmark : piece.toList.head? = some ':'
    · obtain ⟨cs, hcs⟩ := List.head?_eq_some_iff.mp hmark
      rw [read_cons_marked rest hcs, List.map_cons, ih]
      have hrender : (Segment.placeholder (String.ofList cs) (ts.headD .text)).render = piece := by
        apply String.toList_inj.mp
        rw [Segment.toList_render_placeholder, String.toList_ofList, hcs]
      rw [hrender]
    · rw [read_cons_unmarked rest hmark, List.map_cons, ih, Segment.render_unescape hmark]

theorem read_map_render (segments : List Segment) :
    read (types segments) (segments.map Segment.render) = segments.map Segment.reread := by
  induction segments with
  | nil => rfl
  | cons s rest ih =>
    cases s with
    | literal text =>
      rw [types_literal, List.map_cons, List.map_cons]
      rw [read_cons_unmarked _ (Segment.head?_render_literal text), Segment.unescape_render_literal,
        ih, Segment.reread]
    | placeholder name type =>
      rw [types_placeholder, List.map_cons, List.map_cons,
        read_cons_marked _ (Segment.toList_render_placeholder name type), List.headD_cons,
        List.tail_cons, ih, Segment.reread, String.ofList_toList]

theorem map_reread_eq_self_iff (segments : List Segment) :
    segments.map Segment.reread = segments ↔
      ∀ text, .literal text ∈ segments → ¬ ['\\', ':'] <+: text.toList := by
  induction segments with
  | nil => simp
  | cons s rest ih =>
    rw [List.map_cons, List.cons.injEq, ih, Segment.reread_eq_self_iff]
    constructor
    · rintro ⟨hs, hrest⟩ text hmem
      rcases List.mem_cons.mp hmem with heq | hmem
      · exact hs text heq.symm
      · exact hrest text hmem
    · intro hall
      refine ⟨fun text heq => hall text ?_, fun text hmem => hall text (List.mem_cons_of_mem _ hmem)⟩
      rw [heq]
      exact List.mem_cons_self

theorem types_map_reread (segments : List Segment) :
    types (segments.map Segment.reread) = types segments := by
  have hcomp : Segment.type? ∘ Segment.reread = Segment.type? := funext Segment.type?_reread
  rw [types, List.filterMap_map, hcomp, types]

theorem names_map_reread (segments : List Segment) :
    names (segments.map Segment.reread) = names segments := by
  have hcomp : Segment.name? ∘ Segment.reread = Segment.name? := funext Segment.name?_reread
  rw [names, List.filterMap_map, hcomp, names]

theorem wellFormed_map_reread {segments : List Segment} (h : WellFormed segments) :
    WellFormed (segments.map Segment.reread) := by
  constructor
  · intro s hs
    obtain ⟨original, hmem, rfl⟩ := List.mem_map.mp hs
    exact Segment.isSegment_label_reread (h.labels original hmem)
  · rw [names_map_reread]
    exact h.distinct

theorem pieces_render {segments : List Segment} (h : WellFormed segments) :
    pieces (render segments) = segments.map Segment.render := by
  apply pieces_intercalate
  intro piece hpiece
  obtain ⟨s, hs, rfl⟩ := List.mem_map.mp hpiece
  exact Segment.isSegment_render (h.labels s hs)

end Segments

namespace Template
variable [UserTypes] {ts : List Scalar}

theorem eq_of_segments_eq {t u : Template ts} (h : t.segments = u.segments) : t = u := by
  cases t
  cases u
  cases h
  rfl

theorem parse_eq_ok_iff {s : String} {t : Template ts} :
    parse ts s = .ok t ↔ t.segments = Segments.read ts (pieces s) := by
  constructor
  · intro h
    unfold parse at h
    split at h
    · cases h
    · split at h
      · cases h
        rfl
      · cases h
  · intro h
    have hcheck : Segments.check (Segments.read ts (pieces s)) = none := by
      rw [← h]
      exact (Segments.check_eq_none_iff _).mpr t.wellFormed
    have hcount : (Segments.types (Segments.read ts (pieces s))).length = ts.length := by
      rw [← h, t.types_eq]
    unfold parse
    split
    · rename_i e he
      rw [hcheck] at he
      cases he
    · rw [dif_pos hcount]
      exact congrArg Except.ok (eq_of_segments_eq h.symm)

theorem pieces_text (t : Template ts) : pieces t.text = t.segments.map Segment.render :=
  Segments.pieces_render t.wellFormed

theorem text_eq_of_parse {s : String} {t : Template ts} (h : parse ts s = .ok t) :
    t.text = (Path.ofText s).text := by
  unfold text Segments.render Path.text
  rw [parse_eq_ok_iff.mp h, Segments.map_render_read, Path.segments_ofText]

theorem text_ofText_text (t : Template ts) : (Path.ofText t.text).text = t.text := by
  unfold Path.text
  rw [Path.segments_ofText, pieces_text]
  rfl

/-- The written form of a template always reads as a template, of the segments as each is read by
itself. -/
theorem exists_parse_text (t : Template ts) :
    ∃ u, parse ts t.text = .ok u ∧ u.segments = t.segments.map Segment.reread := by
  have htypes : Segments.types (t.segments.map Segment.reread) = ts := by
    rw [Segments.types_map_reread, t.types_eq]
  have hread : t.segments.map Segment.reread = Segments.read ts (pieces t.text) := by
    rw [pieces_text, ← Segments.read_map_render, t.types_eq]
  exact ⟨⟨_, Segments.wellFormed_map_reread t.wellFormed, htypes⟩, parse_eq_ok_iff.mpr hread, rfl⟩

/-- Reading is stable: what was read from a text has the normal form of the text as its written form,
and reads back from it as it is. -/
theorem reparse_eq_of_parse {s : String} {t : Template ts} (h : parse ts s = .ok t) :
    parse ts t.text = .ok t ∧ t.text = (Path.ofText s).text := by
  have htext := text_eq_of_parse h
  refine ⟨parse_eq_ok_iff.mpr ?_, htext⟩
  rw [htext, Path.pieces_text, Path.segments_ofText]
  exact parse_eq_ok_iff.mp h

end Template

theorem Template.reparse_eq_of_parse_redundant :
    ∃ t, parse [.u64] "//shop/\\:all//:page/" = .ok t ∧
      parse [.u64] t.text = .ok t ∧ t.text = (Path.ofText "//shop/\\:all//:page/").text := by
  let t : Template [.u64] :=
    ⟨[.literal "shop", .literal ":all", .placeholder "page" .u64], by decide, rfl⟩
  have h : parse [.u64] "//shop/\\:all//:page/" = .ok t := parse_eq_ok_iff.mpr (by decide)
  exact ⟨t, h, reparse_eq_of_parse h⟩

namespace Draft
variable [UserTypes]

def Step.segments : Step → List Segment
  | literal text => [.literal text]
  | literals texts => texts.map .literal
  | placeholder name type => [.placeholder name type]

theorem segments_literals (d : Draft) (texts : List String) :
    (d.literals texts).segments = d.segments ++ texts.map .literal := by
  induction texts generalizing d with
  | nil => simp [literals]
  | cons text rest ih =>
    have hstep := ih (d.literal text)
    unfold literals at hstep ⊢
    rw [List.foldl_cons, hstep, List.map_cons]
    simp [literal]

theorem segments_take (d : Draft) (step : Step) :
    (d.take step).segments = d.segments ++ step.segments := by
  cases step with
  | literal text => rfl
  | literals texts => exact segments_literals d texts
  | placeholder name type => rfl

theorem segments_foldl_take (d : Draft) (steps : List Step) :
    (steps.foldl take d).segments = d.segments ++ steps.flatMap Step.segments := by
  induction steps generalizing d with
  | nil => simp
  | cons step rest ih =>
    rw [List.foldl_cons, ih, segments_take, List.flatMap_cons, List.append_assoc]

theorem segments_ofSteps (steps : List Step) :
    (ofSteps steps).segments = steps.flatMap Step.segments :=
  segments_foldl_take start steps

theorem segments_of_build {d : Draft} {t : Template d.types} (h : d.build = .ok t) :
    t.segments = d.segments := by
  unfold build at h
  split at h
  · cases h
  · cases h
    rfl

/-- The written form of a template that was put together reads as the same template, unless a literal
starts with a backslash and a colon: that is not escaped. -/
theorem parse_text_of_build {steps : List Step} {t : Template (ofSteps steps).types}
    (h : (ofSteps steps).build = .ok t) :
    ∃ u, Template.parse (ofSteps steps).types t.text = .ok u ∧ u.text = t.text ∧
      u.segments = t.segments.map Segment.reread ∧
      (u.segments = t.segments ↔
        ∀ text, .literal text ∈ steps.flatMap Step.segments → ¬ ['\\', ':'] <+: text.toList) := by
  obtain ⟨u, hu, hsegments⟩ := t.exists_parse_text
  have htext : u.text = t.text := (Template.text_eq_of_parse hu).trans t.text_ofText_text
  refine ⟨u, hu, htext, hsegments, ?_⟩
  rw [hsegments, Segments.map_reread_eq_self_iff, segments_of_build h, segments_ofSteps]

end Draft

theorem Draft.parse_text_of_build_colon :
    ∃ t, (ofSteps [.literals [":id", "\\id"], .placeholder "n" .u8]).build = .ok t ∧
      ∃ u, Template.parse [.u8] t.text = .ok u ∧ u.text = t.text ∧ u.segments = t.segments := by
  let t : Template (ofSteps [.literals [":id", "\\id"], .placeholder "n" .u8]).types :=
    ⟨[.literal ":id", .literal "\\id", .placeholder "n" .u8], by decide, rfl⟩
  have h : (ofSteps [.literals [":id", "\\id"], .placeholder "n" .u8]).build = .ok t := rfl
  obtain ⟨u, hu, htext, _, hiff⟩ := parse_text_of_build h
  refine ⟨t, h, u, hu, htext, hiff.mpr ?_⟩
  intro text hmem
  simp only [Step.segments, List.flatMap_cons, List.map_cons, List.map_nil, List.flatMap_nil,
    List.cons_append, List.nil_append, List.mem_cons, Segment.literal.injEq, reduceCtorEq,
    List.not_mem_nil, or_false] at hmem
  rcases hmem with rfl | rfl <;> decide

/-- A literal that starts with a backslash and a colon does not come back. -/
theorem Draft.parse_text_of_build_escaped :
    ∃ t u, (ofSteps [.literal "\\:x"]).build = .ok t ∧ Template.parse [] t.text = .ok u ∧
      u.segments ≠ t.segments := by
  refine ⟨⟨[.literal "\\:x"], by decide, rfl⟩, ⟨[.literal ":x"], by decide, rfl⟩, rfl, ?_, ?_⟩
  · exact Template.parse_eq_ok_iff.mpr (by decide)
  · decide

end PathRouting
