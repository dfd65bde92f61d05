import Mathlib.Data.List.Forall2
import PathRouting.Proofs.CanonicalPath
import PathRouting.Proofs.TemplateSteps

/-!
# The invariant of templates

The types of a template's placeholders are settled apart from its segments: by the list that a text
is read with, or by the placeholder steps of a draft. Reading hands the types out one by one, and a
draft takes on every placeholder, an offending one too, so types and segments never get out of step.
Hence a match captures one segment for each type, and there is a type for each placeholder that is
read and a value for each one that is filled.
-/

namespace PathRouting
set_option autoImplicit false

variable [UserTypes]

/-- The written form of a segment. A literal that starts like a placeholder has a backslash first. -/
inductive Segment.IsWritten : Segment → String → Prop where
  | placeholder (name : String) (type : Scalar) : IsWritten (.placeholder name type) (":" ++ name)
  | escaped {text : String} (h : text.toList.head? = some ':') :
      IsWritten (.literal text) ("\\" ++ text)
  | plain {text : String} (h : text.toList.head? ≠ some ':') : IsWritten (.literal text) text

theorem Segment.isWritten_render (s : Segment) : s.IsWritten s.render := by
  cases s with
  | placeholder name type => exact .placeholder name type
  | literal text =>
    rw [render]
    split
    · rename_i hmarked
      exact .escaped hmarked
    · rename_i hplain
      exact .plain hplain

namespace Segments

/-- The segments have the given types and written form, and their labels can stand between separators
without a name coming twice. -/
structure Represent (segments : List Segment) (ts : List Scalar) (text : String) : Prop where
  arity : (names segments).length = ts.length
  types : types segments = ts
  tags : segments.filterMap (fun s => s.type?.map Scalar.name) = ts.map Scalar.name
  distinct : (names segments).Nodup
  names : ∀ name ∈ names segments, name ≠ "" ∧ '/' ∉ name.toList
  literals : ∀ literal, .literal literal ∈ segments → literal ≠ "" ∧ '/' ∉ literal.toList
  written : ∃ forms, List.Forall₂ Segment.IsWritten segments forms ∧ text = "/".intercalate forms
  normal : (Path.ofText text).text = text

theorem exists_type_of_mem_names {segments : List Segment} {name : String}
    (h : name ∈ names segments) : ∃ type, .placeholder name type ∈ segments := by
  obtain ⟨s, hs, hname⟩ := List.mem_filterMap.mp h
  cases s with
  | literal text => cases hname
  | placeholder first type =>
    cases hname
    exact ⟨type, hs⟩

/-- Reads pieces as segments, as long as there is a type for each placeholder. -/
def readWithin : List Scalar → List String → Option (List Segment)
  | _, [] => some []
  | ts, piece :: rest =>
    if MarksPlaceholder piece then
      ts.head?.bind fun type =>
        (readWithin ts.tail rest).map (.placeholder (String.ofList piece.toList.tail) type :: ·)
    else (readWithin ts rest).map (.literal (unescape piece) :: ·)

theorem readWithin_eq_read {ts : List Scalar} {ps : List String}
    (h : (placeholderNames ps).length ≤ ts.length) : readWithin ts ps = some (read ts ps) := by
  induction ps generalizing ts with
  | nil => rfl
  | cons piece rest ih =>
    by_cases hmark : MarksPlaceholder piece
    · obtain ⟨cs, hcs⟩ := List.head?_eq_some_iff.mp hmark
      rw [placeholderNames_cons_marked rest hcs, List.length_cons] at h
      cases ts with
      | nil => simp at h
      | cons type ts =>
        have hrest := ih (Nat.le_of_succ_le_succ h)
        rw [readWithin, if_pos hmark, List.tail_cons, hrest, read_cons_marked rest hcs, hcs]
        rfl
    · rw [placeholderNames_cons_unmarked rest hmark] at h
      rw [readWithin, if_neg hmark, ih h, read_cons_unmarked rest hmark]
      rfl

/-- Puts written values in the places of the placeholders, as long as there is one for each. -/
def fillWithin : List Segment → List String → Option (Except TemplateError (List String))
  | [], _ => some (.ok [])
  | .literal text :: rest, values => (fillWithin rest values).map (·.map (text :: ·))
  | .placeholder _ _ :: _, [] => none
  | .placeholder name _ :: rest, value :: values =>
    if IsSegment value then (fillWithin rest values).map (·.map (value :: ·))
    else some (.error (.unrenderableValue name value))

theorem fillWithin_eq_fill {segments : List Segment} {values : List String}
    (h : (names segments).length ≤ values.length) :
    fillWithin segments values = some (fill segments values) := by
  induction segments generalizing values with
  | nil => rfl
  | cons s rest ih =>
    cases s with
    | literal text =>
      rw [fillWithin, ih h, fill]
      cases fill rest values <;> rfl
    | placeholder name type =>
      cases values with
      | nil => simp at h
      | cons value values =>
        have hrest := ih (Nat.le_of_succ_le_succ h)
        rw [fillWithin, hrest, fill, List.headD_cons, List.tail_cons]
        split
        · cases fill rest values <;> rfl
        · rfl

theorem length_of_capture {segments : List Segment} {path raw : List String} {position : Nat}
    (hlength : path.length = segments.length) (h : capture position segments path = .ok raw) :
    raw.length = (names segments).length := by
  induction segments generalizing path raw position with
  | nil =>
    rw [capture] at h
    cases h
    rfl
  | cons s rest ih =>
    cases path with
    | nil => simp at hlength
    | cons found path =>
      have hrest : path.length = rest.length := by simpa using hlength
      cases s with
      | literal text =>
        obtain ⟨-, hraw⟩ := capture_literal_eq_ok_iff.mp h
        exact ih hrest hraw
      | placeholder name type =>
        obtain ⟨others, hothers, rfl⟩ := capture_placeholder_eq_ok_iff.mp h
        simp [ih hrest hothers]

theorem capture_ne_segmentCount (position : Nat) (segments : List Segment) (path : List String)
    (expected found : Nat) :
    capture position segments path ≠ .error (.segmentCount expected found) := by
  induction segments generalizing path position with
  | nil => simp [capture]
  | cons s rest ih =>
    cases path with
    | nil => simp [capture]
    | cons piece path =>
      have hrest := ih (position + 1) path
      cases s with
      | literal text =>
        rw [capture]
        split
        · exact hrest
        · simp
      | placeholder name type =>
        rw [capture]
        cases hcapture : capture (position + 1) rest path with
        | error e =>
          rw [hcapture] at hrest
          exact hrest
        | ok raw => simp

end Segments

theorem Values.decodeFrom_ne_segmentCount {ts : List Scalar} {raw : List String} (index : Nat)
    (hlength : raw.length = ts.length) (expected found : Nat) :
    decodeFrom index ts raw hlength ≠ .error (.segmentCount expected found) := by
  induction ts generalizing raw index with
  | nil => simp [decodeFrom]
  | cons t ts ih =>
    cases raw with
    | nil => simp at hlength
    | cons s raw =>
      have hothers : raw.length = ts.length := by simpa using hlength
      have hrest := ih (index + 1) hothers
      rw [decodeFrom]
      cases t.decode s with
      | error source => simp
      | ok v =>
        cases hdecode : decodeFrom (index + 1) ts raw hothers with
        | error e =>
          intro heq
          cases heq
          exact hrest hdecode
        | ok vs => simp

namespace Draft

/-- The types after a step, given those before it. -/
def Step.push (ts : List Scalar) : Step → List Scalar
  | literal _ => ts
  | literals _ => ts
  | placeholder _ type => ts ++ [type]

theorem types_take (d : Draft) (step : Step) : (d.take step).types = step.push d.types := by
  unfold types
  rw [segments_take, Segments.types, List.filterMap_append]
  cases step with
  | literal text => simp [Step.segments, Step.push, Segments.types, Segment.type?]
  | literals texts =>
    have hnone : (texts.map Segment.literal).filterMap Segment.type? = [] := by
      rw [List.filterMap_map]
      exact List.filterMap_eq_nil_iff.mpr fun _ _ => rfl
    rw [Step.segments, hnone, List.append_nil]
    rfl
  | placeholder name type => rfl

theorem types_foldl_take (d : Draft) (steps : List Step) :
    (steps.foldl take d).types = steps.foldl Step.push d.types := by
  induction steps generalizing d with
  | nil => rfl
  | cons step rest ih => rw [List.foldl_cons, ih, types_take, List.foldl_cons]

/-- The placeholders of a draft have the types of its steps, whether some of them offend or not. -/
theorem types_ofSteps (steps : List Step) : (ofSteps steps).types = steps.foldl Step.push [] :=
  types_foldl_take start steps

end Draft

namespace Template
variable {ts : List Scalar}

theorem represent (t : Template ts) : Segments.Represent t.segments ts t.text where
  arity := by rw [Segments.length_names, t.types_eq]
  types := t.types_eq
  tags := by rw [← List.map_filterMap, ← Segments.types, t.types_eq]
  distinct := t.wellFormed.distinct
  names name hname := by
    obtain ⟨type, hmem⟩ := Segments.exists_type_of_mem_names hname
    exact t.wellFormed.labels _ hmem
  literals literal hmem := t.wellFormed.labels _ hmem
  written := by
    refine ⟨t.segments.map Segment.render, ?_, rfl⟩
    rw [List.forall₂_map_right_iff, List.forall₂_same]
    exact fun s _ => s.isWritten_render
  normal := t.text_ofText_text

theorem length_of_capture {t : Template ts} {p : Path} {raw : List String}
    (h : t.capture p = .ok raw) : raw.length = ts.length := by
  obtain ⟨hlength, hcapture⟩ := capture_eq_ok_iff.mp h
  rw [Segments.length_of_capture hlength hcapture, t.represent.arity]

theorem tryMatch_of_capture {t : Template ts} {p : Path} {raw : List String}
    (h : t.capture p = .ok raw) :
    t.tryMatch p = Values.decodeFrom 0 ts raw (length_of_capture h) := by
  rw [tryMatch, h]
  exact dif_pos (length_of_capture h)

/-- A number of segments is only ever wrong for the whole path, never for what was captured of it. -/
theorem tryMatch_eq_segmentCount_iff {t : Template ts} {p : Path} {expected found : Nat} :
    t.tryMatch p = .error (.segmentCount expected found) ↔
      p.segments.length ≠ t.segments.length ∧ expected = t.segments.length ∧
        found = p.segments.length := by
  by_cases hlength : p.segments.length = t.segments.length
  · refine iff_of_false ?_ fun h => h.1 hlength
    intro h
    cases hcapture : t.capture p with
    | error e =>
      rw [tryMatch, hcapture] at h
      cases h
      rw [capture, if_pos hlength] at hcapture
      exact Segments.capture_ne_segmentCount _ _ _ _ _ hcapture
    | ok raw =>
      rw [tryMatch_of_capture hcapture] at h
      exact Values.decodeFrom_ne_segmentCount _ _ _ _ h
  · rw [tryMatch, capture, if_neg hlength]
    simp [hlength, eq_comm]

/-- However a template comes about, its segments agree with its types, so that neither matching nor
filling ever runs out of them. -/
theorem segments_agree_with_types :
    (∀ (ts : List Scalar) (s : String) (t : Template ts), parse ts s = .ok t →
      Segments.readWithin ts (pieces s) = some t.segments ∧
        Segments.Represent t.segments ts t.text) ∧
    (∀ (steps : List Draft.Step) (t : Template (Draft.ofSteps steps).types),
      (Draft.ofSteps steps).build = .ok t →
      t.segments = steps.flatMap Draft.Step.segments ∧
        Segments.Represent t.segments (steps.foldl Draft.Step.push []) t.text) ∧
    (∀ (ts : List Scalar) (t : Template ts) (p : Path),
      (∀ raw, t.capture p = .ok raw → ∃ hlength : raw.length = ts.length,
        t.tryMatch p = Values.decodeFrom 0 ts raw hlength) ∧
      ∀ expected found, t.tryMatch p = .error (.segmentCount expected found) ↔
        p.segments.length ≠ t.segments.length ∧ expected = t.segments.length ∧
          found = p.segments.length) ∧
    (∀ (ts : List Scalar) (t : Template ts) (vs : Values ts),
      Segments.fillWithin t.segments vs.encode = some (Segments.fill t.segments vs.encode)) := by
  refine ⟨?read, ?built, ?matched, ?filled⟩
  case read =>
    intro ts s t h
    have hsegments := parse_eq_ok_iff.mp h
    have hcount : (placeholderNames (pieces s)).length = ts.length := by
      rw [← Segments.length_types_read ts, ← hsegments, t.types_eq]
    refine ⟨?_, t.represent⟩
    rw [hsegments]
    exact Segments.readWithin_eq_read (Nat.le_of_eq hcount)
  case built =>
    intro steps t h
    constructor
    · rw [Draft.segments_of_build h, Draft.segments_ofSteps]
    · rw [← Draft.types_ofSteps]
      exact t.represent
  case matched =>
    intro ts t p
    refine ⟨?_, fun expected found => tryMatch_eq_segmentCount_iff⟩
    intro raw hcapture
    exact ⟨length_of_capture hcapture, tryMatch_of_capture hcapture⟩
  case filled =>
    intro ts t vs
    apply Segments.fillWithin_eq_fill
    rw [length_encode_eq_length_names t vs]
    exact Nat.le_refl _

end Template

end PathRouting
