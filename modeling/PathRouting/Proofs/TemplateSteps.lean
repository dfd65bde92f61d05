import Mathlib.Data.List.Induction
import PathRouting.Proofs.TemplateText

/-!
# Templates read and templates put together

The pieces of a text can be taken as steps of a draft: a piece with a leading colon adds a placeholder
of the next type, and any other piece adds the literal it stands for. Since a draft remembers the first
offence of its segments, and reading a template looks for it, both come to the same end if there are
as many placeholders as types. What reading can find wrong with a text are the names of placeholders,
and then their number.
-/

namespace PathRouting
set_option autoImplicit false

/-- The piece stands for a placeholder. -/
def MarksPlaceholder (piece : String) : Prop := piece.toList.head? = some ':'

instance (piece : String) : Decidable (MarksPlaceholder piece) :=
  inferInstanceAs (Decidable (_ = _))

/-- The names of the placeholders that pieces stand for, in order. -/
def placeholderNames (ps : List String) : List String :=
  (ps.filter fun piece => MarksPlaceholder piece).map fun piece => String.ofList piece.toList.tail

theorem placeholderNames_cons_marked {piece : String} {cs : List Char} (rest : List String)
    (h : piece.toList = ':' :: cs) :
    placeholderNames (piece :: rest) = String.ofList cs :: placeholderNames rest := by
  have hmark : MarksPlaceholder piece := by rw [MarksPlaceholder, h, List.head?_cons]
  simp [placeholderNames, hmark, h]

theorem placeholderNames_cons_unmarked {piece : String} (rest : List String)
    (h : ¬MarksPlaceholder piece) : placeholderNames (piece :: rest) = placeholderNames rest := by
  simp [placeholderNames, h]

theorem not_mem_of_mem_placeholderNames {ps : List String} (hps : ∀ piece ∈ ps, IsSegment piece)
    {name : String} (h : name ∈ placeholderNames ps) : '/' ∉ name.toList := by
  obtain ⟨piece, hpiece, rfl⟩ := List.mem_map.mp h
  rw [String.toList_ofList]
  intro hmem
  exact (hps piece ((List.mem_filter.mp hpiece).1)).2 (List.mem_of_mem_tail hmem)

/-- The fault of the leftmost name that is empty or repeats one before it. -/
inductive LeftmostFault (names : List String) : TemplateError → Prop where
  | empty {before after : List String} (split : names = before ++ "" :: after)
      (nodup : before.Nodup) (nonempty : "" ∉ before) :
      LeftmostFault names (.invalidPlaceholder "")
  | repeated {before after : List String} {name : String} (split : names = before ++ name :: after)
      (nodup : before.Nodup) (nonempty : "" ∉ before) (seen : name ∈ before) :
      LeftmostFault names (.duplicatePlaceholder name)

theorem LeftmostFault.append {names : List String} {e : TemplateError} (h : LeftmostFault names e)
    (more : List String) : LeftmostFault (names ++ more) e := by
  cases h with
  | @empty before after split nodup nonempty =>
    have hsplit : names ++ more = before ++ "" :: (after ++ more) := by
      rw [split, List.append_assoc, List.cons_append]
    exact .empty hsplit nodup nonempty
  | @repeated before after name split nodup nonempty seen =>
    have hsplit : names ++ more = before ++ name :: (after ++ more) := by
      rw [split, List.append_assoc, List.cons_append]
    exact .repeated hsplit nodup nonempty seen

namespace Segments
variable [UserTypes]

theorem names_concat_literal (segments : List Segment) (text : String) :
    names (segments ++ [.literal text]) = names segments := by
  simp [names, Segment.name?]

theorem names_concat_placeholder (segments : List Segment) (name : String) (type : Scalar) :
    names (segments ++ [.placeholder name type]) = names segments ++ [name] := by
  simp [names, Segment.name?]

theorem offence?_concat_literal (seen : List String) (segments : List Segment) (text : String) :
    offence? seen (segments ++ [.literal text]) =
      (offence? seen segments).or (Draft.literalFault text) := by
  induction segments generalizing seen with
  | nil => simp [offence?, Draft.literalFault]
  | cons s rest ih =>
    cases s with
    | literal first =>
      by_cases hfirst : IsSegment first
      · simp [offence?, hfirst, ih]
      · simp [offence?, hfirst]
    | placeholder first type =>
      by_cases hfirst : IsSegment first
      · by_cases hseen : first ∈ seen
        · simp [offence?, hfirst, hseen]
        · simp [offence?, hfirst, hseen, ih]
      · simp [offence?, hfirst]

theorem offence?_concat_placeholder (seen : List String) (segments : List Segment) (name : String)
    (type : Scalar) :
    offence? seen (segments ++ [.placeholder name type]) =
      (offence? seen segments).or
        (if IsSegment name then
          if name ∈ names segments ++ seen then some (.duplicatePlaceholder name) else none
        else some (.invalidPlaceholder name)) := by
  induction segments generalizing seen with
  | nil => rfl
  | cons s rest ih =>
    cases s with
    | literal first =>
      by_cases hfirst : IsSegment first
      · simp [offence?, hfirst, ih]
      · simp [offence?, hfirst]
    | placeholder first firstType =>
      by_cases hfirst : IsSegment first
      · by_cases hseen : first ∈ seen
        · simp [offence?, hfirst, hseen]
        · simp [offence?, hfirst, hseen, ih, or_left_comm]
      · simp [offence?, hfirst]

theorem check_concat_literal (segments : List Segment) (text : String) :
    check (segments ++ [.literal text]) = (check segments).or (Draft.literalFault text) :=
  offence?_concat_literal [] segments text

theorem check_concat_placeholder (segments : List Segment) (name : String) (type : Scalar) :
    check (segments ++ [.placeholder name type]) =
      (check segments).or (Draft.placeholderFault segments name) := by
  have h := offence?_concat_placeholder [] segments name type
  rwa [List.append_nil] at h

/-- Segments whose literals can stand between separators, and whose names hold no separator, can only
be at fault for their names. -/
theorem check_eq_none_or_leftmostFault {segments : List Segment}
    (hliterals : ∀ text, .literal text ∈ segments → IsSegment text)
    (hnames : ∀ name ∈ names segments, '/' ∉ name.toList) :
    ((names segments).Nodup ∧ "" ∉ names segments ∧ check segments = none) ∨
      ∃ e, LeftmostFault (names segments) e ∧ check segments = some e := by
  induction segments using List.reverseRecOn with
  | nil => exact Or.inl ⟨List.nodup_nil, List.not_mem_nil, rfl⟩
  | append_singleton segments s ih =>
    have hearlier := fun h => ih (fun text hmem => hliterals text (List.mem_append_left _ hmem)) h
    cases s with
    | literal text =>
      have htext : Draft.literalFault text = none :=
        if_pos (hliterals text (List.mem_append_right _ List.mem_cons_self))
      rw [names_concat_literal] at hnames ⊢
      rw [check_concat_literal, htext, Option.or_none]
      exact hearlier hnames
    | placeholder name type =>
      rw [names_concat_placeholder] at hnames ⊢
      rw [check_concat_placeholder]
      have hname : '/' ∉ name.toList := hnames name (by simp)
      rcases hearlier fun other hother => hnames other (List.mem_append_left _ hother) with
        ⟨hnodup, hempty, hnone⟩ | ⟨e, he, hsome⟩
      · rw [hnone, Option.none_or]
        unfold Draft.placeholderFault
        by_cases hlabel : IsSegment name
        · rw [if_pos hlabel]
          by_cases hseen : name ∈ names segments
          · rw [if_pos hseen]
            exact Or.inr ⟨_, .repeated rfl hnodup hempty hseen, rfl⟩
          · rw [if_neg hseen]
            refine Or.inl ⟨List.nodup_append.mpr ⟨hnodup, by simp, ?_⟩, ?_, rfl⟩
            · intro other hother last hlast heq
              rw [List.mem_singleton.mp hlast] at heq
              exact hseen (heq ▸ hother)
            · simpa [hempty] using hlabel.1.symm
        · have hblank : name = "" := by simpa [IsSegment, hname] using hlabel
          rw [if_neg hlabel, hblank]
          exact Or.inr ⟨_, .empty rfl hnodup hempty, rfl⟩
      · exact Or.inr ⟨e, he.append [name], by rw [hsome, Option.some_or]⟩

theorem names_read (ts : List Scalar) (ps : List String) :
    names (read ts ps) = placeholderNames ps := by
  induction ps generalizing ts with
  | nil => rfl
  | cons piece rest ih =>
    by_cases hmark : MarksPlaceholder piece
    · obtain ⟨cs, hcs⟩ := List.head?_eq_some_iff.mp hmark
      rw [read_cons_marked rest hcs, names_placeholder, ih, placeholderNames_cons_marked rest hcs]
    · rw [read_cons_unmarked rest hmark, names_literal, ih,
        placeholderNames_cons_unmarked rest hmark]

theorem length_types_read (ts : List Scalar) (ps : List String) :
    (types (read ts ps)).length = (placeholderNames ps).length := by
  rw [← length_names, names_read]

theorem isSegment_of_literal_mem_read {ts : List Scalar} {ps : List String}
    (hps : ∀ piece ∈ ps, IsSegment piece) {text : String} (h : .literal text ∈ read ts ps) :
    IsSegment text := by
  induction ps generalizing ts with
  | nil => exact absurd h List.not_mem_nil
  | cons piece rest ih =>
    obtain ⟨hpiece, hrest⟩ := List.forall_mem_cons.mp hps
    by_cases hmark : MarksPlaceholder piece
    · obtain ⟨cs, hcs⟩ := List.head?_eq_some_iff.mp hmark
      rw [read_cons_marked rest hcs] at h
      rcases List.mem_cons.mp h with heq | h
      · cases heq
      · exact ih hrest h
    · rw [read_cons_unmarked rest hmark] at h
      rcases List.mem_cons.mp h with heq | h
      · cases heq
        exact isSegment_unescape hpiece
      · exact ih hrest h

/-- The pieces of a text can only be at fault for the names of placeholders. -/
theorem check_read_pieces (ts : List Scalar) (s : String) :
    ((placeholderNames (pieces s)).Nodup ∧ "" ∉ placeholderNames (pieces s) ∧
      check (read ts (pieces s)) = none) ∨
    ∃ e, LeftmostFault (placeholderNames (pieces s)) e ∧ check (read ts (pieces s)) = some e := by
  have hps : ∀ piece ∈ pieces s, IsSegment piece := fun _ => isSegment_of_mem_pieces
  have hnames : ∀ name ∈ placeholderNames (pieces s), '/' ∉ name.toList :=
    fun _ => not_mem_of_mem_placeholderNames hps
  rw [← names_read ts] at hnames ⊢
  exact check_eq_none_or_leftmostFault (fun _ => isSegment_of_literal_mem_read hps) hnames

end Segments

namespace Draft
variable [UserTypes]

/-- The steps that pieces stand for. A piece with a leading colon adds a placeholder of the next type,
and any other one the literal it stands for. -/
def stepsOf (ts : List Scalar) : List String → List Step
  | [] => []
  | piece :: rest =>
    if MarksPlaceholder piece then
      .placeholder (String.ofList piece.toList.tail) (ts.headD .text) :: stepsOf ts.tail rest
    else .literal (unescape piece) :: stepsOf ts rest

theorem segments_ofSteps_stepsOf (ts : List Scalar) (ps : List String) :
    (ofSteps (stepsOf ts ps)).segments = Segments.read ts ps := by
  rw [segments_ofSteps]
  induction ps generalizing ts with
  | nil => rfl
  | cons piece rest ih =>
    by_cases hmark : MarksPlaceholder piece
    · obtain ⟨cs, hcs⟩ := List.head?_eq_some_iff.mp hmark
      rw [stepsOf, if_pos hmark, List.flatMap_cons, ih, Segments.read_cons_marked rest hcs, hcs]
      rfl
    · rw [stepsOf, if_neg hmark, List.flatMap_cons, ih, Segments.read_cons_unmarked rest hmark]
      rfl

example : stepsOf [.u8] ["shop", ":n", "\\:n"] =
    [.literal "shop", .placeholder "n" .u8, .literal ":n"] := rfl

theorem fault_literal {d : Draft} (h : d.fault = Segments.check d.segments) (text : String) :
    (d.literal text).fault = Segments.check (d.literal text).segments := by
  rw [literal, Segments.check_concat_literal, ← h]

theorem fault_literals {d : Draft} (h : d.fault = Segments.check d.segments) (texts : List String) :
    (d.literals texts).fault = Segments.check (d.literals texts).segments := by
  induction texts generalizing d with
  | nil => exact h
  | cons text rest ih => exact ih (fault_literal h text)

theorem fault_take {d : Draft} (h : d.fault = Segments.check d.segments) (step : Step) :
    (d.take step).fault = Segments.check (d.take step).segments := by
  cases step with
  | literal text => exact fault_literal h text
  | literals texts => exact fault_literals h texts
  | placeholder name type =>
    rw [take, placeholder, Segments.check_concat_placeholder, ← h]

theorem fault_foldl_take {d : Draft} (h : d.fault = Segments.check d.segments) (steps : List Step) :
    (steps.foldl take d).fault = Segments.check (steps.foldl take d).segments := by
  induction steps generalizing d with
  | nil => exact h
  | cons step rest ih => exact ih (fault_take h step)

/-- A draft remembers the first offence among the segments it was given. -/
theorem fault_ofSteps (steps : List Step) :
    (ofSteps steps).fault = Segments.check (ofSteps steps).segments := fault_foldl_take rfl steps

theorem build_eq_error {d : Draft} {e : TemplateError} (h : d.fault = some e) :
    d.build = .error e := by
  unfold build
  split
  · rename_i found hfound
    rw [h] at hfound
    cases hfound
    rfl
  · rename_i hnone
    rw [h] at hnone
    cases hnone

theorem exists_build {d : Draft} (h : d.fault = none) :
    ∃ t, d.build = .ok t ∧ t.segments = d.segments := by
  unfold build
  split
  · rename_i found hfound
    rw [h] at hfound
    cases hfound
  · exact ⟨_, rfl, rfl⟩

end Draft

namespace Template
variable [UserTypes]

theorem parse_of_check_eq_some {ts : List Scalar} {s : String} {e : TemplateError}
    (h : Segments.check (Segments.read ts (pieces s)) = some e) : parse ts s = .error e := by
  unfold parse
  split
  · rename_i found hfound
    rw [h] at hfound
    cases hfound
    rfl
  · rename_i hnone
    rw [h] at hnone
    cases hnone

theorem parse_of_length_ne {ts : List Scalar} {s : String}
    (h : Segments.check (Segments.read ts (pieces s)) = none)
    (hlength : (placeholderNames (pieces s)).length ≠ ts.length) :
    parse ts s = .error (.arityMismatch s ts.length (placeholderNames (pieces s)).length) := by
  rw [← Segments.length_types_read ts] at hlength ⊢
  unfold parse
  split
  · rename_i found hfound
    rw [h] at hfound
    cases hfound
  · rw [dif_neg hlength]

/-- Reading fails at the leftmost fault of the names if there is one, then at a wrong number of names,
and succeeds otherwise. -/
theorem parse_cases (ts : List Scalar) (s : String) :
    (∃ e, LeftmostFault (placeholderNames (pieces s)) e ∧
      Segments.check (Segments.read ts (pieces s)) = some e ∧ parse ts s = .error e) ∨
    ((placeholderNames (pieces s)).Nodup ∧ "" ∉ placeholderNames (pieces s) ∧
      Segments.check (Segments.read ts (pieces s)) = none ∧
      (((placeholderNames (pieces s)).length = ts.length ∧
        ∃ t, parse ts s = .ok t ∧ t.segments = Segments.read ts (pieces s)) ∨
      ((placeholderNames (pieces s)).length ≠ ts.length ∧
        parse ts s =
          .error (.arityMismatch s ts.length (placeholderNames (pieces s)).length)))) := by
  rcases Segments.check_read_pieces ts s with ⟨hnodup, hempty, hnone⟩ | ⟨e, he, hsome⟩
  · refine Or.inr ⟨hnodup, hempty, hnone, ?_⟩
    by_cases hlength : (placeholderNames (pieces s)).length = ts.length
    · have htypes : Segments.types (Segments.read ts (pieces s)) = ts := by
        apply Segments.types_read
        rw [Segments.length_types_read, hlength]
      refine Or.inl ⟨hlength, ⟨_, (Segments.check_eq_none_iff _).mp hnone, htypes⟩, ?_, rfl⟩
      exact parse_eq_ok_iff.mpr rfl
    · exact Or.inr ⟨hlength, parse_of_length_ne hnone hlength⟩
  · exact Or.inl ⟨e, he, hsome, parse_of_check_eq_some hsome⟩

theorem leftmostFault_or_arityMismatch {ts : List Scalar} {s : String} {e : TemplateError}
    (h : parse ts s = .error e) :
    LeftmostFault (placeholderNames (pieces s)) e ∨
      ∃ found, e = .arityMismatch s ts.length found := by
  rcases parse_cases ts s with ⟨e', he', -, hparse⟩ | ⟨-, -, -, ⟨-, t, hparse, -⟩ | ⟨-, hparse⟩⟩
  · rw [hparse] at h
    cases h
    exact Or.inl he'
  · rw [hparse] at h
    cases h
  · rw [hparse] at h
    cases h
    exact Or.inr ⟨_, rfl⟩

/-- Reading a text gives the template or the fault that its pieces give as steps, if there are as many
placeholders as types. -/
theorem parse_agrees_with_steps (ts : List Scalar) (s : String) :
    ((placeholderNames (pieces s)).length = ts.length →
      (Draft.ofSteps (Draft.stepsOf ts (pieces s))).types = ts ∧
      (parse ts s).map (fun t => (t.segments, t.text)) =
        (Draft.ofSteps (Draft.stepsOf ts (pieces s))).build.map fun t => (t.segments, t.text)) ∧
    ((placeholderNames (pieces s)).length ≠ ts.length →
      (∃ e, LeftmostFault (placeholderNames (pieces s)) e ∧ parse ts s = .error e) ∨
      ((placeholderNames (pieces s)).Nodup ∧ "" ∉ placeholderNames (pieces s) ∧
        parse ts s =
          .error (.arityMismatch s ts.length (placeholderNames (pieces s)).length))) ∧
    (∀ text, parse ts s ≠ .error (.invalidSegment text)) ∧
    (∀ name value, parse ts s ≠ .error (.unrenderableValue name value)) := by
  have hsegments := Draft.segments_ofSteps_stepsOf ts (pieces s)
  have hfault := Draft.fault_ofSteps (Draft.stepsOf ts (pieces s))
  rw [hsegments] at hfault
  refine ⟨?agree, ?wrongCount, ?literals, ?values⟩
  case agree =>
    intro hlength
    constructor
    · rw [Draft.types, hsegments]
      apply Segments.types_read
      rw [Segments.length_types_read, hlength]
    · rcases parse_cases ts s with
        ⟨e, -, hcheck, hparse⟩ | ⟨-, -, hcheck, ⟨-, t, hparse, ht⟩ | ⟨hne, -⟩⟩
      · rw [hparse, Draft.build_eq_error (hfault.trans hcheck)]
        rfl
      · obtain ⟨u, hbuild, hu⟩ := Draft.exists_build (hfault.trans hcheck)
        have hsame : u.segments = t.segments := by rw [hu, hsegments, ht]
        have htext : u.text = t.text := congrArg Segments.render hsame
        rw [hparse, hbuild]
        show Except.ok (t.segments, t.text) = Except.ok (u.segments, u.text)
        rw [hsame, htext]
      · exact absurd hlength hne
  case wrongCount =>
    intro hlength
    rcases parse_cases ts s with
      ⟨e, he, -, hparse⟩ | ⟨hnodup, hempty, -, ⟨heq, -⟩ | ⟨-, hparse⟩⟩
    · exact Or.inl ⟨e, he, hparse⟩
    · exact absurd heq hlength
    · exact Or.inr ⟨hnodup, hempty, hparse⟩
  case literals =>
    intro text hbad
    rcases leftmostFault_or_arityMismatch hbad with hfault | ⟨found, heq⟩
    · cases hfault
    · cases heq
  case values =>
    intro name value hbad
    rcases leftmostFault_or_arityMismatch hbad with hfault | ⟨found, heq⟩
    · cases hfault
    · cases heq

end Template

end PathRouting
