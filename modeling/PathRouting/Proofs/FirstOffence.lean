import PathRouting.Proofs.TemplateInvariant

/-!
# First offences

A draft looks at each segment when it is added, compares a name with all names before it, and goes
on after an offence. Checking a sequence starts over from its front with the names met so far, and
stops at an offence. Both report the same one: that of the first segment that offends after a
well-formed sequence. So an offence stays the reported one whatever is added later.
-/

namespace PathRouting
set_option autoImplicit false

variable [UserTypes]

namespace Segments

/-- A segment that comes after others makes the sequence ill formed, for the given reason. -/
inductive Offends (before : List Segment) : Segment → TemplateError → Prop where
  | literal {text : String} (label : ¬IsSegment text) :
      Offends before (.literal text) (.invalidSegment text)
  | placeholder {name : String} {type : Scalar} (label : ¬IsSegment name) :
      Offends before (.placeholder name type) (.invalidPlaceholder name)
  | repeated {name : String} {type : Scalar} (label : IsSegment name) (seen : name ∈ names before) :
      Offends before (.placeholder name type) (.duplicatePlaceholder name)

/-- What a segment adds to the offences of those before it. -/
def faultAfter (before : List Segment) : Segment → Option TemplateError
  | .literal text => Draft.literalFault text
  | .placeholder name _ => Draft.placeholderFault before name

theorem faultAfter_eq_some_iff {before : List Segment} {s : Segment} {e : TemplateError} :
    faultAfter before s = some e ↔ Offends before s e := by
  constructor
  · intro h
    cases s with
    | literal text =>
      simp only [faultAfter, Draft.literalFault] at h
      split at h
      · cases h
      · cases h
        exact .literal ‹_›
    | placeholder name type =>
      simp only [faultAfter, Draft.placeholderFault] at h
      split at h
      · split at h
        · cases h
          exact .repeated ‹_› ‹_›
        · cases h
      · cases h
        exact .placeholder ‹_›
  · intro h
    cases h with
    | literal hlabel => exact if_neg hlabel
    | placeholder hlabel => exact if_neg hlabel
    | repeated hlabel hseen =>
      simp only [faultAfter, Draft.placeholderFault, if_pos hlabel, if_pos hseen]

theorem check_concat (segments : List Segment) (s : Segment) :
    check (segments ++ [s]) = (check segments).or (faultAfter segments s) := by
  cases s with
  | literal text => exact check_concat_literal segments text
  | placeholder name type => exact check_concat_placeholder segments name type

theorem check_append_of_eq_some {segments : List Segment} {e : TemplateError}
    (h : check segments = some e) (more : List Segment) : check (segments ++ more) = some e := by
  induction more using List.reverseRecOn with
  | nil => rwa [List.append_nil]
  | append_singleton more s ih => rw [← List.append_assoc, check_concat, ih, Option.some_or]

theorem check_eq_some_iff {segments : List Segment} {e : TemplateError} :
    check segments = some e ↔
      ∃ before s after, segments = before ++ s :: after ∧
        WellFormed before ∧ Offends before s e := by
  -- From the end, as a draft grows: the last segment matters only if there was no offence before it.
  constructor
  · intro h
    induction segments using List.reverseRecOn with
    | nil => cases h
    | append_singleton segments s ih =>
      rw [check_concat] at h
      cases hearlier : check segments with
      | some first =>
        rw [hearlier, Option.some_or] at h
        obtain ⟨before, t, after, rfl, hbefore, ht⟩ := ih (hearlier.trans h)
        exact ⟨before, t, after ++ [s], by simp, hbefore, ht⟩
      | none =>
        rw [hearlier, Option.none_or] at h
        exact ⟨segments, s, [], rfl, (check_eq_none_iff segments).mp hearlier,
          faultAfter_eq_some_iff.mp h⟩
  · rintro ⟨before, s, after, rfl, hbefore, hs⟩
    have hfirst : check (before ++ [s]) = some e := by
      rw [check_concat, (check_eq_none_iff before).mpr hbefore, Option.none_or,
        faultAfter_eq_some_iff.mpr hs]
    rw [List.append_cons]
    exact check_append_of_eq_some hfirst after

theorem length_types_eq_countP (segments : List Segment) :
    (types segments).length = segments.countP fun s => s.type?.isSome :=
  List.length_filterMap_eq_countP

end Segments

namespace Draft

theorem build_eq_error_iff {d : Draft} {e : TemplateError} :
    d.build = .error e ↔ d.fault = some e := by
  refine ⟨fun h => ?_, build_eq_error⟩
  cases hfault : d.fault with
  | some first =>
    rw [build_eq_error hfault] at h
    cases h
    rfl
  | none =>
    obtain ⟨t, ht, -⟩ := exists_build hfault
    rw [ht] at h
    cases h

/-- At every point of the work on a draft its fault is that of the first segment that offends, and
building fails with it from then on. -/
theorem build_reports_first_offence (steps : List Step) :
    (ofSteps steps).segments = steps.flatMap Step.segments ∧
    (ofSteps steps).fault = Segments.check (steps.flatMap Step.segments) ∧
    ((ofSteps steps).fault = none ↔ Segments.WellFormed (steps.flatMap Step.segments)) ∧
    (∀ e, (ofSteps steps).fault = some e ↔
      ∃ before s after, steps.flatMap Step.segments = before ++ s :: after ∧
        Segments.WellFormed before ∧ Segments.Offends before s e) ∧
    (∀ e, (ofSteps steps).build = .error e ↔
      Segments.check (steps.flatMap Step.segments) = some e) ∧
    (Segments.check (steps.flatMap Step.segments) = none →
      ∃ t, (ofSteps steps).build = .ok t ∧ t.segments = steps.flatMap Step.segments) ∧
    (∀ e, (ofSteps steps).build = .error e →
      ∀ more, (ofSteps (steps ++ more)).build = .error e) ∧
    (ofSteps steps).arity = (steps.foldl Step.push []).length ∧
    (ofSteps steps).arity = (steps.flatMap Step.segments).countP fun s => s.type?.isSome := by
  have hsegments := segments_ofSteps steps
  have hfault := fault_ofSteps steps
  rw [hsegments] at hfault
  refine ⟨hsegments, hfault, ?sound, ?first, ?refused, ?built, ?kept, ?pushed, ?counted⟩
  case sound => rw [hfault, Segments.check_eq_none_iff]
  case first =>
    intro e
    rw [hfault, Segments.check_eq_some_iff]
  case refused =>
    intro e
    rw [build_eq_error_iff, hfault]
  case built =>
    intro hnone
    obtain ⟨t, ht, hsame⟩ := exists_build (hfault.trans hnone)
    exact ⟨t, ht, hsame.trans hsegments⟩
  case kept =>
    intro e herror more
    rw [build_eq_error_iff, hfault] at herror
    rw [build_eq_error_iff, fault_ofSteps, segments_ofSteps, List.flatMap_append]
    exact Segments.check_append_of_eq_some herror _
  case pushed => rw [arity, types_ofSteps]
  case counted => rw [arity, types, hsegments, Segments.length_types_eq_countP]

end Draft

end PathRouting
