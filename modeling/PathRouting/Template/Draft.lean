import PathRouting.Template.Basic

/-!
# Drafts of templates

A template can be put together segment by segment. An offending segment does not interrupt the work:
it is kept like any other, and the first offence is remembered and comes out in the end.
-/

namespace PathRouting
set_option autoImplicit false

variable [UserTypes]

/-- A template in the making: all segments so far, and the first offence among them. -/
structure Draft where
  segments : List Segment
  fault : Option TemplateError
  sound : fault = none → Segments.WellFormed segments

namespace Segments

theorem WellFormed.concat {segments : List Segment} {s : Segment} (h : WellFormed segments)
    (label : IsSegment s.label) (fresh : ∀ name ∈ names segments, s.name? ≠ some name) :
    WellFormed (segments ++ [s]) := by
  constructor
  · intro x hx
    rcases List.mem_append.mp hx with hx | hx
    · exact h.labels x hx
    · rw [List.mem_singleton.mp hx]
      exact label
  · have hd := h.distinct
    unfold names at hd fresh ⊢
    rw [List.filterMap_append]
    cases hs : s.name? with
    | none => simpa [hs] using hd
    | some name =>
      simp only [List.filterMap_cons, hs, List.filterMap_nil]
      rw [List.nodup_append]
      refine ⟨hd, by simp, ?_⟩
      intro a ha b hb
      rw [List.mem_singleton.mp hb]
      intro heq
      exact fresh a ha (by rw [hs, heq])

end Segments

namespace Draft

def start : Draft := ⟨[], none, fun _ => ⟨by simp, by simp [Segments.names]⟩⟩

/-- What a literal adds to the offences. -/
def literalFault (text : String) : Option TemplateError :=
  if IsSegment text then none else some (.invalidSegment text)

/-- What a placeholder adds to the offences, after the segments so far. -/
def placeholderFault (segments : List Segment) (name : String) : Option TemplateError :=
  if IsSegment name then
    if name ∈ Segments.names segments then some (.duplicatePlaceholder name) else none
  else some (.invalidPlaceholder name)

def literal (d : Draft) (text : String) : Draft where
  segments := d.segments ++ [.literal text]
  fault := d.fault.or (literalFault text)
  sound h := by
    rw [Option.or_eq_none_iff] at h
    refine (d.sound h.1).concat ?_ (by simp [Segment.name?])
    have hl := h.2
    unfold literalFault at hl
    split at hl
    · assumption
    · cases hl

def literals (d : Draft) (texts : List String) : Draft := texts.foldl literal d

def placeholder (d : Draft) (name : String) (type : Scalar) : Draft where
  segments := d.segments ++ [.placeholder name type]
  fault := d.fault.or (placeholderFault d.segments name)
  sound h := by
    rw [Option.or_eq_none_iff] at h
    have hp := h.2
    unfold placeholderFault at hp
    split at hp
    · rename_i hname
      split at hp
      · cases hp
      · rename_i hfresh
        refine (d.sound h.1).concat hname ?_
        intro n hn heq
        rw [Segment.name?, Option.some.injEq] at heq
        exact hfresh (heq ▸ hn)
    · cases hp

def types (d : Draft) : List Scalar := Segments.types d.segments

def arity (d : Draft) : Nat := d.types.length

/-- The finished template, or the first offence. -/
def build (d : Draft) : Except TemplateError (Template d.types) :=
  match h : d.fault with
  | some e => .error e
  | none => .ok ⟨d.segments, d.sound h, rfl⟩

def diagnostic (d : Draft) : String :=
  Text.diagnosticRecord "TemplateFactory"
    [("segments", Text.diagnosticList (d.segments.map Segment.diagnostic)),
      ("error", match d.fault with
        | none => "None"
        | some e => "Some(" ++ e.diagnostic ++ ")")]

inductive Step where
  | literal (text : String)
  | literals (texts : List String)
  | placeholder (name : String) (type : Scalar)
deriving DecidableEq

def take (d : Draft) : Step → Draft
  | .literal text => d.literal text
  | .literals texts => d.literals texts
  | .placeholder name type => d.placeholder name type

def ofSteps (steps : List Step) : Draft := steps.foldl take start

end Draft

end PathRouting
