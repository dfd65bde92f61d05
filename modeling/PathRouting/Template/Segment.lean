import PathRouting.Path
import PathRouting.Scalar.Codec

/-!
# Template segments

A template segment is a literal, to be met exactly, or a placeholder with a name and a type. A
sequence of segments is well formed if its literals and names can stand between separators and no
name comes twice. Checking walks the sequence once and reports the first offence.
-/

namespace PathRouting
set_option autoImplicit false

variable [UserTypes]

inductive Segment where
  | literal (text : String)
  | placeholder (name : String) (type : Scalar)
deriving DecidableEq

/-- What is wrong with a template, or with values to fill it. -/
inductive TemplateError where
  | invalidSegment (text : String)
  | invalidPlaceholder (name : String)
  | duplicatePlaceholder (name : String)
  | arityMismatch (template : String) (expected found : Nat)
  | unrenderableValue (name value : String)
deriving DecidableEq

namespace TemplateError

def message : TemplateError → String
  | invalidSegment text => "invalid literal segment '" ++ text ++ "'"
  | invalidPlaceholder name => "invalid placeholder name '" ++ name ++ "'"
  | duplicatePlaceholder name => "duplicate placeholder ':" ++ name ++ "'"
  | arityMismatch template expected found =>
    "template '" ++ template ++ "' has " ++ Text.count found ++ " placeholders, expected " ++
      Text.count expected
  | unrenderableValue name value =>
    "value '" ++ value ++ "' for ':" ++ name ++ "' cannot be rendered as a path segment"

def diagnostic : TemplateError → String
  | invalidSegment text => Text.diagnosticRecord "InvalidSegment" [("segment", Text.quoted text)]
  | invalidPlaceholder name => Text.diagnosticRecord "InvalidPlaceholder" [("name", Text.quoted name)]
  | duplicatePlaceholder name =>
    Text.diagnosticRecord "DuplicatePlaceholder" [("name", Text.quoted name)]
  | arityMismatch template expected found =>
    Text.diagnosticRecord "ArityMismatch"
      [("template", Text.quoted template), ("expected", Text.count expected),
        ("found", Text.count found)]
  | unrenderableValue name value =>
    Text.diagnosticRecord "UnrenderableValue"
      [("name", Text.quoted name), ("value", Text.quoted value)]

end TemplateError

namespace Segment

def type? : Segment → Option Scalar
  | literal _ => none
  | placeholder _ type => some type

def name? : Segment → Option String
  | literal _ => none
  | placeholder name _ => some name

/-- The written form. A literal that would read as a placeholder is escaped by a backslash. -/
def render : Segment → String
  | literal text => if text.toList.head? = some ':' then "\\" ++ text else text
  | placeholder name _ => ":" ++ name

def diagnostic : Segment → String
  | literal text => "Literal(" ++ Text.quoted text ++ ")"
  | placeholder name type =>
    Text.diagnosticRecord "Placeholder"
      [("name", Text.quoted name), ("type_name", Text.quoted type.name)]

/-- The text that has to be able to stand between separators. -/
def label : Segment → String
  | literal text => text
  | placeholder name _ => name

end Segment

namespace Segments

def types (segments : List Segment) : List Scalar := segments.filterMap Segment.type?

def names (segments : List Segment) : List String := segments.filterMap Segment.name?

/-- The written form: the segments with one separator between them. -/
def render (segments : List Segment) : String := "/".intercalate (segments.map Segment.render)

/-- Every label can stand between separators and no placeholder name comes twice. -/
structure WellFormed (segments : List Segment) : Prop where
  labels : ∀ s ∈ segments, IsSegment s.label
  distinct : (names segments).Nodup

instance (segments : List Segment) : Decidable (WellFormed segments) :=
  decidable_of_iff ((∀ s ∈ segments, IsSegment s.label) ∧ (names segments).Nodup)
    ⟨fun h => ⟨h.1, h.2⟩, fun h => ⟨h.labels, h.distinct⟩⟩

/-- The first offence, given the placeholder names met before. -/
def offence? (seen : List String) : List Segment → Option TemplateError
  | [] => none
  | .literal text :: rest =>
    if IsSegment text then offence? seen rest else some (.invalidSegment text)
  | .placeholder name _ :: rest =>
    if IsSegment name then
      if name ∈ seen then some (.duplicatePlaceholder name) else offence? (name :: seen) rest
    else some (.invalidPlaceholder name)

def check (segments : List Segment) : Option TemplateError := offence? [] segments

@[simp] theorem names_literal (text : String) (rest : List Segment) :
    names (.literal text :: rest) = names rest := rfl

@[simp] theorem names_placeholder (name : String) (type : Scalar) (rest : List Segment) :
    names (.placeholder name type :: rest) = name :: names rest := rfl

@[simp] theorem types_literal (text : String) (rest : List Segment) :
    types (.literal text :: rest) = types rest := rfl

@[simp] theorem types_placeholder (name : String) (type : Scalar) (rest : List Segment) :
    types (.placeholder name type :: rest) = type :: types rest := rfl

theorem length_names (segments : List Segment) :
    (names segments).length = (types segments).length := by
  induction segments with
  | nil => rfl
  | cons s rest ih =>
    cases s with
    | literal text => exact ih
    | placeholder name type => simp [ih]

/-- There is no offence exactly if the labels are segments, the names are distinct, and none of them
was met before. -/
theorem offence?_eq_none_iff (seen : List String) (segments : List Segment) :
    offence? seen segments = none ↔
      WellFormed segments ∧ ∀ name ∈ names segments, name ∉ seen := by
  induction segments generalizing seen with
  | nil => exact ⟨fun _ => ⟨⟨by simp, by simp [names]⟩, by simp [names]⟩, fun _ => rfl⟩
  | cons s rest ih =>
    cases s with
    | literal text =>
      by_cases ht : IsSegment text
      · simp only [offence?, ht, if_true, ih, names_literal]
        constructor
        · rintro ⟨hw, hs⟩
          refine ⟨⟨?_, hw.distinct⟩, hs⟩
          intro s hmem
          rcases List.mem_cons.mp hmem with rfl | hmem
          · exact ht
          · exact hw.labels s hmem
        · rintro ⟨hw, hs⟩
          exact ⟨⟨fun s hmem => hw.labels s (List.mem_cons_of_mem _ hmem), hw.distinct⟩, hs⟩
      · simp only [offence?, ht, if_false, reduceCtorEq, false_iff]
        exact fun h => ht (h.1.labels _ List.mem_cons_self)
    | placeholder name type =>
      by_cases hn : IsSegment name
      · by_cases hseen : name ∈ seen
        · simp only [offence?, hn, hseen, if_true, reduceCtorEq, false_iff]
          exact fun h => h.2 name (by simp) hseen
        · simp only [offence?, hn, hseen, if_true, if_false, ih, names_placeholder]
          constructor
          · rintro ⟨hw, hs⟩
            refine ⟨⟨?_, ?_⟩, ?_⟩
            · intro s hmem
              rcases List.mem_cons.mp hmem with rfl | hmem
              · exact hn
              · exact hw.labels s hmem
            · rw [names_placeholder, List.nodup_cons]
              exact ⟨fun hmem => hs name hmem List.mem_cons_self, hw.distinct⟩
            · intro n hmem
              rcases List.mem_cons.mp hmem with rfl | hmem
              · exact hseen
              · exact fun h => hs n hmem (List.mem_cons_of_mem _ h)
          · rintro ⟨hw, hs⟩
            have hd := hw.distinct
            rw [names_placeholder, List.nodup_cons] at hd
            refine ⟨⟨fun s hmem => hw.labels s (List.mem_cons_of_mem _ hmem), hd.2⟩, ?_⟩
            intro n hmem hcons
            rcases List.mem_cons.mp hcons with rfl | h
            · exact hd.1 hmem
            · exact hs n (List.mem_cons_of_mem _ hmem) h
      · simp only [offence?, hn, if_false, reduceCtorEq, false_iff]
        exact fun h => hn (h.1.labels _ List.mem_cons_self)

theorem check_eq_none_iff (segments : List Segment) :
    check segments = none ↔ WellFormed segments := by
  simp [check, offence?_eq_none_iff]

end Segments

end PathRouting
