import PathRouting.Template.Segment
import PathRouting.Template.Values

/-!
# Templates

A template for a list of types is a well-formed sequence of segments whose placeholders have these
types, in order. It is read from a text, in which a piece that starts with `:` is a placeholder and a
backslash before such a piece makes it a literal. It accepts the paths that have its literals in
place and hold readable values for its placeholders, and it turns values into a path.
-/

namespace PathRouting
set_option autoImplicit false

variable [UserTypes]

/-- A template whose placeholders have the given types. -/
structure Template (ts : List Scalar) where
  segments : List Segment
  wellFormed : Segments.WellFormed segments
  types_eq : Segments.types segments = ts
deriving DecidableEq

namespace Segments

/-- Reads pieces as segments. Placeholders take the given types in order. -/
def read (ts : List Scalar) : List String → List Segment
  | [] => []
  | piece :: rest =>
    match piece.toList with
    | '\\' :: ':' :: cs => .literal (String.ofList (':' :: cs)) :: read ts rest
    -- Once the types run out the number of placeholders is wrong anyway, and a text stands in.
    | ':' :: cs => .placeholder (String.ofList cs) (ts.headD .text) :: read ts.tail rest
    | _ => .literal piece :: read ts rest

theorem types_read {ts : List Scalar} {ps : List String}
    (h : (types (read ts ps)).length = ts.length) : types (read ts ps) = ts := by
  induction ps generalizing ts with
  | nil =>
    cases ts with
    | nil => rfl
    | cons t ts => simp [read, types] at h
  | cons p ps ih =>
    unfold read at h ⊢
    split at h
    · exact ih h
    · cases ts with
      | nil => simp at h
      | cons t ts =>
        simp only [types_placeholder, List.headD_cons, List.tail_cons, List.length_cons] at h ⊢
        rw [ih (by omega)]
    · exact ih h

end Segments

namespace Template
variable {ts : List Scalar}

def arity (_ : Template ts) : Nat := ts.length

def text (t : Template ts) : String := Segments.render t.segments

def names (t : Template ts) : List String := Segments.names t.segments

def typeNames (_ : Template ts) : List String := ts.map Scalar.name

/-- Reads a template. The first offence in the segments is reported before a wrong number of
placeholders. -/
def parse (ts : List Scalar) (s : String) : Except TemplateError (Template ts) :=
  match h : Segments.check (Segments.read ts (pieces s)) with
  | some e => .error e
  | none =>
    if hn : (Segments.types (Segments.read ts (pieces s))).length = ts.length then
      .ok ⟨_, (Segments.check_eq_none_iff _).mp h, Segments.types_read hn⟩
    else
      .error (.arityMismatch s ts.length
        (Segments.types (Segments.read ts (pieces s))).length)

def diagnostic (t : Template ts) : String :=
  Text.diagnosticRecord "Template"
    [("template", Text.quoted t.text),
      ("segments", Text.diagnosticList (t.segments.map Segment.diagnostic))]

end Template

end PathRouting
