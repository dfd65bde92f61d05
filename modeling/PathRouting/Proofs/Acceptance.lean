import Mathlib.Data.List.Forall2
import PathRouting.Proofs.CanonicalPath

/-!
# Acceptance, segment by segment

Matching looks at the number of segments first, then at all literals, and then at all values. Whether
a path is accepted does not depend on that order: it is if each of its segments is accepted by the
segment of the template at the same place.
-/

namespace PathRouting
set_option autoImplicit false

variable [UserTypes]

/-- A piece is a written value of the type. -/
def Scalar.Reads (type : Scalar) (piece : String) : Prop := ∃ v, type.decode piece = .ok v

/-- A piece can stand at the place of the segment. -/
def Segment.Accepts : Segment → String → Prop
  | literal text, piece => text = piece
  | placeholder _ type, piece => type.Reads piece

theorem Scalar.reads_text (piece : String) : text.Reads piece := ⟨piece, rfl⟩

theorem Values.exists_decodeFrom_iff {ts : List Scalar} {raw : List String} (index : Nat)
    (hlength : raw.length = ts.length) :
    (∃ vs, decodeFrom index ts raw hlength = .ok vs) ↔ List.Forall₂ Scalar.Reads ts raw := by
  induction ts generalizing raw index with
  | nil =>
    obtain rfl := List.eq_nil_of_length_eq_zero hlength
    exact iff_of_true ⟨.nil, rfl⟩ .nil
  | cons t ts ih =>
    cases raw with
    | nil => simp at hlength
    | cons s raw =>
      have hrest : raw.length = ts.length := by simpa using hlength
      rw [List.forall₂_cons, ← ih (index + 1) hrest]
      constructor
      · rintro ⟨vs, h⟩
        obtain ⟨v, rest, hv, hothers, -⟩ := (decodeFrom_cons_eq_ok_iff hlength).mp h
        exact ⟨⟨v, hv⟩, rest, hothers⟩
      · rintro ⟨⟨v, hv⟩, rest, hothers⟩
        exact ⟨.cons v rest, (decodeFrom_cons_eq_ok_iff hlength).mpr ⟨v, rest, hv, hothers, rfl⟩⟩

theorem Segments.forall₂_accepts_iff {segments : List Segment} {path : List String}
    (position : Nat) :
    List.Forall₂ Segment.Accepts segments path ↔
      path.length = segments.length ∧ ∃ raw, capture position segments path = .ok raw ∧
        List.Forall₂ Scalar.Reads (types segments) raw := by
  induction segments generalizing path position with
  | nil =>
    rw [List.forall₂_nil_left_iff]
    constructor
    · rintro rfl
      exact ⟨rfl, [], rfl, .nil⟩
    · exact fun h => List.eq_nil_of_length_eq_zero h.1
  | cons s rest ih =>
    cases path with
    | nil => exact iff_of_false (fun h => nomatch h) fun h => by simp at h
    | cons piece path =>
      rw [List.forall₂_cons, ih (position + 1), List.length_cons, List.length_cons,
        Nat.add_right_cancel_iff]
      cases s with
      | literal text =>
        simp only [capture_literal_eq_ok_iff, types_literal]
        constructor
        · rintro ⟨htext, hlength, raw, hraw, hreads⟩
          exact ⟨hlength, raw, ⟨htext, hraw⟩, hreads⟩
        · rintro ⟨hlength, raw, ⟨htext, hraw⟩, hreads⟩
          exact ⟨htext, hlength, raw, hraw, hreads⟩
      | placeholder name type =>
        simp only [capture_placeholder_eq_ok_iff, types_placeholder]
        constructor
        · rintro ⟨hpiece, hlength, raw, hraw, hreads⟩
          exact ⟨hlength, piece :: raw, ⟨raw, hraw, rfl⟩, .cons hpiece hreads⟩
        · rintro ⟨hlength, _, ⟨raw, hraw, rfl⟩, hreads⟩
          obtain ⟨hpiece, hothers⟩ := List.forall₂_cons.mp hreads
          exact ⟨hpiece, hlength, raw, hraw, hothers⟩

theorem Template.exists_tryMatch_iff {ts : List Scalar} {t : Template ts} {p : Path} :
    (∃ vs, t.tryMatch p = .ok vs) ↔ List.Forall₂ Segment.Accepts t.segments p.segments := by
  rw [Segments.forall₂_accepts_iff 0, t.types_eq]
  constructor
  · rintro ⟨vs, h⟩
    obtain ⟨raw, hcapture, hdecode⟩ := tryMatch_eq_ok_iff.mp h
    obtain ⟨hlength, hraw⟩ := capture_eq_ok_iff.mp hcapture
    obtain ⟨hcount, hvalues⟩ := Values.decode_eq_ok_iff.mp hdecode
    exact ⟨hlength, raw, hraw, (Values.exists_decodeFrom_iff 0 hcount).mp ⟨vs, hvalues⟩⟩
  · rintro ⟨hlength, raw, hraw, hreads⟩
    have hcount : raw.length = ts.length := hreads.length_eq.symm
    obtain ⟨vs, hvalues⟩ := (Values.exists_decodeFrom_iff 0 hcount).mpr hreads
    refine ⟨vs, tryMatch_eq_ok_iff.mpr ⟨raw, ?_, ?_⟩⟩
    · exact capture_eq_ok_iff.mpr ⟨hlength, hraw⟩
    · exact Values.decode_eq_ok_iff.mpr ⟨hcount, hvalues⟩

/-- Place by place, the pieces of a path are the literals and are read as the values. -/
inductive Segments.ReadAs :
    List Segment → List String → {ts : List Scalar} → Values ts → Prop where
  | nil : ReadAs [] [] .nil
  | literal {text : String} {rest : List Segment} {path : List String} {ts : List Scalar}
      {vs : Values ts} (others : ReadAs rest path vs) :
      ReadAs (.literal text :: rest) (text :: path) vs
  | placeholder {name piece : String} {type : Scalar} {v : type.Value} {rest : List Segment}
      {path : List String} {ts : List Scalar} {vs : Values ts} (h : type.decode piece = .ok v)
      (others : ReadAs rest path vs) :
      ReadAs (.placeholder name type :: rest) (piece :: path) (.cons v vs)

theorem Segments.readAs_iff {segments : List Segment} {path : List String} {ts : List Scalar}
    {vs : Values ts} (position index : Nat) (htypes : types segments = ts) :
    ReadAs segments path vs ↔
      path.length = segments.length ∧ ∃ raw, capture position segments path = .ok raw ∧
        ∃ hlength : raw.length = ts.length, Values.decodeFrom index ts raw hlength = .ok vs := by
  induction segments generalizing path position index ts with
  | nil =>
    subst htypes
    cases vs
    constructor
    · intro h
      cases h
      exact ⟨rfl, [], rfl, rfl, rfl⟩
    · rintro ⟨hlength, -⟩
      obtain rfl := List.eq_nil_of_length_eq_zero hlength
      exact .nil
  | cons s rest ih =>
    cases path with
    | nil => exact iff_of_false (fun h => nomatch h) fun h => by simp at h
    | cons piece path =>
      cases s with
      | literal text =>
        rw [types_literal] at htypes
        simp only [capture_literal_eq_ok_iff, List.length_cons, Nat.add_right_cancel_iff]
        constructor
        · intro h
          cases h with
          | literal others =>
            obtain ⟨hlength, raw, hraw, hvalues⟩ := (ih (position + 1) index htypes).mp others
            exact ⟨hlength, raw, ⟨rfl, hraw⟩, hvalues⟩
        · rintro ⟨hlength, raw, ⟨rfl, hraw⟩, hvalues⟩
          exact .literal ((ih (position + 1) index htypes).mpr ⟨hlength, raw, hraw, hvalues⟩)
      | placeholder name type =>
        rw [types_placeholder] at htypes
        subst htypes
        simp only [capture_placeholder_eq_ok_iff, List.length_cons, Nat.add_right_cancel_iff]
        constructor
        · intro h
          cases h with
          | placeholder hpiece others =>
            obtain ⟨hlength, raw, hraw, hcount, hvalues⟩ :=
              (ih (position + 1) (index + 1) rfl).mp others
            refine ⟨hlength, piece :: raw, ⟨raw, hraw, rfl⟩, congrArg Nat.succ hcount, ?_⟩
            exact (Values.decodeFrom_cons_eq_ok_iff _).mpr ⟨_, _, hpiece, hvalues, rfl⟩
        · rintro ⟨hlength, _, ⟨raw, hraw, rfl⟩, hcount, hvalues⟩
          obtain ⟨v, ws, hpiece, hrest, rfl⟩ := (Values.decodeFrom_cons_eq_ok_iff hcount).mp hvalues
          exact .placeholder hpiece
            ((ih (position + 1) (index + 1) rfl).mpr ⟨hlength, raw, hraw, _, hrest⟩)

theorem Template.tryMatch_eq_ok_iff_readAs {ts : List Scalar} {t : Template ts} {p : Path}
    {vs : Values ts} : t.tryMatch p = .ok vs ↔ Segments.ReadAs t.segments p.segments vs := by
  rw [Segments.readAs_iff 0 0 t.types_eq, tryMatch_eq_ok_iff]
  simp only [capture_eq_ok_iff, Values.decode_eq_ok_iff]
  constructor
  · rintro ⟨raw, ⟨hlength, hraw⟩, hvalues⟩
    exact ⟨hlength, raw, hraw, hvalues⟩
  · rintro ⟨hlength, raw, hraw, hvalues⟩
    exact ⟨raw, ⟨hlength, hraw⟩, hvalues⟩

theorem Route.accepts_iff {r : DataType} {route : Route r} {path : Path} :
    route.Accepts path ↔
      List.Forall₂ Segment.Accepts route.template.segments path.segments :=
  Template.exists_tryMatch_iff

end PathRouting
