import Mathlib.Order.Bounds.Basic
import PathRouting.Proofs.Acceptance
import PathRouting.Proofs.TemplateInvariant

/-!
# The precedence of mismatches

A path can differ from a template in the number of its segments, in literals and in values, and in
several of these at once. Which one is reported is said here place by place: a wrong number comes
first, then the literal at the least place, counted among all segments, and then the value with the
least index, counted among the placeholders only. If nothing differs, the path has the values that
its segments at the placeholders are read as, in order.
-/

namespace PathRouting
set_option autoImplicit false

theorem isLeast_zero {P : Nat → Prop} (h : P 0) : IsLeast {i | P i} 0 :=
  ⟨h, fun i _ => Nat.zero_le i⟩

theorem isLeast_succ {P : Nat → Prop} {i : Nat} (hzero : ¬P 0)
    (h : IsLeast {j | P (j + 1)} i) : IsLeast {j | P j} (i + 1) := by
  refine ⟨h.1, ?_⟩
  intro j hj
  cases j with
  | zero => exact absurd hj hzero
  | succ j => exact Nat.succ_le_succ (h.2 hj)

variable [UserTypes]

theorem Scalar.decode_of_read_error {type : Scalar} {piece : String} {fault : DecodeFault}
    (h : type.read piece = .error fault) : type.decode piece = .error ⟨type, piece, fault⟩ := by
  rw [decode, h]
  rfl

theorem Scalar.not_reads_iff {type : Scalar} {piece : String} :
    ¬type.Reads piece ↔ ∃ fault, type.read piece = .error fault := by
  cases hread : type.read piece with
  | ok v => exact iff_of_false (fun h => h ⟨v, decode_eq_ok_iff.mpr hread⟩) fun h => nomatch h
  | error fault =>
    refine iff_of_true ?_ ⟨fault, rfl⟩
    rintro ⟨v, hv⟩
    rw [decode_eq_ok_iff, hread] at hv
    cases hv

namespace Segments

/-- At a place there is a literal and another piece. -/
def Mismatch (segments : List Segment) (path : List String) (position : Nat) : Prop :=
  ∃ text found, segments[position]? = some (.literal text) ∧ path[position]? = some found ∧
    text ≠ found

/-- The pieces at the places of the placeholders, in order. -/
def held (segments : List Segment) (path : List String) : List String :=
  (segments.zip path).filterMap fun place => place.1.name?.map fun _ => place.2

theorem not_mismatch_zero_literal (piece : String) (rest : List Segment) (path : List String) :
    ¬Mismatch (.literal piece :: rest) (piece :: path) 0 := by
  rintro ⟨text, found, hsegment, hpiece, hne⟩
  cases hsegment
  cases hpiece
  exact hne rfl

theorem not_mismatch_zero_placeholder (name : String) (type : Scalar) (rest : List Segment)
    (path : List String) : ¬Mismatch (.placeholder name type :: rest) path 0 := by
  rintro ⟨text, found, hsegment, -⟩
  cases hsegment

theorem forall_not_mismatch_cons {s : Segment} {piece : String} {rest : List Segment}
    {path : List String} (hfirst : ¬Mismatch (s :: rest) (piece :: path) 0)
    (hrest : ∀ i, ¬Mismatch rest path i) : ∀ i, ¬Mismatch (s :: rest) (piece :: path) i
  | 0 => hfirst
  | i + 1 => hrest i

/-- Capturing stops at the least place of a mismatch, or collects all that the placeholders hold. -/
theorem capture_cases (position : Nat) (segments : List Segment) (path : List String) :
    (∃ i text found, IsLeast {j | Mismatch segments path j} i ∧
      segments[i]? = some (.literal text) ∧ path[i]? = some found ∧
      capture position segments path = .error (.literal (position + i) text found)) ∨
    (∀ i, ¬Mismatch segments path i) ∧
      capture position segments path = .ok (held segments path) := by
  -- The places in the rest are those in the whole list less one, so the least one stays the least.
  induction segments generalizing path position with
  | nil =>
    right
    refine ⟨?_, by simp [capture, held]⟩
    rintro i ⟨text, found, hsegment, -⟩
    simp at hsegment
  | cons s rest ih =>
    cases path with
    | nil =>
      right
      refine ⟨?_, by simp [capture, held]⟩
      rintro i ⟨text, found, -, hpiece, -⟩
      simp at hpiece
    | cons piece path =>
      cases s with
      | literal text =>
        by_cases htext : text = piece
        · subst htext
          have hfirst := not_mismatch_zero_literal text rest path
          have hcapture : capture position (.literal text :: rest) (text :: path) =
              capture (position + 1) rest path := by rw [capture, if_pos rfl]
          rcases ih (position + 1) path with
            ⟨i, other, found, hleast, hsegment, hpiece, herror⟩ | ⟨hnone, hok⟩
          · left
            refine ⟨i + 1, other, found, isLeast_succ hfirst hleast, hsegment, hpiece, ?_⟩
            rw [hcapture, herror, Nat.add_assoc, Nat.add_comm 1 i]
          · exact Or.inr ⟨forall_not_mismatch_cons hfirst hnone, hcapture.trans hok⟩
        · left
          refine ⟨0, text, piece, isLeast_zero ⟨text, piece, rfl, rfl, htext⟩, rfl, rfl, ?_⟩
          rw [capture, if_neg htext, Nat.add_zero]
      | placeholder name type =>
        have hfirst := not_mismatch_zero_placeholder name type rest (piece :: path)
        rcases ih (position + 1) path with
          ⟨i, text, found, hleast, hsegment, hpiece, herror⟩ | ⟨hnone, hok⟩
        · left
          refine ⟨i + 1, text, found, isLeast_succ hfirst hleast, hsegment, hpiece, ?_⟩
          rw [capture, herror, Nat.add_assoc, Nat.add_comm 1 i]
        · refine Or.inr ⟨forall_not_mismatch_cons hfirst hnone, ?_⟩
          rw [capture, hok]
          rfl

end Segments

namespace Values

/-- The values are what the pieces are read as, one by one. -/
inductive ReadFrom : {ts : List Scalar} → Values ts → List String → Prop where
  | nil : ReadFrom .nil []
  | cons {t : Scalar} {ts : List Scalar} {v : t.Value} {vs : Values ts} {piece : String}
      {raw : List String} (h : t.decode piece = .ok v) (rest : ReadFrom vs raw) :
      ReadFrom (.cons v vs) (piece :: raw)

/-- The piece with an index is not a written value of the type there. -/
def Unreadable (ts : List Scalar) (raw : List String) (index : Nat) : Prop :=
  ∃ type piece, ts[index]? = some type ∧ raw[index]? = some piece ∧ ¬type.Reads piece

theorem ReadFrom.unique {ts : List Scalar} {vs ws : Values ts} {raw : List String}
    (hvs : vs.ReadFrom raw) (hws : ws.ReadFrom raw) : vs = ws := by
  induction hvs with
  | nil =>
    cases hws
    rfl
  | cons hv _ ih =>
    cases hws with
    | cons hw hrest =>
      rw [hv] at hw
      cases hw
      rw [ih hrest]

theorem ReadFrom.not_unreadable {ts : List Scalar} {vs : Values ts} {raw : List String}
    (h : vs.ReadFrom raw) (index : Nat) : ¬Unreadable ts raw index := by
  induction h generalizing index with
  | nil =>
    rintro ⟨type, piece, htype, -⟩
    simp at htype
  | cons hv _ ih =>
    cases index with
    | zero =>
      rintro ⟨type, piece, htype, hpiece, hreads⟩
      cases htype
      cases hpiece
      exact hreads ⟨_, hv⟩
    | succ index => exact ih index

/-- Decoding stops at the least index of an unreadable piece, or reads all pieces. -/
theorem decodeFrom_cases (index : Nat) {ts : List Scalar} {raw : List String}
    (hlength : raw.length = ts.length) :
    (∃ i type piece fault, IsLeast {j | Unreadable ts raw j} i ∧ ts[i]? = some type ∧
      raw[i]? = some piece ∧ type.read piece = .error fault ∧
      decodeFrom index ts raw hlength = .error (.decode (index + i) ⟨type, piece, fault⟩)) ∨
    ∃ vs, ReadFrom vs raw ∧ decodeFrom index ts raw hlength = .ok vs := by
  induction ts generalizing raw index with
  | nil =>
    obtain rfl := List.eq_nil_of_length_eq_zero hlength
    exact Or.inr ⟨.nil, .nil, rfl⟩
  | cons t ts ih =>
    cases raw with
    | nil => simp at hlength
    | cons piece raw =>
      have hrest : raw.length = ts.length := by simpa using hlength
      by_cases hreads : t.Reads piece
      · obtain ⟨v, hv⟩ := hreads
        have hfirst : ¬Unreadable (t :: ts) (piece :: raw) 0 := by
          rintro ⟨type, other, htype, hother, hnot⟩
          cases htype
          cases hother
          exact hnot ⟨v, hv⟩
        rcases ih (index + 1) hrest with
          ⟨i, type, other, fault, hleast, htype, hother, hfault, herror⟩ | ⟨vs, hvs, hok⟩
        · left
          refine ⟨i + 1, type, other, fault, isLeast_succ hfirst hleast, htype, hother, hfault, ?_⟩
          rw [decodeFrom, hv]
          simp only [herror]
          rw [Nat.add_assoc, Nat.add_comm 1 i]
        · refine Or.inr ⟨.cons v vs, .cons hv hvs, ?_⟩
          rw [decodeFrom, hv]
          simp only [hok]
      · left
        obtain ⟨fault, hfault⟩ := Scalar.not_reads_iff.mp hreads
        refine ⟨0, t, piece, fault, isLeast_zero ⟨t, piece, rfl, rfl, hreads⟩, rfl, rfl, hfault, ?_⟩
        simp only [decodeFrom, Scalar.decode_of_read_error hfault, Nat.add_zero]

end Values

namespace Template
variable {ts : List Scalar} {t : Template ts} {p : Path}

/-- Matching looks at the number of segments, then at the literals, and then at the values. -/
theorem tryMatch_cases (t : Template ts) (p : Path) :
    (p.segments.length ≠ t.segments.length ∧
      t.tryMatch p = .error (.segmentCount t.segments.length p.segments.length)) ∨
    p.segments.length = t.segments.length ∧
      ((∃ i text found, IsLeast {j | Segments.Mismatch t.segments p.segments j} i ∧
        t.segments[i]? = some (.literal text) ∧ p.segments[i]? = some found ∧
        t.tryMatch p = .error (.literal i text found)) ∨
      (∀ i, ¬Segments.Mismatch t.segments p.segments i) ∧
        ((∃ i type piece fault,
          IsLeast {j | Values.Unreadable ts (Segments.held t.segments p.segments) j} i ∧
          ts[i]? = some type ∧ (Segments.held t.segments p.segments)[i]? = some piece ∧
          type.read piece = .error fault ∧
          t.tryMatch p = .error (.decode i ⟨type, piece, fault⟩)) ∨
        ∃ vs, Values.ReadFrom vs (Segments.held t.segments p.segments) ∧
          t.tryMatch p = .ok vs)) := by
  by_cases hlength : p.segments.length = t.segments.length
  · refine Or.inr ⟨hlength, ?_⟩
    have hcapture : t.capture p = Segments.capture 0 t.segments p.segments := if_pos hlength
    rcases Segments.capture_cases 0 t.segments p.segments with
      ⟨i, text, found, hleast, hsegment, hpiece, herror⟩ | ⟨hnone, hok⟩
    · left
      refine ⟨i, text, found, hleast, hsegment, hpiece, ?_⟩
      rw [tryMatch, hcapture, herror, Nat.zero_add]
    · refine Or.inr ⟨hnone, ?_⟩
      have hdecode := tryMatch_of_capture (hcapture.trans hok)
      rcases Values.decodeFrom_cases 0 (length_of_capture (hcapture.trans hok)) with
        ⟨i, type, piece, fault, hleast, htype, hpiece, hfault, herror⟩ | ⟨vs, hvs, hvalues⟩
      · left
        refine ⟨i, type, piece, fault, hleast, htype, hpiece, hfault, ?_⟩
        rw [hdecode, herror, Nat.zero_add]
      · exact Or.inr ⟨vs, hvs, hdecode.trans hvalues⟩
  · refine Or.inl ⟨hlength, ?_⟩
    rw [tryMatch, capture, if_neg hlength]

theorem tryMatch_eq_literal_iff {position : Nat} {text found : String} :
    t.tryMatch p = .error (.literal position text found) ↔
      p.segments.length = t.segments.length ∧
        IsLeast {i | Segments.Mismatch t.segments p.segments i} position ∧
        t.segments[position]? = some (.literal text) ∧ p.segments[position]? = some found := by
  rcases t.tryMatch_cases p with
    ⟨hlength, hmatch⟩ | ⟨hlength, ⟨i, other, piece, hleast, hsegment, hpiece, hmatch⟩ |
      ⟨hnone, ⟨i, type, piece, fault, -, -, -, -, hmatch⟩ | ⟨vs, -, hmatch⟩⟩⟩
  · exact iff_of_false (by simp [hmatch]) fun h => hlength h.1
  · rw [hmatch]
    constructor
    · intro h
      cases h
      exact ⟨hlength, hleast, hsegment, hpiece⟩
    · rintro ⟨-, hleast', hsegment', hpiece'⟩
      obtain rfl := hleast.unique hleast'
      rw [hsegment] at hsegment'
      rw [hpiece] at hpiece'
      cases hsegment'
      cases hpiece'
      rfl
  · exact iff_of_false (by simp [hmatch]) fun h => hnone position h.2.1.1
  · exact iff_of_false (by simp [hmatch]) fun h => hnone position h.2.1.1

theorem tryMatch_eq_decode_iff {index : Nat} {source : DecodeError} :
    t.tryMatch p = .error (.decode index source) ↔
      p.segments.length = t.segments.length ∧
        (∀ i, ¬Segments.Mismatch t.segments p.segments i) ∧
        IsLeast {i | Values.Unreadable ts (Segments.held t.segments p.segments) i} index ∧
        ∃ type piece fault, ts[index]? = some type ∧
          (Segments.held t.segments p.segments)[index]? = some piece ∧
          type.read piece = .error fault ∧ source = ⟨type, piece, fault⟩ := by
  rcases t.tryMatch_cases p with
    ⟨hlength, hmatch⟩ | ⟨hlength, ⟨i, text, piece, hleast, -, -, hmatch⟩ |
      ⟨hnone, ⟨i, type, piece, fault, hleast, htype, hpiece, hfault, hmatch⟩ | ⟨vs, hvs, hmatch⟩⟩⟩
  · exact iff_of_false (by simp [hmatch]) fun h => hlength h.1
  · exact iff_of_false (by simp [hmatch]) fun h => h.2.1 i hleast.1
  · rw [hmatch]
    constructor
    · intro h
      cases h
      exact ⟨hlength, hnone, hleast, type, piece, fault, htype, hpiece, hfault, rfl⟩
    · rintro ⟨-, -, hleast', type', piece', fault', htype', hpiece', hfault', rfl⟩
      obtain rfl := hleast.unique hleast'
      rw [htype] at htype'
      rw [hpiece] at hpiece'
      cases htype'
      cases hpiece'
      rw [hfault] at hfault'
      cases hfault'
      rfl
  · exact iff_of_false (by simp [hmatch]) fun h => hvs.not_unreadable index h.2.2.1.1

theorem tryMatch_eq_ok_iff_readFrom {vs : Values ts} :
    t.tryMatch p = .ok vs ↔
      p.segments.length = t.segments.length ∧
        (∀ i, ¬Segments.Mismatch t.segments p.segments i) ∧
        vs.ReadFrom (Segments.held t.segments p.segments) := by
  rcases t.tryMatch_cases p with
    ⟨hlength, hmatch⟩ | ⟨hlength, ⟨i, text, piece, hleast, -, -, hmatch⟩ |
      ⟨hnone, ⟨i, type, piece, fault, hleast, -, -, -, hmatch⟩ | ⟨ws, hws, hmatch⟩⟩⟩
  · exact iff_of_false (by simp [hmatch]) fun h => hlength h.1
  · exact iff_of_false (by simp [hmatch]) fun h => h.2.1 i hleast.1
  · exact iff_of_false (by simp [hmatch]) fun h => h.2.2.not_unreadable i hleast.1
  · rw [hmatch]
    constructor
    · intro h
      cases h
      exact ⟨hlength, hnone, hws⟩
    · rintro ⟨-, -, hvs⟩
      rw [hws.unique hvs]

/-- A path is accepted if nothing differs: then there is a value for every placeholder. -/
theorem exists_tryMatch_iff_nothing_differs :
    (∃ vs, t.tryMatch p = .ok vs) ↔
      p.segments.length = t.segments.length ∧
        (∀ i, ¬Segments.Mismatch t.segments p.segments i) ∧
        ∀ i, ¬Values.Unreadable ts (Segments.held t.segments p.segments) i := by
  constructor
  · rintro ⟨vs, h⟩
    obtain ⟨hlength, hnone, hvs⟩ := tryMatch_eq_ok_iff_readFrom.mp h
    exact ⟨hlength, hnone, hvs.not_unreadable⟩
  · rintro ⟨hlength, hnone, hreadable⟩
    rcases t.tryMatch_cases p with
      ⟨hne, -⟩ | ⟨-, ⟨i, _, _, hleast, -⟩ | ⟨-, ⟨i, _, _, _, hleast, -⟩ | ⟨vs, -, hmatch⟩⟩⟩
    · exact absurd hlength hne
    · exact absurd hleast.1 (hnone i)
    · exact absurd hleast.1 (hreadable i)
    · exact ⟨vs, hmatch⟩

theorem match?_eq_some_iff {vs : Values ts} : t.match? p = some vs ↔ t.tryMatch p = .ok vs := by
  unfold match?
  cases t.tryMatch p with
  | error e => simp [Except.toOption]
  | ok ws => simp [Except.toOption]

/-- A match fails with the first difference: the number of the pieces, then the leftmost literal, then
the leftmost value that cannot be read. -/
theorem first_difference_is_reported (t : Template ts) (s : String) :
    (∀ expected found, t.tryMatch (.ofText s) = .error (.segmentCount expected found) ↔
      (pieces s).length ≠ t.segments.length ∧ expected = t.segments.length ∧
        found = (pieces s).length) ∧
    (∀ position text found, t.tryMatch (.ofText s) = .error (.literal position text found) ↔
      (pieces s).length = t.segments.length ∧
        IsLeast {i | Segments.Mismatch t.segments (pieces s) i} position ∧
        t.segments[position]? = some (.literal text) ∧ (pieces s)[position]? = some found) ∧
    (∀ index source, t.tryMatch (.ofText s) = .error (.decode index source) ↔
      (pieces s).length = t.segments.length ∧
        (∀ i, ¬Segments.Mismatch t.segments (pieces s) i) ∧
        IsLeast {i | Values.Unreadable ts (Segments.held t.segments (pieces s)) i} index ∧
        ∃ type piece fault, ts[index]? = some type ∧
          (Segments.held t.segments (pieces s))[index]? = some piece ∧
          type.read piece = .error fault ∧ source = ⟨type, piece, fault⟩) ∧
    (∀ vs, t.tryMatch (.ofText s) = .ok vs ↔
      (pieces s).length = t.segments.length ∧
        (∀ i, ¬Segments.Mismatch t.segments (pieces s) i) ∧
        vs.ReadFrom (Segments.held t.segments (pieces s))) ∧
    ((∃ vs, t.tryMatch (.ofText s) = .ok vs) ↔
      (pieces s).length = t.segments.length ∧
        (∀ i, ¬Segments.Mismatch t.segments (pieces s) i) ∧
        ∀ i, ¬Values.Unreadable ts (Segments.held t.segments (pieces s)) i) ∧
    t.tryMatch (.ofText (Path.ofText s).text) = t.tryMatch (.ofText s) ∧
    ∀ vs, t.match? (.ofText s) = some vs ↔ t.tryMatch (.ofText s) = .ok vs := by
  refine ⟨?count, ?literal, ?value, ?values, ?accepted, ?normal, ?unexplained⟩
  case count => exact fun expected found => tryMatch_eq_segmentCount_iff
  case literal => exact fun position text found => tryMatch_eq_literal_iff
  case value => exact fun index source => tryMatch_eq_decode_iff
  case values => exact fun vs => tryMatch_eq_ok_iff_readFrom
  case accepted => exact exists_tryMatch_iff_nothing_differs
  case normal => rw [Path.ofText_text]
  case unexplained => exact fun vs => match?_eq_some_iff

end Template

end PathRouting
