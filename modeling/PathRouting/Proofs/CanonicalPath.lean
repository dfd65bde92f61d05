import PathRouting.Proofs.ReverseRouting

/-!
# Canonical paths

Several paths can hold the same values for a template, since an integer can be written with a sign or
with leading zeros. The path made from the values that a path holds is the canonical one of these. It
holds the same values, and it is the path itself exactly if the segments at the placeholders are the
written forms of their values.
-/

namespace PathRouting
set_option autoImplicit false

namespace Segments
variable [UserTypes]

theorem capture_literal_eq_ok_iff {position : Nat} {text found : String} {rest : List Segment}
    {path raw : List String} :
    capture position (.literal text :: rest) (found :: path) = .ok raw ↔
      text = found ∧ capture (position + 1) rest path = .ok raw := by
  rw [capture]
  split
  · rename_i heq
    exact (and_iff_right heq).symm
  · rename_i hne
    exact iff_of_false (by simp) fun h => hne h.1

theorem capture_placeholder_eq_ok_iff {position : Nat} {name found : String} {type : Scalar}
    {rest : List Segment} {path raw : List String} :
    capture position (.placeholder name type :: rest) (found :: path) = .ok raw ↔
      ∃ others, capture (position + 1) rest path = .ok others ∧ raw = found :: others := by
  rw [capture]
  cases capture (position + 1) rest path with
  | error e => simp
  | ok others => simp [eq_comm]

theorem sublist_of_capture {segments : List Segment} {path raw : List String} {position : Nat}
    (hlength : path.length = segments.length) (h : capture position segments path = .ok raw) :
    raw.Sublist path := by
  induction segments generalizing path raw position with
  | nil =>
    rw [List.eq_nil_of_length_eq_zero hlength] at h ⊢
    cases h
    exact .slnil
  | cons s rest ih =>
    cases path with
    | nil => simp at hlength
    | cons found path =>
      have hrest : path.length = rest.length := by simpa using hlength
      cases s with
      | literal text =>
        obtain ⟨-, hraw⟩ := capture_literal_eq_ok_iff.mp h
        exact (ih hrest hraw).cons found
      | placeholder name type =>
        obtain ⟨others, hothers, rfl⟩ := capture_placeholder_eq_ok_iff.mp h
        exact (ih hrest hothers).cons_cons found

theorem fill_of_capture {segments : List Segment} {path raw : List String} {position : Nat}
    (hlength : path.length = segments.length) (hpath : ∀ s ∈ path, IsSegment s)
    (h : capture position segments path = .ok raw) : fill segments raw = .ok path := by
  induction segments generalizing path raw position with
  | nil =>
    rw [List.eq_nil_of_length_eq_zero hlength]
    rfl
  | cons s rest ih =>
    cases path with
    | nil => simp at hlength
    | cons found path =>
      have hrest : path.length = rest.length := by simpa using hlength
      obtain ⟨hfound, hothers⟩ := List.forall_mem_cons.mp hpath
      cases s with
      | literal text =>
        obtain ⟨rfl, hraw⟩ := capture_literal_eq_ok_iff.mp h
        exact fill_literal_eq_ok_iff.mpr ⟨path, ih hrest hothers hraw, rfl⟩
      | placeholder name type =>
        obtain ⟨others, hraw, rfl⟩ := capture_placeholder_eq_ok_iff.mp h
        exact fill_placeholder_eq_ok_iff.mpr ⟨hfound, path, ih hrest hothers hraw, rfl⟩

end Segments

namespace Values
variable [UserTypes]

theorem decodeFrom_cons_eq_ok_iff {index : Nat} {t : Scalar} {ts : List Scalar} {s : String}
    {raw : List String} (hlength : (s :: raw).length = (t :: ts).length) {vs : Values (t :: ts)} :
    decodeFrom index (t :: ts) (s :: raw) hlength = .ok vs ↔
      ∃ v rest, t.decode s = .ok v ∧
        decodeFrom (index + 1) ts raw (by simpa using hlength) = .ok rest ∧ vs = .cons v rest := by
  rw [decodeFrom]
  cases t.decode s with
  | error source => simp
  | ok v =>
    cases decodeFrom (index + 1) ts raw (by simpa using hlength) with
    | error e => simp
    | ok rest => simp [eq_comm]

theorem isSegment_of_decodeFrom {ts : List Scalar} {raw : List String} {index : Nat}
    {hlength : raw.length = ts.length} {vs : Values ts} (hfaithful : ∀ t ∈ ts, t.Faithful)
    (hraw : ∀ s ∈ raw, IsSegment s) (h : decodeFrom index ts raw hlength = .ok vs) :
    ∀ value ∈ vs.encode, IsSegment value := by
  induction ts generalizing raw index with
  | nil =>
    cases vs
    simp [encode]
  | cons t ts ih =>
    cases raw with
    | nil => simp at hlength
    | cons s raw =>
      obtain ⟨v, rest, hv, hrest, rfl⟩ := (decodeFrom_cons_eq_ok_iff hlength).mp h
      obtain ⟨ht, hts⟩ := List.forall_mem_cons.mp hfaithful
      obtain ⟨hs, hothers⟩ := List.forall_mem_cons.mp hraw
      exact List.forall_mem_cons.mpr
        ⟨Scalar.isSegment_encode_of_decode ht hs hv, ih hts hothers hrest⟩

theorem encode_of_decodeFrom {ts : List Scalar} {raw : List String} {index : Nat}
    {hlength : raw.length = ts.length} {vs : Values ts}
    (hverbatim : ∀ t ∈ ts, t ∈ [Scalar.text, .truth, .char])
    (h : decodeFrom index ts raw hlength = .ok vs) : vs.encode = raw := by
  induction ts generalizing raw index with
  | nil =>
    cases vs
    exact (List.eq_nil_of_length_eq_zero hlength).symm
  | cons t ts ih =>
    cases raw with
    | nil => simp at hlength
    | cons s raw =>
      obtain ⟨v, rest, hv, hrest, rfl⟩ := (decodeFrom_cons_eq_ok_iff hlength).mp h
      obtain ⟨ht, hts⟩ := List.forall_mem_cons.mp hverbatim
      rw [encode, Scalar.encode_of_decode ht hv, ih hts hrest]

theorem decode_eq_ok_iff {ts : List Scalar} {raw : List String} {vs : Values ts} :
    decode ts raw = .ok vs ↔
      ∃ hlength : raw.length = ts.length, decodeFrom 0 ts raw hlength = .ok vs := by
  unfold decode
  split
  · rename_i hlength
    exact ⟨fun h => ⟨hlength, h⟩, fun h => h.2⟩
  · rename_i hlength
    exact iff_of_false (by simp) fun h => hlength h.1

end Values

namespace Template
variable [UserTypes] {ts : List Scalar} {t : Template ts} {vs : Values ts} {p q : Path} {raw : List String}

theorem capture_eq_ok_iff :
    t.capture p = .ok raw ↔
      p.segments.length = t.segments.length ∧
        Segments.capture 0 t.segments p.segments = .ok raw := by
  unfold capture
  split
  · rename_i hlength
    exact (and_iff_right hlength).symm
  · rename_i hlength
    exact iff_of_false (by simp) fun h => hlength h.1

theorem tryMatch_eq_ok_iff :
    t.tryMatch p = .ok vs ↔ ∃ raw, t.capture p = .ok raw ∧ Values.decode ts raw = .ok vs := by
  unfold tryMatch
  cases t.capture p with
  | error e => simp
  | ok raw => simp

theorem isSegment_of_capture (h : t.capture p = .ok raw) : ∀ s ∈ raw, IsSegment s := by
  obtain ⟨hlength, hcapture⟩ := capture_eq_ok_iff.mp h
  intro s hs
  exact p.isSegment s ((Segments.sublist_of_capture hlength hcapture).subset hs)

theorem pathFor_eq_ok_iff_capture : t.pathFor vs = .ok p ↔ t.capture p = .ok vs.encode := by
  refine ⟨capture_of_pathFor, fun h => ?_⟩
  obtain ⟨hlength, hcapture⟩ := capture_eq_ok_iff.mp h
  exact pathFor_eq_ok_iff.mpr (Segments.fill_of_capture hlength p.isSegment hcapture)

/-- The values that a text holds for a template make a path that holds them as well. -/
theorem pathFor_of_tryMatch (hfaithful : ∀ type ∈ ts, type.Faithful) {s : String}
    (h : t.tryMatch (.ofText s) = .ok vs) :
    ∃ raw q, t.capture (.ofText s) = .ok raw ∧ Values.decode ts raw = .ok vs ∧
      t.pathFor vs = .ok q ∧ t.tryMatch q = .ok vs ∧
      (∀ ws, t.tryMatch q = .ok ws → t.pathFor ws = .ok q) ∧
      (q = .ofText s ↔ vs.encode = raw) ∧
      ((∀ type ∈ ts, type ∈ [Scalar.text, .truth, .char]) → q = .ofText s) := by
  obtain ⟨raw, hcapture, hdecode⟩ := tryMatch_eq_ok_iff.mp h
  obtain ⟨hlength, hvalues⟩ := Values.decode_eq_ok_iff.mp hdecode
  have hsegments := Values.isSegment_of_decodeFrom hfaithful (isSegment_of_capture hcapture) hvalues
  obtain ⟨q, hq⟩ := exists_pathFor (t := t) hsegments
  have hmatch := tryMatch_of_pathFor (Values.roundTrips_of_faithful hfaithful vs) hq
  have hcanonical : q = .ofText s ↔ vs.encode = raw := by
    constructor
    · rintro rfl
      have hwritten := pathFor_eq_ok_iff_capture.mp hq
      rw [hcapture] at hwritten
      exact (Except.ok.inj hwritten).symm
    · rintro rfl
      have hsame := pathFor_eq_ok_iff_capture.mpr hcapture
      rw [hq] at hsame
      exact Except.ok.inj hsame
  refine ⟨raw, q, hcapture, hdecode, hq, hmatch, ?_, hcanonical, ?_⟩
  · intro ws hws
    rw [hmatch] at hws
    cases hws
    exact hq
  · intro hverbatim
    exact hcanonical.mpr (Values.encode_of_decodeFrom hverbatim hvalues)

end Template

theorem Template.pathFor_of_tryMatch_padded :
    ∃ (t : Template [.u8, .text]) (vs : Values [.u8, .text]) (q : Path),
      t.tryMatch (.ofText "//shop/+007/x/") = .ok vs ∧ t.pathFor vs = .ok q ∧
        t.tryMatch q = .ok vs ∧ vs.encode = ["7", "x"] ∧ q ≠ .ofText "//shop/+007/x/" := by
  let t : Template [.u8, .text] :=
    ⟨[.literal "shop", .placeholder "n" .u8, .placeholder "title" .text], by decide, rfl⟩
  let vs : Values [.u8, .text] := .cons ⟨7, by decide, by decide⟩ (.cons "x" .nil)
  have hmatch : t.tryMatch (.ofText "//shop/+007/x/") = .ok vs := rfl
  have hfaithful : ∀ type ∈ [Scalar.u8, .text], type.Faithful := by
    intro type htype
    simp only [List.mem_cons, List.not_mem_nil, or_false] at htype
    rcases htype with rfl | rfl <;> trivial
  obtain ⟨raw, q, hcapture, _, hq, hagain, _, hcanonical, _⟩ := pathFor_of_tryMatch hfaithful hmatch
  have hraw : raw = ["+007", "x"] := (Except.ok.inj hcapture).symm
  have hencode : vs.encode = ["7", "x"] := rfl
  refine ⟨t, vs, q, hmatch, hq, hagain, hencode, ?_⟩
  rw [ne_eq, hcanonical, hraw, hencode]
  decide

end PathRouting
