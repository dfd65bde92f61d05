import PathRouting.Proofs.PathText
import PathRouting.Proofs.RouteScan
import PathRouting.Proofs.ScalarText
import PathRouting.Template.Filling

/-!
# Reverse routing

The path made from a template and values has one segment for each segment of the template, since a
value that is empty or holds a separator is refused. So the template finds its literals in place
again, and at the placeholders the written values, which are read back.
-/

namespace PathRouting
set_option autoImplicit false

theorem exists_first_not_isSegment {values : List String} (h : ∃ value ∈ values, ¬IsSegment value) :
    ∃ before value after, values = before ++ value :: after ∧
      (∀ earlier ∈ before, IsSegment earlier) ∧ ¬IsSegment value := by
  obtain ⟨bad, hmem, hbad⟩ := h
  have hsome : (values.find? fun value => ¬IsSegment value).isSome :=
    List.find?_isSome.mpr ⟨bad, hmem, decide_eq_true hbad⟩
  obtain ⟨value, hfind⟩ := Option.isSome_iff_exists.mp hsome
  obtain ⟨hvalue, before, after, rfl, hbefore⟩ := List.find?_eq_some_iff_append.mp hfind
  refine ⟨before, value, after, rfl, ?_, of_decide_eq_true hvalue⟩
  intro earlier hearlier
  simpa using hbefore earlier hearlier

namespace Values
variable [UserTypes]

/-- Every value is decoded from its written form. -/
def RoundTrips : {ts : List Scalar} → Values ts → Prop
  | _, nil => True
  | _, cons (t := t) v vs => t.decode (t.encode v) = .ok v ∧ vs.RoundTrips

theorem roundTrips_of_faithful {ts : List Scalar} (h : ∀ t ∈ ts, t.Faithful) (vs : Values ts) :
    vs.RoundTrips := by
  induction vs with
  | nil => trivial
  | cons v vs ih =>
    obtain ⟨ht, hts⟩ := List.forall_mem_cons.mp h
    exact ⟨Scalar.decode_encode ht v, ih hts⟩

theorem decodeFrom_encode {ts : List Scalar} {vs : Values ts} (h : vs.RoundTrips) (index : Nat) :
    decodeFrom index ts vs.encode vs.length_encode = .ok vs := by
  induction vs generalizing index with
  | nil => rfl
  | cons v vs ih =>
    obtain ⟨hv, hvs⟩ := h
    simp only [encode, decodeFrom, hv, ih hvs]

theorem decode_encode {ts : List Scalar} {vs : Values ts} (h : vs.RoundTrips) :
    decode ts vs.encode = .ok vs := by
  rw [decode, dif_pos vs.length_encode, decodeFrom_encode h]

end Values

namespace Segments
variable [UserTypes]

theorem fill_literal_eq_ok_iff {text : String} {rest : List Segment} {values filled : List String} :
    fill (.literal text :: rest) values = .ok filled ↔
      ∃ others, fill rest values = .ok others ∧ filled = text :: others := by
  rw [fill]
  cases fill rest values with
  | error e => simp
  | ok others => simp [eq_comm]

theorem fill_placeholder_eq_ok_iff {name : String} {type : Scalar} {rest : List Segment}
    {values filled : List String} :
    fill (.placeholder name type :: rest) values = .ok filled ↔
      IsSegment (values.headD "") ∧
        ∃ others, fill rest values.tail = .ok others ∧ filled = values.headD "" :: others := by
  rw [fill]
  split
  · rename_i hvalue
    rw [and_iff_right hvalue]
    cases fill rest values.tail with
    | error e => simp
    | ok others => simp [eq_comm]
  · rename_i hvalue
    exact iff_of_false (by simp) fun h => hvalue h.1

theorem length_of_fill {segments : List Segment} {values filled : List String}
    (h : fill segments values = .ok filled) : filled.length = segments.length := by
  induction segments generalizing values filled with
  | nil =>
    cases h
    rfl
  | cons s rest ih =>
    cases s with
    | literal text =>
      obtain ⟨others, hothers, rfl⟩ := fill_literal_eq_ok_iff.mp h
      simp [ih hothers]
    | placeholder name type =>
      obtain ⟨-, others, hothers, rfl⟩ := fill_placeholder_eq_ok_iff.mp h
      simp [ih hothers]

theorem isSegment_of_fill {segments : List Segment} {values filled : List String}
    (hlabels : ∀ s ∈ segments, IsSegment s.label) (h : fill segments values = .ok filled) :
    ∀ piece ∈ filled, IsSegment piece := by
  induction segments generalizing values filled with
  | nil =>
    cases h
    simp
  | cons s rest ih =>
    have hrest := fun s hs => hlabels s (List.mem_cons_of_mem _ hs)
    cases s with
    | literal text =>
      obtain ⟨others, hothers, rfl⟩ := fill_literal_eq_ok_iff.mp h
      exact List.forall_mem_cons.mpr ⟨hlabels _ List.mem_cons_self, ih hrest hothers⟩
    | placeholder name type =>
      obtain ⟨hvalue, others, hothers, rfl⟩ := fill_placeholder_eq_ok_iff.mp h
      exact List.forall_mem_cons.mpr ⟨hvalue, ih hrest hothers⟩

/-- The values that were filled in are captured again, whatever stands around them. -/
theorem capture_of_fill {segments : List Segment} {values filled : List String}
    (hlength : values.length = (names segments).length) (h : fill segments values = .ok filled)
    (position : Nat) : capture position segments filled = .ok values := by
  induction segments generalizing values filled position with
  | nil =>
    rw [List.eq_nil_of_length_eq_zero hlength, capture]
  | cons s rest ih =>
    cases s with
    | literal text =>
      obtain ⟨others, hothers, rfl⟩ := fill_literal_eq_ok_iff.mp h
      rw [capture, if_pos rfl, ih hlength hothers]
    | placeholder name type =>
      obtain ⟨-, others, hothers, rfl⟩ := fill_placeholder_eq_ok_iff.mp h
      cases values with
      | nil => simp at hlength
      | cons value values =>
        have hrest : values.length = (names rest).length := by simpa using hlength
        rw [List.tail_cons] at hothers
        simp only [capture, ih hrest hothers, List.headD_cons]

theorem exists_fill {segments : List Segment} {values : List String}
    (hlength : values.length = (names segments).length) (hvalues : ∀ value ∈ values, IsSegment value) :
    ∃ filled, fill segments values = .ok filled := by
  induction segments generalizing values with
  | nil => exact ⟨[], rfl⟩
  | cons s rest ih =>
    cases s with
    | literal text =>
      obtain ⟨others, hothers⟩ := ih hlength hvalues
      exact ⟨text :: others, fill_literal_eq_ok_iff.mpr ⟨others, hothers, rfl⟩⟩
    | placeholder name type =>
      cases values with
      | nil => simp at hlength
      | cons value values =>
        obtain ⟨hvalue, hrest⟩ := List.forall_mem_cons.mp hvalues
        obtain ⟨others, hothers⟩ := ih (by simpa using hlength) hrest
        exact ⟨value :: others, fill_placeholder_eq_ok_iff.mpr ⟨hvalue, others, hothers, rfl⟩⟩

theorem fill_of_first_unrenderable {segments : List Segment} {before after : List String}
    {value name : String} (hbefore : ∀ earlier ∈ before, IsSegment earlier)
    (hvalue : ¬IsSegment value) (hname : (names segments)[before.length]? = some name) :
    fill segments (before ++ value :: after) = .error (.unrenderableValue name value) := by
  induction segments generalizing before with
  | nil => simp [names] at hname
  | cons s rest ih =>
    cases s with
    | literal text => rw [fill, ih hbefore hname]
    | placeholder first type =>
      cases before with
      | nil =>
        have heq : first = name := by simpa using hname
        rw [fill, List.nil_append, List.headD_cons, if_neg hvalue, heq]
      | cons earlier before =>
        obtain ⟨hearlier, hothers⟩ := List.forall_mem_cons.mp hbefore
        have hnext : (names rest)[before.length]? = some name := by simpa using hname
        rw [fill, List.cons_append, List.headD_cons, List.tail_cons, if_pos hearlier,
          ih hothers hnext]

end Segments

namespace Template
variable [UserTypes] {ts : List Scalar} {t : Template ts} {vs : Values ts} {q : Path}

theorem length_encode_eq_length_names (t : Template ts) (vs : Values ts) :
    vs.encode.length = t.names.length := by
  rw [Values.length_encode, names, Segments.length_names, t.types_eq]

theorem pathFor_eq_ok_iff :
    t.pathFor vs = .ok q ↔ Segments.fill t.segments vs.encode = .ok q.segments := by
  unfold pathFor
  cases hfill : Segments.fill t.segments vs.encode with
  | error e => simp
  | ok filled =>
    have hpieces := pieces_intercalate (Segments.isSegment_of_fill t.wellFormed.labels hfill)
    simp only [Except.ok.injEq]
    constructor
    · rintro rfl
      exact hpieces.symm
    · rintro rfl
      exact q.ofText_text

theorem segmentCount_of_pathFor (h : t.pathFor vs = .ok q) :
    q.segmentCount = t.segments.length := Segments.length_of_fill (pathFor_eq_ok_iff.mp h)

theorem exists_pathFor (h : ∀ value ∈ vs.encode, IsSegment value) : ∃ q, t.pathFor vs = .ok q := by
  obtain ⟨filled, hfill⟩ := Segments.exists_fill (length_encode_eq_length_names t vs) h
  exact ⟨.ofText ("/".intercalate filled), by rw [pathFor, hfill]⟩

theorem pathFor_of_first_unrenderable {before after : List String} {value : String}
    (hencode : vs.encode = before ++ value :: after)
    (hbefore : ∀ earlier ∈ before, IsSegment earlier) (hvalue : ¬IsSegment value) :
    ∃ name, t.names[before.length]? = some name ∧
      t.pathFor vs = .error (.unrenderableValue name value) := by
  have hlength := length_encode_eq_length_names t vs
  rw [hencode, List.length_append, List.length_cons] at hlength
  have hlt : before.length < t.names.length := by omega
  have hname := List.getElem?_eq_getElem hlt
  refine ⟨t.names[before.length], hname, ?_⟩
  rw [pathFor, hencode, Segments.fill_of_first_unrenderable hbefore hvalue hname]

theorem pathFor_fails_iff :
    (∃ e, t.pathFor vs = .error e) ↔ ∃ value ∈ vs.encode, ¬IsSegment value := by
  constructor
  · rintro ⟨e, herror⟩
    by_cases hbad : ∃ value ∈ vs.encode, ¬IsSegment value
    · exact hbad
    · have hvalues : ∀ value ∈ vs.encode, IsSegment value := by simpa using hbad
      obtain ⟨q, hq⟩ := exists_pathFor (t := t) hvalues
      rw [hq] at herror
      cases herror
  · intro hbad
    obtain ⟨before, value, after, hencode, hbefore, hvalue⟩ := exists_first_not_isSegment hbad
    obtain ⟨name, -, herror⟩ := pathFor_of_first_unrenderable (t := t) hencode hbefore hvalue
    exact ⟨_, herror⟩

theorem capture_of_pathFor (h : t.pathFor vs = .ok q) : t.capture q = .ok vs.encode := by
  have hfill := pathFor_eq_ok_iff.mp h
  rw [capture, if_pos (Segments.length_of_fill hfill)]
  exact Segments.capture_of_fill (length_encode_eq_length_names t vs) hfill 0

theorem tryMatch_of_pathFor (hvalues : vs.RoundTrips) (h : t.pathFor vs = .ok q) :
    t.tryMatch q = .ok vs := by
  rw [tryMatch, capture_of_pathFor h]
  exact Values.decode_encode hvalues

/-- A path is made from values unless one of them is no segment when written, and it leads back to
them. -/
theorem pathFor_leads_back (t : Template ts) (vs : Values ts) :
    ((∃ e, t.pathFor vs = .error e) ↔ ∃ value ∈ vs.encode, value = "" ∨ '/' ∈ value.toList) ∧
    (∀ before value after, vs.encode = before ++ value :: after →
      (∀ earlier ∈ before, earlier ≠ "" ∧ '/' ∉ earlier.toList) →
      (value = "" ∨ '/' ∈ value.toList) →
      ∃ name, t.names[before.length]? = some name ∧
        t.pathFor vs = .error (.unrenderableValue name value)) ∧
    (vs.RoundTrips → (∀ value ∈ vs.encode, value ≠ "" ∧ '/' ∉ value.toList) →
      ∃ q, t.pathFor vs = .ok q ∧ q.segmentCount = t.segments.length ∧ t.tryMatch q = .ok vs ∧
        ∀ (r : DataType) (router : Router r) (older : List (Route r)) (handler : Handler ts r),
          router.routes = older ++ [⟨ts, t, handler⟩] →
          (router.resolve q).result = .ok (handler.run vs)) ∧
    ((∀ type ∈ ts, type.Faithful) → vs.RoundTrips) := by
  refine ⟨?_, ?_, ?_, ?_⟩
  · simp only [pathFor_fails_iff, not_isSegment_iff]
  · intro before value after hencode hbefore hvalue
    exact pathFor_of_first_unrenderable hencode hbefore (not_isSegment_iff.mpr hvalue)
  · intro hvalues hrendered
    obtain ⟨q, hq⟩ := exists_pathFor (t := t) hrendered
    have hmatch := tryMatch_of_pathFor hvalues hq
    refine ⟨q, hq, segmentCount_of_pathFor hq, hmatch, ?_⟩
    intro r router older handler hroutes
    have hnewer : ∀ other ∈ ([] : List (Route r)), ¬other.Accepts q := by simp
    exact (Router.resolve_of_newest_accepting hroutes hnewer hmatch).1
  · exact fun hfaithful => Values.roundTrips_of_faithful hfaithful vs

end Template

end PathRouting
