import PathRouting.Path
import PathRouting.Proofs.NumeralText
import PathRouting.Scalar.Codec

/-!
# Written scalars

Every value of a faithful scalar type is read back from its written form. What was read from a segment
is written as a segment, though not always as the same one.
-/

namespace PathRouting
set_option autoImplicit false

theorem mapError_eq_ok_iff {ε ε' α : Type} {f : ε → ε'} {x : Except ε α} {a : α} :
    x.mapError f = .ok a ↔ x = .ok a := by
  cases x <;> simp [Except.mapError]

theorem mapError_eq_error_iff {ε ε' α : Type} {f : ε → ε'} {x : Except ε α} {e : ε'} :
    x.mapError f = .error e ↔ ∃ cause, x = .error cause ∧ e = f cause := by
  cases x <;> simp [Except.mapError, eq_comm]

namespace Numeral.Integer
variable {r : Range}

theorem digits_ne_nil (n : Integer r) : n.digits ≠ [] := by
  unfold digits
  split
  · exact List.cons_ne_nil _ _
  · exact Nat.toDigits_ne_nil

theorem isDigit_or_eq_minus_of_mem_digits {n : Integer r} {c : Char} (h : c ∈ n.digits) :
    c.isDigit ∨ c = '-' := by
  have hdigit {c : Char} (hc : c ∈ Nat.toDigits 10 n.val.natAbs) : c.isDigit :=
    Nat.isDigit_of_mem_toDigits (by decide) (by decide) hc
  unfold digits at h
  split at h
  · rcases List.mem_cons.mp h with rfl | h
    · exact Or.inr rfl
    · exact Or.inl (hdigit h)
  · exact Or.inl (hdigit h)

theorem isSegment_digits (n : Integer r) : IsSegment (String.ofList n.digits) := by
  constructor
  · exact mt String.ofList_eq_empty_iff.mp n.digits_ne_nil
  · rw [String.toList_ofList]
    intro hmem
    rcases isDigit_or_eq_minus_of_mem_digits hmem with h | h
    · exact absurd h (by decide)
    · exact absurd h (by decide)

end Numeral.Integer

theorem Color.isSegment_name (c : Color) : IsSegment c.name := by cases c <;> decide

namespace Scalar
variable [UserTypes]

/-- The types other than binary numbers and those of the user. -/
def Faithful : Scalar → Prop
  | text | truth | char | int _ | nonZeroByte | color => True
  | float _ | user _ => False

theorem read_singleton (c : Char) : read char (String.singleton c) = .ok c := by
  simp [read]

theorem read_int_digits {kind : IntKind} (n : Numeral.Integer kind.range) :
    read (int kind) (String.ofList n.digits) = .ok n := by
  rw [read, String.toList_ofList, n.read_digits]
  rfl

theorem read_nonZeroByte_digits (n : Numeral.NonZero (IntKind.range ⟨false, .w8⟩)) :
    read nonZeroByte (String.ofList n.toInteger.digits) = .ok n := by
  rw [read, String.toList_ofList, n.toInteger.read_digits]
  exact dif_pos n.ne_zero

theorem read_encode {t : Scalar} (h : t.Faithful) (v : t.Value) : t.read (t.encode v) = .ok v := by
  cases t with
  | text => rfl
  | truth => cases v <;> rfl
  | char => exact read_singleton v
  | int kind => exact read_int_digits v
  | nonZeroByte => exact read_nonZeroByte_digits v
  | float kind => exact h.elim
  | color => cases v <;> rfl
  | user key => exact h.elim

theorem decode_encode {t : Scalar} (h : t.Faithful) (v : t.Value) :
    t.decode (t.encode v) = .ok v := by
  rw [decode, read_encode h]
  rfl

theorem encode_injective {t : Scalar} (h : t.Faithful) : Function.Injective t.encode := by
  intro v w hsame
  have hv := decode_encode h v
  rw [hsame, decode_encode h w] at hv
  exact (Except.ok.inj hv).symm

theorem decode_eq_ok_iff {t : Scalar} {s : String} {v : t.Value} :
    t.decode s = .ok v ↔ t.read s = .ok v := mapError_eq_ok_iff

theorem decode_eq_error_iff {t : Scalar} {s : String} {e : DecodeError} :
    t.decode s = .error e ↔ ∃ fault, t.read s = .error fault ∧ e = ⟨t, s, fault⟩ :=
  mapError_eq_error_iff

theorem encode_of_decode_truth {s : String} {b : Bool} (h : truth.decode s = .ok b) :
    truth.encode b = s := by
  have hread := decode_eq_ok_iff.mp h
  rw [read] at hread
  split at hread
  · rename_i htrue
    cases hread
    exact htrue.symm
  · split at hread
    · rename_i hfalse
      cases hread
      exact hfalse.symm
    · cases hread

theorem encode_of_decode_char {s : String} {c : Char} (h : char.decode s = .ok c) :
    char.encode c = s := by
  have hread := decode_eq_ok_iff.mp h
  rw [read] at hread
  split at hread
  · cases hread
  · rename_i hlist
    cases hread
    apply String.toList_inj.mp
    rw [hlist]
    exact String.toList_singleton _
  · cases hread

/-- Texts, truth values and characters are written as they were read. -/
theorem encode_of_decode {t : Scalar} (ht : t ∈ [text, truth, char]) {s : String} {v : t.Value}
    (h : t.decode s = .ok v) : t.encode v = s := by
  simp only [List.mem_cons, List.not_mem_nil, or_false] at ht
  rcases ht with rfl | rfl | rfl
  · cases h
    rfl
  · exact encode_of_decode_truth h
  · exact encode_of_decode_char h

theorem isSegment_encode_of_decode {t : Scalar} (ht : t.Faithful) {s : String} {v : t.Value}
    (hs : IsSegment s) (h : t.decode s = .ok v) : IsSegment (t.encode v) := by
  cases t with
  | text => rwa [encode_of_decode (by simp) h]
  | truth => rwa [encode_of_decode (by simp) h]
  | char => rwa [encode_of_decode (by simp) h]
  | int kind => exact Numeral.Integer.isSegment_digits v
  | nonZeroByte => exact Numeral.Integer.isSegment_digits v.toInteger
  | float kind => exact ht.elim
  | color => exact Color.isSegment_name v
  | user key => exact ht.elim

end Scalar

end PathRouting
