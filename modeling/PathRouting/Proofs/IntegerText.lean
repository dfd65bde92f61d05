import Mathlib.Algebra.Group.Int.Defs
import Mathlib.Algebra.Group.Nat.Defs
import PathRouting.Proofs.ScalarText

/-!
# Integers in paths

A segment is read as an integer of a fixed width exactly if it is a numeral that denotes a number of
the type, and the digits of every such number are one. Any other segment is refused, for a reason
that can be told from its sign and its first digits.
-/

namespace PathRouting
set_option autoImplicit false

open Numeral

namespace IntKind

/-- The numbers of a fixed-width type: two's complement if it is signed. -/
def Holds (k : IntKind) (n : Int) : Prop :=
  if k.signed then -2 ^ (k.width.bits - 1) ≤ n ∧ n < 2 ^ (k.width.bits - 1)
  else 0 ≤ n ∧ n < 2 ^ k.width.bits

theorem range_of_signed {k : IntKind} (h : k.signed = true) :
    k.range = ⟨2 ^ (k.width.bits - 1), 2 ^ (k.width.bits - 1) - 1⟩ := by
  rw [range, if_pos h]
  rfl

theorem range_of_unsigned {k : IntKind} (h : k.signed = false) :
    k.range = ⟨0, 2 ^ k.width.bits - 1⟩ := by
  rw [range, h]
  rfl

theorem signed_iff (k : IntKind) : k.signed ↔ k.range.below ≠ 0 := by
  cases h : k.signed with
  | true =>
    have hpos : 0 < 2 ^ (k.width.bits - 1) := Nat.two_pow_pos _
    rw [range_of_signed h]
    simp
  | false =>
    rw [range_of_unsigned h]
    simp

theorem holds_iff (k : IntKind) (n : Int) :
    k.Holds n ↔ -(k.range.below : Int) ≤ n ∧ n ≤ k.range.above := by
  unfold Holds
  cases h : k.signed with
  | true =>
    have hpos : 0 < 2 ^ (k.width.bits - 1) := Nat.two_pow_pos _
    have hcast : ((2 ^ (k.width.bits - 1) : Nat) : Int) = 2 ^ (k.width.bits - 1) := by simp
    rw [if_pos rfl, range_of_signed h, ← hcast]
    dsimp only
    omega
  | false =>
    have hpos : 0 < 2 ^ k.width.bits := Nat.two_pow_pos _
    have hcast : ((2 ^ k.width.bits : Nat) : Int) = 2 ^ k.width.bits := by simp
    rw [if_neg (by decide), range_of_unsigned h, ← hcast]
    dsimp only
    omega

theorem exists_integer_iff (k : IntKind) (n : Int) :
    (∃ v : Integer k.range, v.val = n) ↔ k.Holds n := by
  rw [holds_iff]
  constructor
  · rintro ⟨v, rfl⟩
    exact ⟨v.lower, v.upper⟩
  · rintro ⟨hlower, hupper⟩
    exact ⟨⟨n, hlower, hupper⟩, rfl⟩

theorem holds_of_bits_le {signed : Bool} {narrow wide : IntWidth} {n : Int}
    (hbits : narrow.bits ≤ wide.bits) (h : Holds ⟨signed, narrow⟩ n) : Holds ⟨signed, wide⟩ n := by
  rw [holds_iff] at h ⊢
  cases signed with
  | true =>
    have hpower : 2 ^ (narrow.bits - 1) ≤ 2 ^ (wide.bits - 1) :=
      Nat.pow_le_pow_right Nat.two_pos (Nat.sub_le_sub_right hbits 1)
    rw [range_of_signed rfl] at h ⊢
    dsimp only at h ⊢
    omega
  | false =>
    have hpower : 2 ^ narrow.bits ≤ 2 ^ wide.bits := Nat.pow_le_pow_right Nat.two_pos hbits
    rw [range_of_unsigned rfl] at h ⊢
    dsimp only at h ⊢
    omega

theorem exists_nonZero_iff (n : Int) :
    (∃ v : NonZero (range ⟨false, .w8⟩), v.toInteger.val = n) ↔ 1 ≤ n ∧ n ≤ 255 := by
  constructor
  · rintro ⟨⟨v, hne⟩, rfl⟩
    have hlower : 0 ≤ v.val := v.lower
    have hupper : v.val ≤ 255 := v.upper
    dsimp only
    omega
  · rintro ⟨hlower, hupper⟩
    have hzero : -((range ⟨false, .w8⟩).below : Int) ≤ n := Int.le_trans (by decide) hlower
    exact ⟨⟨⟨n, hzero, hupper⟩, by dsimp only; omega⟩, rfl⟩

end IntKind

namespace Scalar
variable [UserTypes]

theorem decode_int_eq_ok_iff {kind : IntKind} {s : String} {v : Integer kind.range} :
    (int kind).decode s = .ok v ↔
      IsNumeral kind.signed s.toList ∧ leadingValue kind.signed s.toList = v.val :=
  decode_eq_ok_iff.trans (mapError_eq_ok_iff.trans (Integer.read_eq_ok_iff kind.signed_iff))

theorem exists_decode_int_iff {kind : IntKind} {s : String} :
    (∃ v, (int kind).decode s = .ok v) ↔
      IsNumeral kind.signed s.toList ∧ kind.Holds (leadingValue kind.signed s.toList) := by
  rw [← kind.exists_integer_iff]
  constructor
  · rintro ⟨v, hv⟩
    obtain ⟨hnumeral, hvalue⟩ := decode_int_eq_ok_iff.mp hv
    exact ⟨hnumeral, v, hvalue.symm⟩
  · rintro ⟨hnumeral, v, hvalue⟩
    exact ⟨v, decode_int_eq_ok_iff.mpr ⟨hnumeral, hvalue.symm⟩⟩

/-- What is decoded in one width is decoded as the same number in every width that is not smaller. -/
theorem decode_int_of_bits_le {signed : Bool} {narrow wide : IntWidth} {s : String}
    {v : Integer (IntKind.range ⟨signed, narrow⟩)} (hbits : narrow.bits ≤ wide.bits)
    (h : (int ⟨signed, narrow⟩).decode s = .ok v) :
    ∃ w : Integer (IntKind.range ⟨signed, wide⟩),
      (int ⟨signed, wide⟩).decode s = .ok w ∧ w.val = v.val := by
  obtain ⟨hnumeral, hvalue⟩ := decode_int_eq_ok_iff.mp h
  have hholds : IntKind.Holds ⟨signed, narrow⟩ v.val := (IntKind.exists_integer_iff _ _).mp ⟨v, rfl⟩
  obtain ⟨w, hw⟩ := (IntKind.exists_integer_iff _ _).mpr (IntKind.holds_of_bits_le hbits hholds)
  exact ⟨w, decode_int_eq_ok_iff.mpr ⟨hnumeral, hvalue.trans hw.symm⟩, hw⟩

theorem decode_int_eq_error_iff {kind : IntKind} {s : String} {e : DecodeError} :
    (int kind).decode s = .error e ↔
      ∃ fault, Refused kind.signed kind.range s.toList fault ∧
        e = ⟨int kind, s, .numeral fault⟩ := by
  rw [decode_eq_error_iff]
  constructor
  · rintro ⟨_, hread, rfl⟩
    obtain ⟨fault, hfault, rfl⟩ := mapError_eq_error_iff.mp hread
    exact ⟨fault, (Integer.read_eq_error_iff kind.signed_iff).mp hfault, rfl⟩
  · rintro ⟨fault, hfault, rfl⟩
    have hread := (Integer.read_eq_error_iff kind.signed_iff).mpr hfault
    exact ⟨_, mapError_eq_error_iff.mpr ⟨fault, hread, rfl⟩, rfl⟩

theorem read_nonZeroByte_eq_ok_iff {s : String} {v : NonZero (IntKind.range ⟨false, .w8⟩)} :
    nonZeroByte.read s = .ok v ↔
      Integer.read (IntKind.range ⟨false, .w8⟩) s.toList = .ok v.toInteger := by
  rw [read]
  cases Integer.read (IntKind.range ⟨false, .w8⟩) s.toList with
  | error reason => simp
  | ok n =>
    obtain ⟨m, hm⟩ := v
    by_cases hn : n.val ≠ 0
    · simp only [dif_pos hn]
      constructor
      · intro h
        cases h
        rfl
      · intro h
        cases h
        rfl
    · have hne : n ≠ m := by
        rintro rfl
        exact hn hm
      simp [hn, hne]

theorem read_nonZeroByte_eq_error_iff {s : String} {fault : DecodeFault} :
    nonZeroByte.read s = .error fault ↔
      (∃ n, Integer.read (IntKind.range ⟨false, .w8⟩) s.toList = .ok n ∧
        n.val = 0 ∧ fault = .zero) ∨
      ∃ reason, Integer.read (IntKind.range ⟨false, .w8⟩) s.toList = .error reason ∧
        fault = .numeral reason := by
  rw [read]
  cases Integer.read (IntKind.range ⟨false, .w8⟩) s.toList with
  | error reason => simp [eq_comm]
  | ok n =>
    by_cases hn : n.val = 0
    · simp [hn, eq_comm]
    · simp [hn]

theorem decode_nonZeroByte_eq_ok_iff {s : String} {v : NonZero (IntKind.range ⟨false, .w8⟩)} :
    nonZeroByte.decode s = .ok v ↔
      IsNumeral false s.toList ∧ leadingValue false s.toList = v.toInteger.val := by
  have hunsigned := IntKind.signed_iff ⟨false, .w8⟩
  exact decode_eq_ok_iff.trans
    (read_nonZeroByte_eq_ok_iff.trans (Integer.read_eq_ok_iff hunsigned))

theorem decode_nonZeroByte_eq_error_iff {s : String} {e : DecodeError} :
    nonZeroByte.decode s = .error e ↔
      (IsNumeral false s.toList ∧ leadingValue false s.toList = 0 ∧ e = ⟨nonZeroByte, s, .zero⟩) ∨
      ∃ fault, Refused false (IntKind.range ⟨false, .w8⟩) s.toList fault ∧
        e = ⟨nonZeroByte, s, .numeral fault⟩ := by
  have hunsigned := IntKind.signed_iff ⟨false, .w8⟩
  simp only [decode_eq_error_iff, read_nonZeroByte_eq_error_iff, Integer.read_eq_ok_iff hunsigned,
    Integer.read_eq_error_iff hunsigned]
  constructor
  · rintro ⟨_, ⟨n, ⟨hnumeral, hvalue⟩, hzero, rfl⟩ | ⟨fault, hfault, rfl⟩, rfl⟩
    · exact Or.inl ⟨hnumeral, hvalue.trans hzero, rfl⟩
    · exact Or.inr ⟨fault, hfault, rfl⟩
  · rintro (⟨hnumeral, hvalue, rfl⟩ | ⟨fault, hfault, rfl⟩)
    · exact ⟨_, Or.inl ⟨⟨0, by decide, by decide⟩, ⟨hnumeral, hvalue⟩, rfl, rfl⟩, rfl⟩
    · exact ⟨_, Or.inr ⟨fault, hfault, rfl⟩, rfl⟩

/-- A text is decoded as a number exactly if it is a numeral for it, and else refused for one
reason. -/
theorem integers_are_decoded_from_numerals :
    (∀ (kind : IntKind) (n : Int), (∃ v : Integer kind.range, v.val = n) ↔ kind.Holds n) ∧
    (∀ (kind : IntKind) (v : Integer kind.range), (int kind).decode ((int kind).encode v) = .ok v) ∧
    (∀ (kind : IntKind) (s : String),
      (∀ v : Integer kind.range, (int kind).decode s = .ok v ↔
        IsNumeral kind.signed s.toList ∧ leadingValue kind.signed s.toList = v.val) ∧
      ((∃ v, (int kind).decode s = .ok v) ↔
        IsNumeral kind.signed s.toList ∧ kind.Holds (leadingValue kind.signed s.toList)) ∧
      ∀ e, (int kind).decode s = .error e ↔
        ∃ fault, Refused kind.signed kind.range s.toList fault ∧
          e = ⟨int kind, s, .numeral fault⟩) ∧
    (∀ n : Int, (∃ v : NonZero (IntKind.range ⟨false, .w8⟩), v.toInteger.val = n) ↔
      1 ≤ n ∧ n ≤ 255) ∧
    (∀ v : NonZero (IntKind.range ⟨false, .w8⟩),
      nonZeroByte.decode (nonZeroByte.encode v) = .ok v) ∧
    ∀ s : String,
      (∀ v : NonZero (IntKind.range ⟨false, .w8⟩), nonZeroByte.decode s = .ok v ↔
        IsNumeral false s.toList ∧ leadingValue false s.toList = v.toInteger.val) ∧
      ∀ e, nonZeroByte.decode s = .error e ↔
        (IsNumeral false s.toList ∧ leadingValue false s.toList = 0 ∧
          e = ⟨nonZeroByte, s, .zero⟩) ∨
        ∃ fault, Refused false (IntKind.range ⟨false, .w8⟩) s.toList fault ∧
          e = ⟨nonZeroByte, s, .numeral fault⟩ := by
  refine ⟨IntKind.exists_integer_iff, ?written, ?texts, IntKind.exists_nonZero_iff, ?nonZero,
    ?others⟩
  case written => exact fun kind v => decode_encode (t := int kind) trivial v
  case texts =>
    intro kind s
    exact ⟨fun _ => decode_int_eq_ok_iff, exists_decode_int_iff, fun _ => decode_int_eq_error_iff⟩
  case nonZero => exact fun v => decode_encode (t := nonZeroByte) trivial v
  case others =>
    intro s
    exact ⟨fun _ => decode_nonZeroByte_eq_ok_iff, fun _ => decode_nonZeroByte_eq_error_iff⟩

end Scalar

end PathRouting
