import Mathlib.Data.List.TakeWhile
import PathRouting.Numeral

/-!
# Written numbers

A numeral is an optional sign and one or more digits. Reading takes it in digit by digit and stops
as soon as the number in hand leaves the range, so what it says of a text depends on the digits
before the first other character: the text is refused as too large or too small if these denote a
number out of the range already, even if it is no numeral, and as having a bad character otherwise.
The numerals of the range are read as what they denote, with any number of leading zeros.
-/

namespace PathRouting.Numeral
set_option autoImplicit false

/-- One or more decimal digits. -/
structure Digits (cs : List Char) : Prop where
  nonempty : cs ≠ []
  isDigit : ∀ c ∈ cs, c.isDigit

/-- What follows the sign of a text. A minus sign is one only where there are negative numbers. -/
def afterSign (signed : Bool) : List Char → List Char
  | '+' :: cs => cs
  | '-' :: cs => if signed then cs else '-' :: cs
  | cs => cs

/-- The sign of a text is a minus sign. -/
def HasMinus (signed : Bool) (cs : List Char) : Prop := signed ∧ cs.head? = some '-'

instance (signed : Bool) (cs : List Char) : Decidable (HasMinus signed cs) :=
  inferInstanceAs (Decidable (_ ∧ _))

/-- A text is an optional sign and one or more digits. -/
def IsNumeral (signed : Bool) (cs : List Char) : Prop := Digits (afterSign signed cs)

/-- What the digits at the front of a text denote. -/
def leadingMagnitude (cs : List Char) : Nat := Nat.ofDigitChars 10 (cs.takeWhile Char.isDigit) 0

/-- What the sign of a text and the digits before the first other character denote: zero if there
are none, and the number itself if the text is a numeral. -/
def leadingValue (signed : Bool) (cs : List Char) : Int :=
  if HasMinus signed cs then -(leadingMagnitude (afterSign signed cs) : Int)
  else leadingMagnitude (afterSign signed cs)

/-- A text is refused, for the given reason, as a number of a range. -/
inductive Refused (signed : Bool) (r : Range) (cs : List Char) : Fault → Prop where
  | empty (nothing : cs = []) : Refused signed r cs .empty
  | invalidDigit (something : cs ≠ []) (malformed : ¬IsNumeral signed cs)
      (lower : -(r.below : Int) ≤ leadingValue signed cs)
      (upper : leadingValue signed cs ≤ (r.above : Int)) : Refused signed r cs .invalidDigit
  | tooLarge (beyond : (r.above : Int) < leadingValue signed cs) : Refused signed r cs .tooLarge
  | tooSmall (beyond : leadingValue signed cs < -(r.below : Int)) : Refused signed r cs .tooSmall

theorem afterSign_minus (cs : List Char) : afterSign true ('-' :: cs) = cs := rfl

theorem afterSign_of_ne {signed : Bool} {c : Char} (hplus : c ≠ '+') (hminus : c ≠ '-')
    (cs : List Char) : afterSign signed (c :: cs) = c :: cs := by
  unfold afterSign
  split
  · rename_i heq
    cases heq
    contradiction
  · rename_i heq
    cases heq
    contradiction
  · rfl

theorem leadingMagnitude_of_digits {cs : List Char} (h : Digits cs) :
    leadingMagnitude cs = Nat.ofDigitChars 10 cs 0 := by
  rw [leadingMagnitude, List.takeWhile_eq_self_iff.mpr h.isDigit]

theorem leadingValue_of_minus {signed : Bool} {cs : List Char} (h : HasMinus signed cs) :
    leadingValue signed cs = -(leadingMagnitude (afterSign signed cs) : Int) := if_pos h

theorem leadingValue_of_not_minus {signed : Bool} {cs : List Char} (h : ¬HasMinus signed cs) :
    leadingValue signed cs = leadingMagnitude (afterSign signed cs) := if_neg h

theorem le_ofDigitChars (cs : List Char) (n : Nat) : n ≤ Nat.ofDigitChars 10 cs n := by
  rw [Nat.ofDigitChars_eq_ofDigitChars_zero]
  have hpos : 0 < 10 ^ cs.length := Nat.pow_pos (by decide)
  have hmul := Nat.le_mul_of_pos_left n hpos
  omega

/-- How the scan of a text that follows a number in hand can end. -/
theorem scan_cases (limit : Nat) (beyond : Fault) (cs : List Char) (n : { n : Nat // n ≤ limit }) :
    (∃ h : Nat.ofDigitChars 10 (cs.takeWhile Char.isDigit) n.val ≤ limit,
      (∀ c ∈ cs, c.isDigit) ∧ scan limit beyond n cs = .ok ⟨_, h⟩) ∨
    (Nat.ofDigitChars 10 (cs.takeWhile Char.isDigit) n.val ≤ limit ∧
      ¬(∀ c ∈ cs, c.isDigit) ∧ scan limit beyond n cs = .error .invalidDigit) ∨
    (limit < Nat.ofDigitChars 10 (cs.takeWhile Char.isDigit) n.val ∧
      scan limit beyond n cs = .error beyond) := by
  -- The number in hand only grows: once it is out of range, no later digit brings it back.
  induction cs generalizing n with
  | nil => exact Or.inl ⟨n.property, List.forall_mem_nil _, rfl⟩
  | cons c cs ih =>
    by_cases hdigit : c.isDigit
    · rw [List.takeWhile_cons_of_pos hdigit, Nat.ofDigitChars_cons, List.forall_mem_cons,
        and_iff_right hdigit]
      by_cases hstep : 10 * n.val + digitValue c ≤ limit
      · have hscan : scan limit beyond n (c :: cs) = scan limit beyond ⟨_, hstep⟩ cs := by
          rw [scan, if_pos hdigit, dif_pos hstep]
        rw [hscan]
        exact ih ⟨_, hstep⟩
      · have hgrows := le_ofDigitChars (cs.takeWhile Char.isDigit) (10 * n.val + digitValue c)
        refine Or.inr (Or.inr ⟨?_, ?_⟩)
        · exact Nat.lt_of_lt_of_le (Nat.lt_of_not_le hstep) hgrows
        · rw [scan, if_pos hdigit, dif_neg hstep]
    · rw [List.takeWhile_cons_of_neg hdigit]
      refine Or.inr (Or.inl ⟨n.property, ?_, ?_⟩)
      · exact fun hall => hdigit (hall c List.mem_cons_self)
      · rw [scan, if_neg hdigit]

theorem magnitude_cases (limit : Nat) (beyond : Fault) (cs : List Char) :
    (∃ h : leadingMagnitude cs ≤ limit,
      Digits cs ∧ magnitude limit beyond cs = .ok ⟨leadingMagnitude cs, h⟩) ∨
    (leadingMagnitude cs ≤ limit ∧ ¬Digits cs ∧
      magnitude limit beyond cs = .error .invalidDigit) ∨
    (limit < leadingMagnitude cs ∧ magnitude limit beyond cs = .error beyond) := by
  cases cs with
  | nil => exact Or.inr (Or.inl ⟨Nat.zero_le limit, fun h => h.nonempty rfl, rfl⟩)
  | cons c cs =>
    rcases scan_cases limit beyond (c :: cs) ⟨0, Nat.zero_le limit⟩ with
      ⟨h, hall, hscan⟩ | ⟨h, hbad, hscan⟩ | ⟨h, hscan⟩
    · exact Or.inl ⟨h, ⟨List.cons_ne_nil c cs, hall⟩, hscan⟩
    · exact Or.inr (Or.inl ⟨h, fun hdigits => hbad hdigits.isDigit, hscan⟩)
    · exact Or.inr (Or.inr ⟨h, hscan⟩)

namespace Integer
variable {r : Range}

theorem ext {m n : Integer r} (h : m.val = n.val) : m = n := by
  cases m
  cases n
  cases h
  rfl

/-- What a text says of the result of reading it. -/
def Verdict (signed : Bool) (r : Range) (cs : List Char) : Except Fault (Integer r) → Prop
  | .ok n => IsNumeral signed cs ∧ leadingValue signed cs = n.val
  | .error fault => Refused signed r cs fault

theorem verdict_plain {signed : Bool} {cs : List Char} (hne : cs ≠ [])
    (hminus : ¬HasMinus signed cs) :
    Verdict signed r cs ((magnitude r.above .tooLarge (afterSign signed cs)).map ofMagnitude) := by
  have hvalue := leadingValue_of_not_minus hminus
  rcases magnitude_cases r.above .tooLarge (afterSign signed cs) with
    ⟨h, hdigits, hread⟩ | ⟨h, hbad, hread⟩ | ⟨h, hread⟩
  · rw [hread]
    exact ⟨hdigits, hvalue⟩
  · rw [hread]
    exact .invalidDigit hne hbad (by omega) (by omega)
  · rw [hread]
    exact .tooLarge (by omega)

theorem verdict_minus {signed : Bool} {cs : List Char} (hminus : HasMinus signed cs) :
    Verdict signed r cs
      ((magnitude r.below .tooSmall (afterSign signed cs)).map negOfMagnitude) := by
  have hvalue := leadingValue_of_minus hminus
  have hne : cs ≠ [] := by
    rintro rfl
    cases hminus.2
  rcases magnitude_cases r.below .tooSmall (afterSign signed cs) with
    ⟨h, hdigits, hread⟩ | ⟨h, hbad, hread⟩ | ⟨h, hread⟩
  · rw [hread]
    exact ⟨hdigits, hvalue⟩
  · rw [hread]
    exact .invalidDigit hne hbad (by omega) (by omega)
  · rw [hread]
    exact .tooSmall (by omega)

theorem read_of_no_sign {c : Char} (hplus : c ≠ '+') (hminus : c ≠ '-') (cs : List Char) :
    read r (c :: cs) = (magnitude r.above .tooLarge (c :: cs)).map ofMagnitude := by
  unfold read
  split
  · contradiction
  · rename_i heq
    cases heq
    contradiction
  · rename_i heq
    cases heq
    contradiction
  · rename_i heq
    cases heq
    rfl

theorem verdict_unsigned_minus (cs : List Char) :
    Verdict false r ('-' :: cs) (.error .invalidDigit) := by
  have hvalue : leadingValue false ('-' :: cs) = 0 := rfl
  refine .invalidDigit (List.cons_ne_nil _ _) ?_ (by omega) (by omega)
  intro h
  exact absurd (h.isDigit '-' List.mem_cons_self) (by decide)

theorem verdict_read {signed : Bool} (hsigned : signed ↔ r.below ≠ 0) (cs : List Char) :
    Verdict signed r cs (read r cs) := by
  -- A minus sign is a sign for ranges with negative numbers and a bad character for the others.
  cases cs with
  | nil => exact .empty rfl
  | cons c cs =>
    by_cases hplus : c = '+'
    · subst hplus
      exact verdict_plain (List.cons_ne_nil _ _) fun h => by cases h.2
    · by_cases hminus : c = '-'
      · subst hminus
        cases signed with
        | false =>
          have hbelow : r.below = 0 := by simpa using hsigned
          rw [read, if_pos hbelow]
          exact verdict_unsigned_minus cs
        | true =>
          rw [read, if_neg (hsigned.mp rfl)]
          exact verdict_minus ⟨rfl, rfl⟩
      · have hnone : ¬HasMinus signed (c :: cs) := fun h => hminus (Option.some.inj h.2)
        have hverdict := verdict_plain (r := r) (List.cons_ne_nil c cs) hnone
        rwa [afterSign_of_ne hplus hminus, ← read_of_no_sign hplus hminus] at hverdict

end Integer

theorem not_isNumeral_nil (signed : Bool) : ¬IsNumeral signed [] := fun h => h.nonempty rfl

theorem leadingValue_nil (signed : Bool) : leadingValue signed [] = 0 := by
  cases signed <;> rfl

/-- The reason for which a text is refused, given that it is. -/
theorem Refused.fault_eq {signed : Bool} {r : Range} {cs : List Char} {fault : Fault}
    (h : Refused signed r cs fault) :
    fault =
      if (r.above : Int) < leadingValue signed cs then .tooLarge
      else if leadingValue signed cs < -(r.below : Int) then .tooSmall
      else if cs = [] then .empty
      else .invalidDigit := by
  cases h with
  | empty hnil =>
    subst hnil
    rw [leadingValue_nil, if_neg (by omega), if_neg (by omega), if_pos rfl]
  | invalidDigit hne _ hlower hupper => rw [if_neg (by omega), if_neg (by omega), if_neg hne]
  | tooLarge hbeyond => rw [if_pos hbeyond]
  | tooSmall hbeyond => rw [if_neg (by omega), if_pos hbeyond]

theorem Refused.unique {signed : Bool} {r : Range} {cs : List Char} {fault other : Fault}
    (h : Refused signed r cs fault) (hother : Refused signed r cs other) : fault = other :=
  h.fault_eq.trans hother.fault_eq.symm

theorem Refused.not_isNumeral {signed : Bool} {r : Range} {cs : List Char} {fault : Fault}
    (h : Refused signed r cs fault) (hlower : -(r.below : Int) ≤ leadingValue signed cs)
    (hupper : leadingValue signed cs ≤ r.above) : ¬IsNumeral signed cs := by
  intro hnumeral
  cases h with
  | empty hnil =>
    subst hnil
    exact not_isNumeral_nil signed hnumeral
  | invalidDigit _ hbad => exact hbad hnumeral
  | tooLarge hbeyond => omega
  | tooSmall hbeyond => omega

namespace Integer
variable {r : Range} {signed : Bool} {cs : List Char}

theorem read_eq_ok_iff (hsigned : signed ↔ r.below ≠ 0) {n : Integer r} :
    read r cs = .ok n ↔ IsNumeral signed cs ∧ leadingValue signed cs = n.val := by
  have hverdict := verdict_read hsigned cs
  constructor
  · intro h
    rw [h] at hverdict
    exact hverdict
  · rintro ⟨hnumeral, hvalue⟩
    have hlower := n.lower
    have hupper := n.upper
    cases hread : read r cs with
    | ok m =>
      rw [hread] at hverdict
      exact congrArg Except.ok (ext (hverdict.2.symm.trans hvalue))
    | error fault =>
      rw [hread] at hverdict
      exact absurd hnumeral (Refused.not_isNumeral hverdict (by omega) (by omega))

theorem read_eq_error_iff (hsigned : signed ↔ r.below ≠ 0) {fault : Fault} :
    read r cs = .error fault ↔ Refused signed r cs fault := by
  have hverdict := verdict_read hsigned cs
  constructor
  · intro h
    rw [h] at hverdict
    exact hverdict
  · intro hrefused
    cases hread : read r cs with
    | ok m =>
      rw [hread] at hverdict
      have hlower := m.lower
      have hupper := m.upper
      obtain ⟨hnumeral, hvalue⟩ := hverdict
      exact absurd hnumeral (hrefused.not_isNumeral (by omega) (by omega))
    | error other =>
      rw [hread] at hverdict
      rw [hrefused.unique hverdict]

end Integer

theorem digits_toDigits (n : Nat) : Digits (Nat.toDigits 10 n) :=
  ⟨Nat.toDigits_ne_nil, fun _ hc => Nat.isDigit_of_mem_toDigits (by decide) (by decide) hc⟩

theorem leadingMagnitude_toDigits (n : Nat) : leadingMagnitude (Nat.toDigits 10 n) = n := by
  rw [leadingMagnitude_of_digits (digits_toDigits n), Nat.ofDigitChars_ten_toDigits]

theorem Digits.afterSign_eq {cs : List Char} (h : Digits cs) (signed : Bool) :
    afterSign signed cs = cs ∧ ¬HasMinus signed cs := by
  cases cs with
  | nil => exact absurd rfl h.nonempty
  | cons c cs =>
    have hdigit := h.isDigit c List.mem_cons_self
    have hplus : c ≠ '+' := by
      rintro rfl
      exact absurd hdigit (by decide)
    have hminus : c ≠ '-' := by
      rintro rfl
      exact absurd hdigit (by decide)
    exact ⟨afterSign_of_ne hplus hminus cs, fun hsign => hminus (Option.some.inj hsign.2)⟩

namespace Integer
variable {r : Range}

/-- The digits of an integer, with the minus sign of a negative one, are a numeral for it. -/
theorem isNumeral_digits {signed : Bool} (hsigned : signed ↔ r.below ≠ 0) (n : Integer r) :
    IsNumeral signed n.digits ∧ leadingValue signed n.digits = n.val := by
  have hlower := n.lower
  have hdigits := digits_toDigits n.val.natAbs
  unfold digits
  split
  · rename_i hneg
    obtain rfl : signed = true := hsigned.mpr (by omega)
    refine ⟨hdigits, ?_⟩
    rw [leadingValue_of_minus ⟨rfl, rfl⟩, afterSign_minus, leadingMagnitude_toDigits]
    omega
  · rename_i hneg
    obtain ⟨hafter, hminus⟩ := hdigits.afterSign_eq signed
    refine ⟨?_, ?_⟩
    · rwa [IsNumeral, hafter]
    · rw [leadingValue_of_not_minus hminus, hafter, leadingMagnitude_toDigits]
      omega

theorem read_digits (n : Integer r) : read r n.digits = .ok n := by
  have hsigned : decide (r.below ≠ 0) ↔ r.below ≠ 0 := decide_eq_true_iff
  exact (read_eq_ok_iff hsigned).mpr (isNumeral_digits hsigned n)

end Integer

end PathRouting.Numeral
