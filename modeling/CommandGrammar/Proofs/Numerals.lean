import CommandGrammar.Argument
import CommandGrammar.Decimal.Notation
import CommandGrammar.Proofs.Conversion

/-! Whole numbers as tokens and as arguments. A variable for integers has a value for exactly the
decimal numerals within 64 bits, and says of a numeral beyond them on which side it lies. As an
argument of a narrower type the value is looked at once more. -/

namespace CommandGrammar

namespace Decimal

/-! ### Numerals -/

/-- At least one digit, and nothing but digits. -/
def IsDigits (cs : List Char) : Prop := cs ≠ [] ∧ ∀ c ∈ cs, c.isDigit = true

/-- The characters are a decimal numeral for the number: digits behind an optional sign. -/
inductive Writes : List Char → Int → Prop
  | plain {digits : List Char} (h : IsDigits digits) : Writes digits (digitValue digits)
  | plus {digits : List Char} (h : IsDigits digits) : Writes ('+' :: digits) (digitValue digits)
  | minus {digits : List Char} (h : IsDigits digits) : Writes ('-' :: digits) (-digitValue digits)

theorem digit?_of_isDigit {c : Char} (h : c.isDigit = true) : digit? c = some (c.toNat - 48) :=
  if_pos (by
    rw [Bool.and_eq_true, decide_eq_true_eq, decide_eq_true_eq]
    exact Char.isDigit_iff_toNat.mp h)

theorem isDigit_of_range {c : Char} (h : 48 ≤ c.toNat ∧ c.toNat ≤ 57) : c.isDigit = true := by
  simpa [Char.isDigit_iff_toNat] using h

/-- Going on with more digits does not make a value smaller. -/
theorem le_foldl_digits (value : Nat) (cs : List Char) :
    value ≤ cs.foldl (fun n c => 10 * n + (c.toNat - 48)) value := by
  induction cs generalizing value with
  | nil => exact Nat.le_refl value
  | cons c cs ih => exact Nat.le_trans (by omega) (ih (10 * value + (c.toNat - 48)))

/-- Digits are read as their value, unless this exceeds the bound. -/
theorem readDigits_eq {bound value : Nat} {excess : NumeralError} {cs : List Char}
    (h : ∀ c ∈ cs, c.isDigit = true) (hvalue : value ≤ bound) :
    readDigits bound excess value cs =
      if cs.foldl (fun n c => 10 * n + (c.toNat - 48)) value ≤ bound then
        .ok (cs.foldl (fun n c => 10 * n + (c.toNat - 48)) value)
      else .error excess := by
  induction cs generalizing value with
  | nil => exact (if_pos hvalue).symm
  | cons c cs ih =>
    rw [List.forall_mem_cons] at h
    rw [readDigits, digit?_of_isDigit h.1, List.foldl_cons]
    dsimp only
    have hle := le_foldl_digits (10 * value + (c.toNat - 48)) cs
    by_cases hnext : bound < 10 * value + (c.toNat - 48)
    · rw [if_pos hnext, if_neg (by omega)]
    · rw [if_neg hnext, ih h.2 (by omega)]

theorem readMagnitude_eq {bound : Nat} {excess : NumeralError} {cs : List Char} (h : IsDigits cs) :
    readMagnitude bound excess cs =
      if digitValue cs ≤ bound then .ok (digitValue cs) else .error excess := by
  have hne : ¬cs.isEmpty = true := by simpa using h.1
  rw [readMagnitude, if_neg hne, readDigits_eq h.2 (Nat.zero_le bound)]
  rfl

/-- A plus sign in front of digits changes nothing. -/
theorem readInteger_plus {below above : Nat} {cs : List Char} (h : IsDigits cs) :
    readInteger below above ('+' :: cs) = readInteger below above cs := by
  rw [readInteger]
  unfold readInteger
  split
  · cases h.2 '-' List.mem_cons_self
  · cases h.2 '+' List.mem_cons_self
  · rfl

/-- A numeral is read as its number, unless this is out of bounds. -/
theorem Writes.readInteger_eq {below above : Nat} {cs : List Char} {n : Int} (h : Writes cs n) :
    readInteger below above cs =
      if n < -below then .error .tooSmall else if above < n then .error .tooLarge else .ok n := by
  have hpositive {digits : List Char} (h : IsDigits digits) :
      readInteger below above digits =
        if (digitValue digits : Int) < -below then .error .tooSmall
        else if above < (digitValue digits : Int) then .error .tooLarge
        else .ok (digitValue digits : Int) := by
    rw [← readInteger_plus h, readInteger, readMagnitude_eq h,
      if_neg (by omega : ¬(digitValue digits : Int) < -below)]
    by_cases hle : digitValue digits ≤ above
    · rw [if_pos hle, if_neg (by omega)]
      rfl
    · rw [if_neg hle, if_pos (by omega)]
      rfl
  cases h with
  | plain h => exact hpositive h
  | plus h => rw [readInteger_plus h, hpositive h]
  | @minus digits h =>
    rw [readInteger, readMagnitude_eq h]
    by_cases hle : digitValue digits ≤ below
    · rw [if_pos hle, if_neg (by omega), if_neg (by omega)]
      rfl
    · rw [if_neg hle, if_pos (by omega)]
      rfl

/-- What can be read is a numeral. -/
theorem writes_of_readInteger {below above : Nat} {cs : List Char} {n : Int}
    (h : readInteger below above cs = .ok n) : Writes cs n := by
  have hnumber {bound m : Nat} {excess : NumeralError} {digits : List Char}
      (h : readMagnitude bound excess digits = .ok m) :
      IsDigits digits ∧ m = digitValue digits := by
    obtain ⟨hlength, hchars⟩ := digits_of_readMagnitude h
    have hdigits : IsDigits digits :=
      ⟨List.ne_nil_of_length_pos hlength, fun c hc => isDigit_of_range (hchars c hc)⟩
    rw [readMagnitude_eq hdigits] at h
    split at h
    · cases h
      exact ⟨hdigits, rfl⟩
    · cases h
  obtain ⟨sign, digits, m, rfl, ⟨rfl, hm, rfl⟩ | ⟨rfl | rfl, hm, rfl⟩⟩ := exists_of_readInteger h
  all_goals obtain ⟨hdigits, rfl⟩ := hnumber hm
  · exact .minus hdigits
  · exact .plain hdigits
  · exact .plus hdigits

/-- Reading gives a number within the bounds exactly for its numerals. -/
theorem readInteger_eq_ok_iff {below above : Nat} {cs : List Char} {n : Int} :
    readInteger below above cs = .ok n ↔ Writes cs n ∧ -(below : Int) ≤ n ∧ n ≤ above := by
  constructor
  · intro h
    exact ⟨writes_of_readInteger h, bounds_of_readInteger h⟩
  · rintro ⟨h, hbelow, habove⟩
    rw [h.readInteger_eq, if_neg (by omega), if_neg (by omega)]

end Decimal

/-! ### Integers -/

namespace Kind

theorem parse_integer {text : String} {v : Value} : integer.parse text = .ok v ↔
    ∃ n, Decimal.readInteger (Nat.pow 2 63) (Nat.pow 2 63 - 1) text.toList = .ok n ∧
      v = .int n := by
  constructor
  · intro h
    obtain ⟨n, rfl, hn⟩ := exists_of_parse_integer h
    exact ⟨n, hn, rfl⟩
  · rintro ⟨n, hn, rfl⟩
    simp only [integer, plain, hn]

theorem convert?_integer {name text : String} {v : Value} :
    integer.convert? name text = some v ↔ ∃ n : Int, Decimal.Writes text.toList n ∧
      -9223372036854775808 ≤ n ∧ n ≤ 9223372036854775807 ∧ v = .int n := by
  have hcompile : (Pattern.compile? "[-+]?\\d+").isSome = true := by rw [compile?_integer]; rfl
  rw [integer_fitsValues.convert?_eq_some_iff rfl hcompile, parse_integer]
  simp only [Decimal.readInteger_eq_ok_iff, and_assoc]
  rfl

theorem parse_integer_of_lt {text : String} {n : Int} (h : Decimal.Writes text.toList n)
    (hn : n < -9223372036854775808) :
    integer.parse text = .error ⟨text, some "too small", some "integer"⟩ := by
  have hread : Decimal.readInteger (Nat.pow 2 63) (Nat.pow 2 63 - 1) text.toList =
      .error .tooSmall := h.readInteger_eq.trans (if_pos hn)
  simp only [integer, plain, hread, refuseWith]

theorem parse_integer_of_gt {text : String} {n : Int} (h : Decimal.Writes text.toList n)
    (hn : 9223372036854775807 < n) :
    integer.parse text = .error ⟨text, some "too large", some "integer"⟩ := by
  have hlow : ¬n < -(Nat.pow 2 63 : Nat) := by
    have : (Nat.pow 2 63 : Nat) = 9223372036854775808 := rfl
    omega
  have hread : Decimal.readInteger (Nat.pow 2 63) (Nat.pow 2 63 - 1) text.toList =
      .error .tooLarge := h.readInteger_eq.trans ((if_neg hlow).trans (if_pos hn))
  simp only [integer, plain, hread, refuseWith]

end Kind

/-- An integer makes an argument of an integer type if it is in the range of the type. -/
theorem Vars.get_integer {vars : Vars} {x : String} {n : Int}
    (h : vars.value? x = some (.int n)) (range : IntRange) :
    vars.get (.basic (.integer range)) x =
      if hn : range.least ≤ n ∧ n ≤ range.greatest then .ok ⟨n, hn⟩
      else .error (.mismatch x "integer" "integer") := by
  simp only [get, h, ArgumentType.ofValue?, BasicType.ofValue?, IntRange.member?]
  by_cases hn : range.least ≤ n ∧ n ≤ range.greatest
  · simp only [dif_pos hn]
  · simp only [dif_neg hn]
    rfl

/-- The ranges of integers of eight and of sixty-four bits. -/
example : IntRange.signed 8 = ⟨-128, 127⟩ ∧
    IntRange.unsigned 64 = ⟨0, 18446744073709551615⟩ := by decide

/-- A variable for integers has a value for the decimal numerals of 64 bits, which is their number,
and for no other token. A numeral beyond them is refused as too large or as too small. A value is
an argument of an integer type if it is in the range of the type, and a mismatch if it is not. -/
theorem integer_reads_numerals (name text : String) :
    (∀ v, Kind.integer.convert? name text = some v ↔ ∃ n : Int, Decimal.Writes text.toList n ∧
      -9223372036854775808 ≤ n ∧ n ≤ 9223372036854775807 ∧ v = .int n) ∧
    (∀ n, Decimal.Writes text.toList n → 9223372036854775807 < n →
      Kind.integer.parse text = .error ⟨text, some "too large", some "integer"⟩) ∧
    (∀ n, Decimal.Writes text.toList n → n < -9223372036854775808 →
      Kind.integer.parse text = .error ⟨text, some "too small", some "integer"⟩) ∧
    ∀ (vars : Vars) (x : String) (n : Int), vars.value? x = some (.int n) → ∀ range : IntRange,
      vars.get (.basic (.integer range)) x =
        if hn : range.least ≤ n ∧ n ≤ range.greatest then .ok ⟨n, hn⟩
        else .error (.mismatch x "integer" "integer") :=
  ⟨fun _ => Kind.convert?_integer, fun _ h hn => Kind.parse_integer_of_gt h hn,
    fun _ h hn => Kind.parse_integer_of_lt h hn, fun _ _ _ hx => Vars.get_integer hx⟩

/-- A negative number with leading zeros, and the numbers next to the bounds. -/
theorem integer_reads_numerals_bounds :
    Kind.integer.convert? "count" "-007" = some (.int (-7)) ∧
    Kind.integer.parse "+9223372036854775808" =
      .error ⟨"+9223372036854775808", some "too large", some "integer"⟩ ∧
    Kind.integer.parse "-9223372036854775809" =
      .error ⟨"-9223372036854775809", some "too small", some "integer"⟩ ∧
    (Vars.empty.store "count" (.int (-7)) false).get (.basic (.integer (.signed 8))) "count" =
      .ok ⟨-7, by decide⟩ ∧
    (Vars.empty.store "count" (.int (-7)) false).get (.basic (.integer (.unsigned 8))) "count" =
      .error (.mismatch "count" "integer" "integer") := by
  obtain ⟨hvalue, -, -, hget⟩ := integer_reads_numerals "count" "-007"
  obtain ⟨-, hlarge, -, -⟩ := integer_reads_numerals "count" "+9223372036854775808"
  obtain ⟨-, -, hsmall, -⟩ := integer_reads_numerals "count" "-9223372036854775809"
  have hseven : Kind.integer.convert? "count" "-007" = some (.int (-7)) :=
    (hvalue _).mpr ⟨-7, .minus ⟨nofun, List.all_eq_true.mp (by decide)⟩, by decide, by decide, rfl⟩
  have hstored : (Vars.empty.store "count" (.int (-7)) false).value? "count" =
      some (.int (-7)) := by rw [Vars.value?_store]; rfl
  refine ⟨hseven, hlarge _ (.plus ⟨nofun, List.all_eq_true.mp (by decide)⟩) (by decide),
    hsmall _ (.minus ⟨nofun, List.all_eq_true.mp (by decide)⟩) (by decide), ?_, ?_⟩
  · exact hget _ _ _ hstored (.signed 8)
  · exact hget _ _ _ hstored (.unsigned 8)

end CommandGrammar
