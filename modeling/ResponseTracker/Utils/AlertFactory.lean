import ResponseTracker.Std.Checked

/-!
# The add-points dialog

What the dialog delivers for the text of its field. Its number pad offers
digits only, but any text can be pasted.
-/

namespace ResponseTracker.AlertFactory

open Checked

/-- The value of digits, read from the most significant one. -/
def digitsValue (digits : List Char) : Int :=
  digits.foldl (fun value digit => 10 * value + (digit.toNat - '0'.toNat : Nat)) 0

/-- Digits after a sign, of a value in the range of `Int`. -/
def signed? (sign : Int) (digits : List Char) : Option Int :=
  if digits ≠ [] ∧ digits.all Char.isDigit ∧ Fits 64 (sign * digitsValue digits) then
    some (sign * digitsValue digits)
  else none

/-- `Int(text)` -/
def int? (text : String) : Option Int :=
  match text.toList with
  | '-' :: digits => signed? (-1) digits
  | '+' :: digits => signed? 1 digits
  | digits => signed? 1 digits

/-- `Int(text) ?? 0` -/
def showAddPointsAlert (text : String) : Int := (int? text).getD 0

/-! ## Decimal numbers -/

theorem digitsValue_eq (digits : List Char) :
    digitsValue digits = Nat.ofDigitChars 10 digits 0 := by
  have fold : ∀ start : Nat,
      digits.foldl (fun (value : Int) digit => 10 * value + (digit.toNat - '0'.toNat : Nat)) start =
        Nat.ofDigitChars 10 digits start := by
    induction digits with
    | nil => exact fun start => rfl
    | cons digit rest ih =>
        intro start
        rw [List.foldl_cons, Nat.ofDigitChars_cons, ← ih, Int.natCast_add, Int.natCast_mul]
        rfl
  exact fold 0

theorem all_isDigit (number : Nat) : (Nat.toDigits 10 number).all Char.isDigit = true :=
  List.all_eq_true.mpr fun _ member =>
    Nat.isDigit_of_mem_toDigits (by decide) (by decide) member

/-- Digits without a sign are read as a number. -/
theorem int?_of_digits {text : String} (digits : text.toList.all Char.isDigit = true) :
    int? text = signed? 1 text.toList := by
  unfold int?
  split
  · next rest signed => exact absurd digits (by simp [signed])
  · next rest signed => exact absurd digits (by simp [signed])
  · rfl

/-- The digits of a number are read back, if with the sign they are in the range. -/
theorem signed?_toDigits (sign : Int) (number : Nat) :
    signed? sign (Nat.toDigits 10 number) =
      if Fits 64 (sign * number) then some (sign * number) else none := by
  rw [signed?, digitsValue_eq, Nat.ofDigitChars_ten_toDigits]
  simp [Nat.toDigits_ne_nil, all_isDigit]

/-- A number in decimal is read back exactly if it is in the range of `Int`. -/
theorem int?_repr (value : Int) :
    int? value.repr = if Fits 64 value then some value else none := by
  cases value with
  | ofNat number =>
      have text : (Int.ofNat number).repr.toList = Nat.toDigits 10 number := by simp [Int.repr]
      rw [int?_of_digits (text ▸ all_isDigit number), text, signed?_toDigits, one_mul]
      rfl
  | negSucc number =>
      have text : (Int.negSucc number).repr.toList = '-' :: Nat.toDigits 10 (number + 1) := by
        simp [Int.repr]
      have value : -1 * ((number + 1 : Nat) : Int) = Int.negSucc number := by omega
      have read := signed?_toDigits (-1) (number + 1)
      rw [value] at read
      rw [int?, text]
      exact read

theorem showAddPointsAlert_repr (value : Int) :
    showAddPointsAlert value.repr = if Fits 64 value then value else 0 := by
  rw [showAddPointsAlert, int?_repr]
  split <;> rfl

example : int? "+12" = some 12 ∧ int? "-5" = some (-5) ∧ int? "9223372036854775808" = none ∧
    int? "1 2" = none ∧ int? "" = none := by decide +kernel

end ResponseTracker.AlertFactory
