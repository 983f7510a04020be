/-! Digits to base sixteen. -/
namespace CrossBrowser.Text

/-- The value of a digit to base sixteen, in either case. -/
def hexValue? (c : Char) : Option Nat :=
  if c.isDigit then some (c.toNat - '0'.toNat)
  else if 'a' ≤ c ∧ c ≤ 'f' then some (c.toNat - 'a'.toNat + 10)
  else if 'A' ≤ c ∧ c ≤ 'F' then some (c.toNat - 'A'.toNat + 10)
  else none

/-- The number that digits to base sixteen spell. -/
def hexNumber? (digits : List Char) : Option Nat :=
  digits.foldlM (fun n d => (hexValue? d).map (n * 16 + ·)) 0

/-- The last digit of a number to base sixteen. -/
def hexDigit (n : Nat) : Char := Nat.digitChar (n % 16)

theorem hexValue?_hexDigit (n : Nat) : hexValue? (hexDigit n) = some (n % 16) := by
  have check : ∀ k, k < 16 → hexValue? (Nat.digitChar k) = some k := by decide
  exact check _ (Nat.mod_lt _ (by decide))

end CrossBrowser.Text
