import MarcHarvest.Proofs.Text.Pieces
import MarcHarvest.Text.Decimal

/-!
# Decimal digits

The digits are the characters of the numbers below ten, in the same order, and a reader of digits goes on
to the first character that is none.
-/

namespace MarcHarvest

theorem exists_digitChar_eq {c : Char} (hc : c.isDigit) : ∃ n, n < 10 ∧ Nat.digitChar n = c := by
  have hbounds : 48 ≤ c.toNat ∧ c.toNat ≤ 57 := by
    simpa [Char.isDigit, UInt32.le_iff_toNat_le] using hc
  obtain ⟨n, hn⟩ : ∃ n, c.toNat = 48 + n := ⟨c.toNat - 48, by omega⟩
  have hlt : n < 10 := by omega
  refine ⟨n, hlt, Char.toNat_inj.mp ?_⟩
  rw [Nat.toNat_digitChar_of_lt_ten hlt, hn]

theorem isDigit_digitChar {n : Nat} (hn : n < 10) : (Nat.digitChar n).isDigit := by
  have hdigit : ∀ n, n < 10 → (Nat.digitChar n).isDigit := by decide
  exact hdigit n hn

theorem digitChar_lt {m n : Nat} (hmn : m < n) (hn : n < 10) :
    Nat.digitChar m < Nat.digitChar n := by
  rw [Char.lt_def, UInt32.lt_iff_toNat_lt]
  change (Nat.digitChar m).toNat < (Nat.digitChar n).toNat
  rw [Nat.toNat_digitChar_of_lt_ten (Nat.lt_trans hmn hn), Nat.toNat_digitChar_of_lt_ten hn]
  omega

namespace Text

theorem leadingDigits_append {l rest : List Char} (h : ∀ c ∈ l, c.isDigit)
    (hrest : rest.head?.any Char.isDigit = false) : leadingDigits (l ++ rest) = (l, rest) := by
  have hdigits : (l ++ rest).takeWhile Char.isDigit = l := takeWhile_append h hrest
  have hsplit := List.takeWhile_append_dropWhile (p := Char.isDigit) (l := l ++ rest)
  rw [hdigits] at hsplit
  rw [leadingDigits, hdigits, List.append_cancel_left hsplit]

end Text

end MarcHarvest
