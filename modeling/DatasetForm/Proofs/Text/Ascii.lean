import DatasetForm.Proofs.Text.Digit
import DatasetForm.Text.Case

/-!
The case of ASCII letters. Changing it changes letters only, so that blanks and decimal digits stay what they are.
-/

set_option autoImplicit false
set_option relaxedAutoImplicit false

namespace DatasetForm.Text

variable {c : Char}

theorem lowerAscii_past (past : ¬c.toNat < 0x80) : lowerAscii c = c := by
  have above : ¬c.toNat ≤ 0x5A := by omega
  simp [lowerAscii, above]

theorem upperAscii_past (past : ¬c.toNat < 0x80) : upperAscii c = c := by
  have above : ¬c.toNat ≤ 0x7A := by omega
  simp [upperAscii, above]

private theorem case_of_ascii (ascii : c.toNat < 0x80) :
    isBlank (lowerAscii c) = isBlank c ∧ isBlank (upperAscii c) = isBlank c ∧
      isDigit (upperAscii c) = isDigit c := by
  have each : ∀ code ∈ List.range 0x80,
      isBlank (lowerAscii (Char.ofNat code)) = isBlank (Char.ofNat code) ∧
        isBlank (upperAscii (Char.ofNat code)) = isBlank (Char.ofNat code) ∧
          isDigit (upperAscii (Char.ofNat code)) = isDigit (Char.ofNat code) := by
    decide +kernel
  have same := each c.toNat (List.mem_range.mpr ascii)
  rwa [Char.ofNat_toNat] at same

theorem isBlank_lowerAscii (c : Char) : isBlank (lowerAscii c) = isBlank c := by
  by_cases ascii : c.toNat < 0x80
  · exact (case_of_ascii ascii).1
  · rw [lowerAscii_past ascii]

theorem isBlank_upperAscii (c : Char) : isBlank (upperAscii c) = isBlank c := by
  by_cases ascii : c.toNat < 0x80
  · exact (case_of_ascii ascii).2.1
  · rw [upperAscii_past ascii]

theorem isDigit_upperAscii (c : Char) : isDigit (upperAscii c) = isDigit c := by
  by_cases ascii : c.toNat < 0x80
  · exact (case_of_ascii ascii).2.2
  · rw [upperAscii_past ascii]

theorem lowerAscii_of_isDigit (digit : isDigit c = true) : lowerAscii c = c := by
  by_cases ascii : c.toNat < 0x80
  · have ⟨_, most⟩ := isAsciiDigit_iff.mp (isAsciiDigit_of_ascii ascii digit)
    have below : ¬0x41 ≤ c.toNat := by omega
    simp [lowerAscii, below]
  · exact lowerAscii_past ascii

theorem upperAscii_of_isDigit (digit : isDigit c = true) : upperAscii c = c := by
  by_cases ascii : c.toNat < 0x80
  · have ⟨_, most⟩ := isAsciiDigit_iff.mp (isAsciiDigit_of_ascii ascii digit)
    have below : ¬0x61 ≤ c.toNat := by omega
    simp [upperAscii, below]
  · exact upperAscii_past ascii

end DatasetForm.Text
