/-!
Decimal digits of every script.

A character is a decimal digit when it has the Unicode general category `Nd`. Such digits
come in runs of ten, so the table lists the first code point of each run; the mathematical
digits form one run of fifty.
-/

namespace Updater.Text

def digitRunStarts : List Nat :=
  [0x30, 0x660, 0x6F0, 0x7C0, 0x966, 0x9E6, 0xA66, 0xAE6, 0xB66, 0xBE6, 0xC66, 0xCE6,
   0xD66, 0xDE6, 0xE50, 0xED0, 0xF20, 0x1040, 0x1090, 0x17E0, 0x1810, 0x1946, 0x19D0,
   0x1A80, 0x1A90, 0x1B50, 0x1BB0, 0x1C40, 0x1C50, 0xA620, 0xA8D0, 0xA900, 0xA9D0, 0xA9F0,
   0xAA50, 0xABF0, 0xFF10, 0x104A0, 0x10D30, 0x10D40, 0x11066, 0x110F0, 0x11136, 0x111D0,
   0x112F0, 0x11450, 0x114D0, 0x11650, 0x116C0, 0x116D0, 0x116DA, 0x11730, 0x118E0,
   0x11950, 0x11BF0, 0x11C50, 0x11D50, 0x11DA0, 0x11F50, 0x16130, 0x16A60, 0x16AC0,
   0x16B50, 0x16D70, 0x1CCF0, 0x1E140, 0x1E2F0, 0x1E4F0, 0x1E5F1, 0x1E950, 0x1FBF0]

def isDecimalDigit (c : Char) : Bool :=
  let n := c.toNat
  (0x1D7CE ≤ n && n ≤ 0x1D7FF) || digitRunStarts.any fun s => s ≤ n && n < s + 10

theorem isDecimalDigit_of_isDigit {c : Char} (h : c.isDigit = true) : isDecimalDigit c = true := by
  simp only [Char.isDigit, Bool.and_eq_true, decide_eq_true_eq] at h
  have h0 : 0x30 ≤ c.toNat := h.1
  have h1 : c.toNat ≤ 0x39 := h.2
  simp only [isDecimalDigit, digitRunStarts, Bool.or_eq_true, List.any_cons, Bool.and_eq_true,
    decide_eq_true_eq]
  exact Or.inr (Or.inl ⟨h0, by omega⟩)

end Updater.Text
