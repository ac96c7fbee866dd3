import Dashboard.Text.Natural

/-!
# Written numbers read back

The decimal digits of a number are ASCII digits, the first of them a zero
only where it is the only one, and read in base ten they give the number
back. A digit of base sixteen gives its value back too.
-/

namespace Dashboard.Text

/-! ## Single digits -/

theorem isDigit_digitChar : ∀ d < 10, (digitChar d).isDigit = true := by decide

theorem hexValue?_digitChar : ∀ d < 10, hexValue? (digitChar d) = some d := by decide

theorem hexValue?_hexDigit : ∀ d < 16, hexValue? (hexDigit d) = some d := by decide

theorem digitChar_eq_zero : ∀ d < 10, digitChar d = '0' → d = 0 := by decide

/-! ## Decimal numbers -/

theorem decimal_of_lt {n : Nat} (h : n < 10) : decimal n = [digitChar n] := by
  rw [decimal, if_pos h]

theorem decimal_of_le {n : Nat} (h : 10 ≤ n) :
    decimal n = decimal (n / 10) ++ [digitChar (n % 10)] := by
  rw [decimal, if_neg (by omega)]

theorem decimal_ne_nil (n : Nat) : decimal n ≠ [] := by
  by_cases h : n < 10
  · simp [decimal_of_lt h]
  · simp [decimal_of_le (Nat.le_of_not_lt h)]

theorem isDigit_of_mem_decimal {n : Nat} : ∀ c ∈ decimal n, c.isDigit = true := by
  induction n using Nat.strongRecOn with
  | _ n ih =>
      by_cases h : n < 10
      · rw [decimal_of_lt h]
        intro c hc
        obtain rfl := List.mem_singleton.mp hc
        exact isDigit_digitChar n h
      · rw [decimal_of_le (by omega)]
        intro c hc
        rcases List.mem_append.mp hc with hhigh | hlow
        · exact ih (n / 10) (by omega) c hhigh
        · obtain rfl := List.mem_singleton.mp hlow
          exact isDigit_digitChar _ (by omega)

theorem not_mem_decimal {n : Nat} {c : Char} (hc : c.isDigit = false) : c ∉ decimal n := by
  intro hmem
  rw [isDigit_of_mem_decimal c hmem] at hc
  cases hc

/-- A zero stands in front only where it stands alone. -/
theorem head?_decimal {n : Nat} (h : (decimal n).head? = some '0') : n = 0 := by
  induction n using Nat.strongRecOn with
  | _ n ih =>
      by_cases hn : n < 10
      · rw [decimal_of_lt hn] at h
        exact digitChar_eq_zero n hn (Option.some.inj h)
      · have hle : 10 ≤ n := by omega
        rw [decimal_of_le hle, List.head?_append] at h
        have hhead : (decimal (n / 10)).head? = some '0' := by
          cases hd : decimal (n / 10) with
          | nil => exact absurd hd (decimal_ne_nil _)
          | cons c r => rw [hd] at h; exact h
        have := ih (n / 10) (by omega) hhead
        omega

theorem numeral?_append_digit {base d : Nat} {c : Char} {s : List Char} {n : Nat}
    (hs : numeral? base s = some n) (hc : hexValue? c = some d) (hd : d < base) :
    numeral? base (s ++ [c]) = some (n * base + d) := by
  rw [numeral?] at hs ⊢
  rw [List.foldlM_append, hs]
  simp [hc, Option.filter, hd]

theorem numeral?_decimal (n : Nat) : numeral? 10 (decimal n) = some n := by
  induction n using Nat.strongRecOn with
  | _ n ih =>
      by_cases h : n < 10
      · rw [decimal_of_lt h]
        have hone := numeral?_append_digit (s := []) (n := 0) rfl (hexValue?_digitChar n h) h
        rw [List.nil_append, Nat.zero_mul, Nat.zero_add] at hone
        exact hone
      · rw [decimal_of_le (by omega),
          numeral?_append_digit (ih (n / 10) (by omega))
            (hexValue?_digitChar (n % 10) (by omega)) (by omega)]
        congr 1
        omega

/-! ## The language's own numerals -/

theorem digitChar_eq : ∀ d < 10, Nat.digitChar d = digitChar d := by decide

theorem toDigits_eq_decimal (n : Nat) : Nat.toDigits 10 n = decimal n := by
  induction n using Nat.strongRecOn with
  | _ n ih =>
      by_cases h : n < 10
      · rw [decimal_of_lt h, Nat.toDigits_of_lt_base h, digitChar_eq n h]
      · rw [decimal_of_le (by omega), Nat.toDigits_of_base_le (by decide) (by omega),
          ih (n / 10) (by omega), digitChar_eq _ (by omega)]

theorem toString_eq_decimal (n : Nat) : toString n = String.ofList (decimal n) := by
  rw [← toDigits_eq_decimal]
  rfl

end Dashboard.Text
