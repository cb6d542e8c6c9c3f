import Retheme.Proofs.Text.Utf8
import Retheme.Text.Base64

/-!
# Base 64 read back

Four characters stand for three bytes; one or two signs of padding stand for
bytes that are missing in the last group. Reading gives back what was written.
-/

namespace Retheme.Text

def base64Value? (c : Char) : Option Nat :=
  if 'A' ≤ c ∧ c ≤ 'Z' then some (c.toNat - 65)
  else if 'a' ≤ c ∧ c ≤ 'z' then some (c.toNat - 71)
  else if '0' ≤ c ∧ c ≤ '9' then some (c.toNat + 4)
  else if c = '+' then some 62
  else if c = '/' then some 63
  else none

def ofBase64? : Text → Option (List UInt8)
  | [] => some []
  | [p, q, '=', '='] => do
    let bits := (← base64Value? p) * 0x40000 + (← base64Value? q) * 0x1000
    return [(bits / 0x10000).toUInt8]
  | [p, q, r, '='] => do
    let bits := (← base64Value? p) * 0x40000 + (← base64Value? q) * 0x1000 +
      (← base64Value? r) * 0x40
    return [(bits / 0x10000).toUInt8, (bits / 0x100 % 0x100).toUInt8]
  | p :: q :: r :: s :: rest => do
    let bits := (← base64Value? p) * 0x40000 + (← base64Value? q) * 0x1000 +
      (← base64Value? r) * 0x40 + (← base64Value? s)
    return (bits / 0x10000).toUInt8 :: (bits / 0x100 % 0x100).toUInt8 ::
      (bits % 0x100).toUInt8 :: (← ofBase64? rest)
  | _ => none

theorem base64Value?_base64Char : ∀ n < 64, base64Value? (base64Char n) = some n := by decide

theorem base64Char_ne_pad : ∀ n < 64, base64Char n ≠ '=' := by decide

variable {a b c : UInt8} {n : Nat}

theorem ofBase64?_one (hn : n = a.toNat * 0x10000) :
    ofBase64? [base64Char (n / 0x40000), base64Char (n / 0x1000 % 64), '=', '='] = some [a] := by
  have ha := a.toNat_lt
  have hbits : n / 0x40000 * 0x40000 + n / 0x1000 % 64 * 0x1000 = n := by omega
  simp only [ofBase64?, base64Value?_base64Char _ (by omega : n / 0x40000 < 64),
    base64Value?_base64Char _ (by omega : n / 0x1000 % 64 < 64), bind, Option.bind, hbits]
  simp only [pure, toUInt8_eq (by omega : a.toNat = n / 0x10000)]

theorem ofBase64?_two (hn : n = a.toNat * 0x10000 + b.toNat * 0x100) :
    ofBase64? [base64Char (n / 0x40000), base64Char (n / 0x1000 % 64),
      base64Char (n / 0x40 % 64), '='] = some [a, b] := by
  have ha := a.toNat_lt
  have hb := b.toNat_lt
  have hbits : n / 0x40000 * 0x40000 + n / 0x1000 % 64 * 0x1000 + n / 0x40 % 64 * 0x40 = n := by
    omega
  have hpad := base64Char_ne_pad (n / 0x40 % 64) (by omega)
  simp only [ofBase64?, base64Value?_base64Char _ (by omega : n / 0x40000 < 64),
    base64Value?_base64Char _ (by omega : n / 0x1000 % 64 < 64),
    base64Value?_base64Char _ (by omega : n / 0x40 % 64 < 64), bind, Option.bind, hbits]
  simp only [pure, toUInt8_eq (by omega : a.toNat = n / 0x10000),
    toUInt8_eq (by omega : b.toNat = n / 0x100 % 0x100)]

theorem ofBase64?_three (hn : n = a.toNat * 0x10000 + b.toNat * 0x100 + c.toNat) (rest : Text) :
    ofBase64? (base64Char (n / 0x40000) :: base64Char (n / 0x1000 % 64) ::
      base64Char (n / 0x40 % 64) :: base64Char (n % 64) :: rest) =
        (ofBase64? rest).map fun bytes => a :: b :: c :: bytes := by
  have ha := a.toNat_lt
  have hb := b.toNat_lt
  have hc := c.toNat_lt
  have hbits : n / 0x40000 * 0x40000 + n / 0x1000 % 64 * 0x1000 + n / 0x40 % 64 * 0x40 + n % 64 =
      n := by omega
  have hpad := base64Char_ne_pad (n % 64) (by omega)
  simp only [ofBase64?, hpad, false_implies, implies_true,
    base64Value?_base64Char _ (by omega : n / 0x40000 < 64),
    base64Value?_base64Char _ (by omega : n / 0x1000 % 64 < 64),
    base64Value?_base64Char _ (by omega : n / 0x40 % 64 < 64),
    base64Value?_base64Char _ (by omega : n % 64 < 64), bind, Option.bind, hbits]
  simp only [pure, toUInt8_eq (by omega : a.toNat = n / 0x10000),
    toUInt8_eq (by omega : b.toNat = n / 0x100 % 0x100),
    toUInt8_eq (by omega : c.toNat = n % 0x100)]
  cases ofBase64? rest <;> rfl

theorem ofBase64?_base64 (bytes : List UInt8) : ofBase64? (base64 bytes) = some bytes := by
  fun_induction base64 bytes with
  | case1 => rfl
  | case2 a n => exact ofBase64?_one rfl
  | case3 a b n => exact ofBase64?_two rfl
  | case4 a b c rest n ih => rw [ofBase64?_three rfl, ih, Option.map_some]

end Retheme.Text
