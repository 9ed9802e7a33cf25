/-
**Text: Unicode trimming and hexadecimal digits.**

* `trim` removes the `White_Space` characters at both ends; `trim_trim`: trimming twice is trimming
  once.
* `hyphenated`: the 8-4-4-4-12 spelling of a 128-bit number; `hyphenated_injective`: two numbers
  with the same spelling are equal.
-/

import Mathlib.Data.List.DropRight
import Mathlib.Tactic.IntervalCases

namespace AccountManagement.Library

/-! ### Trimming -/

/-- The Unicode `White_Space` property. -/
def isWhitespace (char : Char) : Bool :=
  let code := char.toNat
  (0x9 ≤ code && code ≤ 0xD) || code == 0x20 || code == 0x85 || code == 0xA0 || code == 0x1680 ||
    (0x2000 ≤ code && code ≤ 0x200A) || code == 0x2028 || code == 0x2029 || code == 0x202F ||
    code == 0x205F || code == 0x3000

/-- A text without the whitespace at its two ends. -/
def trim (text : String) : String :=
  String.ofList ((text.toList.dropWhile isWhitespace).rdropWhile isWhitespace)

theorem dropWhile_rdropWhile_dropWhile {α : Type} (p : α → Bool) (l : List α) :
    ((l.dropWhile p).rdropWhile p).dropWhile p = (l.dropWhile p).rdropWhile p := by
  rw [List.dropWhile_eq_self_iff]
  intro nonempty
  have stripped := List.rdropWhile_prefix p (l.dropWhile p)
  have longer : 0 < (l.dropWhile p).length := Nat.lt_of_lt_of_le nonempty stripped.length_le
  have first : ((l.dropWhile p).rdropWhile p)[0] = (l.dropWhile p)[0] := stripped.getElem nonempty
  rw [first]
  exact List.dropWhile_eq_self_iff.mp (List.dropWhile_idempotent p l) longer

/-- **Trimming twice is trimming once.** -/
@[simp] theorem trim_trim (text : String) : trim (trim text) = trim text := by
  unfold trim
  rw [String.toList_ofList, dropWhile_rdropWhile_dropWhile, List.rdropWhile_idempotent]

/-! ### Hexadecimal spellings -/

/-- A UUID: 128 bits. -/
abbrev Uuid := BitVec 128

/-- The `count` lowest hexadecimal digits, the highest of them first. -/
def hexDigits : Nat → Nat → List Char
  | 0, _ => []
  | count + 1, value => hexDigits count (value / 16) ++ [Nat.digitChar (value % 16)]

@[simp] theorem length_hexDigits (count value : Nat) : (hexDigits count value).length = count := by
  induction count generalizing value with
  | zero => rfl
  | succ count ih => simp [hexDigits, ih]

theorem digitChar_injective : ∀ first < 16, ∀ second < 16,
    Nat.digitChar first = Nat.digitChar second → first = second := by
  decide

/-- Numbers that fit into `count` digits are determined by them. -/
theorem hexDigits_injective {count first second : Nat} (firstFits : first < 16 ^ count)
    (secondFits : second < 16 ^ count) (same : hexDigits count first = hexDigits count second) :
    first = second := by
  induction count generalizing first second with
  | zero =>
    simp only [pow_zero] at firstFits secondFits
    omega
  | succ count ih =>
    obtain ⟨front, last⟩ := List.append_inj' same rfl
    have high : first / 16 = second / 16 := by
      refine ih ?_ ?_ front
      · exact Nat.div_lt_of_lt_mul (by rw [← Nat.pow_succ']; exact firstFits)
      · exact Nat.div_lt_of_lt_mul (by rw [← Nat.pow_succ']; exact secondFits)
    have low : first % 16 = second % 16 :=
      digitChar_injective _ (Nat.mod_lt _ (by decide)) _ (Nat.mod_lt _ (by decide))
        (List.cons.inj last).1
    omega

/-- Thirty-two digits in groups of 8, 4, 4, 4 and 12. -/
def grouped (digits : List Char) : List Char :=
  digits.take 8 ++ '-' :: ((digits.drop 8).take 4 ++ '-' :: ((digits.drop 12).take 4 ++
    '-' :: ((digits.drop 16).take 4 ++ '-' :: digits.drop 20)))

theorem grouped_injective {first second : List Char} (firstLength : first.length = 32)
    (secondLength : second.length = 32) (same : grouped first = grouped second) :
    first = second := by
  unfold grouped at same
  obtain ⟨head, same⟩ := List.append_inj same (by simp [firstLength, secondLength])
  obtain ⟨second4, same⟩ := List.append_inj (List.cons.inj same).2
    (by simp [firstLength, secondLength])
  obtain ⟨third4, same⟩ := List.append_inj (List.cons.inj same).2
    (by simp [firstLength, secondLength])
  obtain ⟨fourth4, same⟩ := List.append_inj (List.cons.inj same).2
    (by simp [firstLength, secondLength])
  have tail := (List.cons.inj same).2
  have rebuild : ∀ digits : List Char, digits = digits.take 8 ++ ((digits.drop 8).take 4 ++
      ((digits.drop 12).take 4 ++ ((digits.drop 16).take 4 ++ digits.drop 20))) := by
    intro digits
    have join : ∀ start size : Nat, (digits.drop start).take size ++ digits.drop (start + size)
        = digits.drop start := fun start size => by
      rw [← List.drop_drop, List.take_append_drop]
    rw [join 16 4, join 12 4, join 8 4, List.take_append_drop]
  rw [rebuild first, rebuild second, head, second4, third4, fourth4, tail]

/-- The hyphenated lower-case spelling of a 128-bit number. -/
def hyphenated (value : Uuid) : String :=
  String.ofList (grouped (hexDigits 32 value.toNat))

/-- **A 128-bit number is determined by its hyphenated spelling.** -/
theorem hyphenated_injective {first second : Uuid}
    (same : hyphenated first = hyphenated second) : first = second := by
  have digits := grouped_injective (length_hexDigits _ _) (length_hexDigits _ _)
    (String.ofList_injective same)
  have bound : ∀ value : Uuid, value.toNat < 16 ^ 32 := fun value => by
    have := value.isLt
    norm_num at this ⊢
    exact this
  exact BitVec.eq_of_toNat_eq (hexDigits_injective (bound first) (bound second) digits)

end AccountManagement.Library
