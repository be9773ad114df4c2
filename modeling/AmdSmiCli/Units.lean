import AmdSmiCli.Interface
import Mathlib.Algebra.Order.Field.Basic
import Mathlib.Algebra.Order.Field.Rat

/-!
# Byte counts for reading

`convert_bytes_to_readable` divides a byte count by 1024 until its magnitude is below 1024, moving one unit up from
`B` at each division (`unitsLoop`); past `ZB` the number is shown in `YB`. Below 1024 it picks the format spec from
the number's size when a `format_length` is given (`readableSpec`). What it formats is kept as the spec, the number
and the unit (`Readable`).

The model divides exactly. Python's `/=` rounds to a `float`, so the two agree on finite floats (`IsDouble`):
a finite float of magnitude at least 1024, divided by 1024, is again one (`IsDouble.div_1024`).

- `unitsLoop_spec`: the number shown over the units is `y / 1024 ^ k` in the `k`-th unit, the one that fits;
- `readable_unit`: hence `convert_bytes_to_readable` shows any finite float `x`, and so any `int` below `2 ^ 53` in
  magnitude, as the float `x / 1024 ^ k` in the `k`-th unit of `B` to `ZB`, where `1024 ^ k ≤ |x| < 1024 ^ (k + 1)`,
  and as `x / 1024 ^ 8` in `YB` beyond.
-/

namespace AmdSmiCli

/-- The argument `bytes_input`: a `str`, or a number (an `int` or a `float`) by its exact value. -/
inductive BytesInput where
  | str (s : String)
  | num (x : ℚ)

/-- The values of finite `float`s: `m * 2 ^ e` with a 53-bit significand `m` and `-1074 ≤ e ≤ 971`. Every `int`
of magnitude below `2 ^ 53` is one. -/
def IsDouble (x : ℚ) : Prop :=
  ∃ m e : ℤ, |m| < 2 ^ 53 ∧ -1074 ≤ e ∧ e ≤ 971 ∧ x = m * 2 ^ e

/-- Dividing a finite float of magnitude at least 1024 by 1024 is exact: the quotient is a finite float, so
Python's `bytes_input /= 1024` rounds nothing. -/
theorem IsDouble.div_1024 {x : ℚ} (hx : IsDouble x) (h : 1024 ≤ |x|) : IsDouble (x / 1024) := by
  obtain ⟨m, e, hm, hlo, hhi, rfl⟩ := hx
  by_cases he : -1064 ≤ e
  · refine ⟨m, e - 10, hm, by omega, by omega, ?_⟩
    rw [zpow_sub₀ two_ne_zero]
    norm_num [div_eq_mul_inv, mul_assoc]
  · have hm' : |(m : ℚ)| < 2 ^ 53 := by exact_mod_cast hm
    have hpos : (0 : ℚ) < 2 ^ e := zpow_pos two_pos e
    have hpow : (2 : ℚ) ^ e ≤ 2 ^ (-1065 : ℤ) := zpow_le_zpow_right₀ (by norm_num) (by omega)
    have hsmall : |(m : ℚ) * 2 ^ e| < 1024 :=
      calc |(m : ℚ) * 2 ^ e| = |(m : ℚ)| * 2 ^ e := by rw [abs_mul, abs_of_pos hpos]
        _ ≤ 2 ^ 53 * 2 ^ (-1065 : ℤ) := mul_le_mul hm'.le hpow hpos.le (by norm_num)
        _ < 1024 := by norm_num
    exact absurd h (not_le.2 hsmall)

/-- What `convert_bytes_to_readable` returns for a number: `f"{value:spec} {unit}"`. -/
structure Readable where
  spec : String
  value : ℚ
  unit : String
  deriving DecidableEq

/-- The units of the loop, in order. -/
def byteUnits : List String := ["B", "KB", "MB", "GB", "TB", "PB", "EB", "ZB"]

/-- The format spec of a number below 1024 in magnitude: by its size when `format_length` is given (any value but
`None`: the helper reads nothing else of it), `3.1f` otherwise. -/
def readableSpec (formatLength : Bool) (bytesInput : ℚ) : String :=
  if formatLength then
    if bytesInput < 10 then "4.3f" else if bytesInput < 100 then "4.2f" else if bytesInput < 1000 then "4.1f"
    else "4.0f"
  else "3.1f"

/-- `for unit in [...]:` from `unit` on, with `bytes_input /= 1024` after each unit the number does not fit. -/
def unitsLoop (formatLength : Bool) : List String → ℚ → Readable
  | [], bytesInput => ⟨".1f", bytesInput, "YB"⟩
  | unit :: rest, bytesInput =>
    if |bytesInput| < 1024 then ⟨readableSpec formatLength bytesInput, bytesInput, unit⟩
    else unitsLoop formatLength rest (bytesInput / 1024)

/-- `convert_bytes_to_readable(bytes_input, format_length)`; `none` is the `"N/A"` of a `str`. -/
def convertBytesToReadable (bytesInput : BytesInput) (formatLength : Bool) : Option Readable :=
  match bytesInput with
  | .str _ => none
  | .num x => some (unitsLoop formatLength byteUnits x)

/-- **The unit loop**: over the units `us`, the number shown is `y / 1024 ^ k` in the `k`-th unit (`YB` past the
last), where `1024 ^ k ≤ |y|` once a division was made and, short of `YB`, `|y| < 1024 ^ (k + 1)`. -/
theorem unitsLoop_spec (formatLength : Bool) : ∀ (us : List String) (y : ℚ), ∃ k ≤ us.length,
    (unitsLoop formatLength us y).value * 1024 ^ k = y ∧
      (unitsLoop formatLength us y).unit = (us ++ ["YB"]).getD k "" ∧
      (0 < k → 1024 ^ k ≤ |y|) ∧ (k < us.length → |y| < 1024 ^ (k + 1))
  | [], y => ⟨0, le_refl _, by simp [unitsLoop], rfl, by simp, by simp⟩
  | u :: rest, y => by
    by_cases hy : |y| < 1024
    · exact ⟨0, Nat.zero_le _, by simp [unitsLoop, hy], by simp [unitsLoop, hy], by simp, by simpa using hy⟩
    · obtain ⟨k, hk, hv, hu, hlo, hhi⟩ := unitsLoop_spec formatLength rest (y / 1024)
      have habs : |y / 1024| = |y| / 1024 := by rw [abs_div]; norm_num
      simp only [unitsLoop, hy, if_false]
      refine ⟨k + 1, by simpa using hk, ?_, by simpa using hu, fun _ => ?_, fun hlt => ?_⟩
      · rw [pow_succ, ← mul_assoc, hv, div_mul_cancel₀ _ (by norm_num)]
      · rw [pow_succ]
        rcases Nat.eq_zero_or_pos k with rfl | hk0
        · simpa using not_lt.1 hy
        · simpa only [habs, le_div_iff₀ (by norm_num : (0 : ℚ) < 1024)] using hlo hk0
      · rw [pow_succ]
        simpa only [habs, div_lt_iff₀ (by norm_num : (0 : ℚ) < 1024)] using hhi (by simpa using hlt)

/-- The number shown is a finite float when the input is one. -/
theorem unitsLoop_isDouble (formatLength : Bool) :
    ∀ (us : List String) {y : ℚ}, IsDouble y → IsDouble (unitsLoop formatLength us y).value
  | [], _, hy => hy
  | _ :: rest, y, hy => by
    by_cases h : |y| < 1024
    · simpa [unitsLoop, h] using hy
    · simpa [unitsLoop, h] using unitsLoop_isDouble formatLength rest (hy.div_1024 (not_lt.1 h))

/-- **Readable bytes**: `convert_bytes_to_readable` shows any finite float `x` as the float `x / 1024 ^ k` in the
`k`-th unit of `B` to `ZB`, the one where `1024 ^ k ≤ |x| < 1024 ^ (k + 1)` (`|x| < 1024` for `B`), and as
`x / 1024 ^ 8` in `YB` beyond. -/
theorem readable_unit (x : ℚ) (hx : IsDouble x) (formatLength : Bool) :
    ∃ k ≤ 8, ∃ r, convertBytesToReadable (.num x) formatLength = some r ∧ IsDouble r.value ∧
      r.value * 1024 ^ k = x ∧ r.unit = (byteUnits ++ ["YB"]).getD k "" ∧ (0 < k → 1024 ^ k ≤ |x|) ∧
      (k < 8 → |x| < 1024 ^ (k + 1)) := by
  obtain ⟨k, hk, h⟩ := unitsLoop_spec formatLength byteUnits x
  exact ⟨k, hk, _, rfl, unitsLoop_isDouble formatLength byteUnits hx, h⟩

/-- `1536 = 3 * 2 ^ 9` bytes are shown as `1536 / 1024 ^ k` in the `k`-th unit. -/
theorem readable_unit_1536 :
    IsDouble 1536 ∧
      ∃ k ≤ 8, ∃ r, convertBytesToReadable (.num 1536) true = some r ∧ r.value * 1024 ^ k = 1536 :=
  have h : IsDouble 1536 := ⟨3, 9, by norm_num, by norm_num, by norm_num, by norm_num⟩
  ⟨h, let ⟨k, hk, r, hr, _, hv, _⟩ := readable_unit 1536 h true; ⟨k, hk, r, hr, hv⟩⟩

/-- `1536` bytes with a `format_length`: `1.500 KB`. -/
example : convertBytesToReadable (.num 1536) true = some ⟨"4.3f", 3 / 2, "KB"⟩ := by
  norm_num [convertBytesToReadable, unitsLoop, byteUnits, readableSpec, abs_of_nonneg]

end AmdSmiCli
