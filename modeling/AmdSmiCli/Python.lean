import Mathlib.Data.List.Infix
import Mathlib.Data.List.Nodup
import Mathlib.Data.Nat.Digits
import AmdSmiCli.Unicode

/-!
# The Python the helpers are written in

The few pieces of Python semantics the helpers of `amdsmi_helpers.py` rely on:

- a `dict` keyed by strings (`PyDict`): its items in insertion order, its keys distinct by construction; item
  assignment replaces the value of a present key in place and appends a new key (`PyDict.set`, `set_of_not_mem`);
- `str.lower`, `str.isdigit`, `str.startswith`, `str.strip`, `str.rstrip` and the `is_UUID` regular expression
  (`isUUID`);
- `str(i)` of an index: the decimal string of `Nat.repr`, whose digits read back to `i` (`decimalValue_repr`), so
  distinct indices give distinct keys (`toString_injective`) and no index gives the key `"all"`
  (`toString_ne_all`).

`str.lower`, `str.isdigit` and `str.strip` read Python's character database (`Unicode.lean`): `str.lower` maps
every character by its lowercase, a capital sigma by its place in a word; `str.isdigit` holds of every character of
numeric type digit or decimal.
-/

namespace AmdSmiCli

/-! ## Dictionaries -/

/-- A Python `dict` with string keys: its items in insertion order. -/
structure PyDict (α : Type) where
  items : List (String × α)
  nodup : (items.map Prod.fst).Nodup

namespace PyDict

variable {α : Type}

/-- `{}`. -/
def empty : PyDict α := ⟨[], List.nodup_nil⟩

/-- `d.keys()`. -/
def keys (d : PyDict α) : List String := d.items.map Prod.fst

/-- `d[k] = v`: a present key keeps its place and takes the new value, a new key goes last. -/
def set (d : PyDict α) (k : String) (v : α) : PyDict α :=
  if hk : k ∈ d.keys then
    ⟨d.items.map (fun p => if p.1 = k then (k, v) else p), by
      have h : (d.items.map (fun p => if p.1 = k then (k, v) else p)).map Prod.fst = d.items.map Prod.fst := by
        simp only [List.map_map]
        exact List.map_congr_left (fun p _ => by by_cases hp : p.1 = k <;> simp [hp])
      exact h ▸ d.nodup⟩
  else
    ⟨d.items ++ [(k, v)], by
      rw [List.map_append, List.nodup_append]
      exact ⟨d.nodup, List.nodup_singleton _, by simpa [keys] using hk⟩⟩

/-- `{k: v for k, v in d.items() if k != key}`. -/
def erase (d : PyDict α) (key : String) : PyDict α :=
  ⟨d.items.filter (fun p => p.1 ≠ key), d.nodup.sublist ((List.filter_sublist _).map _)⟩

@[simp] theorem items_empty : (empty : PyDict α).items = [] := rfl

theorem set_of_not_mem {d : PyDict α} {k : String} (v : α) (h : k ∉ d.keys) :
    (d.set k v).items = d.items ++ [(k, v)] := by
  simp [set, h]

@[simp] theorem items_erase (d : PyDict α) (key : String) :
    (d.erase key).items = d.items.filter (fun p => p.1 ≠ key) := rfl

end PyDict

/-! ## Strings -/

/-- `handle_capital_sigma`: a `Σ` is final, and lowers to `ς`, when the nearest character before it that is not
case-ignorable is cased and the nearest after it that is not case-ignorable, if any, is not cased. `before` holds
the characters before it, nearest first. -/
def finalSigma (before after : List Char) : Bool :=
  (match (before.dropWhile isCaseIgnorable).head? with
    | some c => isCased c
    | none => false) &&
  (match (after.dropWhile isCaseIgnorable).head? with
    | some c => !isCased c
    | none => true)

/-- The loop of `do_lower` over the characters of a string, `before` holding those already read, nearest first. -/
def lowerLoop : List Char → List Char → List Char
  | _, [] => []
  | before, c :: after =>
    (if c = 'Σ' then [if finalSigma before after then 'ς' else 'σ'] else lowerFull c) ++
      lowerLoop (c :: before) after

/-- `s.lower()`. -/
def lower (s : String) : String := ⟨lowerLoop [] s.toList⟩

/-- `s.isdigit()`: at least one character, all of them digits. -/
def isdigit (s : String) : Bool := !s.toList.isEmpty && s.toList.all isDigitChar

/-- `s.startswith(pre)`. -/
def startswith (s pre : String) : Bool := pre.toList.isPrefixOf s.toList

/-- A character `str.isspace` holds of: the ASCII whitespace and separators, and the wider whitespace. -/
def isspace (c : Char) : Bool :=
  c = ' ' || ('\t' ≤ c && c ≤ '\r') || ('\x1c' ≤ c && c ≤ '\x1f') || isWideSpace c

/-- `s.strip()`. -/
def strip (s : String) : String := ⟨((s.toList.dropWhile isspace).reverse.dropWhile isspace).reverse⟩

/-- `s.rstrip()`. -/
def rstrip (s : String) : String := ⟨(s.toList.reverse.dropWhile isspace).reverse⟩

/-- A character of the class `[a-f0-9]` under `re.IGNORECASE`. -/
def isHexDigit (c : Char) : Bool := c.isDigit || ('a' ≤ c && c ≤ 'f') || ('A' ≤ c && c ≤ 'F')

/-- The characters of `[a-f0-9]{8}-[a-f0-9]{4}-[a-f0-9]{4}-[a-f0-9]{4}-[a-f0-9]{12}`, exactly. -/
def uuidShape (cs : List Char) : Bool :=
  cs.length = 36 &&
    (cs.enum.all fun p => if p.1 = 8 ∨ p.1 = 13 ∨ p.1 = 18 ∨ p.1 = 23 then p.2 = '-' else isHexDigit p.2)

/-- `is_UUID`: `re.match` of the pattern anchored by `^` and `$`; `$` also matches before a final newline. -/
def isUUID (uuidQuestion : String) : Bool :=
  uuidShape uuidQuestion.toList ||
    (uuidQuestion.toList.getLast? = some '\n' && uuidShape uuidQuestion.toList.dropLast)

/-! ## `str(i)` -/

/-- The number a string of decimal digits denotes, most significant digit first. -/
def decimalValue (cs : List Char) : Nat := cs.foldl (fun acc c => 10 * acc + (c.toNat - '0'.toNat)) 0

theorem digitChar_value : ∀ d < 10, (Nat.digitChar d).toNat - '0'.toNat = d := by decide

theorem digitChar_isDigit : ∀ d < 10, (Nat.digitChar d).isDigit = true := by decide

/-- `toDigitsCore` pushes its digits in front of the accumulator. -/
theorem toDigitsCore_append (base fuel n : Nat) (ds : List Char) :
    Nat.toDigitsCore base fuel n ds = Nat.toDigitsCore base fuel n [] ++ ds := by
  induction fuel generalizing n ds with
  | zero => rfl
  | succ fuel ih =>
    simp only [Nat.toDigitsCore]
    split
    · rfl
    · rw [ih _ (_ :: ds), ih _ [_]]; simp

theorem decimalValue_toDigitsCore : ∀ (fuel n : Nat), n < fuel → decimalValue (Nat.toDigitsCore 10 fuel n []) = n
  | 0, _, h => absurd h (Nat.not_lt_zero _)
  | fuel + 1, n, h => by
    have hd := digitChar_value (n % 10) (Nat.mod_lt _ (by decide))
    simp only [Nat.toDigitsCore]
    split
    · simp only [decimalValue, List.foldl, hd]; omega
    · rw [toDigitsCore_append, decimalValue, List.foldl_append, ← decimalValue,
        decimalValue_toDigitsCore fuel (n / 10) (by omega)]
      simp only [List.foldl, hd]; omega

theorem isDigit_of_mem_toDigitsCore : ∀ (fuel n : Nat) {c : Char}, c ∈ Nat.toDigitsCore 10 fuel n [] → c.isDigit
  | 0, _, _, h => absurd h (List.not_mem_nil _)
  | fuel + 1, n, c, h => by
    have hd := digitChar_isDigit (n % 10) (Nat.mod_lt _ (by decide))
    simp only [Nat.toDigitsCore] at h
    split at h
    · simp_all
    · rw [toDigitsCore_append, List.mem_append, List.mem_singleton] at h
      rcases h with h | rfl
      · exact isDigit_of_mem_toDigitsCore fuel _ h
      · exact hd

/-- **`str(i)` reads back to `i`.** -/
theorem decimalValue_repr (n : Nat) : decimalValue (toString n).toList = n :=
  decimalValue_toDigitsCore (n + 1) n (Nat.lt_succ_self n)

theorem toString_injective {i j : Nat} (h : toString i = toString j) : i = j := by
  rw [← decimalValue_repr i, h, decimalValue_repr]

theorem isDigit_of_mem_toString {n : Nat} {c : Char} (h : c ∈ (toString n).toList) : c.isDigit :=
  isDigit_of_mem_toDigitsCore (n + 1) n h

theorem toString_ne_all (n : Nat) : toString n ≠ "all" := fun h => by
  have := @isDigit_of_mem_toString n 'a' (by rw [h]; decide)
  exact absurd this (by decide)

end AmdSmiCli
