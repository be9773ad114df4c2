import AmdSmiCli.Python

/-!
# Python's `int(s, 16)`

`is_amd_device` reads a vendor id with `int(asic_info['vendor_id'], 16)`. For a string, CPython's `PyLong_FromString`
skips leading whitespace, reads an optional sign, skips an optional `0x` or `0X` and one underscore after it, and
then its loop `long_from_binary_base` reads hexadecimal digits and underscores, rejecting two underscores in a row
and one at the end; only whitespace may follow the digits. Anything else raises `ValueError`, here `none`
(`pyIntBase16`, one function per stage).

What it accepts is a `HexLiteral`: whitespace, a sign, a prefix, hexadecimal digits with single underscores between
them (`HexBody`) and whitespace, each part carrying its own well-formedness.

- `scanHexDigits_append` and `scanHexDigits_sound`: the digit loop reads exactly a run of digits and single
  underscores, and its value;
- `pyLongFromString_render` and `exists_hexLiteral_of_pyLongFromString`: `PyLong_FromString` reads every literal as
  its value, and reads nothing else; with the text first made ASCII, `pyIntBase16_eq_some_iff`;
- `hexValue_toDigits`: the digits `Nat.toDigits 16` writes, as `hex()` does, read back to the number.

Before it parses, `int` makes a non-ASCII text ASCII (`transformDecimalAndSpaceToAscii`): wider whitespace
becomes a space, a decimal digit of any script its ASCII digit, and the first other character `?`.
-/

namespace AmdSmiCli

/-! ## The parser -/

/-- `Py_ISSPACE`: the six ASCII whitespace characters `int()` skips around a number. -/
def pyIsspace (c : Char) : Bool := c ∈ [' ', '\t', '\n', '\x0b', '\x0c', '\r']

/-- `_PyLong_DigitValue[c] < 16`: the value of a hexadecimal digit of either case. -/
def hexDigitValue (c : Char) : Option Nat :=
  if c.isDigit then some (c.toNat - '0'.toNat)
  else if 'a' ≤ c && c ≤ 'f' then some (c.toNat - 'a'.toNat + 10)
  else if 'A' ≤ c && c ≤ 'F' then some (c.toNat - 'A'.toNat + 10)
  else none

/-- The sign after the leading whitespace: `-` negates, `+` is skipped. -/
def readSign : List Char → Int × List Char
  | [] => (1, [])
  | c :: cs => if c = '+' then (1, cs) else if c = '-' then (-1, cs) else (1, c :: cs)

/-- With base 16, a `0x` or `0X` after the sign is skipped, and one underscore after it. -/
def skipHexPrefix : List Char → List Char
  | c :: x :: cs => if c = '0' ∧ (x = 'x' ∨ x = 'X') then (if cs.head? = some '_' then cs.tail else cs)
    else c :: x :: cs
  | cs => cs

/-- The loop of `long_from_binary_base`, `prev` being the character before: it reads digits and underscores, with
the value `z` and the count `digits` of the digits so far. Two underscores in a row, or one at the end, are an error;
otherwise it returns the value, the count and what follows. -/
def scanHexDigits : List Char → Char → Nat → Nat → Option (Nat × Nat × List Char)
  | [], prev, z, digits => if prev = '_' then none else some (z, digits, [])
  | c :: cs, prev, z, digits =>
    match hexDigitValue c with
    | some d => scanHexDigits cs c (16 * z + d) (digits + 1)
    | none =>
      if c = '_' then (if prev = '_' then none else scanHexDigits cs c z digits)
      else if prev = '_' then none else some (z, digits, c :: cs)

/-- What follows the prefix: no underscore first, then the loop from the character `0`; an error when it read no
digit (`str == start`) or when anything but whitespace follows. -/
def readHexDigits (cs : List Char) : Option Nat :=
  if cs.head? = some '_' then none
  else
    match scanHexDigits cs '\x00' 0 0 with
    | some (z, digits, rest) => if digits ≠ 0 ∧ rest.all pyIsspace then some z else none
    | none => none

/-- `PyLong_FromString(text, 16)` on the whole text: the number, or `none` for `ValueError`. -/
def pyLongFromString (cs : List Char) : Option Int :=
  let signed := readSign (cs.dropWhile pyIsspace)
  (readHexDigits (skipHexPrefix signed.2)).map fun (z : Nat) => signed.1 * z

/-- The loop of `_PyUnicode_TransformDecimalAndSpaceToASCII`: a character below 127 stays, a wider whitespace
becomes a space, a decimal digit its ASCII digit, and any other character becomes `?`, where the text ends. -/
def transformLoop : List Char → List Char
  | [] => []
  | c :: cs =>
    if c.toNat < 127 then c :: transformLoop cs
    else if isWideSpace c then ' ' :: transformLoop cs
    else
      match toDecimal c with
      | some d => Nat.digitChar d :: transformLoop cs
      | none => ['?']

/-- `_PyUnicode_TransformDecimalAndSpaceToASCII`: an ASCII text is kept as it is. -/
def transformDecimalAndSpaceToAscii (cs : List Char) : List Char :=
  if cs.all fun c => c.toNat < 128 then cs else transformLoop cs

/-- `int(s, 16)` of a string (`PyLong_FromUnicodeObject`): the text made ASCII, then read. -/
def pyIntBase16 (s : String) : Option Int := pyLongFromString (transformDecimalAndSpaceToAscii s.toList)

/-! ## Hexadecimal literals -/

/-- One digit more of a hexadecimal number, most significant first; an underscore adds none. -/
def hexStep (acc : Nat) (c : Char) : Nat :=
  match hexDigitValue c with
  | some d => 16 * acc + d
  | none => acc

/-- The number hexadecimal digits denote, underscores skipped. -/
def hexValue (cs : List Char) : Nat := cs.foldl hexStep 0

/-- Hexadecimal digits with single underscores between them. -/
structure HexBody (body : List Char) : Prop where
  chars : ∀ c ∈ body, isHexDigit c = true ∨ c = '_'
  head : ∃ c ∈ body.head?, isHexDigit c = true
  last : ∃ c ∈ body.getLast?, isHexDigit c = true
  single : ¬ ['_', '_'] <:+: body

/-- The signs a literal may start with. -/
def hexSigns : List (List Char) := [[], ['+'], ['-']]

/-- The prefixes a literal of base 16 may have. -/
def hexPrefixes : List (List Char) := [[], ['0', 'x'], ['0', 'X'], ['0', 'x', '_'], ['0', 'X', '_']]

/-- The factor of a sign. -/
def signValue (sign : List Char) : Int := if sign = ['-'] then -1 else 1

/-- A hexadecimal literal: whitespace, a sign, a prefix, the digits and whitespace. -/
structure HexLiteral where
  leading : List Char
  sign : List Char
  pre : List Char
  body : List Char
  trailing : List Char
  leading_space : ∀ c ∈ leading, pyIsspace c = true
  sign_mem : sign ∈ hexSigns
  pre_mem : pre ∈ hexPrefixes
  body_hex : HexBody body
  trailing_space : ∀ c ∈ trailing, pyIsspace c = true

/-- The text of a literal. -/
def HexLiteral.render (lit : HexLiteral) : List Char := lit.leading ++ lit.sign ++ lit.pre ++ lit.body ++ lit.trailing

/-- The number a literal denotes. -/
def HexLiteral.value (lit : HexLiteral) : Int := signValue lit.sign * hexValue lit.body

/-! ## Characters -/

theorem isSome_hexDigitValue (c : Char) : (hexDigitValue c).isSome = isHexDigit c := by
  unfold hexDigitValue isHexDigit
  split <;> simp_all
  split <;> simp_all
  split <;> simp_all

theorem hexDigitValue_eq_none {c : Char} : hexDigitValue c = none ↔ isHexDigit c = false := by
  rw [← isSome_hexDigitValue]
  cases hexDigitValue c <;> simp

theorem isHexDigit_of_pyIsspace {c : Char} (h : pyIsspace c = true) : isHexDigit c = false := by
  simp only [pyIsspace, List.mem_cons, List.mem_singleton, List.not_mem_nil, or_false, decide_eq_true_eq] at h
  rcases h with rfl | rfl | rfl | rfl | rfl | rfl <;> rfl

theorem ne_underscore_of_isHexDigit {c : Char} (h : isHexDigit c = true) : c ≠ '_' := by
  rintro rfl; exact absurd h (by decide)

theorem not_pyIsspace_of_isHexDigit {c : Char} (h : isHexDigit c = true) : pyIsspace c = false := by
  cases hs : pyIsspace c
  · rfl
  · rw [isHexDigit_of_pyIsspace hs] at h; exact absurd h (by decide)

/-! ## The digit loop -/

/-- Digits and underscores as the loop reads them after the character `prev`: no two underscores in a row, and
none at the end. -/
def DigitsAfter (prev : Char) (body : List Char) : Prop :=
  (∀ c ∈ body, isHexDigit c = true ∨ c = '_') ∧ ¬ ['_', '_'] <:+: prev :: body ∧
    (prev :: body).getLast? ≠ some '_'

theorem digitsAfter_nil {prev : Char} : DigitsAfter prev [] ↔ prev ≠ '_' := by
  simp [DigitsAfter, List.infix_cons_iff]

theorem digitsAfter_cons {prev c : Char} {body : List Char} :
    DigitsAfter prev (c :: body) ↔
      (isHexDigit c = true ∨ c = '_') ∧ ¬ (prev = '_' ∧ c = '_') ∧ DigitsAfter c body := by
  rw [DigitsAfter, DigitsAfter, List.infix_cons_iff, List.forall_mem_cons, List.getLast?_cons_cons]
  simp only [List.cons_prefix_cons, List.nil_prefix, and_true, not_or, @eq_comm _ '_']
  tauto

/-- **The loop reads a run**: after digits and single underscores, followed by neither, the loop returns their
value and count and what follows. -/
theorem scanHexDigits_append : ∀ (body rest : List Char) (prev : Char) (z n : Nat), DigitsAfter prev body →
    (∀ c ∈ rest.head?, isHexDigit c = false ∧ c ≠ '_') →
    scanHexDigits (body ++ rest) prev z n =
      some (body.foldl hexStep z, n + (body.filter isHexDigit).length, rest)
  | [], rest, prev, z, n, hb, hr => by
    have hp := digitsAfter_nil.1 hb
    cases rest with
    | nil => simp [scanHexDigits, hp]
    | cons c rest =>
      obtain ⟨hc, hu⟩ := hr c rfl
      simp [scanHexDigits, hexDigitValue_eq_none.2 hc, hu, hp]
  | c :: body, rest, prev, z, n, hb, hr => by
    obtain ⟨hc, hpc, hbody⟩ := digitsAfter_cons.1 hb
    cases hd : hexDigitValue c with
    | some d =>
      have hx : isHexDigit c = true := by rw [← isSome_hexDigitValue, hd]; rfl
      simp [scanHexDigits, hd, scanHexDigits_append body rest c _ _ hbody hr, hexStep, hx]
      omega
    | none =>
      have hu : c = '_' := hc.resolve_left (by simp [hexDigitValue_eq_none.1 hd])
      subst hu
      have hp : prev ≠ '_' := fun h => hpc ⟨h, rfl⟩
      simp [scanHexDigits, hd, hp, scanHexDigits_append body rest '_' _ _ hbody hr, hexStep,
        hexDigitValue_eq_none.1 hd]

/-- **What the loop returns it read**: a run of digits and single underscores after `prev`, their value and count,
and what follows. -/
theorem scanHexDigits_sound : ∀ (cs : List Char) (prev : Char) (z n : Nat) {v k : Nat} {rest : List Char},
    scanHexDigits cs prev z n = some (v, k, rest) →
    ∃ body, cs = body ++ rest ∧ DigitsAfter prev body ∧ v = body.foldl hexStep z ∧
      k = n + (body.filter isHexDigit).length
  | [], prev, z, n, v, k, rest, h => by
    by_cases hp : prev = '_'
    · simp [scanHexDigits, hp] at h
    · simp only [scanHexDigits, if_neg hp, Option.some.injEq, Prod.mk.injEq] at h
      obtain ⟨rfl, rfl, rfl⟩ := h
      exact ⟨[], rfl, digitsAfter_nil.2 hp, rfl, rfl⟩
  | c :: cs, prev, z, n, v, k, rest, h => by
    cases hd : hexDigitValue c with
    | some d =>
      have hx : isHexDigit c = true := by rw [← isSome_hexDigitValue, hd]; rfl
      simp only [scanHexDigits, hd] at h
      obtain ⟨body, rfl, hb, rfl, rfl⟩ := scanHexDigits_sound cs c _ _ h
      refine ⟨c :: body, rfl, digitsAfter_cons.2 ⟨.inl hx, fun h => ne_underscore_of_isHexDigit hx h.2, hb⟩,
        by simp [hexStep, hd], by simp [hx]; omega⟩
    | none =>
      have hx : isHexDigit c = false := hexDigitValue_eq_none.1 hd
      simp only [scanHexDigits, hd] at h
      by_cases hp : prev = '_'
      · by_cases hu : c = '_' <;> simp [hu, hp] at h
      · by_cases hu : c = '_'
        · subst hu
          rw [if_pos rfl, if_neg hp] at h
          obtain ⟨body, rfl, hb, rfl, rfl⟩ := scanHexDigits_sound cs '_' _ _ h
          exact ⟨'_' :: body, rfl, digitsAfter_cons.2 ⟨.inr rfl, fun h => hp h.1, hb⟩, by simp [hexStep, hd],
            by simp [hx]⟩
        · simp only [if_neg hu, if_neg hp, Option.some.injEq, Prod.mk.injEq] at h
          obtain ⟨rfl, rfl, rfl⟩ := h
          exact ⟨[], rfl, digitsAfter_nil.2 hp, rfl, rfl⟩

/-! ## The stages -/

theorem exists_cons_of_head {body : List Char} {p : Char → Bool} (h : ∃ c ∈ body.head?, p c = true) :
    ∃ c rest, body = c :: rest ∧ p c = true := by
  obtain ⟨c, hc, hp⟩ := h
  cases body with
  | nil => cases hc
  | cons c' rest => cases hc; exact ⟨c, rest, rfl, hp⟩

/-- A literal's digits are what the loop reads from the start, beginning with a digit. -/
theorem hexBody_iff {body : List Char} :
    HexBody body ↔ DigitsAfter '\x00' body ∧ ∃ c ∈ body.head?, isHexDigit c = true := by
  constructor
  · intro hb
    obtain ⟨c, rest, rfl, -⟩ := exists_cons_of_head hb.head
    refine ⟨⟨hb.chars, ?_, ?_⟩, hb.head⟩
    · rw [List.infix_cons_iff, List.cons_prefix_cons]
      exact fun h => h.elim (fun h => absurd h.1 (by decide)) hb.single
    · obtain ⟨l, hl, hx⟩ := hb.last
      rw [List.getLast?_cons_cons, hl]
      exact fun h => ne_underscore_of_isHexDigit hx (Option.some.inj h)
  · rintro ⟨⟨hchars, hsingle, hlast⟩, hhead⟩
    obtain ⟨c, rest, rfl, hx⟩ := exists_cons_of_head hhead
    refine ⟨hchars, hhead, ?_, fun h => hsingle (List.infix_cons h)⟩
    rw [List.getLast?_cons_cons] at hlast
    obtain ⟨l, hl⟩ := Option.ne_none_iff_exists'.1 (List.getLast?_eq_none_iff.not.2 (List.cons_ne_nil c rest))
    rw [hl] at hlast
    exact ⟨l, hl, (hchars l (List.mem_of_getLast?_eq_some hl)).resolve_right fun h => hlast (h ▸ rfl)⟩

/-- **The digits after the prefix**: `readHexDigits` accepts exactly a literal's digits followed by whitespace,
with their value. -/
theorem readHexDigits_eq_some_iff {cs : List Char} {z : Nat} :
    readHexDigits cs = some z ↔
      ∃ body trailing, cs = body ++ trailing ∧ HexBody body ∧ (∀ c ∈ trailing, pyIsspace c = true) ∧
        hexValue body = z := by
  constructor
  · intro h
    unfold readHexDigits at h
    by_cases hu : cs.head? = some '_'
    · rw [if_pos hu] at h; cases h
    rw [if_neg hu] at h
    cases hs : scanHexDigits cs '\x00' 0 0 with
    | none => rw [hs] at h; cases h
    | some r =>
      obtain ⟨v, k, rest⟩ := r
      rw [hs] at h
      dsimp only at h
      by_cases hk : k ≠ 0 ∧ rest.all pyIsspace = true
      · rw [if_pos hk, Option.some.injEq] at h
        subst h
        obtain ⟨body, rfl, hb, rfl, rfl⟩ := scanHexDigits_sound cs '\x00' 0 0 hs
        obtain ⟨c, rest', rfl⟩ : ∃ c rest', body = c :: rest' := by
          cases body with
          | nil => simp at hk
          | cons c rest' => exact ⟨c, rest', rfl⟩
        have hx : isHexDigit c = true := (hb.1 c (List.mem_cons_self c rest')).resolve_right fun h => hu (by simp [h])
        exact ⟨_, rest, rfl, hexBody_iff.2 ⟨hb, c, rfl, hx⟩, by simpa using hk.2, rfl⟩
      · rw [if_neg hk] at h; cases h
  · rintro ⟨body, trailing, rfl, hb, ht, rfl⟩
    obtain ⟨hd, hhead⟩ := hexBody_iff.1 hb
    obtain ⟨c, rest, rfl, hx⟩ := exists_cons_of_head hhead
    have hr : ∀ c ∈ trailing.head?, isHexDigit c = false ∧ c ≠ '_' := fun c hc => by
      have hs := ht c (List.mem_of_mem_head? hc)
      exact ⟨isHexDigit_of_pyIsspace hs, by rintro rfl; exact absurd hs (by decide)⟩
    have hs := scanHexDigits_append (c :: rest) trailing '\x00' 0 0 hd hr
    rw [List.cons_append] at hs
    simpa [readHexDigits, ne_underscore_of_isHexDigit hx, hs, hx, hexValue] using ht

theorem readSign_sound (cs : List Char) :
    ∃ sign ∈ hexSigns, cs = sign ++ (readSign cs).2 ∧ (readSign cs).1 = signValue sign := by
  cases cs with
  | nil => exact ⟨[], by simp [hexSigns], rfl, rfl⟩
  | cons c cs =>
    by_cases hp : c = '+'
    · subst hp; exact ⟨['+'], by simp [hexSigns], rfl, rfl⟩
    by_cases hm : c = '-'
    · subst hm; exact ⟨['-'], by simp [hexSigns], rfl, rfl⟩
    exact ⟨[], by simp [hexSigns], by simp [readSign, hp, hm], by simp [readSign, hp, hm, signValue]⟩

theorem readSign_append {sign rest : List Char} (hs : sign ∈ hexSigns)
    (hr : ∀ c ∈ rest.head?, c ≠ '+' ∧ c ≠ '-') : readSign (sign ++ rest) = (signValue sign, rest) := by
  simp only [hexSigns, List.mem_cons, List.mem_singleton, List.not_mem_nil, or_false] at hs
  rcases hs with rfl | rfl | rfl
  · cases rest with
    | nil => rfl
    | cons c rest => simp [readSign, (hr c rfl).1, (hr c rfl).2, signValue]
  all_goals rfl

theorem skipHexPrefix_sound (cs : List Char) : ∃ pre ∈ hexPrefixes, cs = pre ++ skipHexPrefix cs := by
  match cs with
  | [] => exact ⟨[], by simp [hexPrefixes], rfl⟩
  | [c] => exact ⟨[], by simp [hexPrefixes], rfl⟩
  | c :: x :: cs =>
    by_cases h : c = '0' ∧ (x = 'x' ∨ x = 'X')
    · obtain ⟨rfl, hx⟩ := h
      by_cases hu : cs.head? = some '_'
      · obtain ⟨cs, rfl⟩ : ∃ cs', cs = '_' :: cs' := by
          cases cs with
          | nil => cases hu
          | cons u cs' => cases hu; exact ⟨cs', rfl⟩
        rcases hx with rfl | rfl
        exacts [⟨['0', 'x', '_'], by simp [hexPrefixes], rfl⟩, ⟨['0', 'X', '_'], by simp [hexPrefixes], rfl⟩]
      · rcases hx with rfl | rfl
        exacts [⟨['0', 'x'], by simp [hexPrefixes], by simp [skipHexPrefix, hu]⟩,
          ⟨['0', 'X'], by simp [hexPrefixes], by simp [skipHexPrefix, hu]⟩]
    · exact ⟨[], by simp [hexPrefixes], by simp [skipHexPrefix, h]⟩

theorem skipHexPrefix_append {pre rest : List Char} (hp : pre ∈ hexPrefixes)
    (hr : ∃ c ∈ rest.head?, isHexDigit c = true) (hx : 'x' ∉ rest ∧ 'X' ∉ rest) :
    skipHexPrefix (pre ++ rest) = rest := by
  obtain ⟨c, rest, rfl, hc⟩ := exists_cons_of_head hr
  have hu : c ≠ '_' := ne_underscore_of_isHexDigit hc
  simp only [hexPrefixes, List.mem_cons, List.mem_singleton, List.not_mem_nil, or_false] at hp
  rcases hp with rfl | rfl | rfl | rfl | rfl
  · cases rest with
    | nil => rfl
    | cons x rest =>
      have : ¬ (x = 'x' ∨ x = 'X') := by rintro (rfl | rfl) <;> simp at hx
      simp [skipHexPrefix, this]
  all_goals simp [skipHexPrefix, hu]

theorem dropWhile_pyIsspace_append {leading rest : List Char} (hl : ∀ c ∈ leading, pyIsspace c = true)
    (hr : ∀ c ∈ rest.head?, pyIsspace c = false) : (leading ++ rest).dropWhile pyIsspace = rest := by
  rw [List.dropWhile_append_of_pos hl]
  cases rest with
  | nil => rfl
  | cons c rest => exact List.dropWhile_cons_of_neg (by simp [hr c rfl])

/-! ## What `int(s, 16)` accepts -/

/-- After the sign, a literal goes on with a hexadecimal digit: its prefix's `0`, or its first digit. -/
theorem HexLiteral.head_digit (lit : HexLiteral) :
    ∃ c ∈ (lit.pre ++ (lit.body ++ lit.trailing)).head?, isHexDigit c = true := by
  have hp := lit.pre_mem
  simp only [hexPrefixes, List.mem_cons, List.mem_singleton, List.not_mem_nil, or_false] at hp
  rcases hp with h | h | h | h | h <;> rw [h]
  · obtain ⟨c, rest, hb, hc⟩ := exists_cons_of_head lit.body_hex.head
    exact ⟨c, by simp [hb], hc⟩
  all_goals exact ⟨'0', rfl, rfl⟩

/-- A literal without its leading whitespace: the sign comes first, or a digit. -/
theorem HexLiteral.dropWhile_render (lit : HexLiteral) :
    lit.render.dropWhile pyIsspace = lit.sign ++ (lit.pre ++ (lit.body ++ lit.trailing)) := by
  obtain ⟨c, hc, hx⟩ := lit.head_digit
  have hsign : ∀ d ∈ (lit.sign ++ (lit.pre ++ (lit.body ++ lit.trailing))).head?, pyIsspace d = false := by
    have hs := lit.sign_mem
    simp only [hexSigns, List.mem_cons, List.mem_singleton, List.not_mem_nil, or_false] at hs
    rcases hs with h | h | h <;> rw [h] <;> intro d hd
    · exact (Option.mem_unique hd hc) ▸ not_pyIsspace_of_isHexDigit hx
    all_goals cases hd; rfl
  simpa only [HexLiteral.render, List.append_assoc] using dropWhile_pyIsspace_append lit.leading_space hsign

/-- After a literal's sign, the prefix is skipped: no `x` follows among its digits and whitespace. -/
theorem HexLiteral.skipHexPrefix_eq (lit : HexLiteral) :
    skipHexPrefix (lit.pre ++ (lit.body ++ lit.trailing)) = lit.body ++ lit.trailing := by
  have hbody : ∃ c ∈ (lit.body ++ lit.trailing).head?, isHexDigit c = true := by
    obtain ⟨c, rest, hb, hc⟩ := exists_cons_of_head lit.body_hex.head
    exact ⟨c, by simp [hb], hc⟩
  have hnx : ∀ d, isHexDigit d = false → pyIsspace d = false → d ≠ '_' → d ∉ lit.body ++ lit.trailing :=
    fun d hd hs hu hm => by
      rcases List.mem_append.1 hm with hm | hm
      · rcases lit.body_hex.chars d hm with h | h
        · rw [hd] at h; cases h
        · exact hu h
      · rw [lit.trailing_space d hm] at hs; cases hs
  exact skipHexPrefix_append lit.pre_mem hbody ⟨hnx 'x' rfl rfl (by decide), hnx 'X' rfl rfl (by decide)⟩

/-- **Completeness**: `PyLong_FromString` reads the text of a literal as its value. -/
theorem pyLongFromString_render (lit : HexLiteral) : pyLongFromString lit.render = some lit.value := by
  obtain ⟨c, hc, hx⟩ := lit.head_digit
  have hpm : ∀ d ∈ (lit.pre ++ (lit.body ++ lit.trailing)).head?, d ≠ '+' ∧ d ≠ '-' := fun d hd => by
    cases Option.mem_unique hd hc
    exact ⟨by rintro rfl; exact absurd hx (by decide), by rintro rfl; exact absurd hx (by decide)⟩
  have hdigits : readHexDigits (lit.body ++ lit.trailing) = some (hexValue lit.body) :=
    readHexDigits_eq_some_iff.2 ⟨_, _, rfl, lit.body_hex, lit.trailing_space, rfl⟩
  simp only [pyLongFromString, lit.dropWhile_render, readSign_append lit.sign_mem hpm, lit.skipHexPrefix_eq,
    hdigits, Option.map_some', HexLiteral.value]

/-- **Soundness**: what `PyLong_FromString` reads is the text of a literal, and the number its value. -/
theorem exists_hexLiteral_of_pyLongFromString {cs : List Char} {z : Int} (h : pyLongFromString cs = some z) :
    ∃ lit : HexLiteral, lit.render = cs ∧ lit.value = z := by
  simp only [pyLongFromString, Option.map_eq_some'] at h
  obtain ⟨v, hv, rfl⟩ := h
  obtain ⟨body, trailing, hcs, hb, ht, rfl⟩ := readHexDigits_eq_some_iff.1 hv
  obtain ⟨pre, hpre, hpcs⟩ := skipHexPrefix_sound (readSign (cs.dropWhile pyIsspace)).2
  obtain ⟨sign, hsign, hscs, hsv⟩ := readSign_sound (cs.dropWhile pyIsspace)
  refine ⟨⟨cs.takeWhile pyIsspace, sign, pre, body, trailing, fun c hc => List.mem_takeWhile_imp hc,
    hsign, hpre, hb, ht⟩, ?_, by rw [HexLiteral.value, hsv]⟩
  conv_rhs => rw [← List.takeWhile_append_dropWhile pyIsspace cs, hscs, hpcs, hcs]
  simp [HexLiteral.render]

/-- **`int(s, 16)` reads exactly the hexadecimal literals**: it returns `z` for a string when, and only when, the
string made ASCII (its wider whitespace as spaces, its decimal digits as ASCII digits) spells a literal of value
`z`. -/
theorem pyIntBase16_eq_some_iff (s : String) (z : Int) :
    pyIntBase16 s = some z ↔
      ∃ lit : HexLiteral, lit.render = transformDecimalAndSpaceToAscii s.toList ∧ lit.value = z :=
  ⟨exists_hexLiteral_of_pyLongFromString, fun ⟨lit, hr, hz⟩ => by
    rw [pyIntBase16, ← hr, ← hz, pyLongFromString_render]⟩

/-- An ASCII text is read as it is. -/
theorem transformDecimalAndSpaceToAscii_of_ascii {cs : List Char} (h : ∀ c ∈ cs, c.toNat < 128) :
    transformDecimalAndSpaceToAscii cs = cs :=
  if_pos (List.all_eq_true.2 fun c hc => decide_eq_true (h c hc))

theorem toNat_lt_of_isHexDigit {c : Char} (h : isHexDigit c = true) : c.toNat < 128 := by
  simp only [isHexDigit, Char.isDigit, Bool.or_eq_true, Bool.and_eq_true, decide_eq_true_eq] at h
  rcases h with (⟨-, h⟩ | ⟨-, h⟩) | ⟨-, h⟩
  · exact Nat.lt_of_le_of_lt (show c.toNat ≤ 57 from h) (by decide)
  · exact Nat.lt_of_le_of_lt (show c.toNat ≤ 'f'.toNat from h) (by decide)
  · exact Nat.lt_of_le_of_lt (show c.toNat ≤ 'F'.toNat from h) (by decide)

/-- A literal is ASCII text. -/
theorem HexLiteral.render_ascii (lit : HexLiteral) : ∀ c ∈ lit.render, c.toNat < 128 := by
  have hspace : ∀ c, pyIsspace c = true → c.toNat < 128 := fun c h => by
    simp only [pyIsspace, List.mem_cons, List.mem_singleton, List.not_mem_nil, or_false, decide_eq_true_eq] at h
    rcases h with rfl | rfl | rfl | rfl | rfl | rfl <;> decide
  have hs := lit.sign_mem
  have hp := lit.pre_mem
  simp only [hexSigns, hexPrefixes, List.mem_cons, List.mem_singleton, List.not_mem_nil, or_false] at hs hp
  intro c hc
  simp only [HexLiteral.render, List.mem_append] at hc
  rcases hc with (((hc | hc) | hc) | hc) | hc
  · exact hspace c (lit.leading_space c hc)
  · rcases hs with h | h | h <;> rw [h] at hc <;> simp at hc <;> subst hc <;> decide
  · rcases hp with h | h | h | h | h <;> rw [h] at hc <;> simp at hc <;> rcases hc with rfl | rfl | rfl <;> decide
  · rcases lit.body_hex.chars c hc with h | rfl
    exacts [toNat_lt_of_isHexDigit h, by decide]
  · exact hspace c (lit.trailing_space c hc)

/-- **Completeness on strings**: `int(s, 16)` reads the text of a literal as its value. -/
theorem pyIntBase16_render (lit : HexLiteral) : pyIntBase16 ⟨lit.render⟩ = some lit.value := by
  rw [pyIntBase16, String.toList, transformDecimalAndSpaceToAscii_of_ascii lit.render_ascii,
    pyLongFromString_render]

/-! ## The digits `hex()` writes -/

theorem hexDigitValue_digitChar : ∀ d < 16, hexDigitValue (Nat.digitChar d) = some d := by decide

theorem hexValue_toDigitsCore : ∀ (fuel n : Nat), n < fuel → (Nat.toDigitsCore 16 fuel n []).foldl hexStep 0 = n
  | 0, _, h => absurd h (Nat.not_lt_zero _)
  | fuel + 1, n, h => by
    have hd := hexDigitValue_digitChar (n % 16) (Nat.mod_lt _ (by decide))
    simp only [Nat.toDigitsCore]
    split
    · simp only [List.foldl, hexStep, hd]; omega
    · rw [toDigitsCore_append, List.foldl_append, hexValue_toDigitsCore fuel (n / 16) (by omega)]
      simp only [List.foldl, hexStep, hd]; omega

/-- **The round trip of `hex()`**: the digits `Nat.toDigits 16` writes read back to the number. -/
theorem hexValue_toDigits (v : Nat) : hexValue (Nat.toDigits 16 v) = v :=
  hexValue_toDigitsCore (v + 1) v (Nat.lt_succ_self v)

theorem isHexDigit_of_mem_toDigitsCore : ∀ (fuel n : Nat) {c : Char}, c ∈ Nat.toDigitsCore 16 fuel n [] →
    isHexDigit c = true
  | 0, _, _, h => absurd h (List.not_mem_nil _)
  | fuel + 1, n, c, h => by
    have hd : isHexDigit (Nat.digitChar (n % 16)) = true := by
      rw [← isSome_hexDigitValue, hexDigitValue_digitChar _ (Nat.mod_lt _ (by decide))]; rfl
    simp only [Nat.toDigitsCore] at h
    split at h
    · rw [List.mem_singleton.1 h]; exact hd
    · rw [toDigitsCore_append, List.mem_append, List.mem_singleton] at h
      rcases h with h | rfl
      exacts [isHexDigit_of_mem_toDigitsCore fuel _ h, hd]

theorem toDigits_ne_nil (v : Nat) : Nat.toDigits 16 v ≠ [] := by
  simp only [Nat.toDigits, Nat.toDigitsCore]
  split
  · exact List.cons_ne_nil _ _
  · rw [toDigitsCore_append]; exact List.append_ne_nil_of_right_ne_nil _ (List.cons_ne_nil _ _)

/-- Hexadecimal digits alone, at least one, are a literal's digits. -/
theorem hexBody_of_digits {ds : List Char} (h : ∀ c ∈ ds, isHexDigit c = true) (hne : ds ≠ []) : HexBody ds where
  chars c hc := .inl (h c hc)
  head := by
    cases ds with
    | nil => exact absurd rfl hne
    | cons c ds => exact ⟨c, rfl, h c (List.mem_cons_self c ds)⟩
  last := by
    obtain ⟨l, hl⟩ := Option.ne_none_iff_exists'.1 (List.getLast?_eq_none_iff.not.2 hne)
    exact ⟨l, hl, h l (List.mem_of_getLast?_eq_some hl)⟩
  single hi := absurd (h '_' (hi.subset (List.mem_cons_self _ _))) (by decide)

theorem foldl_hexStep_zeros (k : Nat) : (List.replicate k '0').foldl hexStep 0 = 0 := by
  induction k with
  | zero => rfl
  | succ k ih => rw [List.replicate_succ, List.foldl_cons]; exact ih

/-- The literal `0x`, `k` zeros and the digits of `v`: `hex(v)` for `k = 0`, or `v` padded to a width. -/
def HexLiteral.ofNat (k v : Nat) : HexLiteral where
  leading := []
  sign := []
  pre := ['0', 'x']
  body := List.replicate k '0' ++ Nat.toDigits 16 v
  trailing := []
  leading_space := by simp
  sign_mem := by simp [hexSigns]
  pre_mem := by simp [hexPrefixes]
  body_hex := hexBody_of_digits
    (fun c hc => by
      rcases List.mem_append.1 hc with hc | hc
      · rw [List.eq_of_mem_replicate hc]; rfl
      · exact isHexDigit_of_mem_toDigitsCore _ _ hc)
    (List.append_ne_nil_of_right_ne_nil _ (toDigits_ne_nil v))
  trailing_space := by simp

theorem HexLiteral.ofNat_render (k v : Nat) :
    (HexLiteral.ofNat k v).render = '0' :: 'x' :: (List.replicate k '0' ++ Nat.toDigits 16 v) := by
  simp [HexLiteral.render, HexLiteral.ofNat]

theorem HexLiteral.ofNat_value (k v : Nat) : (HexLiteral.ofNat k v).value = v := by
  show signValue [] * (hexValue (List.replicate k '0' ++ Nat.toDigits 16 v) : Int) = v
  rw [hexValue, List.foldl_append, foldl_hexStep_zeros, ← hexValue, hexValue_toDigits]
  simp [signValue]

end AmdSmiCli
