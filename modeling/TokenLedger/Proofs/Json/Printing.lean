import TokenLedger.Json.Scan
/-!
What is printed is scanned as itself.

The values are those whose numbers are natural and fit sixty-four bits (`Plain`), with any strings.
Their texts are taken apart from the leaves up:

* `Numeral.scan_toDigits` and `Numeral.value_toDigits`: the decimal digits of a number are scanned
  as a whole, and stand for the number;
* `scanPieces_flatMap` and `joinPieces_map`: the escapes of a string are scanned one by one, and the
  code units of its controls are joined to the characters that they were written for;
* `scansBack`: every value is scanned as its outline, wherever a text has it followed by the end of
  an array or of an object or by the next part of one. The scan goes down with a count of steps, and
  two for each character of the value are enough;
* `scan_print`: so the whole text of a value is scanned, and nothing is left of it.
-/

namespace TokenLedger.Json

/-! ### Numbers -/

/-- No digit comes first. -/
def Stops (rest : List Char) : Prop := ∀ next ∈ rest.head?, next.isDigit = false

theorem takeWhile_of_stops {rest : List Char} (stops : Stops rest) :
    rest.takeWhile Char.isDigit = [] := by
  cases rest with
  | nil => rfl
  | cons next rest => rw [List.takeWhile_cons, stops next rfl, if_neg Bool.false_ne_true]

theorem dropWhile_of_stops {rest : List Char} (stops : Stops rest) :
    rest.dropWhile Char.isDigit = rest := by
  cases rest with
  | nil => rfl
  | cons next rest => rw [List.dropWhile_cons, stops next rfl, if_neg Bool.false_ne_true]

/-- Digits of which none follows are run through as a whole. -/
theorem digitRun_append {digits rest : List Char}
    (all_digits : ∀ digit ∈ digits, digit.isDigit = true) (stops : Stops rest) :
    digitRun (digits ++ rest) = (digits, rest) := by
  rw [digitRun, List.takeWhile_append_of_pos all_digits, List.dropWhile_append_of_pos all_digits,
    takeWhile_of_stops stops, dropWhile_of_stops stops, List.append_nil]

theorem isDigit_of_mem_toDigits {number : Nat} {digit : Char}
    (found : digit ∈ Nat.toDigits 10 number) : digit.isDigit = true :=
  Nat.isDigit_of_mem_toDigits (by decide) (by decide) found

/-- A number has a digit to begin with. -/
theorem exists_cons_toDigits (number : Nat) :
    ∃ first others, Nat.toDigits 10 number = first :: others ∧ first.isDigit = true := by
  obtain ⟨first, others, digits_eq⟩ :=
    List.exists_cons_of_ne_nil (Nat.toDigits_ne_nil (n := number) (b := 10))
  exact ⟨first, others, digits_eq, isDigit_of_mem_toDigits (digits_eq ▸ List.mem_cons_self)⟩

/-- A number is the value of its digits. -/
theorem digitsValue_toDigits (number : Nat) : digitsValue (Nat.toDigits 10 number) = number := by
  have read : Nat.ofDigitChars 10 (Nat.toDigits 10 number) 0 = number :=
    Nat.ofDigitChars_toDigits (by decide) (by decide)
  rw [Nat.ofDigitChars] at read
  simpa only [digitsValue, digitValue, Nat.mul_comm] using read

/-- Only zero begins with a zero. -/
theorem head?_toDigits {number : Nat} (positive : 0 < number) :
    (Nat.toDigits 10 number).head? ≠ some '0' := by
  induction number using Nat.strongRecOn with
  | ind number ih =>
    rw [Nat.toDigits_eq_if (by decide)]
    split
    · rename_i small
      have nonzero : ∀ digit < 10, 0 < digit → Nat.digitChar digit ≠ '0' := by decide
      simpa using nonzero number small positive
    · have shorter := ih (number / 10) (by omega) (by omega)
      obtain ⟨first, others, digits_eq, -⟩ := exists_cons_toDigits (number / 10)
      rw [digits_eq] at shorter ⊢
      exact shorter

/-- What may follow a value: the end, or what stands after a part of an array or an object. -/
def Closes (rest : List Char) : Prop := ∀ next ∈ rest.head?, next = ',' ∨ next = ']' ∨ next = '}'

theorem Closes.stops {rest : List Char} (closes : Closes rest) : Stops rest := by
  intro next found
  rcases closes next found with rfl | rfl | rfl <;> decide

theorem someDigits_toDigits (number : Nat) {rest : List Char} (closes : Closes rest) :
    someDigits (Nat.toDigits 10 number ++ rest) = .ok (Nat.toDigits 10 number, rest) := by
  rw [someDigits, digitRun_append (fun _ => isDigit_of_mem_toDigits) closes.stops]
  obtain ⟨first, others, digits_eq, -⟩ := exists_cons_toDigits number
  rw [digits_eq]

namespace Numeral

theorem scanWhole_toDigits (number : Nat) {rest : List Char} (closes : Closes rest) :
    scanWhole (Nat.toDigits 10 number ++ rest) = .ok (Nat.toDigits 10 number, rest) := by
  rw [scanWhole, someDigits_toDigits number closes]
  split
  · rename_i second others left same
    have digits_eq : Nat.toDigits 10 number = '0' :: second :: others :=
      congrArg Prod.fst (Except.ok.inj same)
    rcases Nat.eq_zero_or_pos number with rfl | positive
    · cases digits_eq
    · exact absurd (by rw [digits_eq]; rfl) (head?_toDigits positive)
  · rfl

theorem scanFraction_of_closes {rest : List Char} (closes : Closes rest) :
    scanFraction rest = .ok (none, rest) := by
  unfold scanFraction
  split
  · have closing := closes '.' rfl
    simp at closing
  · rfl

theorem scanExponent_of_closes {rest : List Char} (closes : Closes rest) :
    scanExponent rest = .ok (none, rest) := by
  unfold scanExponent
  split
  · have closing := closes 'e' rfl
    simp at closing
  · have closing := closes 'E' rfl
    simp at closing
  · rfl

/-- The digits of a number are scanned as a numeral without sign, point and exponent. -/
theorem scan_toDigits (number : Nat) {rest : List Char} (closes : Closes rest) :
    scan (Nat.toDigits 10 number ++ rest) =
      .ok (⟨false, Nat.toDigits 10 number, none, none⟩, rest) := by
  have unsigned : ∀ others, Nat.toDigits 10 number ++ rest ≠ '-' :: others := by
    intro others same
    obtain ⟨first, tail, digits_eq, digit⟩ := exists_cons_toDigits number
    rw [digits_eq] at same
    have first_eq : first = '-' := (List.cons.inj same).1
    rw [first_eq] at digit
    cases digit
  rw [scan]
  · simp only [bind, Except.bind, scanWhole_toDigits number closes, scanFraction_of_closes closes,
      scanExponent_of_closes closes, pure, Except.pure]
  · exact unsigned

/-- What digits make of a number that stands before them. -/
def continued (number : Nat) (digits : List Char) : Nat :=
  digits.foldl (fun number digit => number * 10 + digitValue digit) number

theorem continued_cons (number : Nat) (digit : Char) (rest : List Char) :
    continued number (digit :: rest) = continued (number * 10 + digitValue digit) rest := by
  rw [continued, List.foldl_cons, continued]

theorem le_continued (number : Nat) (digits : List Char) : number ≤ continued number digits := by
  induction digits generalizing number with
  | nil => exact Nat.le_refl _
  | cons digit rest ih =>
    have longer : number ≤ number * 10 + digitValue digit := by omega
    rw [continued_cons]
    exact Nat.le_trans longer (ih _)

/-- Digits are collected as long as their value fits. -/
theorem collect_of_lt {number : Nat} {digits : List Char}
    (fits : continued number digits < UInt64.size) :
    collect number digits = (continued number digits, 0) := by
  induction digits generalizing number with
  | nil => rfl
  | cons digit rest ih =>
    rw [continued_cons] at fits ⊢
    have next_fits := Nat.lt_of_le_of_lt (le_continued _ rest) fits
    rw [collect, if_pos next_fits]
    exact ih fits

/-- The digits of a number of sixty-four bits stand for this number. -/
theorem value_toDigits (number : UInt64) :
    value ⟨false, Nat.toDigits 10 number.toNat, none, none⟩ = .ok (.natural number) := by
  have read : continued 0 (Nat.toDigits 10 number.toNat) = number.toNat :=
    digitsValue_toDigits number.toNat
  have fits : continued 0 (Nat.toDigits 10 number.toNat) < UInt64.size := by
    rw [read]
    exact number.toNat_lt
  rw [value, collect_of_lt fits, read]
  show Except.ok (Number.natural (UInt64.ofNat number.toNat)) = _
  rw [UInt64.ofNat_toNat]

end Numeral

/-! ### Strings -/

/-- The piece that a character of a string is written as: a code unit if four digits are needed. -/
def pieceOf (char : Char) : Piece :=
  if (escape char).length = 6 then .unit char.toNat else .char char

theorem hexValue?_hexDigit : ∀ value < 16, hexValue? (hexDigit value) = some value := by decide

/-- The four digits of a control are its code unit. -/
theorem codeUnit?_hexDigit {char : Char} (control : char.toNat < 0x20) :
    codeUnit? '0' '0' (hexDigit (char.toNat / 16)) (hexDigit (char.toNat % 16)) =
      some char.toNat := by
  have high := hexValue?_hexDigit (char.toNat / 16) (by omega)
  have low := hexValue?_hexDigit (char.toNat % 16) (by omega)
  have zero : hexValue? '0' = some 0 := rfl
  simp only [codeUnit?, high, low, zero, Option.bind_eq_bind, Option.bind_some, Option.pure_def]
  congr 1
  omega

/-- A character is written as a backslash and a letter, with four digits if it is another control,
or as it is. -/
theorem escape_cases (char : Char) :
    (∃ letter, escape char = ['\\', letter] ∧ letter ≠ 'u' ∧ shortEscape? letter = some char) ∨
      (escape char = ['\\', 'u', '0', '0', hexDigit (char.toNat / 16), hexDigit (char.toNat % 16)] ∧
        char.toNat < 0x20) ∨
      (escape char = [char] ∧ char ≠ '"' ∧ char ≠ '\\' ∧ ¬ char.toNat < 0x20) := by
  by_cases listed : char ∈ ['"', '\\', '\x08', '\x0c', '\n', '\r', '\t']
  · have short : ∀ char ∈ ['"', '\\', '\x08', '\x0c', '\n', '\r', '\t'], ∃ letter,
        escape char = ['\\', letter] ∧ letter ≠ 'u' ∧ shortEscape? letter = some char := by
      simp only [List.forall_mem_cons]
      exact ⟨⟨'"', by decide⟩, ⟨'\\', by decide⟩, ⟨'b', by decide⟩, ⟨'f', by decide⟩,
        ⟨'n', by decide⟩, ⟨'r', by decide⟩, ⟨'t', by decide⟩, nofun⟩
    exact Or.inl (short char listed)
  · simp only [List.mem_cons, not_or, List.not_mem_nil, not_false_iff, and_true] at listed
    obtain ⟨quote, backslash, backspace, feed, newline, carriage, tab⟩ := listed
    have rest : escape char = if char.toNat < 0x20 then
        ['\\', 'u', '0', '0', hexDigit (char.toNat / 16), hexDigit (char.toNat % 16)]
        else [char] := by
      rw [escape, if_neg quote, if_neg backslash, if_neg backspace, if_neg feed, if_neg newline,
        if_neg carriage, if_neg tab]
    by_cases control : char.toNat < 0x20
    · exact Or.inr (Or.inl ⟨rest.trans (if_pos control), control⟩)
    · exact Or.inr (Or.inr ⟨rest.trans (if_neg control), quote, backslash, control⟩)

theorem scanPieces_short {letter char : Char} (not_unit : letter ≠ 'u')
    (short : shortEscape? letter = some char) (rest : List Char) :
    scanPieces ('\\' :: letter :: rest) =
      (.char char :: (scanPieces rest).1, (scanPieces rest).2) := by
  rw [scanPieces, short]
  all_goals
    intros
    simp_all

theorem scanPieces_unit {first second third fourth : Char} {unit : Nat}
    (read : codeUnit? first second third fourth = some unit) (rest : List Char) :
    scanPieces ('\\' :: 'u' :: first :: second :: third :: fourth :: rest) =
      (.unit unit :: (scanPieces rest).1, (scanPieces rest).2) := by
  rw [scanPieces, read]

theorem scanPieces_plain {char : Char} (not_quote : char ≠ '"') (not_backslash : char ≠ '\\')
    (printable : ¬ char.toNat < 0x20) (rest : List Char) :
    scanPieces (char :: rest) = (.char char :: (scanPieces rest).1, (scanPieces rest).2) := by
  rw [scanPieces, if_neg printable]
  all_goals
    intros
    simp_all

/-- What a character is written as is scanned as its piece. -/
theorem scanPieces_escape (char : Char) (rest : List Char) :
    scanPieces (escape char ++ rest) =
      (pieceOf char :: (scanPieces rest).1, (scanPieces rest).2) := by
  unfold pieceOf
  rcases escape_cases char with ⟨letter, escape_eq, not_unit, short⟩ | ⟨escape_eq, control⟩ |
    ⟨escape_eq, not_quote, not_backslash, printable⟩
  · rw [escape_eq]
    exact scanPieces_short not_unit short rest
  · rw [escape_eq]
    exact scanPieces_unit (codeUnit?_hexDigit control) rest
  · rw [escape_eq]
    exact scanPieces_plain not_quote not_backslash printable rest

/-- The pieces of a string are scanned down to its closing quote. -/
theorem scanPieces_flatMap (chars rest : List Char) :
    scanPieces (chars.flatMap escape ++ '"' :: rest) = (chars.map pieceOf, .ok rest) := by
  induction chars with
  | nil => rfl
  | cons char chars ih =>
    rw [List.flatMap_cons, List.append_assoc, scanPieces_escape, ih]
    rfl

/-- A control that is given as a code unit stands for itself, whatever follows. -/
theorem joinPieces_unit {unit : Nat} (control : unit < 0x20) (pieces : List Piece) :
    joinPieces (.ok ()) (.unit unit :: pieces) =
      (joinPieces (.ok ()) pieces).map (Char.ofNat unit :: ·) := by
  have not_leading : isLeading unit = false := by simp [isLeading]; omega
  have not_trailing : isTrailing unit = false := by simp [isTrailing]; omega
  match pieces with
  | [] => simp [joinPieces, not_leading, not_trailing, Except.map]
  | .char char :: rest => simp [joinPieces, not_leading, not_trailing]
  | .unit next :: rest => simp [joinPieces, not_leading, not_trailing]

/-- A code unit is written for controls only. -/
theorem pieceOf_cases (char : Char) :
    pieceOf char = .char char ∨ pieceOf char = .unit char.toNat ∧ char.toNat < 0x20 := by
  unfold pieceOf
  rcases escape_cases char with ⟨letter, escape_eq, -⟩ | ⟨escape_eq, control⟩ | ⟨escape_eq, -⟩
  · rw [escape_eq]
    exact Or.inl rfl
  · rw [escape_eq]
    exact Or.inr ⟨rfl, control⟩
  · rw [escape_eq]
    exact Or.inl rfl

/-- The pieces of a string are joined to the string. -/
theorem joinPieces_map (chars : List Char) :
    joinPieces (.ok ()) (chars.map pieceOf) = .ok chars := by
  induction chars with
  | nil => rfl
  | cons char chars ih =>
    rw [List.map_cons]
    rcases pieceOf_cases char with piece_eq | ⟨piece_eq, control⟩
    · rw [piece_eq, joinPieces, ih]
      rfl
    · rw [piece_eq, joinPieces_unit control, ih, Char.ofNat_toNat]
      rfl

/-- A string is scanned as itself. -/
theorem scanString_escaped (value : String) (rest : List Char) :
    scanString (value.toList.flatMap escape ++ '"' :: rest) =
      (.string (.ok value) (.ok ()), some rest) := by
  rw [scanString, scanPieces_flatMap]
  simp only [Except.map, joinPieces_map, String.ofList_toList]
  rfl

/-! ### Values -/

/-- Values whose numbers are natural and fit sixty-four bits. -/
inductive Plain : Json → Prop
  | null : Plain .null
  | boolean (value : Bool) : Plain (.boolean value)
  | natural (value : UInt64) : Plain (.natural value)
  | string (value : String) : Plain (.string value)
  | array {items : List Json} (plain : ∀ item ∈ items, Plain item) : Plain (.array items)
  | object {members : List (String × Json)} (plain : ∀ member ∈ members, Plain member.2) :
    Plain (.object members)

/-- A character that a value begins with: no blank, and none that closes an array. -/
structure Begins (char : Char) : Prop where
  not_space : isSpace char = false
  not_closing : char ≠ ']'

theorem ne_of_isDigit {digit other : Char} (isDigit : digit.isDigit = true)
    (not_digit : other.isDigit = false) : digit ≠ other := by
  rintro rfl
  rw [isDigit] at not_digit
  cases not_digit

theorem begins_of_isDigit {digit : Char} (isDigit : digit.isDigit = true) : Begins digit := by
  have apart : ∀ other, other.isDigit = false → digit ≠ other := fun _ => ne_of_isDigit isDigit
  refine ⟨?_, apart _ (by decide)⟩
  simp only [isSpace, apart ' ' (by decide), apart '\n' (by decide), apart '\t' (by decide),
    apart '\r' (by decide), decide_false, Bool.or_self]

theorem chars_natural (value : UInt64) :
    (Json.natural value).chars = Nat.toDigits 10 value.toNat := by
  rw [Json.natural, chars, Number.text, Nat.toString_eq_repr, Nat.toList_repr]

theorem exists_begins {json : Json} (plain : Plain json) :
    ∃ first rest, json.chars = first :: rest ∧ Begins first := by
  cases plain with
  | null => exact ⟨'n', ['u', 'l', 'l'], rfl, by decide, by decide⟩
  | boolean value =>
    cases value with
    | false => exact ⟨'f', ['a', 'l', 's', 'e'], rfl, by decide, by decide⟩
    | true => exact ⟨'t', ['r', 'u', 'e'], rfl, by decide, by decide⟩
  | natural value =>
    rw [chars_natural]
    obtain ⟨first, others, digits_eq, digit⟩ := exists_cons_toDigits value.toNat
    exact ⟨first, others, digits_eq, begins_of_isDigit digit⟩
  | string value => exact ⟨'"', _, rfl, by decide, by decide⟩
  | array => exact ⟨'[', _, rfl, by decide, by decide⟩
  | object => exact ⟨'{', _, rfl, by decide, by decide⟩

theorem skipSpace_cons {first : Char} (not_space : isSpace first = false) (rest : List Char) :
    skipSpace (first :: rest) = first :: rest := by
  rw [skipSpace, List.dropWhile_cons, not_space, if_neg Bool.false_ne_true]

/-- What begins with a digit is scanned as a number. -/
theorem scanValue_of_isDigit {first : Char} (digit : first.isDigit = true) (rest : List Char)
    (fuel : Nat) : scanValue (fuel + 1) (first :: rest) = scanNumber (first :: rest) := by
  rw [scanValue, skipSpace_cons (begins_of_isDigit digit).not_space]
  split
  · rename_i same
    cases same
  all_goals
    rename_i same
    obtain ⟨head, tail⟩ := List.cons.inj same
    first
      | exact absurd head (ne_of_isDigit digit rfl)
      | rw [← head, ← tail, digit, Bool.or_true, if_pos rfl]

/-- The value is scanned as its outline wherever it stands, with two steps for each character. -/
def ScansBack (json : Json) : Prop :=
  ∀ fuel rest, 2 * json.chars.length ≤ fuel → Closes rest →
    scanValue fuel (json.chars ++ rest) = (json.outline, some rest)

theorem scansBack_natural (value : UInt64) : ScansBack (.natural value) := by
  intro fuel rest enough closes
  obtain ⟨first, others, digits_eq, digit⟩ := exists_cons_toDigits value.toNat
  obtain ⟨left, rfl⟩ : ∃ left, fuel = left + 1 := by
    refine ⟨fuel - 1, ?_⟩
    rw [chars_natural, digits_eq, List.length_cons] at enough
    omega
  rw [chars_natural, digits_eq, List.cons_append,
    scanValue_of_isDigit digit, ← List.cons_append, ← digits_eq,
    scanNumber, Numeral.scan_toDigits _ closes]
  simp only [Numeral.value_toDigits]
  rfl

/-- A string is scanned wherever it stands, also as a name. -/
theorem scanValue_stringChars (value : String) (rest : List Char) (fuel : Nat) :
    scanValue (fuel + 1) (stringChars value ++ rest) =
      (.string (.ok value) (.ok ()), some rest) := by
  rw [stringChars, List.cons_append, List.cons_append, List.append_assoc, scanValue,
    skipSpace_cons (by decide)]
  exact scanString_escaped value rest

theorem closes_cons {next : Char} (closes : next = ',' ∨ next = ']' ∨ next = '}')
    (rest : List Char) : Closes (next :: rest) := by
  intro found found_eq
  cases found_eq
  exact closes

theorem itemChars_cons_cons (item next : Json) (items : List Json) :
    itemChars (item :: next :: items) = item.chars ++ ',' :: itemChars (next :: items) := by
  rw [itemChars]
  simp

/-- Items that are scanned as themselves are scanned one after the other. -/
theorem scanItems_itemChars {item : Json} {items : List Json}
    (scans : ∀ part ∈ item :: items, ScansBack part) (fuel : Nat) (rest : List Char)
    (enough : 2 * (itemChars (item :: items)).length + 1 ≤ fuel) :
    scanItems fuel (itemChars (item :: items) ++ ']' :: rest) =
      (outlines (item :: items), .ok (), some rest) := by
  obtain ⟨left, rfl⟩ : ∃ left, fuel = left + 1 := ⟨fuel - 1, by omega⟩
  have item_scans := scans item List.mem_cons_self
  -- the scan takes one step for the item and one for what is left of the array
  induction items generalizing item left with
  | nil =>
    rw [itemChars] at enough ⊢
    rw [scanItems, item_scans left _ (by omega) (closes_cons (by simp) _)]
    rfl
  | cons next items ih =>
    rw [itemChars_cons_cons] at enough ⊢
    rw [List.length_append, List.length_cons] at enough
    obtain ⟨fewer, rfl⟩ : ∃ fewer, left = fewer + 1 := ⟨left - 1, by omega⟩
    have later := ih (fun part found => scans part (List.mem_cons_of_mem _ found)) fewer
      (by omega) (scans next (by simp))
    rw [List.append_assoc, List.cons_append, scanItems,
      item_scans (fewer + 1) _ (by omega) (closes_cons (by simp) _)]
    simp only [Option.map_some, skipSpace_cons (show isSpace ',' = false by decide), later]
    rfl

/-- An array with something in it is scanned item by item. -/
theorem scanValue_bracket {first : Char} (begins : Begins first) (rest : List Char) (fuel : Nat) :
    scanValue (fuel + 1) ('[' :: first :: rest) =
      (.array (scanItems fuel (first :: rest)).1 (scanItems fuel (first :: rest)).2.1,
        (scanItems fuel (first :: rest)).2.2) := by
  have inside : skipSpace (first :: rest) = first :: rest := skipSpace_cons begins.not_space rest
  rw [scanValue, skipSpace_cons (by decide)]
  simp only [inside]
  split
  · rename_i same
    exact absurd (List.cons.inj same).1 begins.not_closing
  · rename_i same
    cases same
  · rfl

theorem scansBack_array {items : List Json} (plain : ∀ item ∈ items, Plain item)
    (scans : ∀ item ∈ items, ScansBack item) : ScansBack (.array items) := by
  intro fuel rest enough closes
  rw [chars, List.cons_append, List.cons_append, List.append_assoc, List.cons_append,
    List.nil_append]
  rw [chars, List.length_append, List.length_cons] at enough
  obtain ⟨left, rfl⟩ : ∃ left, fuel = left + 1 := ⟨fuel - 1, by omega⟩
  cases items with
  | nil => rfl
  | cons item items =>
    have inside := scanItems_itemChars scans left rest (by simp at enough; omega)
    -- the array is not taken for an empty one, since no item begins with a bracket that closes
    have opening : ∃ first others, itemChars (item :: items) = first :: others ∧ Begins first := by
      obtain ⟨first, others, chars_eq, begins⟩ := exists_begins (plain item List.mem_cons_self)
      cases items with
      | nil => exact ⟨first, others, chars_eq, begins⟩
      | cons next items => exact ⟨first, _, by rw [itemChars_cons_cons, chars_eq]; rfl, begins⟩
    obtain ⟨first, others, chars_eq, begins⟩ := opening
    rw [chars_eq, List.cons_append] at inside ⊢
    rw [scanValue_bracket begins, inside]
    rfl

/-! Objects go like arrays, with a name and a colon before each value. -/

theorem memberChars_cons_cons (name : String) (value : Json) (next : String × Json)
    (members : List (String × Json)) :
    memberChars ((name, value) :: next :: members) =
      stringChars name ++ ':' :: (value.chars ++ ',' :: memberChars (next :: members)) := by
  rw [memberChars] <;> simp

/-- Members whose values are scanned as themselves are scanned one after the other. -/
theorem scanMembers_memberChars {name : String} {value : Json} {members : List (String × Json)}
    (scans : ∀ member ∈ (name, value) :: members, ScansBack member.2) (fuel : Nat)
    (rest : List Char)
    (enough : 2 * (memberChars ((name, value) :: members)).length + 1 ≤ fuel) :
    scanMembers fuel (memberChars ((name, value) :: members) ++ '}' :: rest) =
      (memberOutlines ((name, value) :: members), .ok (), some rest) := by
  obtain ⟨left, rfl⟩ : ∃ left, fuel = left + 1 := ⟨fuel - 1, by omega⟩
  have value_scans := scans (name, value) List.mem_cons_self
  have colon := skipSpace_cons (show isSpace ':' = false by decide)
  have quotes : ∀ text : String, 2 ≤ (stringChars text).length := fun text => by
    rw [stringChars, List.cons_append, List.length_cons, List.length_append, List.length_singleton]
    omega
  have name_long := quotes name
  induction members generalizing name value left with
  | nil =>
    rw [memberChars] at enough ⊢
    rw [List.length_append, List.length_cons] at enough
    obtain ⟨fewer, rfl⟩ : ∃ fewer, left = fewer + 1 := ⟨left - 1, by omega⟩
    rw [List.append_assoc, List.cons_append, scanMembers, scanValue_stringChars]
    simp only [Option.map_some, colon]
    rw [value_scans (fewer + 1) _ (by dsimp only; omega) (closes_cons (by simp) _)]
    rfl
  | cons next members ih =>
    obtain ⟨next_name, next_value⟩ := next
    rw [memberChars_cons_cons] at enough ⊢
    rw [List.length_append, List.length_cons, List.length_append, List.length_cons] at enough
    obtain ⟨fewer, rfl⟩ : ∃ fewer, left = fewer + 1 := ⟨left - 1, by omega⟩
    have later := ih (fun member found => scans member (List.mem_cons_of_mem _ found)) fewer
      (by omega) (scans (next_name, next_value) (by simp)) (quotes next_name)
    rw [List.append_assoc, List.cons_append, List.append_assoc, List.cons_append, scanMembers,
      scanValue_stringChars]
    simp only [Option.map_some, colon]
    rw [value_scans (fewer + 1) _ (by dsimp only; omega) (closes_cons (by simp) _)]
    simp only [Option.map_some, skipSpace_cons (show isSpace ',' = false by decide), later]
    rfl

/-- An object with something in it is scanned member by member. -/
theorem scanValue_brace (rest : List Char) (fuel : Nat) :
    scanValue (fuel + 1) ('{' :: '"' :: rest) =
      (.object (scanMembers fuel ('"' :: rest)).1 (scanMembers fuel ('"' :: rest)).2.1,
        (scanMembers fuel ('"' :: rest)).2.2) := rfl

theorem scansBack_object {members : List (String × Json)}
    (scans : ∀ member ∈ members, ScansBack member.2) : ScansBack (.object members) := by
  intro fuel rest enough closes
  rw [chars, List.cons_append, List.cons_append, List.append_assoc, List.cons_append,
    List.nil_append]
  rw [chars, List.length_append, List.length_cons] at enough
  obtain ⟨left, rfl⟩ : ∃ left, fuel = left + 1 := ⟨fuel - 1, by omega⟩
  match members with
  | [] => rfl
  | (name, value) :: members =>
    have inside := scanMembers_memberChars scans left rest (by simp at enough; omega)
    obtain ⟨others, chars_eq⟩ :
        ∃ others, memberChars ((name, value) :: members) = '"' :: others := by
      cases members with
      | nil => exact ⟨_, rfl⟩
      | cons next members => exact ⟨_, by rw [memberChars_cons_cons, stringChars]; rfl⟩
    rw [chars_eq, List.cons_append] at inside ⊢
    rw [scanValue_brace, inside]
    rfl

/-- **A value whose numbers are natural is scanned as itself.** -/
theorem scansBack {json : Json} (plain : Plain json) : ScansBack json := by
  induction plain with
  | null =>
    intro fuel rest enough _
    have enough : 2 * 4 ≤ fuel := enough
    obtain ⟨left, rfl⟩ : ∃ left, fuel = left + 1 := ⟨fuel - 1, by omega⟩
    rfl
  | boolean value =>
    intro fuel rest enough _
    have some_length : 0 < (Json.boolean value).chars.length := by cases value <;> decide
    obtain ⟨left, rfl⟩ : ∃ left, fuel = left + 1 := ⟨fuel - 1, by omega⟩
    cases value <;> rfl
  | natural value => exact scansBack_natural value
  | string value =>
    intro fuel rest enough _
    obtain ⟨left, rfl⟩ : ∃ left, fuel = left + 1 := by
      refine ⟨fuel - 1, ?_⟩
      rw [chars, stringChars, List.cons_append, List.length_cons] at enough
      omega
    exact scanValue_stringChars value rest left
  | array plain scans => exact scansBack_array plain scans
  | object plain scans => exact scansBack_object scans

/-- What is printed is scanned down to its end. -/
theorem scan_print {json : Json} (plain : Plain json) :
    scan json.print.toList = (json.outline, some []) := by
  have scans := scansBack plain (2 * json.chars.length + 2) [] (by omega) nofun
  rw [List.append_nil] at scans
  rw [scan, print, String.toList_ofList]
  exact scans

end TokenLedger.Json
