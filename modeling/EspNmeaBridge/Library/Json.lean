import Mathlib.Data.List.Basic

/-!
# JSON texts

Values, the texts that represent them, and a parser for the whole of RFC 8259.  The
parser reads back every value from its text (`parse_render`).

`render` puts the text of a value in front of another text, so that the text of a
composite value is written without appending.  The parser returns what is left of its
input; it recurses on fuel, of which the length of the input is enough.
-/

namespace Library

/-- A JSON value.  A number is `mantissa * 10 ^ exponent`. -/
inductive Json where
  | null
  | bool (value : Bool)
  | number (mantissa exponent : Int)
  | string (value : String)
  | array (items : List Json)
  | object (members : List (String × Json))

namespace Json

/-- The member of an object; of members with the same name, the last one counts. -/
def member? (name : String) : Json → Option Json
  | object members => (members.reverse.find? fun member => member.1 = name).map (·.2)
  | _ => none

/-- The value at a path of member names. -/
def path? (value : Json) (names : List String) : Option Json :=
  names.foldlM (fun value name => value.member? name) value

section Rendering

/-- The lower-case hexadecimal digit. -/
def hexDigit (value : Nat) : Char := value.digitChar

def renderChar (c : Char) (rest : List Char) : List Char :=
  if c = '"' ∨ c = '\\' then '\\' :: c :: rest
  else if c.toNat < 0x20 then
    '\\' :: 'u' :: '0' :: '0' :: hexDigit (c.toNat / 16) :: hexDigit (c.toNat % 16) :: rest
  else c :: rest

def renderString (value : String) (rest : List Char) : List Char :=
  '"' :: value.toList.foldr renderChar ('"' :: rest)

def renderInt (value : Int) (rest : List Char) : List Char :=
  match value with
  | .ofNat value => Nat.toDigits 10 value ++ rest
  | .negSucc value => '-' :: (Nat.toDigits 10 (value + 1) ++ rest)

def renderNumber (mantissa exponent : Int) (rest : List Char) : List Char :=
  renderInt mantissa (if exponent = 0 then rest else 'e' :: renderInt exponent rest)

mutual

/-- The text of a value in front of `rest`. -/
def render : Json → List Char → List Char
  | null, rest => 'n' :: 'u' :: 'l' :: 'l' :: rest
  | bool true, rest => 't' :: 'r' :: 'u' :: 'e' :: rest
  | bool false, rest => 'f' :: 'a' :: 'l' :: 's' :: 'e' :: rest
  | number mantissa exponent, rest => renderNumber mantissa exponent rest
  | string value, rest => renderString value rest
  | array [], rest => '[' :: ']' :: rest
  | array (item :: items), rest => '[' :: render item (renderItems items rest)
  | object [], rest => '\x7b' :: '\x7d' :: rest
  | object ((name, value) :: members), rest =>
      '\x7b' :: renderString name (':' :: render value (renderMembers members rest))

/-- The other items of an array, and its end. -/
def renderItems : List Json → List Char → List Char
  | [], rest => ']' :: rest
  | item :: items, rest => ',' :: render item (renderItems items rest)

/-- The other members of an object, and its end. -/
def renderMembers : List (String × Json) → List Char → List Char
  | [], rest => '\x7d' :: rest
  | (name, value) :: members, rest =>
      ',' :: renderString name (':' :: render value (renderMembers members rest))

end

end Rendering

section Parsing

/-- Blank, tabulator, line feed and carriage return. -/
def isWhitespace (c : Char) : Bool := c = ' ' ∨ c = '\t' ∨ c = '\n' ∨ c = '\r'

def skipWhitespace (text : List Char) : List Char := text.dropWhile isWhitespace

/-- What follows a token, if the text starts with it. -/
def expect (token : Char) (text : List Char) : Option (List Char) :=
  match skipWhitespace text with
  | c :: rest => if c = token then some rest else none
  | [] => none

def hexValue (c : Char) : Option Nat :=
  if c.isDigit then some (c.toNat - '0'.toNat)
  else if 'a' ≤ c ∧ c ≤ 'f' then some (c.toNat - 'a'.toNat + 10)
  else if 'A' ≤ c ∧ c ≤ 'F' then some (c.toNat - 'A'.toNat + 10)
  else none

/-- The four hexadecimal digits of a `\u` escape. -/
def parseHex : List Char → Option (Nat × List Char)
  | a :: b :: c :: d :: rest => do
      let a ← hexValue a
      let b ← hexValue b
      let c ← hexValue c
      let d ← hexValue d
      some (((a * 16 + b) * 16 + c) * 16 + d, rest)
  | _ => none

/-- A `\u` escape; a character outside the basic plane takes a pair of them. -/
def parseUnicode (text : List Char) : Option (Char × List Char) := do
  let (code, text) ← parseHex text
  if code < 0xD800 ∨ 0xDFFF < code then some (Char.ofNat code, text)
  else if code < 0xDC00 then
    match text with
    | '\\' :: 'u' :: text => do
        let (low, text) ← parseHex text
        if 0xDC00 ≤ low ∧ low ≤ 0xDFFF then
          some (Char.ofNat (0x10000 + (code - 0xD800) * 0x400 + (low - 0xDC00)), text)
        else none
    | _ => none
  else none

/-- What follows a backslash. -/
def parseEscape : List Char → Option (Char × List Char)
  | 'b' :: rest => some ('\x08', rest)
  | 'f' :: rest => some ('\x0c', rest)
  | 'n' :: rest => some ('\n', rest)
  | 'r' :: rest => some ('\r', rest)
  | 't' :: rest => some ('\t', rest)
  | 'u' :: rest => parseUnicode rest
  | c :: rest => if c = '"' ∨ c = '\\' ∨ c = '/' then some (c, rest) else none
  | [] => none

/-- The characters of a string up to its closing quote. -/
def parseChars : Nat → List Char → Option (List Char × List Char)
  | 0, _ => none
  | fuel + 1, c :: rest =>
      if c = '"' then some ([], rest)
      else if c = '\\' then do
        let (c, rest) ← parseEscape rest
        let (chars, rest) ← parseChars fuel rest
        some (c :: chars, rest)
      else if c.toNat < 0x20 then none
      else do
        let (chars, rest) ← parseChars fuel rest
        some (c :: chars, rest)
  | _ + 1, [] => none

/-- A string behind its opening quote. -/
def parseString (text : List Char) : Option (String × List Char) := do
  let (chars, text) ← parseChars (text.length + 1) text
  some (String.ofList chars, text)

/-- A nonempty run of digits. -/
def parseDigits (text : List Char) : Option (List Char × List Char) :=
  let digits := text.takeWhile Char.isDigit
  if digits = [] then none else some (digits, text.dropWhile Char.isDigit)

def parseFraction : List Char → Option (List Char × List Char)
  | '.' :: rest => parseDigits rest
  | text => some ([], text)

def signed (negative : Bool) (digits : List Char) : Int :=
  let magnitude : Int := Nat.ofDigitChars 10 digits 0
  if negative then -magnitude else magnitude

/-- An integer that may have a plus sign and leading zeros. -/
def parseInt : List Char → Option (Int × List Char)
  | '-' :: rest => (parseDigits rest).map fun (digits, rest) => (signed true digits, rest)
  | '+' :: rest => (parseDigits rest).map fun (digits, rest) => (signed false digits, rest)
  | rest => (parseDigits rest).map fun (digits, rest) => (signed false digits, rest)

def parseExponent : List Char → Option (Int × List Char)
  | 'e' :: rest => parseInt rest
  | 'E' :: rest => parseInt rest
  | text => some (0, text)

/-- A number behind its sign; only zero itself starts with a zero. -/
def parseUnsigned (negative : Bool) (text : List Char) : Option (Json × List Char) := do
  let (whole, text) ← parseDigits text
  if whole.head? = some '0' ∧ whole ≠ ['0'] then none
  else
    let (fraction, text) ← parseFraction text
    let (exponent, text) ← parseExponent text
    some (number (signed negative (whole ++ fraction)) (exponent - fraction.length), text)

def parseNumber : List Char → Option (Json × List Char)
  | '-' :: rest => parseUnsigned true rest
  | rest => parseUnsigned false rest

mutual

def parseValue : Nat → List Char → Option (Json × List Char)
  | 0, _ => none
  | fuel + 1, text =>
      match skipWhitespace text with
      | 'n' :: 'u' :: 'l' :: 'l' :: rest => some (null, rest)
      | 't' :: 'r' :: 'u' :: 'e' :: rest => some (bool true, rest)
      | 'f' :: 'a' :: 'l' :: 's' :: 'e' :: rest => some (bool false, rest)
      | '"' :: rest => do
          let (value, rest) ← parseString rest
          some (string value, rest)
      | '[' :: rest =>
          match expect ']' rest with
          | some rest => some (array [], rest)
          | none => do
              let (item, rest) ← parseValue fuel rest
              let (items, rest) ← parseItems fuel rest
              some (array (item :: items), rest)
      | '\x7b' :: rest =>
          match expect '\x7d' rest with
          | some rest => some (object [], rest)
          | none => do
              let (member, rest) ← parseMember fuel rest
              let (members, rest) ← parseMembers fuel rest
              some (object (member :: members), rest)
      | text => parseNumber text

/-- The other items of an array, up to its end. -/
def parseItems : Nat → List Char → Option (List Json × List Char)
  | 0, _ => none
  | fuel + 1, text =>
      match expect ']' text with
      | some rest => some ([], rest)
      | none => do
          let rest ← expect ',' text
          let (item, rest) ← parseValue fuel rest
          let (items, rest) ← parseItems fuel rest
          some (item :: items, rest)

def parseMember : Nat → List Char → Option ((String × Json) × List Char)
  | 0, _ => none
  | fuel + 1, text => do
      let rest ← expect '"' text
      let (name, rest) ← parseString rest
      let rest ← expect ':' rest
      let (value, rest) ← parseValue fuel rest
      some ((name, value), rest)

/-- The other members of an object, up to its end. -/
def parseMembers : Nat → List Char → Option (List (String × Json) × List Char)
  | 0, _ => none
  | fuel + 1, text =>
      match expect '\x7d' text with
      | some rest => some ([], rest)
      | none => do
          let rest ← expect ',' text
          let (member, rest) ← parseMember fuel rest
          let (members, rest) ← parseMembers fuel rest
          some (member :: members, rest)

end

/-- A text that is one value, with whitespace around it. -/
def parse (text : List Char) : Option Json := do
  let (value, rest) ← parseValue (text.length + 1) text
  if skipWhitespace rest = [] then some value else none

end Parsing

section RoundTrip

variable {c token : Char} {text rest : List Char}

@[simp] theorem skipWhitespace_cons (visible : isWhitespace c = false) :
    skipWhitespace (c :: rest) = c :: rest := by
  simp [skipWhitespace, visible]

theorem expect_cons (visible : isWhitespace c = false) :
    expect token (c :: rest) = if c = token then some rest else none := by
  simp [expect, visible]

theorem hexValue_hexDigit : ∀ value < 16, hexValue (hexDigit value) = some value := by decide

theorem length_lt_renderChar (c : Char) (rest : List Char) :
    rest.length < (renderChar c rest).length := by
  unfold renderChar
  split
  · simp only [List.length_cons]
    omega
  · split <;> simp only [List.length_cons] <;> omega

/-- An escaped control character is read back. -/
theorem parseUnicode_control (control : c.toNat < 0x20) :
    parseUnicode ('0' :: '0' :: hexDigit (c.toNat / 16) :: hexDigit (c.toNat % 16) :: rest) =
      some (c, rest) := by
  have zero : hexValue '0' = some 0 := rfl
  have high := hexValue_hexDigit (c.toNat / 16) (by omega)
  have low := hexValue_hexDigit (c.toNat % 16) (Nat.mod_lt _ (by decide))
  have code : ((0 * 16 + 0) * 16 + c.toNat / 16) * 16 + c.toNat % 16 = c.toNat := by omega
  have basic : c.toNat < 0xD800 ∨ 0xDFFF < c.toNat := Or.inl (by omega)
  have digits : parseHex ('0' :: '0' :: hexDigit (c.toNat / 16) :: hexDigit (c.toNat % 16) ::
      rest) = some (c.toNat, rest) := by
    simp only [parseHex, zero, high, low]
    exact congrArg (fun code => some (code, rest)) code
  rw [parseUnicode, digits]
  simp [basic]

theorem parseChars_renderChar (fuel : Nat) (c : Char) (rest : List Char) :
    parseChars (fuel + 1) (renderChar c rest) =
      (parseChars fuel rest).map fun (chars, rest) => (c :: chars, rest) := by
  have rebind : (parseChars fuel rest).map (fun (chars, rest) => (c :: chars, rest)) =
      (parseChars fuel rest).bind fun (chars, rest) => some (c :: chars, rest) := by
    cases parseChars fuel rest <;> rfl
  rw [rebind]
  by_cases escaped : c = '"' ∨ c = '\\'
  · rw [renderChar, if_pos escaped]
    cases escaped with
    | inl quote =>
        subst quote
        rfl
    | inr backslash =>
        subst backslash
        rfl
  · rw [renderChar, if_neg escaped]
    by_cases control : c.toNat < 0x20
    · rw [if_pos control]
      simp [parseChars, parseEscape, parseUnicode_control control]
    · rw [if_neg control]
      obtain ⟨quote, backslash⟩ := not_or.mp escaped
      simp only [parseChars, if_neg quote, if_neg backslash, if_neg control]
      rfl

theorem parseChars_foldr (chars rest : List Char) {fuel : Nat} (enough : chars.length < fuel) :
    parseChars fuel (chars.foldr renderChar ('"' :: rest)) = some (chars, rest) := by
  induction chars generalizing fuel with
  | nil =>
      cases fuel with
      | zero => contradiction
      | succ fuel => rfl
  | cons c chars ih =>
      cases fuel with
      | zero => contradiction
      | succ fuel =>
          rw [List.foldr_cons, parseChars_renderChar, ih (Nat.lt_of_succ_lt_succ enough)]
          rfl

theorem length_lt_foldr (chars rest : List Char) :
    chars.length + rest.length ≤ (chars.foldr renderChar rest).length := by
  induction chars with
  | nil => simp
  | cons c chars ih =>
      have longer := length_lt_renderChar c (chars.foldr renderChar rest)
      simp only [List.length_cons, List.foldr_cons]
      omega

theorem parseString_renderString (value : String) (rest : List Char) :
    parseString (value.toList.foldr renderChar ('"' :: rest)) = some (value, rest) := by
  have enough := length_lt_foldr value.toList ('"' :: rest)
  rw [List.length_cons] at enough
  rw [parseString, parseChars_foldr value.toList rest (by omega)]
  simp

/-- What may follow a number. -/
def EndsNumber (rest : List Char) : Prop :=
  ∀ c ∈ rest.head?, c.isDigit = false ∧ c ≠ '.' ∧ c ≠ 'e' ∧ c ≠ 'E'

theorem parseDigits_toDigits (value : Nat) (ends : ∀ c ∈ rest.head?, c.isDigit = false) :
    parseDigits (Nat.toDigits 10 value ++ rest) = some (Nat.toDigits 10 value, rest) := by
  have digits : ∀ c ∈ Nat.toDigits 10 value, c.isDigit = true :=
    fun c member => Nat.isDigit_of_mem_toDigits (by decide) (by decide) member
  have taken : rest.takeWhile Char.isDigit = [] := by
    cases rest with
    | nil => rfl
    | cons c rest => simp [ends c rfl]
  have dropped : rest.dropWhile Char.isDigit = rest := by
    cases rest with
    | nil => rfl
    | cons c rest => simp [ends c rfl]
  rw [parseDigits, List.takeWhile_append_of_pos digits, List.dropWhile_append_of_pos digits,
    taken, dropped, List.append_nil]
  simp [Nat.toDigits_ne_nil]

/-- Only the digits of zero start with a zero. -/
theorem head_toDigits_ne_zero {value : Nat} (positive : 0 < value) :
    (Nat.toDigits 10 value).head? ≠ some '0' := by
  have digit : ∀ value < 10, 0 < value → Nat.digitChar value ≠ '0' := by decide
  induction value using Nat.strongRecOn with
  | ind value ih =>
      by_cases small : value < 10
      · rw [Nat.toDigits_of_lt_base small]
        simpa using digit value small positive
      · rw [Nat.toDigits_of_base_le (by decide) (Nat.le_of_not_lt small),
          List.head?_append_of_ne_nil _ Nat.toDigits_ne_nil]
        exact ih (value / 10) (by omega) (by omega)

theorem exists_toDigits_eq (value : Nat) :
    ∃ first others, Nat.toDigits 10 value = first :: others ∧ first.isDigit = true := by
  obtain ⟨first, others, split⟩ := List.exists_cons_of_ne_nil (Nat.toDigits_ne_nil (n := value))
  refine ⟨first, others, split, ?_⟩
  exact Nat.isDigit_of_mem_toDigits (by decide) (by decide) (split ▸ List.mem_cons_self)

theorem ne_of_isDigit {other : Char} (digit : c.isDigit = true) (letter : other.isDigit = false) :
    c ≠ other := by
  intro same
  rw [same, letter] at digit
  contradiction

theorem parseInt_digits (value : Nat) (ends : ∀ c ∈ rest.head?, c.isDigit = false) :
    parseInt (Nat.toDigits 10 value ++ rest) = some ((value : Int), rest) := by
  have digits := parseDigits_toDigits value ends
  obtain ⟨first, others, split, digit⟩ := exists_toDigits_eq value
  have unsigned : parseInt (Nat.toDigits 10 value ++ rest) =
      (parseDigits (Nat.toDigits 10 value ++ rest)).map
        fun (digits, rest) => (signed false digits, rest) := by
    rw [split, List.cons_append]
    exact parseInt.eq_3 _ (fun _ same => ne_of_isDigit digit rfl (List.cons.inj same).1)
      (fun _ same => ne_of_isDigit digit rfl (List.cons.inj same).1)
  rw [unsigned, digits]
  simp [signed, Nat.ofDigitChars_ten_toDigits]

theorem parseInt_renderInt (value : Int) (ends : ∀ c ∈ rest.head?, c.isDigit = false) :
    parseInt (renderInt value rest) = some (value, rest) := by
  cases value with
  | ofNat value => exact parseInt_digits value ends
  | negSucc value =>
      simp only [renderInt, parseInt, parseDigits_toDigits (value + 1) ends, Option.map_some,
        signed, Nat.ofDigitChars_ten_toDigits, if_true]
      rfl

theorem parseExponent_render (exponent : Int) (ends : EndsNumber rest) :
    parseExponent (if exponent = 0 then rest else 'e' :: renderInt exponent rest) =
      some (exponent, rest) := by
  by_cases zero : exponent = 0
  · rw [if_pos zero, zero]
    exact parseExponent.eq_3 _ (fun tail same => (ends 'e' (by simp [same])).2.2.1 rfl)
      (fun tail same => (ends 'E' (by simp [same])).2.2.2 rfl)
  · rw [if_neg zero]
    exact parseInt_renderInt exponent fun c next => (ends c next).1

theorem parseUnsigned_toDigits (negative : Bool) (value : Nat) (exponent : Int)
    (ends : EndsNumber rest) :
    parseUnsigned negative
        (Nat.toDigits 10 value ++ if exponent = 0 then rest else 'e' :: renderInt exponent rest) =
      some (number (if negative then -value else value) exponent, rest) := by
  have expanded := parseExponent_render exponent ends
  have follows : ∀ c ∈ (if exponent = 0 then rest else 'e' :: renderInt exponent rest).head?,
      c.isDigit = false ∧ c ≠ '.' := by
    by_cases zero : exponent = 0
    · rw [if_pos zero]
      exact fun c next => ⟨(ends c next).1, (ends c next).2.1⟩
    · rw [if_neg zero]
      simp
  generalize (if exponent = 0 then rest else 'e' :: renderInt exponent rest) = tail at *
  have whole := parseDigits_toDigits value fun c next => (follows c next).1
  have fraction : parseFraction tail = some ([], tail) := by
    apply parseFraction.eq_2
    intro after same
    exact (follows '.' (by simp [same])).2 rfl
  have leading : ¬ ((Nat.toDigits 10 value).head? = some '0' ∧ Nat.toDigits 10 value ≠ ['0']) := by
    cases value with
    | zero => simp
    | succ value => exact fun both => head_toDigits_ne_zero (Nat.succ_pos value) both.1
  simp [parseUnsigned, whole, fraction, expanded, leading, signed, Nat.ofDigitChars_ten_toDigits]

theorem parseNumber_renderNumber (mantissa exponent : Int) (ends : EndsNumber rest) :
    parseNumber (renderNumber mantissa exponent rest) = some (number mantissa exponent, rest) := by
  unfold renderNumber
  cases mantissa with
  | ofNat value =>
      have unsigned := parseUnsigned_toDigits false value exponent ends
      obtain ⟨first, others, split, digit⟩ := exists_toDigits_eq value
      rw [renderInt]
      rw [split, List.cons_append] at unsigned ⊢
      rw [parseNumber.eq_2 _ fun _ same => ne_of_isDigit digit rfl (List.cons.inj same).1]
      exact unsigned
  | negSucc value => exact parseUnsigned_toDigits true (value + 1) exponent ends

/-- A number is told by its first character. -/
theorem parseValue_of_number (fuel : Nat) (starts : c = '-' ∨ c.isDigit = true) :
    parseValue (fuel + 1) (c :: text) = parseNumber (c :: text) := by
  have other : ∀ letter : Char, letter.isDigit = false → letter ≠ '-' → c ≠ letter := by
    intro letter notDigit notMinus same
    subst same
    cases starts with
    | inl minus => exact notMinus minus
    | inr digit => simp [notDigit] at digit
  have visible : isWhitespace c = false := by
    simp [isWhitespace, other]
  rw [parseValue, skipWhitespace_cons visible]
  split
  case h_7 => rfl
  all_goals
    rename_i same
    exact absurd (List.cons.inj same).1 (other _ rfl (by decide))

theorem exists_renderNumber_eq (mantissa exponent : Int) (rest : List Char) :
    ∃ c text, renderNumber mantissa exponent rest = c :: text ∧
      (c = '-' ∨ c.isDigit = true) := by
  unfold renderNumber
  cases mantissa with
  | ofNat value =>
      obtain ⟨first, others, split, digit⟩ := exists_toDigits_eq value
      exact ⟨first, _, by rw [renderInt, split, List.cons_append], Or.inr digit⟩
  | negSucc value => exact ⟨'-', _, rfl, Or.inl rfl⟩

/-- A value starts with a visible character that ends no array. -/
theorem exists_render_eq (value : Json) (rest : List Char) :
    ∃ c text, render value rest = c :: text ∧ isWhitespace c = false ∧ c ≠ ']' := by
  cases value with
  | null => exact ⟨'n', _, by rw [render], rfl, by decide⟩
  | bool value =>
      cases value with
      | true => exact ⟨'t', _, by rw [render], rfl, by decide⟩
      | false => exact ⟨'f', _, by rw [render], rfl, by decide⟩
  | number mantissa exponent =>
      obtain ⟨c, text, split, starts⟩ := exists_renderNumber_eq mantissa exponent rest
      refine ⟨c, text, by rw [render, split], ?_, ?_⟩
      · cases starts with
        | inl minus => simp [minus, isWhitespace]
        | inr digit => simp [isWhitespace, ne_of_isDigit digit]
      · cases starts with
        | inl minus => simp [minus]
        | inr digit => exact ne_of_isDigit digit rfl
  | string value => exact ⟨'"', _, by rw [render]; rfl, rfl, by decide⟩
  | array items =>
      cases items with
      | nil => exact ⟨'[', _, by rw [render], rfl, by decide⟩
      | cons item items => exact ⟨'[', _, by rw [render], rfl, by decide⟩
  | object members =>
      cases members with
      | nil => exact ⟨'\x7b', _, by rw [render], rfl, by decide⟩
      | cons member members => exact ⟨'\x7b', _, by rw [render], rfl, by decide⟩

theorem length_lt_renderNumber (mantissa exponent : Int) (rest : List Char) :
    rest.length < (renderNumber mantissa exponent rest).length := by
  have int : ∀ (value : Int) (rest : List Char), rest.length < (renderInt value rest).length := by
    intro value rest
    cases value with
    | ofNat value =>
        have positive := Nat.length_toDigits_pos (b := 10) (n := value)
        simp only [renderInt, List.length_append]
        omega
    | negSucc value =>
        simp only [renderInt, List.length_cons, List.length_append]
        omega
  have mantissaLonger := int mantissa
    (if exponent = 0 then rest else 'e' :: renderInt exponent rest)
  have exponentLonger := int exponent rest
  unfold renderNumber
  split at mantissaLonger
  · rw [if_pos ‹_›]
    exact mantissaLonger
  · rw [if_neg ‹_›]
    rw [List.length_cons] at mantissaLonger
    omega

theorem length_lt_renderString (value : String) (rest : List Char) :
    rest.length < (renderString value rest).length := by
  have longer := length_lt_foldr value.toList ('"' :: rest)
  simp only [renderString, List.length_cons] at longer ⊢
  omega

mutual

theorem length_lt_render : (value : Json) → (rest : List Char) →
    rest.length < (render value rest).length
  | null, rest => by
      simp only [render, List.length_cons]
      omega
  | bool true, rest => by
      simp only [render, List.length_cons]
      omega
  | bool false, rest => by
      simp only [render, List.length_cons]
      omega
  | number mantissa exponent, rest => by
      rw [render]
      exact length_lt_renderNumber mantissa exponent rest
  | string value, rest => by
      rw [render]
      exact length_lt_renderString value rest
  | array [], rest => by
      simp only [render, List.length_cons]
      omega
  | array (item :: items), rest => by
      have first := length_lt_render item (renderItems items rest)
      have others := length_lt_renderItems items rest
      rw [render, List.length_cons]
      omega
  | object [], rest => by
      simp only [render, List.length_cons]
      omega
  | object ((name, value) :: members), rest => by
      have first := length_lt_renderString name (':' :: render value (renderMembers members rest))
      have second := length_lt_render value (renderMembers members rest)
      have others := length_lt_renderMembers members rest
      rw [List.length_cons] at first
      rw [render, List.length_cons]
      omega

theorem length_lt_renderItems : (items : List Json) → (rest : List Char) →
    rest.length < (renderItems items rest).length
  | [], rest => by simp [renderItems]
  | item :: items, rest => by
      have first := length_lt_render item (renderItems items rest)
      have others := length_lt_renderItems items rest
      rw [renderItems, List.length_cons]
      omega

theorem length_lt_renderMembers : (members : List (String × Json)) → (rest : List Char) →
    rest.length < (renderMembers members rest).length
  | [], rest => by simp [renderMembers]
  | (name, value) :: members, rest => by
      have first := length_lt_renderString name (':' :: render value (renderMembers members rest))
      have second := length_lt_render value (renderMembers members rest)
      have others := length_lt_renderMembers members rest
      rw [List.length_cons] at first
      rw [renderMembers, List.length_cons]
      omega

end

theorem endsNumber_renderItems (items : List Json) (rest : List Char) :
    EndsNumber (renderItems items rest) := by
  cases items with
  | nil => simp [renderItems, EndsNumber]
  | cons item items => simp [renderItems, EndsNumber]

theorem endsNumber_renderMembers (members : List (String × Json)) (rest : List Char) :
    EndsNumber (renderMembers members rest) := by
  cases members with
  | nil => simp [renderMembers, EndsNumber]
  | cons member members => simp [renderMembers, EndsNumber]

theorem expect_render_eq_none (value : Json) (rest : List Char) :
    expect ']' (render value rest) = none := by
  obtain ⟨c, text, split, visible, opens⟩ := exists_render_eq value rest
  rw [split, expect_cons visible, if_neg opens]

theorem expect_renderString_eq_none (value : String) (rest : List Char) :
    expect '\x7d' (renderString value rest) = none := rfl

theorem parseMember_render (name : String) {value : Json} {fuel : Nat}
    (read : parseValue fuel (render value rest) = some (value, rest)) :
    parseMember (fuel + 1) (renderString name (':' :: render value rest)) =
      some ((name, value), rest) := by
  have quote : expect '"' (renderString name (':' :: render value rest)) =
      some (name.toList.foldr renderChar ('"' :: ':' :: render value rest)) := rfl
  have colon : expect ':' (':' :: render value rest) = some (render value rest) := rfl
  simp [parseMember, quote, parseString_renderString, colon, read]

mutual

theorem parseValue_render : (value : Json) → (rest : List Char) → (fuel : Nat) →
    EndsNumber rest → (render value rest).length ≤ fuel + rest.length →
    parseValue fuel (render value rest) = some (value, rest)
  | value, rest, 0, ends, enough => by
      have longer := length_lt_render value rest
      omega
  | null, rest, fuel + 1, ends, enough => rfl
  | bool true, rest, fuel + 1, ends, enough => rfl
  | bool false, rest, fuel + 1, ends, enough => rfl
  | number mantissa exponent, rest, fuel + 1, ends, enough => by
      obtain ⟨c, text, split, starts⟩ := exists_renderNumber_eq mantissa exponent rest
      rw [render, split, parseValue_of_number fuel starts, ← split]
      exact parseNumber_renderNumber mantissa exponent ends
  | string value, rest, fuel + 1, ends, enough => by
      have read := parseString_renderString value rest
      have start : skipWhitespace (renderString value rest) = renderString value rest := rfl
      rw [render, parseValue, start]
      simp [renderString, read]
  | array [], rest, fuel + 1, ends, enough => rfl
  | array (item :: items), rest, fuel + 1, ends, enough => by
      have longer := length_lt_render item (renderItems items rest)
      rw [render, List.length_cons] at enough
      have others := parseItems_renderItems items rest fuel (by omega)
      have longerItems := length_lt_renderItems items rest
      have first := parseValue_render item (renderItems items rest) fuel
        (endsNumber_renderItems items rest) (by omega)
      have start : skipWhitespace ('[' :: render item (renderItems items rest)) =
          '[' :: render item (renderItems items rest) := rfl
      rw [render, parseValue, start]
      simp [expect_render_eq_none, first, others]
  | object [], rest, fuel + 1, ends, enough => rfl
  | object ((name, value) :: members), rest, fuel + 1, ends, enough => by
      have nameLonger := length_lt_renderString name
        (':' :: render value (renderMembers members rest))
      have valueLonger := length_lt_render value (renderMembers members rest)
      have membersLonger := length_lt_renderMembers members rest
      rw [List.length_cons] at nameLonger
      rw [render, List.length_cons] at enough
      have others := parseMembers_renderMembers members rest fuel (by omega)
      cases fuel with
      | zero => omega
      | succ fuel =>
          have read := parseValue_render value (renderMembers members rest) fuel
            (endsNumber_renderMembers members rest) (by omega)
          have first := parseMember_render name read
          have start : skipWhitespace ('\x7b' :: renderString name (':' ::
              render value (renderMembers members rest))) = '\x7b' :: renderString name (':' ::
              render value (renderMembers members rest)) := rfl
          rw [render, parseValue, start]
          simp [expect_renderString_eq_none, first, others]

theorem parseItems_renderItems : (items : List Json) → (rest : List Char) → (fuel : Nat) →
    (renderItems items rest).length ≤ fuel + rest.length →
    parseItems fuel (renderItems items rest) = some (items, rest)
  | items, rest, 0, enough => by
      have longer := length_lt_renderItems items rest
      omega
  | [], rest, fuel + 1, enough => rfl
  | item :: items, rest, fuel + 1, enough => by
      have longer := length_lt_render item (renderItems items rest)
      have longerItems := length_lt_renderItems items rest
      rw [renderItems, List.length_cons] at enough
      have others := parseItems_renderItems items rest fuel (by omega)
      have first := parseValue_render item (renderItems items rest) fuel
        (endsNumber_renderItems items rest) (by omega)
      have closes : expect ']' (',' :: render item (renderItems items rest)) = none := rfl
      have comma : expect ',' (',' :: render item (renderItems items rest)) =
          some (render item (renderItems items rest)) := rfl
      rw [renderItems, parseItems, closes]
      simp [comma, first, others]

theorem parseMembers_renderMembers : (members : List (String × Json)) → (rest : List Char) →
    (fuel : Nat) → (renderMembers members rest).length ≤ fuel + rest.length →
    parseMembers fuel (renderMembers members rest) = some (members, rest)
  | members, rest, 0, enough => by
      have longer := length_lt_renderMembers members rest
      omega
  | [], rest, fuel + 1, enough => rfl
  | (name, value) :: members, rest, fuel + 1, enough => by
      have nameLonger := length_lt_renderString name
        (':' :: render value (renderMembers members rest))
      have valueLonger := length_lt_render value (renderMembers members rest)
      have membersLonger := length_lt_renderMembers members rest
      rw [List.length_cons] at nameLonger
      rw [renderMembers, List.length_cons] at enough
      have others := parseMembers_renderMembers members rest fuel (by omega)
      cases fuel with
      | zero => omega
      | succ fuel =>
          have read := parseValue_render value (renderMembers members rest) fuel
            (endsNumber_renderMembers members rest) (by omega)
          have first := parseMember_render name read
          have closes : expect '\x7d' (',' :: renderString name (':' ::
              render value (renderMembers members rest))) = none := rfl
          have comma : expect ',' (',' :: renderString name (':' ::
              render value (renderMembers members rest))) = some (renderString name (':' ::
              render value (renderMembers members rest))) := rfl
          rw [renderMembers, parseMembers, closes]
          simp [comma, first, others]

end

/-- Every value is read back from its text. -/
theorem parse_render (value : Json) : parse (render value []) = some value := by
  have ends : EndsNumber [] := fun c next => nomatch next
  have read := parseValue_render value [] ((render value []).length + 1) ends (Nat.le_succ _)
  rw [parse, read]
  rfl

end RoundTrip

end Json

end Library
