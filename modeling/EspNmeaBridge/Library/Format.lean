import EspNmeaBridge.Library.CString

/-!
# Formatted printing

The conversions `%s`, `%u` and `%zu` of the `printf` family, and `snprintf`, which cuts
its output to the size of a buffer but returns the length it would have had.
-/

namespace Library

/-- An argument of a formatted print. -/
inductive FormatArg where
  | string (text : List Char)
  | unsigned (value : UInt32)
  | size (value : Nat)

/-- The text an argument is converted to. -/
def FormatArg.text : FormatArg → List Char
  | string text => text
  | unsigned value => Nat.toDigits 10 value.toNat
  | size value => Nat.toDigits 10 value

/-- The text of a format with its arguments; there is none if a conversion does not
match its argument. -/
def formatted : List Char → List FormatArg → Option (List Char)
  | '%' :: 's' :: format, .string text :: args => (formatted format args).map (text ++ ·)
  | '%' :: 'u' :: format, .unsigned value :: args =>
      (formatted format args).map ((FormatArg.unsigned value).text ++ ·)
  | '%' :: 'z' :: 'u' :: format, .size value :: args =>
      (formatted format args).map ((FormatArg.size value).text ++ ·)
  | '%' :: _, _ => none
  | c :: format, args => (formatted format args).map (c :: ·)
  | [], _ => some []

/-- What `snprintf` stores, up to its NUL, and what it returns. -/
structure Printed where
  stored : List UInt8
  returned : Nat

def snprintf (size : Nat) (format : List Char) (args : List FormatArg) : Option Printed :=
  (formatted format args).map fun text =>
    { stored := cBytes (text.take (size - 1)) ++ [0], returned := text.length }

variable {format text : List Char} {args : List FormatArg} {size : Nat}

/-- The text is no longer than the format and as many arguments of the greatest length. -/
theorem length_formatted_le (bound : Nat) (short : ∀ arg ∈ args, arg.text.length ≤ bound)
    (printed : formatted format args = some text) :
    text.length ≤ format.length + args.length * bound := by
  induction format, args using formatted.induct generalizing text with
  | case1 format argument args ih | case2 format argument args ih | case3 format argument args ih =>
      rw [formatted, Option.map_eq_some_iff] at printed
      obtain ⟨rest, printed, rfl⟩ := printed
      have shorter := ih (fun arg member => short arg (List.mem_cons_of_mem _ member)) printed
      have converted := short _ List.mem_cons_self
      simp only [List.length_append, List.length_cons, FormatArg.text, Nat.add_one_mul] at *
      omega
  | case4 tail args noString noUnsigned noSize =>
      rw [formatted.eq_4 args tail noString noUnsigned noSize] at printed
      contradiction
  | case5 c format args noString noUnsigned noSize other ih =>
      rw [formatted.eq_5 args c format other noString noUnsigned noSize,
        Option.map_eq_some_iff] at printed
      obtain ⟨rest, printed, rfl⟩ := printed
      have shorter := ih short printed
      simp only [List.length_cons]
      omega
  | case6 args =>
      cases printed
      exact Nat.zero_le _

/-- What holds of the characters of the format and of the arguments holds of those of
the text. -/
theorem forall_mem_formatted (holds : Char → Prop) (inFormat : ∀ c ∈ format, holds c)
    (inArgs : ∀ arg ∈ args, ∀ c ∈ arg.text, holds c)
    (printed : formatted format args = some text) : ∀ c ∈ text, holds c := by
  induction format, args using formatted.induct generalizing text with
  | case1 format argument args ih | case2 format argument args ih | case3 format argument args ih =>
      rw [formatted, Option.map_eq_some_iff] at printed
      obtain ⟨rest, printed, rfl⟩ := printed
      have others := ih (fun c member => inFormat c (by simp [member]))
        (fun arg member => inArgs arg (List.mem_cons_of_mem _ member)) printed
      intro c member
      cases List.mem_append.mp member with
      | inl converted => exact inArgs _ List.mem_cons_self c converted
      | inr later => exact others c later
  | case4 tail args noString noUnsigned noSize =>
      rw [formatted.eq_4 args tail noString noUnsigned noSize] at printed
      contradiction
  | case5 first format args noString noUnsigned noSize other ih =>
      rw [formatted.eq_5 args first format other noString noUnsigned noSize,
        Option.map_eq_some_iff] at printed
      obtain ⟨rest, printed, rfl⟩ := printed
      have others := ih (fun c member => inFormat c (List.mem_cons_of_mem _ member)) inArgs printed
      intro c member
      cases List.mem_cons.mp member with
      | inl same => exact same ▸ inFormat first List.mem_cons_self
      | inr later => exact others c later
  | case6 args =>
      cases printed
      exact fun c member => nomatch member

theorem formatted_other {c : Char} (other : c ≠ '%') (format : List Char)
    (args : List FormatArg) :
    formatted (c :: format) args = (formatted format args).map (c :: ·) := by
  apply formatted.eq_5
  · exact other
  · exact fun _ _ _ _ conversion _ => other conversion
  · exact fun _ _ _ _ conversion _ => other conversion
  · exact fun _ _ _ _ conversion _ => other conversion

/-- A text that fits the buffer is stored as a whole. -/
theorem snprintf_of_fits (printed : formatted format args = some text)
    (fits : text.length < size) :
    snprintf size format args =
      some { stored := cBytes text ++ [0], returned := text.length } := by
  rw [snprintf, printed, Option.map_some, List.take_of_length_le (Nat.le_sub_one_of_lt fits)]

end Library
