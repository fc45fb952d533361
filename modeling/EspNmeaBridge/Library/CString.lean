import Mathlib.Data.List.TakeWhile

/-!
# C strings

Strings in memory, as the bytes from a pointer on.  A string ends before its first NUL;
the functions of `string.h` below never look behind it.
-/

namespace Library

/-- The bytes of ASCII text. -/
def cBytes (text : List Char) : List UInt8 := text.map fun c => UInt8.ofNat c.toNat

/-- The bytes of a string literal, without its NUL. -/
def cString (literal : String) : List UInt8 := cBytes literal.toList

/-- Text whose characters are bytes of a C string and of UTF-8 alike. -/
def Ascii (text : List Char) : Prop := ∀ c ∈ text, 0 < c.toNat ∧ c.toNat < 128

instance (text : List Char) : Decidable (Ascii text) := List.decidableBAll _ text

/-- The string a pointer points to. -/
def untilNul (memory : List UInt8) : List UInt8 := memory.takeWhile (· ≠ 0)

def strlen (memory : List UInt8) : Nat := (untilNul memory).length

/-- The difference of the first bytes that differ among the first `count`, or zero. -/
def strncmp : List UInt8 → List UInt8 → Nat → Int
  | _, _, 0 => 0
  | left, right, count + 1 =>
      let a := left.headD 0
      let b := right.headD 0
      if a ≠ b then a.toNat - b.toNat
      else if a = 0 then 0
      else strncmp left.tail right.tail count

/-- The distance to the first `wanted` in the string. -/
def strchr : List UInt8 → UInt8 → Option Nat
  | [], wanted => if wanted = 0 then some 0 else none
  | byte :: memory, wanted =>
      if byte = wanted then some 0
      else if byte = 0 then none
      else (strchr memory wanted).map (· + 1)

section Text

variable {text : List Char}

theorem Ascii.zero_notMem_cBytes (ascii : Ascii text) : 0 ∉ cBytes text := by
  unfold cBytes
  rw [List.mem_map]
  intro ⟨c, member, nul⟩
  have range := ascii c member
  have zero := congrArg UInt8.toNat nul
  rw [UInt8.toNat_ofNat', UInt8.toNat_zero] at zero
  omega

/-- The bytes of the text are its encoding in UTF-8. -/
theorem Ascii.toByteArray_ofList (ascii : Ascii text) :
    (String.ofList text).toByteArray.data.toList = cBytes text := by
  rw [String.toByteArray_ofList]
  unfold List.utf8Encode
  rw [List.data_toByteArray, List.toList_toArray]
  induction text with
  | nil => rfl
  | cons c text ih =>
      have single : c.utf8Size = 1 := by
        rw [Char.utf8Size_eq_one_iff, UInt32.le_iff_toNat_le]
        exact Nat.le_of_lt_succ (ascii c List.mem_cons_self).2
      rw [List.flatMap_cons, ih fun c member => ascii c (List.mem_cons_of_mem _ member),
        String.utf8EncodeChar_eq_singleton single]
      rfl

end Text

variable {text other : List UInt8}

theorem untilNul_of_visible (visible : 0 ∉ text) : untilNul text = text := by
  unfold untilNul
  rw [List.takeWhile_eq_self_iff]
  intro byte member
  rw [decide_eq_true_eq]
  intro nul
  exact visible (nul ▸ member)

theorem untilNul_append (visible : 0 ∉ text) (rest : List UInt8) :
    untilNul (text ++ 0 :: rest) = text := by
  have whole := untilNul_of_visible visible
  unfold untilNul at whole ⊢
  rw [List.takeWhile_append_of_pos (List.takeWhile_eq_self_iff.mp whole)]
  simp

/-- Comparing as many bytes as both strings have decides whether they are equal. -/
theorem strncmp_eq_zero_iff (same : text.length = other.length) (visible : 0 ∉ text)
    (rest rest' : List UInt8) :
    strncmp (text ++ rest) (other ++ rest') text.length = 0 ↔ text = other := by
  induction text generalizing other with
  | nil =>
      rw [List.eq_nil_of_length_eq_zero same.symm]
      simp [strncmp]
  | cons byte text ih =>
      cases other with
      | nil => contradiction
      | cons byte' other =>
          have present : byte ≠ 0 := fun nul => visible (by simp [nul])
          have later : 0 ∉ text := fun member => visible (List.mem_cons_of_mem _ member)
          by_cases equal : byte = byte'
          · subst equal
            simp [strncmp, present, ih (Nat.succ.inj same) later]
          · have apart : (byte.toNat : Int) - byte'.toNat ≠ 0 := by
              intro zero
              exact equal (UInt8.toNat_inj.mp (by omega))
            simp [strncmp, equal, apart]

/-- Comparing as many bytes as a string has decides whether it is what memory starts with. -/
theorem strncmp_eq_zero_iff_isPrefix (visible : 0 ∉ text) (memory : List UInt8) :
    strncmp memory text text.length = 0 ↔ text <+: memory := by
  induction text generalizing memory with
  | nil => simp [strncmp]
  | cons byte text ih =>
      rw [List.mem_cons, not_or] at visible
      cases memory with
      | nil =>
          have apart : -(byte.toNat : Int) ≠ 0 := by
            intro zero
            exact visible.1 (UInt8.toNat_inj.mp (Int.ofNat_inj.mp (Int.neg_eq_zero.mp zero)).symm)
          simp [strncmp, visible.1, apart]
      | cons byte' memory =>
          rw [List.cons_prefix_cons]
          by_cases equal : byte = byte'
          · subst equal
            simp [strncmp, Ne.symm visible.1, ih visible.2]
          · have apart : (byte'.toNat : Int) - byte.toNat ≠ 0 := by
              intro zero
              exact equal (UInt8.toNat_inj.mp (by omega))
            simp [strncmp, equal, Ne.symm equal, apart]

/-- What a string has before the first `wanted`. -/
def before (wanted : UInt8) : List UInt8 → Option (List UInt8)
  | [] => none
  | byte :: memory =>
      if byte = wanted then some []
      else if byte = 0 then none
      else (before wanted memory).map (byte :: ·)

theorem before_append {wanted : UInt8} (absent : wanted ∉ text) (visible : 0 ∉ text)
    (rest : List UInt8) : before wanted (text ++ wanted :: rest) = some text := by
  induction text with
  | nil => simp [before]
  | cons byte text ih =>
      rw [List.mem_cons, not_or] at absent visible
      simp [before, Ne.symm absent.1, Ne.symm visible.1, ih absent.2 visible.2]

theorem eq_append_of_before {wanted : UInt8} {memory : List UInt8}
    (found : before wanted memory = some text) :
    0 ∉ text ∧ ∃ rest, memory = text ++ wanted :: rest := by
  induction memory generalizing text with
  | nil => contradiction
  | cons byte memory ih =>
      rw [before] at found
      split at found
      · next same =>
          cases found
          exact ⟨List.not_mem_nil, memory, congrArg (· :: memory) same⟩
      · split at found
        · contradiction
        · next present =>
            rw [Option.map_eq_some_iff] at found
            obtain ⟨text, found, rfl⟩ := found
            obtain ⟨visible, rest, rfl⟩ := ih found
            exact ⟨List.not_mem_cons_of_ne_of_not_mem (Ne.symm present) visible, rest, rfl⟩

/-- `strchr` finds where that ends. -/
theorem strchr_append_nul {wanted : UInt8} (present : wanted ≠ 0) (memory : List UInt8) :
    strchr (memory ++ [0]) wanted = (before wanted memory).map List.length := by
  induction memory with
  | nil => simp [strchr, before, Ne.symm present]
  | cons byte memory ih =>
      rw [List.cons_append, strchr, before, ih]
      split
      · rfl
      · split
        · rfl
        · cases before wanted memory with
          | none => rfl
          | some text => rfl

end Library
