import RobotMaze.Text.Split

/-! # Bytes in text

    * `Utf8.encode`, `Utf8.decode` — characters as bytes;
    * `Percent` — bytes as escapes in addresses and forms. -/

/-! ## UTF-8 — characters as bytes

    * `encode` writes characters as bytes;
    * `decode` reads bytes; each longest run of bytes that begins no character
      is read as one replacement character;
    * `decode?` reads bytes that are well formed throughout. -/

namespace RobotMaze.Text.Utf8

/-- The bytes of characters. -/
def encode (cs : List Char) : List UInt8 := cs.flatMap String.utf8EncodeChar

/-- The character that stands for what is no character. -/
def replacement : Char := '\uFFFD'

/-- Whether a byte goes on with a character. -/
def isTail (b : UInt8) : Bool := 0x80 ≤ b && b ≤ 0xBF

/-- Whether a byte begins a character of two bytes. -/
def startsTwo (a : UInt8) : Bool := 0xC2 ≤ a && a ≤ 0xDF

/-- Whether two bytes begin a character of three bytes. -/
def startsThree (a b : UInt8) : Bool :=
  (a == 0xE0 && 0xA0 ≤ b && b ≤ 0xBF) || (0xE1 ≤ a && a ≤ 0xEC && isTail b)
    || (a == 0xED && 0x80 ≤ b && b ≤ 0x9F) || ((a == 0xEE || a == 0xEF) && isTail b)

/-- Whether two bytes begin a character of four bytes. -/
def startsFour (a b : UInt8) : Bool :=
  (a == 0xF0 && 0x90 ≤ b && b ≤ 0xBF) || (0xF1 ≤ a && a ≤ 0xF3 && isTail b)
    || (a == 0xF4 && 0x80 ≤ b && b ≤ 0x8F)

/-- The low six bits of a byte that goes on with a character. -/
def tailBits (b : UInt8) : Nat := b.toNat % 64

/-- The character of two bytes. -/
def ofTwo (a b : UInt8) : Char := Char.ofNat (a.toNat % 32 * 64 + tailBits b)

/-- The character of three bytes. -/
def ofThree (a b c : UInt8) : Char :=
  Char.ofNat (a.toNat % 16 * 4096 + tailBits b * 64 + tailBits c)

/-- The character of four bytes. -/
def ofFour (a b c d : UInt8) : Char :=
  Char.ofNat (a.toNat % 8 * 262144 + tailBits b * 4096 + tailBits c * 64 + tailBits d)

/-- The characters of bytes; what is no character is `none`. -/
def units : List UInt8 → List (Option Char)
  | [] => []
  | a :: rest =>
      if a < 0x80 then some (Char.ofNat a.toNat) :: units rest
      else
        match rest with
        | [] => [none]
        | b :: rest₁ =>
            if startsTwo a && isTail b then some (ofTwo a b) :: units rest₁
            else if startsThree a b then
              match rest₁ with
              | [] => [none]
              | c :: rest₂ =>
                  if isTail c then some (ofThree a b c) :: units rest₂
                  else none :: units (c :: rest₂)
            else if startsFour a b then
              match rest₁ with
              | [] => [none]
              | c :: rest₂ =>
                  if isTail c then
                    match rest₂ with
                    | [] => [none]
                    | d :: rest₃ =>
                        if isTail d then some (ofFour a b c d) :: units rest₃
                        else none :: units (d :: rest₃)
                  else none :: units (c :: rest₂)
            else none :: units (b :: rest₁)

/-- The characters of bytes, with replacements. -/
def decode (bytes : List UInt8) : List Char := (units bytes).map fun c => c.getD replacement

/-- The characters of well-formed bytes. -/
def decode? (bytes : List UInt8) : Option (List Char) := (units bytes).mapM id

end RobotMaze.Text.Utf8

/-! ## Percent escapes — bytes in addresses and forms

    In an address a byte may be written as `%` and two hexadecimal digits.  A
    form is a list of fields, `name=value`, put together with `&`; in it `+`
    stands for a blank as well.

    * `unescape` reads the escapes of bytes; a `%` without digits stands for
      itself;
    * `text?` is the text of a part of an address;
    * `fields` are the fields of a form, empty ones left out. -/

namespace RobotMaze.Text.Percent

/-- The value of a hexadecimal digit. -/
def hexValue? (b : UInt8) : Option Nat :=
  if 48 ≤ b ∧ b ≤ 57 then some (b.toNat - 48)
  else if 65 ≤ b ∧ b ≤ 70 then some (b.toNat - 55)
  else if 97 ≤ b ∧ b ≤ 102 then some (b.toNat - 87)
  else none

/-- The byte of two hexadecimal digits. -/
def hexByte? (high low : UInt8) : Option UInt8 := do
  let h ← hexValue? high
  let l ← hexValue? low
  return UInt8.ofNat (h * 16 + l)

/-- Bytes with their escapes read. -/
def unescape : List UInt8 → List UInt8
  | a :: b :: c :: rest =>
      if a = 37 then
        match hexByte? b c with
        | some byte => byte :: unescape rest
        | none => a :: unescape (b :: c :: rest)
      else a :: unescape (b :: c :: rest)
  | bytes => bytes

/-- The text of a part of an address, if it is well formed. -/
def text? (part : String) : Option String :=
  (Utf8.decode? (unescape (Utf8.encode part.toList))).map String.ofList

/-- The text of a part of a form. -/
def formText (part : String) : String :=
  let spaced := part.toList.map fun c => if c = '+' then ' ' else c
  String.ofList (Utf8.decode (unescape (Utf8.encode spaced)))

/-- A field of a form; one without `=` has no value. -/
def field (text : String) : String × String :=
  match splitOnce? '=' text with
  | some (name, value) => (formText name, formText value)
  | none => (formText text, "")

/-- The fields of a form. -/
def fields (text : String) : List (String × String) :=
  ((split '&' text).filter fun part => !part.isEmpty).map field

/-- Bytes without escapes stand for themselves. -/
theorem unescape_of_not_mem {bytes : List UInt8} (h : 37 ∉ bytes) : unescape bytes = bytes := by
  fun_induction unescape bytes with
  | case1 => simp_all
  | case2 => simp_all
  | case3 a b c rest ha ih =>
      rw [ih fun m => h (List.mem_cons_of_mem a m)]
  | case4 => rfl

end RobotMaze.Text.Percent
