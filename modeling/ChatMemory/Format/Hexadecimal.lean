/-!
Hexadecimal digits. They are written in small letters and read in either case.
-/

namespace ChatMemory

def hexDigit? (character : Char) : Option Nat :=
  if character.isDigit then some (character.toNat - '0'.toNat)
  else if 'a' ≤ character && character ≤ 'f' then some (character.toNat - 'a'.toNat + 10)
  else if 'A' ≤ character && character ≤ 'F' then some (character.toNat - 'A'.toNat + 10)
  else none

def hexLetter (digit : Nat) : Char :=
  if digit < 10 then Char.ofNat ('0'.toNat + digit) else Char.ofNat ('a'.toNat + (digit - 10))

def hexDigits (bytes : List UInt8) : List Char :=
  bytes.flatMap fun byte => [hexLetter (byte.toNat / 16), hexLetter (byte.toNat % 16)]

def hexBytes? : List Char → Option (List UInt8)
  | [] => some []
  | high :: low :: rest => do
    let byte := 16 * (← hexDigit? high) + (← hexDigit? low)
    (hexBytes? rest).map (byte.toUInt8 :: ·)
  | _ => none

theorem hexDigit?_hexLetter :
    ∀ digit : Fin 16, hexDigit? (hexLetter digit) = some digit.val := by
  decide

@[simp] theorem hexBytes?_hexDigits (bytes : List UInt8) :
    hexBytes? (hexDigits bytes) = some bytes := by
  induction bytes with
  | nil => rfl
  | cons byte rest induction =>
    have high := hexDigit?_hexLetter ⟨byte.toNat / 16, by have := byte.toNat_lt; omega⟩
    have low := hexDigit?_hexLetter ⟨byte.toNat % 16, by omega⟩
    have whole : (16 * (byte.toNat / 16) + byte.toNat % 16).toUInt8 = byte := by
      rw [Nat.div_add_mod]; exact UInt8.ofNat_toNat
    simp only [hexDigits] at induction
    simp only [hexDigits, List.flatMap_cons, List.cons_append, List.nil_append, hexBytes?, high,
      low, induction]
    exact congrArg (fun first => some (first :: rest)) whole

example : hexBytes? ['0', 'f', 'A', '0'] = some [0x0F, 0xA0] := by decide

example : hexDigits [0x0F, 0xA0] = ['0', 'f', 'a', '0'] := by decide

end ChatMemory
