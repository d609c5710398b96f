/-! Bytes written with letters, digits and two signs, six bits each. -/

namespace TroffTable

def sextets : List Char :=
  "ABCDEFGHIJKLMNOPQRSTUVWXYZabcdefghijklmnopqrstuvwxyz0123456789+/".toList

/-- Reads the bytes of a text in which `place` characters of a group of four have been
read, whose bits are `bits` as far as they belong to no byte yet. Padding counts behind
two characters of a group at least, and ends the text when the group is full. What is
neither a sextet nor padding is passed over; a group that is not full is refused. -/
def sextetBytes? (place bits padding : Nat) : List Char → Option (List UInt8)
  | [] => if place = 0 then some [] else none
  | c :: s =>
    if c = '=' then
      if place < 2 then sextetBytes? place bits padding s
      else if place + padding < 3 then sextetBytes? place bits (padding + 1) s
      else some []
    else
      let n := sextets.idxOf c
      let push (byte rest place : Nat) : Option (List UInt8) :=
        (sextetBytes? place rest 0 s).map (UInt8.ofNat byte :: ·)
      if n = sextets.length then sextetBytes? place bits padding s
      else
        match place with
        | 0 => sextetBytes? 1 n 0 s
        | 1 => push (4 * bits + n / 16) (n % 16) 2
        | 2 => push (16 * bits + n / 4) (n % 4) 3
        | _ => push (64 * bits + n) 0 0

def base64Bytes? (s : List Char) : Option (List UInt8) :=
  sextetBytes? 0 0 0 s

example : base64Bytes? "TWFu\nTWE=".toList = some [77, 97, 110, 77, 97] := by decide +kernel

example : base64Bytes? "TWFuT".toList = none := by decide +kernel

end TroffTable
