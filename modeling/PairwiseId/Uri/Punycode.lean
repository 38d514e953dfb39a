/- Punycode (RFC 3492): the characters of a label that are not ASCII, written as
   letters and digits after its ASCII characters. -/
namespace PairwiseId.Uri.Punycode

set_option autoImplicit false

def digit? (c : Char) : Option Nat :=
  if 'a' ≤ c ∧ c ≤ 'z' then some (c.toNat - 97)
  else if 'A' ≤ c ∧ c ≤ 'Z' then some (c.toNat - 65)
  else if '0' ≤ c ∧ c ≤ '9' then some (c.toNat - 22)
  else none

-- Halves the first step, and brings every step down to the range of a digit.
def adapt (delta count : Nat) (first : Bool) : Nat :=
  let scaled := if first then delta / 700 else delta / 2
  shrink (scaled + scaled / count) 32
where
  shrink (delta : Nat) : Nat → Nat
    | 0 => 0
    | fuel + 1 =>
      if 455 < delta then 36 + shrink (delta / 35) fuel else 36 * delta / (delta + 38)

def threshold (k bias : Nat) : Nat :=
  if k ≤ bias then 1 else if bias + 26 ≤ k then 26 else k - bias

-- A number of variable length in the position `k`, with the weight of its next digit.
def integer? (bias : Nat) : Nat → Nat → Nat → List Char → Option (Nat × List Char)
  | _, _, _, [] => none
  | k, weight, sum, c :: rest => do
    let d ← digit? c
    let sum := sum + d * weight
    if 0x100000000 ≤ sum then none
    else if d < threshold k bias then some (sum, rest)
    else integer? bias (k + 36) (weight * (36 - threshold k bias)) sum rest

-- Inserts the characters one by one. The fuel is the length of the text.
def insertAll : Nat → Nat → Nat → Nat → List Char → List Char → Option (List Char)
  | 0, _, _, _, _, _ => none
  | fuel + 1, code, position, bias, done, cs =>
    if cs = [] then some done
    else do
      let (delta, rest) ← integer? bias 36 1 0 cs
      let count := done.length + 1
      let place := position + delta
      let code := code + place / count
      let place := place % count
      if code < 0x110000 ∧ ¬ (0xD800 ≤ code ∧ code < 0xE000) then
        insertAll fuel code (place + 1) (adapt delta count (position == 0))
          (done.take place ++ Char.ofNat code :: done.drop place) rest
      else none

def decode? (label : List Char) : Option (List Char) :=
  let reversed := label.reverse
  let extended := (reversed.takeWhile (· ≠ '-')).reverse
  let basic := ((reversed.dropWhile (· ≠ '-')).drop 1).reverse
  let extended := if basic = [] then label else extended
  if basic.all (·.toNat < 128) then insertAll (label.length + 1) 128 0 72 basic extended else none

end PairwiseId.Uri.Punycode
