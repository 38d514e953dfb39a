import PairwiseId.Digest.Word

/- SHA-1 (FIPS 180-4): five words and eighty rounds over an extended block. -/
namespace PairwiseId.Digest

set_option autoImplicit false

namespace Sha1

abbrev Word := BitVec 32

structure State where
  a : Word
  b : Word
  c : Word
  d : Word
  e : Word

def nextWord (window : List Word) : Word :=
  (window.getD 13 0 ^^^ window.getD 8 0 ^^^ window.getD 2 0 ^^^ window.getD 0 0).rotateLeft 1

def mix (round : Nat) (b c d : Word) : Word :=
  match round / 20 with
  | 0 => ((b &&& c) ||| (~~~b &&& d)) + 0x5a827999
  | 1 => (b ^^^ c ^^^ d) + 0x6ed9eba1
  | 2 => ((b &&& c) ||| (b &&& d) ||| (c &&& d)) + 0x8f1bbcdc
  | _ => (b ^^^ c ^^^ d) + 0xca62c1d6

def round (s : State) (input : Word × Nat) : State :=
  ⟨s.a.rotateLeft 5 + mix input.2 s.b s.c s.d + s.e + input.1, s.a, s.b.rotateLeft 30, s.c, s.d⟩

def absorb (s : State) (bytes : Bytes) : State :=
  let input := schedule nextWord 80 (words natOfBytesBE 4 16 bytes)
  let t := input.zipIdx.foldl round s
  ⟨s.a + t.a, s.b + t.b, s.c + t.c, s.d + t.d, s.e + t.e⟩

def output (s : State) : Bytes := [s.a, s.b, s.c, s.d, s.e].flatMap (bytesBE 4)

end Sha1

def sha1 : BlockHash where
  State := Sha1.State
  blockBytes := 64
  blockBytes_pos := sixty_four_pos
  outputBytes := 20
  initial := ⟨0x67452301, 0xefcdab89, 0x98badcfe, 0x10325476, 0xc3d2e1f0⟩
  absorb := Sha1.absorb
  padding := lengthPadding 64 8 fun bits => bytesBE 8 (BitVec.ofNat 64 bits)
  output := Sha1.output
  output_length := fun s => by simp [Sha1.output]

end PairwiseId.Digest
