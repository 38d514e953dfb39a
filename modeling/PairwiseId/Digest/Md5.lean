import PairwiseId.Digest.Word

/- MD5 (RFC 1321): four words, four passes of sixteen steps over the block, each
   pass with its own mixing function, order of the words and rotations. -/
namespace PairwiseId.Digest

set_option autoImplicit false

namespace Md5

abbrev Word := BitVec 32

structure State where
  a : Word
  b : Word
  c : Word
  d : Word

def constants : List Word :=
  [0xd76aa478, 0xe8c7b756, 0x242070db, 0xc1bdceee, 0xf57c0faf, 0x4787c62a,
   0xa8304613, 0xfd469501, 0x698098d8, 0x8b44f7af, 0xffff5bb1, 0x895cd7be,
   0x6b901122, 0xfd987193, 0xa679438e, 0x49b40821, 0xf61e2562, 0xc040b340,
   0x265e5a51, 0xe9b6c7aa, 0xd62f105d, 0x02441453, 0xd8a1e681, 0xe7d3fbc8,
   0x21e1cde6, 0xc33707d6, 0xf4d50d87, 0x455a14ed, 0xa9e3e905, 0xfcefa3f8,
   0x676f02d9, 0x8d2a4c8a, 0xfffa3942, 0x8771f681, 0x6d9d6122, 0xfde5380c,
   0xa4beea44, 0x4bdecfa9, 0xf6bb4b60, 0xbebfbc70, 0x289b7ec6, 0xeaa127fa,
   0xd4ef3085, 0x04881d05, 0xd9d4d039, 0xe6db99e5, 0x1fa27cf8, 0xc4ac5665,
   0xf4292244, 0x432aff97, 0xab9423a7, 0xfc93a039, 0x655b59c3, 0x8f0ccc92,
   0xffeff47d, 0x85845dd1, 0x6fa87e4f, 0xfe2ce6e0, 0xa3014314, 0x4e0811a1,
   0xf7537e82, 0xbd3af235, 0x2ad7d2bb, 0xeb86d391]

-- The four rotations of a pass, used in turn.
def rotation (step : Nat) : Nat :=
  let turn :=
    match step / 16 with
    | 0 => [7, 12, 17, 22]
    | 1 => [5, 9, 14, 20]
    | 2 => [4, 11, 16, 23]
    | _ => [6, 10, 15, 21]
  turn.getD (step % 4) 0

def wordIndex (step : Nat) : Nat :=
  match step / 16 with
  | 0 => step
  | 1 => (5 * step + 1) % 16
  | 2 => (3 * step + 5) % 16
  | _ => 7 * step % 16

def mix (step : Nat) (b c d : Word) : Word :=
  match step / 16 with
  | 0 => (b &&& c) ||| (~~~b &&& d)
  | 1 => (d &&& b) ||| (~~~d &&& c)
  | 2 => b ^^^ c ^^^ d
  | _ => c ^^^ (b ||| ~~~d)

def step (block : List Word) (s : State) (input : Word × Nat) : State :=
  let i := input.2
  let sum := s.a + mix i s.b s.c s.d + input.1 + block.getD (wordIndex i) 0
  ⟨s.d, s.b + sum.rotateLeft (rotation i), s.b, s.c⟩

def absorb (s : State) (bytes : Bytes) : State :=
  let block := words natOfBytesLE 4 16 bytes
  let t := constants.zipIdx.foldl (step block) s
  ⟨s.a + t.a, s.b + t.b, s.c + t.c, s.d + t.d⟩

def output (s : State) : Bytes := [s.a, s.b, s.c, s.d].flatMap (bytesLE 4)

end Md5

def md5 : BlockHash where
  State := Md5.State
  blockBytes := 64
  blockBytes_pos := sixty_four_pos
  outputBytes := 16
  initial := ⟨0x67452301, 0xefcdab89, 0x98badcfe, 0x10325476⟩
  absorb := Md5.absorb
  padding := lengthPadding 64 8 fun bits => bytesLE 8 (BitVec.ofNat 64 bits)
  output := Md5.output
  output_length := fun s => by simp [Md5.output]

end PairwiseId.Digest
