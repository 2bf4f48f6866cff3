import NewGrf.Output.Grf

namespace NewGrf.Digest

structure State where
  a : UInt32
  b : UInt32
  c : UInt32
  d : UInt32
  deriving Repr, DecidableEq, Inhabited

def State.start : State := ⟨0x67452301, 0xEFCDAB89, 0x98BADCFE, 0x10325476⟩

def State.add (s t : State) : State := ⟨s.a + t.a, s.b + t.b, s.c + t.c, s.d + t.d⟩

def turns : Array UInt32 := #[7, 12, 17, 22, 5, 9, 14, 20, 4, 11, 16, 23, 6, 10, 15, 21]

/-- The constants of the rounds: sines of 1, 2, 3 and so on, times 2 ^ 32. -/
def sines : Array UInt32 := #[
  0xD76AA478, 0xE8C7B756, 0x242070DB, 0xC1BDCEEE, 0xF57C0FAF, 0x4787C62A, 0xA8304613, 0xFD469501,
  0x698098D8, 0x8B44F7AF, 0xFFFF5BB1, 0x895CD7BE, 0x6B901122, 0xFD987193, 0xA679438E, 0x49B40821,
  0xF61E2562, 0xC040B340, 0x265E5A51, 0xE9B6C7AA, 0xD62F105D, 0x02441453, 0xD8A1E681, 0xE7D3FBC8,
  0x21E1CDE6, 0xC33707D6, 0xF4D50D87, 0x455A14ED, 0xA9E3E905, 0xFCEFA3F8, 0x676F02D9, 0x8D2A4C8A,
  0xFFFA3942, 0x8771F681, 0x6D9D6122, 0xFDE5380C, 0xA4BEEA44, 0x4BDECFA9, 0xF6BB4B60, 0xBEBFBC70,
  0x289B7EC6, 0xEAA127FA, 0xD4EF3085, 0x04881D05, 0xD9D4D039, 0xE6DB99E5, 0x1FA27CF8, 0xC4AC5665,
  0xF4292244, 0x432AFF97, 0xAB9423A7, 0xFC93A039, 0x655B59C3, 0x8F0CCC92, 0xFFEFF47D, 0x85845DD1,
  0x6FA87E4F, 0xFE2CE6E0, 0xA3014314, 0x4E0811A1, 0xF7537E82, 0xBD3AF235, 0x2AD7D2BB, 0xEB86D391]

def turn (x n : UInt32) : UInt32 := (x <<< n) ||| (x >>> (32 - n))

def mixture (s : State) (round : Nat) : UInt32 × Nat :=
  if round < 16 then ((s.b &&& s.c) ||| (~~~s.b &&& s.d), round)
  else if round < 32 then ((s.d &&& s.b) ||| (~~~s.d &&& s.c), (5 * round + 1) % 16)
  else if round < 48 then (s.b ^^^ s.c ^^^ s.d, (3 * round + 5) % 16)
  else (s.c ^^^ (s.b ||| ~~~s.d), 7 * round % 16)

def step (word : Nat → UInt32) (s : State) (round : Nat) : State :=
  let (f, i) := mixture s round
  let x := f + s.a + sines[round]?.getD 0 + word i
  ⟨s.d, s.b + turn x (turns[4 * (round / 16) + round % 4]?.getD 0), s.b, s.c⟩

def wordAt (data : ByteArray) (i : Nat) : UInt32 :=
  [3, 2, 1, 0].foldl (fun w k => w * 256 + (data[i + k]?.getD 0).toUInt32) 0

def block (data : ByteArray) (s : State) (start : Nat) : State :=
  s.add ((List.range 64).foldl (step fun i => wordAt data (start + 4 * i)) s)

/-- Data are filled up to whole blocks by a mark, zeros and their length in bits. -/
def padded (data : ByteArray) : ByteArray :=
  let zeros := (119 - data.size % 64) % 64
  let body := (List.range zeros).foldl (fun b _ => b.push 0) (data.push 0x80)
  ByteArray.pushLow body (8 * data.size) 8

def ofBytes (data : ByteArray) : ByteArray :=
  let whole := padded data
  let s := (List.range (whole.size / 64)).foldl (fun s i => block whole s (64 * i)) .start
  [s.a, s.b, s.c, s.d].foldl (fun b w => ByteArray.pushLow b w.toNat 4) .empty

def text (data : ByteArray) : String :=
  let digits := "0123456789abcdef".toList
  let digit (n : Nat) : Char := digits[n]?.getD '0'
  String.ofList ((ofBytes data).toList.flatMap fun b =>
    [digit (b.toNat / 16), digit (b.toNat % 16)])

end NewGrf.Digest
