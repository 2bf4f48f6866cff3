import NewGrf.Sprite.Lz77
import NewGrf.Sprite.Palette

namespace NewGrf.Pixels

/-- Bits that say what a pixel is made of and how the data are stored. -/
def hasRgb : Nat := 1
def hasAlpha : Nat := 2
def hasIndex : Nat := 4
def chunked : Nat := 8
def uncropped : Nat := 0x40

def bytesPerPixel (info : Nat) : Nat :=
  (if info &&& hasRgb != 0 then 3 else 0) + (if info &&& hasAlpha != 0 then 1 else 0)
    + (if info &&& hasIndex != 0 then 1 else 0)

def canBeTransparent (info : Nat) : Bool := info &&& (hasAlpha ||| hasIndex) != 0

/-- The byte of a pixel that is zero if the pixel is transparent: the one behind the colours. -/
def opacityByte (info : Nat) : Nat := if info &&& hasRgb != 0 then 3 else 0

/-- Whether a byte at `start` or at any number of steps behind it, before `stop`, is not zero. -/
def anyOpaque (data : ByteArray) (stop step : Nat) : Nat → Nat → Bool
  | 0, _ => false
  | fuel + 1, i =>
    if i < stop then Lz77.byteAt data i != 0 || anyOpaque data stop step fuel (i + step)
    else false

def opaqueIn (data : ByteArray) (start stop step : Nat) : Bool :=
  anyOpaque data (min stop data.size) step data.size start

/-- How many lines, counted from one side and never all of them, hold no visible pixel. -/
def emptyLines (visible : Nat → Bool) : Nat → Nat → Nat
  | 0, count => count
  | left + 1, count => if visible count then count else emptyLines visible left (count + 1)

structure Margins where
  left : Int := 0
  right : Int := 0
  top : Int := 0
  bottom : Int := 0
  deriving Repr, DecidableEq, Inhabited

/-- Takes the transparent borders away. A row and a column are always left. -/
def crop (data : ByteArray) (width height info : Nat) : ByteArray × Margins :=
  if !canBeTransparent info then (data, {})
  else
    let bpp := bytesPerPixel info
    let opacity := opacityByte info
    let line := width * bpp
    let size := data.size
    let top := emptyLines
      (fun n => opaqueIn data (line * n + opacity) (line * (n + 1)) bpp) (height - 1) 0
    let bottom := emptyLines
      (fun n => opaqueIn data (size - line * (n + 1) + opacity) (size - line * n) bpp)
      (height - top - 1) 0
    let data := data.extract (line * top) (size - line * bottom)
    let left := emptyLines
      (fun n => opaqueIn data (n * bpp + opacity) data.size line) (width - 1) 0
    let right := emptyLines
      (fun n => opaqueIn data (line - (n + 1) * bpp + opacity) data.size line)
      (width - left - 1) 0
    let margins := { left, right, top, bottom }
    if left + right == 0 then (data, margins)
    else
      let rows := List.range (height - top - bottom)
      (rows.foldl
        (fun out y => out ++ data.extract (y * line + left * bpp) ((y + 1) * line - right * bpp))
        .empty, margins)

def Margins.apply (m : Margins) (width height xrel yrel : Int) : Int × Int × Int × Int :=
  (width - (m.left + m.right), height - (m.top + m.bottom), xrel + m.left, yrel + m.top)

/-- Where a chunk ends that starts at a visible pixel: before three transparent pixels in a row, or
when it is as long as it can be. -/
def chunkEnd (visible : Nat → Bool) : Nat → Nat → Nat
  | 0, x => x
  | left + 1, x =>
    if visible x || visible (x + 1) || visible (x + 2) then chunkEnd visible left (x + 1) else x

def chunks (visible : Nat → Bool) (width longest : Nat) : Nat → Nat → List (Nat × Nat)
  | 0, _ => []
  | fuel + 1, x =>
    if x < width then
      if visible x then
        let stop := chunkEnd visible (longest - 1) (x + 1)
        (x, stop) :: chunks visible width longest fuel stop
      else chunks visible width longest fuel (x + 1)
    else []

def pushAll (out : ByteArray) (bytes : List Nat) : ByteArray :=
  bytes.foldl (fun out b => out.push b.toUInt8) out

def writeChunks (data : ByteArray) (start bpp : Nat) (long : Bool) :
    List (Nat × Nat) → ByteArray → ByteArray
  | [], out => out
  | (x, stop) :: rest, out =>
    let mark := if rest.isEmpty then 0x80 else 0
    let count := stop - x
    let head := if long then [count % 0x100, count / 0x100 + mark, x % 0x100, x / 0x100]
      else [count + mark, x]
    writeChunks data start bpp long rest
      (pushAll out head ++ data.extract (start + x * bpp) (start + stop * bpp))

def chunkedRow (data : ByteArray) (width info y : Nat) : ByteArray :=
  let bpp := bytesPerPixel info
  let long := 256 < width
  let start := y * width * bpp
  let visible (x : Nat) : Bool :=
    x < width && Lz77.byteAt data (start + x * bpp + opacityByte info) != 0
  match chunks visible width (if long then 0x7FFF else 0x7F) (width + 1) 0 with
  | [] => pushAll .empty (if long then [0, 0x80, 0, 0] else [0x80, 0])
  | parts => writeChunks data start bpp long parts .empty

def littleEndian : Nat → Nat → List Nat
  | 0, _ => []
  | size + 1, n => n % 0x100 :: littleEndian size (n / 0x100)

/-- Rows behind a table that says where each starts. -/
def withOffsets (rows : List ByteArray) (offsetSize : Nat) : ByteArray :=
  let first := rows.length * offsetSize
  let (table, _) := rows.foldl
    (fun ((table, at_) : ByteArray × Nat) row =>
      (pushAll table (littleEndian offsetSize at_), at_ + row.size)) (.empty, first)
  rows.foldl (· ++ ·) table

/-- The rows in chunks, unless pixels cannot be transparent. -/
def chunk? (data : ByteArray) (width height info : Nat) : Option ByteArray :=
  if !canBeTransparent info then none
  else
    let rows := (List.range height).map (chunkedRow data width info)
    let short := withOffsets rows 2
    some (if 65535 < short.size then withOffsets rows 4 else short)

def store (data : ByteArray) : ByteArray :=
  let rec go : Nat → Nat → ByteArray → ByteArray
    | 0, _, out => out
    | fuel + 1, i, out =>
      if i < data.size then
        let n := min (data.size - i) 127
        go fuel (i + n) (out.push n.toUInt8 ++ data.extract i (i + n))
      else out
  go data.size 0 .empty

def compress (packed : Bool) (data : ByteArray) : ByteArray :=
  if packed then Lz77.encode data else store data

/-- Indices of the palette of a picture as those of the palette of the file. -/
def convert (used : Option Palette) (own : Palette) (data : ByteArray) : ByteArray :=
  if own == .legacy && used == some .default then
    data.foldl (fun out b => out.push (Palette.toDefault b.toNat).toUInt8) .empty
  else data

end NewGrf.Pixels
