import NewGrf.Output.Piece

namespace NewGrf

structure Grf where
  data : ByteArray := .empty
  images : ByteArray := .empty
  /-- The number of the next sprite. Numbers start at 1, since 0 ends the section of images. -/
  number : Nat := 1
  /-- The bytes of the current sprite so far, its head included. -/
  count : Nat := 0
  deriving Inhabited

namespace ByteArray

def pushLow (b : ByteArray) (value : Int) : Nat → ByteArray
  | 0 => b
  | n + 1 => pushLow (b.push (Number.lowBytes value 1).toUInt8) (value / 256) n

def pushAll (b : ByteArray) (bytes : List UInt8) : ByteArray := bytes.foldl .push b

end ByteArray

namespace Grf

/-- A step of writing. What was written stays written when a step fails. -/
abbrev Write := EStateM Fault Grf

def put (value : Int) (size : Nat) : Write Unit := modify fun g =>
  { g with data := ByteArray.pushLow g.data value size, count := g.count + size }

def text (s : String) (finalZero ascii : Bool) : Write Unit := do
  if ascii && !Text.isAscii s then throw Text.unicodeFault
  let bytes := if Text.hasSurrogate s then Text.bytesBeforeSurrogate s else Text.bytes s finalZero
  modify fun g =>
    { g with data := ByteArray.pushAll g.data bytes, count := g.count + bytes.length }
  if Text.hasSurrogate s then throw Text.surrogateFault

def start (size : Nat) (real : Bool) : Write Unit := do
  modify fun g => { g with count := 0 }
  if real then
    put 4 4
    put 0xFD 1
    put (← get).number 4
  else
    put size 4
    put 0xFF 1

def finish : Write Unit := modify fun g => { g with number := g.number + 1 }

def write : Piece → Write Unit
  | .start size real => start size real
  | .finish => finish
  | .byte v | .byteHex v _ => put v 1
  | .word v | .wordHex v => put v 2
  | .dword v | .dwordHex v => put v 4
  | .text s finalZero ascii => text s finalZero ascii
  | .decimal _ | .newline .. | .comment _ => pure ()

structure Image where
  width : Int
  height : Int
  xoffset : Int
  yoffset : Int
  /-- What a pixel is made of and how the data are packed. -/
  info : Int
  zoom : Nat
  data : ByteArray
  deriving Inhabited

def image (i : Image) : Write Unit := modify fun g =>
  let b := ByteArray.pushLow g.images g.number 4
  let b := ByteArray.pushLow b (i.data.size + 10) 4
  let b := ByteArray.pushLow b i.info 1
  let b := ByteArray.pushLow b i.zoom 1
  let b := ByteArray.pushLow b i.height 2
  let b := ByteArray.pushLow b i.width 2
  let b := ByteArray.pushLow b i.xoffset 2
  let b := ByteArray.pushLow b i.yoffset 2
  { g with images := b ++ i.data }

def attach (name : String) (content : ByteArray) : Write Unit := do
  start 0 true
  if !Text.isAscii name then throw Text.unicodeFault
  modify fun g =>
    let b := ByteArray.pushLow g.images g.number 4
    let b := ByteArray.pushLow b (3 + name.length + 1 + content.size) 4
    let b := ByteArray.pushLow b 0xFF 1
    let b := ByteArray.pushLow b 0xFF 1
    let b := ByteArray.pushLow b name.length 1
    { g with images := ByteArray.pushAll b (Text.bytes name) ++ content }
  finish

def front (g : Grf) : ByteArray :=
  let data := ByteArray.pushLow g.data 0 4
  let head : List UInt8 := [0, 0, 0x47, 0x52, 0x46, 0x82, 0x0D, 0x0A, 0x1A, 0x0A]
  let b := ByteArray.pushLow (ByteArray.pushAll .empty head) (data.size + 1) 4
  ByteArray.pushLow b 0 1 ++ data

def file (g : Grf) : ByteArray := ByteArray.pushLow (g.front ++ g.images) 0 4

end Grf

end NewGrf
