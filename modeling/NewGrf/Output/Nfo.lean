import NewGrf.Output.Piece
import NewGrf.Sprite.Image
import NewGrf.Text.Hex
import NewGrf.Text.Integer

namespace NewGrf

structure Nfo where
  out : String := ""
  number : Int := 0
  count : Nat := 0
  deriving Repr, Inhabited

namespace Nfo

abbrev Write := EStateM Fault Nfo

def put (s : String) : Write Unit := modify fun n => { n with out := n.out ++ s }

def grow (size : Nat) : Write Unit := modify fun n => { n with count := n.count + size }

def decimal (value : Int) : Write Unit := put (toString value ++ " ")

def line (note lead : String) : Write Unit :=
  put (if note.isEmpty then "\n" else lead ++ "// " ++ note ++ "\n")

def escapeQuotes (s : String) : String :=
  .ofList (s.toList.flatMap fun c => if c == '"' then ['\\', '"'] else [c])

/-- A text in quotes; a mark in front says that it holds Unicode. -/
def text (s : String) (finalZero ascii : Bool) : Write Unit := do
  put "\""
  if !Text.isAscii s then
    if ascii then throw Text.unicodeFault
    put "Þ"
  put (escapeQuotes s)
  grow (Text.size s finalZero)
  put "\" "
  if finalZero then put "00 "

def start (size : Nat) (real : Bool) : Write Unit := do
  modify fun n => { n with count := 0 }
  decimal (← get).number
  modify fun n => { n with number := n.number + 1 }
  if !real then
    put "* "
    decimal size

def write (p : Piece) : Write Unit := do
  match p with
  | .start size real => start size real
  | .finish => line "" "\t"
  | .byte v => put ("\\b" ++ toString (Number.lowBytes v 1) ++ " ")
  | .byteHex v none => put (hexText 2 (Number.lowBytes v 1) ++ " ")
  | .byteHex _ (some m) => put (m ++ " ")
  | .word v => put ("\\w" ++ toString (Number.lowBytes v 2) ++ " ")
  | .wordHex v => put ("\\wx" ++ hexText 4 (Number.lowBytes v 2) ++ " ")
  | .dword v => put ("\\d" ++ toString (Number.lowBytes v 4) ++ " ")
  | .dwordHex v => put ("\\dx" ++ hexText 8 (Number.lowBytes v 4) ++ " ")
  | .text s finalZero ascii => text s finalZero ascii
  | .decimal v => decimal v
  | .newline note lead => line note lead
  | .comment note => put ("// " ++ note ++ "\n")
  match p with
  | .text .. => pure ()
  | p => grow p.size

def zoomName : Nat → String
  | 0 => "normal"
  | 1 => "zi4"
  | 2 => "zi2"
  | 3 => "zo2"
  | 4 => "zo4"
  | _ => "zo8"

def image (s : ImageSprite) : Write Unit := do
  let area := s.area
  put (s.file.1 ++ " " ++ toString s.depth ++ "bpp ")
  [area.x, area.y, area.width, area.height, s.xrel, s.yrel].forM decimal
  put (zoomName s.zoom ++ " ")
  if s.has ImageSprite.noCrop then put "nocrop "
  match s.mask with
  | some mask =>
    line "" "\t"
    put ("|\t" ++ mask.1 ++ " mask ")
    decimal s.maskPlace.1
    decimal s.maskPlace.2
  | none => pure ()

def imageList : List ImageSprite → Write Unit
  | [] => pure ()
  | [s] => image s
  | s :: rest => do
    image s
    line "" "\t"
    put "|\t"
    imageList rest

def images (sprites : List ImageSprite) : Write Unit := do
  start 0 true
  imageList sprites
  line "" "\t"

def attach (name : String) : Write Unit := do
  start 0 true
  put ("** " ++ name)
  line "" "\t"

def head : String :=
  "// Automatically generated by GRFCODEC. Do not modify!\n"
    ++ "// (Info version 32)\n"
    ++ "// Escapes: 2+ 2- 2< 2> 2u< 2u> 2/ 2% 2u/ 2u% 2* 2& 2| 2^"
    ++ " 2sto = 2s 2rst = 2r 2psto 2ror = 2rot 2cmp 2ucmp 2<< 2u>> 2>>\n"
    ++ "// Escapes: 71 70 7= 7! 7< 7> 7G 7g 7gG 7GG 7gg 7c 7C\n"
    ++ "// Escapes: D= = DR D+ = DF D- = DC Du* = DM D* = DnF Du<< = DnC D<< = DO D& D| Du/ D/"
    ++ " Du% D%\n"
    ++ "// Format: spritenum imagefile depth xpos ypos xsize ysize xrel yrel zoom flags\n\n"

/-- The whole file. One blank before a line end is left out. -/
def file (n : Nfo) : String := head ++ n.out.replace " \n" "\n"

end Nfo

end NewGrf
