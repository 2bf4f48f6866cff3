import NewGrf.Fault
import NewGrf.Position

namespace NewGrf

inductive Palette where
  | default | legacy | defaultToyland | legacyToyland
  deriving Repr, DecidableEq, Inhabited

namespace Palette

def name : Palette → String
  | default => "DEFAULT"
  | legacy => "LEGACY"
  | defaultToyland => "DEFAULT_TOYLAND"
  | legacyToyland => "LEGACY_TOYLAND"

def all : List Palette := [.default, .legacy, .defaultToyland, .legacyToyland]

def ofName? (name : String) : Option Palette := all.find? (·.name == name)

def replaceAt {α : Type} (base : List α) (changes : List (Nat × α)) : List α :=
  base.zipIdx.map fun (x, i) => (changes.lookup i).getD x

def defaultColours : List Nat := [
  0x0000FF, 0x101010, 0x202020, 0x303030, 0x404040, 0x505050, 0x646464, 0x747474, 0x848484,
  0x949494, 0xA8A8A8, 0xB8B8B8, 0xC8C8C8, 0xD8D8D8, 0xE8E8E8, 0xFCFCFC, 0x343C48, 0x444C5C,
  0x586070, 0x6C7484, 0x848C98, 0x9CA0AC, 0xB0B8C4, 0xCCD0DC, 0x302C04, 0x403C0C, 0x504C14,
  0x605C1C, 0x787840, 0x949464, 0xB0B084, 0xCCCCA8, 0x482C04, 0x583C14, 0x68502C, 0x7C6848,
  0x98845C, 0xB8A078, 0xD4BC94, 0xF4DCB0, 0x400004, 0x580410, 0x701020, 0x882034, 0xA0384C,
  0xBC546C, 0xCC687C, 0xDC8490, 0xEC9CA4, 0xFCBCC0, 0xFCD000, 0xFCE83C, 0xFCFC80, 0x4C2800,
  0x603C08, 0x74581C, 0x887438, 0x9C8850, 0xB09C6C, 0xC4B488, 0x441800, 0x602C04, 0x804408,
  0x9C6010, 0xB87818, 0xD49C20, 0xE8B810, 0xFCD400, 0xFCF880, 0xFCFCC0, 0x200400, 0x401408,
  0x541C10, 0x6C2C1C, 0x803828, 0x944838, 0xA85C4C, 0xB86C58, 0xC4806C, 0xD49480, 0x083400,
  0x104000, 0x205004, 0x306004, 0x40700C, 0x548414, 0x68941C, 0x80A82C, 0x1C3418, 0x2C4420,
  0x3C5830, 0x50683C, 0x687C4C, 0x80945C, 0x98B06C, 0xB4CC7C, 0x103418, 0x20482C, 0x386048,
  0x4C7458, 0x60886C, 0x78A488, 0x98C0A8, 0xB8DCC8, 0x201800, 0x381C00, 0x482804, 0x58340C,
  0x684018, 0x7C542C, 0x8C6C40, 0xA08058, 0x4C2810, 0x603418, 0x744428, 0x885438, 0xA46040,
  0xB87050, 0xCC8060, 0xD49470, 0xE0A880, 0xECBC94, 0x501C04, 0x642814, 0x783828, 0x8C4C40,
  0xA06460, 0xB88888, 0x242844, 0x303454, 0x404064, 0x505074, 0x646488, 0x8484A4, 0xACACC0,
  0xD4D4E0, 0x281470, 0x402C90, 0x5840AC, 0x684CC4, 0x7858E0, 0x8C68FC, 0xA088FC, 0xBCA8FC,
  0x00186C, 0x002484, 0x0034A0, 0x0048B8, 0x0060D4, 0x1878DC, 0x3890E8, 0x58A8F0, 0x80C4FC,
  0xBCE0FC, 0x104060, 0x18506C, 0x286078, 0x347084, 0x508CA0, 0x74ACC0, 0x9CCCDC, 0xCCF0FC,
  0xAC3434, 0xD43434, 0xFC3434, 0xFC6458, 0xFC907C, 0xFCB8A0, 0xFCD8C8, 0xFCF4EC, 0x481470,
  0x5C2C8C, 0x7044A8, 0x8C64C4, 0xA888E0, 0xC8B0F8, 0xD0B8FF, 0xE8D0FC, 0x3C0000, 0x5C0000,
  0x800000, 0xA00000, 0xC40000, 0xE00000, 0xFC0000, 0xFC5000, 0xFC6C00, 0xFC8800, 0xFCA400,
  0xFCC000, 0xFCDC00, 0xFCFC00, 0xCC8808, 0xE49004, 0xFC9C00, 0xFCB030, 0xFCC464, 0xFCD898,
  0x081858, 0x0C2468, 0x14347C, 0x1C448C, 0x285CA4, 0x3878BC, 0x4898D8, 0x64ACE0, 0x5C9C34,
  0x6CB040, 0x7CC84C, 0x90E05C, 0xE0F4FC, 0xC8ECF8, 0xB4DCEC, 0x84BCD8, 0x5898AC, 0xF400F4,
  0xF500F5, 0xF600F6, 0xF700F7, 0xF800F8, 0xF900F9, 0xFA00FA, 0xFB00FB, 0xFC00FC, 0xFD00FD,
  0xFE00FE, 0xFF00FF, 0x4C1808, 0x6C2C18, 0x904834, 0xB06C54, 0xD2927E, 0xFC3C00, 0xFC5400,
  0xFC6800, 0xFC7C00, 0xFC9400, 0xFCAC00, 0xFCC400, 0x400000, 0xFF0000, 0x303000, 0x404000,
  0x505000, 0xFFFF00, 0x204470, 0x244874, 0x284C78, 0x2C507C, 0x305480, 0x486490, 0x6484A8,
  0xD8F4FC, 0x6080A4, 0x44608C, 0xFFFFFF]

def legacyChanges : List (Nat × Nat) := [
  (1, 0xEE00EE), (2, 0xEF00EF), (3, 0xF000F0), (4, 0xF100F1), (5, 0xF200F2), (6, 0xF300F3),
  (7, 0xF400F4), (8, 0xF500F5), (9, 0xF600F6), (32, 0x646464), (33, 0x747474), (40, 0x848484),
  (88, 0x404040), (106, 0x505050), (136, 0x303030), (215, 0x101010), (216, 0x202020),
  (217, 0x204470), (218, 0x244874), (219, 0x284C78), (220, 0x2C507C), (221, 0x305480),
  (222, 0x486490), (223, 0x6484A8), (224, 0xD8F4FC), (225, 0x6080A4), (226, 0x44608C),
  (245, 0x949494), (246, 0xF700F7), (247, 0xF800F8), (248, 0xF900F9), (249, 0xFA00FA),
  (250, 0xFB00FB), (251, 0xFC00FC), (252, 0xFD00FD), (253, 0xFE00FE), (254, 0xFF00FF)]

def defaultToylandChanges : List (Nat × Nat) := [
  (245, 0x1C6C7C), (246, 0x207080), (247, 0x247484), (248, 0x287888), (249, 0x2C7C8C),
  (250, 0x5CA4B8), (251, 0x74B4C4), (253, 0x70B0C0), (254, 0x58A0B4)]

def legacyToylandChanges : List (Nat × Nat) := [
  (0, 0x00FFFF), (217, 0x1C6C7C), (218, 0x207080), (219, 0x247484), (220, 0x287888),
  (221, 0x2C7C8C), (222, 0x5CA4B8), (223, 0x74B4C4), (225, 0x70B0C0), (226, 0x58A0B4)]

def colours : Palette → List Nat
  | default => defaultColours
  | legacy => replaceAt defaultColours legacyChanges
  | defaultToyland => replaceAt defaultColours defaultToylandChanges
  | legacyToyland => replaceAt (replaceAt defaultColours legacyChanges) legacyToylandChanges

def bytes (p : Palette) : ByteArray :=
  p.colours.foldl
    (fun out c => ((out.push (c / 0x10000).toUInt8).push (c / 0x100).toUInt8).push c.toUInt8)
    .empty

def ofBytes? (data : ByteArray) : Option Palette := all.find? (·.bytes.data == data.data)

/-- Numbers of colours that differ between the default palette and the legacy one. -/
def legacyNumbers : List (Nat × Nat) := [
  (1, 215), (2, 216), (3, 136), (4, 88), (5, 106), (6, 32), (7, 33), (8, 40), (9, 245), (32, 53),
  (33, 54), (40, 178), (88, 96), (106, 53), (136, 170), (218, 246), (219, 247), (220, 248),
  (221, 249), (222, 250), (223, 251), (224, 252), (225, 253), (226, 254), (245, 217), (246, 218),
  (247, 219), (248, 220), (249, 221), (250, 222), (251, 223), (252, 224), (253, 225), (254, 226)]

/-- Numbers of colours that differ between the legacy palette and the default one. -/
def defaultNumbers : List (Nat × Nat) := [
  (32, 6), (33, 7), (40, 8), (88, 4), (106, 5), (136, 3), (215, 1), (216, 2), (217, 245),
  (218, 246), (219, 247), (220, 248), (221, 249), (222, 250), (223, 251), (224, 252), (225, 253),
  (226, 254), (227, 229), (228, 230), (229, 231), (230, 227), (231, 228), (245, 9), (246, 218),
  (247, 219), (248, 220), (249, 221), (250, 222), (251, 223), (252, 224), (253, 225), (254, 226)]

def toLegacy (n : Nat) : Nat := (legacyNumbers.lookup n).getD n

def toDefault (n : Nat) : Nat := (defaultNumbers.lookup n).getD n

/-- A recolouring of the default palette as one of the legacy palette. Colours of the default
palette that the legacy one does not have may not be changed. -/
def recolourLegacy (table : List Int) : Except Fault (List Nat) := do
  let own (i : Nat) : Bool := 0xD7 ≤ i && i ≤ 0xE2
  if table.zipIdx.any fun (colour, i) => own i && colour != i then
    throw { cause := .script ("Indices 0xD7..0xE2 are not allowed in recolour sprites when the "
      ++ "output is in the WIN palette") }
  let moved := (table.zipIdx.filter fun (_, i) => !own i).map fun (colour, i) =>
    (toLegacy i, toLegacy (colour % 256).toNat)
  pure ((List.range 256).map fun i => (moved.reverse.lookup i).getD 0)

end Palette

end NewGrf
