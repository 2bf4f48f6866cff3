import NewGrf.Dict

namespace NewGrf.Language

/-- How a code shows an argument that is known during the build. -/
inductive Code.Argument where
  | decimal | hexadecimal | text
  deriving Repr, DecidableEq, Inhabited

structure Code where
  /-- What to write in a text with Unicode, and what in one without where that can be. -/
  wide : String
  narrow : Option String
  size : Option Nat := none
  argument : Option Code.Argument := none
  takesCase : Bool := false
  outdated : Bool := false
  deriving Repr, DecidableEq, Inhabited

namespace Code

def game (low : String) (size : Option Nat := none) (argument : Option Argument := none)
    (outdated : Bool := false) : Code :=
  { wide := "\\UE0" ++ low, narrow := some ("\\" ++ low), size, argument, outdated }

def plain (text : String) : Code := { wide := text, narrow := some text }

def table : Dict Code := [
  ("", plain "\\0D"),
  ("\x7b", plain "\x7b"),
  -- The narrow character of this number is an arrow.
  ("NBSP", { wide := "\\U00A0", narrow := none }),
  ("COPYRIGHT", { wide := "\\U00A9", narrow := some "\\A9" }),
  ("TRAIN", game "B4"), ("LORRY", game "B5"), ("BUS", game "B6"), ("PLANE", game "B7"),
  ("SHIP", game "B8"),
  ("TINYFONT", plain "\\0E"), ("BIGFONT", plain "\\0F"),
  ("COMMA", game "7B" (some 4) (some .decimal)),
  ("SIGNED_WORD", game "7C" (some 2) (some .decimal)),
  ("UNSIGNED_WORD", game "7E" (some 2) (some .decimal)),
  ("CURRENCY", game "7F" (some 4)),
  ("STRING", { game "80" (some 2) (some .text) with takesCase := true }),
  ("DATE1920_LONG", game "82" (some 2)), ("DATE1920_SHORT", game "83" (some 2)),
  ("VELOCITY", game "84" (some 2)), ("SKIP", game "85" (some 2)), ("VOLUME", game "87" (some 2)),
  ("HEX", game "9A\\08" (some 4) (some .hexadecimal)),
  ("STATION", game "9A\\0C" (some 2)), ("WEIGHT", game "9A\\0D" (some 2)),
  ("DATE_LONG", game "9A\\16" (some 4)), ("DATE_SHORT", game "9A\\17" (some 4)),
  ("POWER", game "9A\\18" (some 2)), ("VOLUME_SHORT", game "9A\\19" (some 2)),
  ("WEIGHT_SHORT", game "9A\\1A" (some 2)), ("CARGO_LONG", game "9A\\1B" (some 4)),
  ("CARGO_SHORT", game "9A\\1C" (some 4)), ("CARGO_TINY", game "9A\\1D" (some 4)),
  ("CARGO_NAME", game "9A\\1E" (some 2)), ("FORCE", game "9A\\21" (some 4)),
  ("BLUE", game "88"), ("SILVER", game "89"), ("GOLD", game "8A"), ("RED", game "8B"),
  ("PURPLE", game "8C"), ("LTBROWN", game "8D"), ("ORANGE", game "8E"), ("GREEN", game "8F"),
  ("YELLOW", game "90"), ("DKGREEN", game "91"), ("CREAM", game "92"), ("BROWN", game "93"),
  ("WHITE", game "94"), ("LTBLUE", game "95"), ("GRAY", game "96"), ("DKBLUE", game "97"),
  ("BLACK", game "98"),
  ("PUSH_COLOUR", game "9A\\1F"), ("POP_COLOUR", game "9A\\20"),
  ("DWORD_S", game "7B" (some 4) none true), ("PARAM", game "7B" (some 4) none true),
  ("WORD_S", game "7C" (some 2) none true), ("BYTE_S", game "7D" none none true),
  ("WORD_U", game "7E" (some 2) none true), ("POP_WORD", game "85" (some 2) none true),
  ("CURRENCY_QWORD", game "9A\\01" none none true), ("PUSH_WORD", game "9A\\03" none none true),
  ("UNPRINT", game "9A\\04" none none true), ("BYTE_HEX", game "9A\\06" none none true),
  ("WORD_HEX", game "9A\\07" (some 2) none true), ("DWORD_HEX", game "9A\\08" (some 4) none true),
  ("QWORD_HEX", game "9A\\0B" none none true),
  ("WORD_S_TONNES", game "9A\\0D" (some 2) none true)]

end Code

end NewGrf.Language
