import NewGrf.Number.Decimal
import NewGrf.Number.Word
import NewGrf.Position

namespace NewGrf

inductive Keyword where
  | grf | variableAccess | param | cargotable | railtypetable | roadtypetable | tramtypetable
  | cond | otherwise | loop | item | properties | graphics | snowline | basecost | template
  | spriteset | spritegroup | switchBlock | randomSwitch | produce | errorMessage | disableItem
  | replace | replacenew | fontGlyph | deactivate | townNames | stringRef | result | liveryOverride
  | skipAll | tilelayout | spritelayout | alternativeSprites | baseGraphics | recolourSprite
  | engineOverride | sortVehicles | constant
  deriving Repr, DecidableEq, Inhabited

namespace Keyword

def table : List (Keyword × String × String) := [
  (grf, "grf", "GRF"),
  (variableAccess, "var", "VARIABLE"),
  (param, "param", "PARAMETER"),
  (cargotable, "cargotable", "CARGOTABLE"),
  (railtypetable, "railtypetable", "RAILTYPETABLE"),
  (roadtypetable, "roadtypetable", "ROADTYPETABLE"),
  (tramtypetable, "tramtypetable", "TRAMTYPETABLE"),
  (cond, "if", "IF"),
  (otherwise, "else", "ELSE"),
  (loop, "while", "WHILE"),
  (item, "item", "ITEM"),
  (properties, "property", "PROPERTY"),
  (graphics, "graphics", "GRAPHICS"),
  (snowline, "snowline", "SNOWLINE"),
  (basecost, "basecost", "BASECOST"),
  (template, "template", "TEMPLATE"),
  (spriteset, "spriteset", "SPRITESET"),
  (spritegroup, "spritegroup", "SPRITEGROUP"),
  (switchBlock, "switch", "SWITCH"),
  (randomSwitch, "random_switch", "RANDOMSWITCH"),
  (produce, "produce", "PRODUCE"),
  (errorMessage, "error", "ERROR"),
  (disableItem, "disable_item", "DISABLE_ITEM"),
  (replace, "replace", "REPLACESPRITE"),
  (replacenew, "replacenew", "REPLACENEWSPRITE"),
  (fontGlyph, "font_glyph", "FONTGLYPH"),
  (deactivate, "deactivate", "DEACTIVATE"),
  (townNames, "town_names", "TOWN_NAMES"),
  (stringRef, "string", "STRING"),
  (result, "return", "RETURN"),
  (liveryOverride, "livery_override", "LIVERYOVERRIDE"),
  (skipAll, "exit", "SKIP_ALL"),
  (tilelayout, "tilelayout", "TILELAYOUT"),
  (spritelayout, "spritelayout", "SPRITELAYOUT"),
  (alternativeSprites, "alternative_sprites", "ALT_SPRITES"),
  (baseGraphics, "base_graphics", "BASE_GRAPHICS"),
  (recolourSprite, "recolour_sprite", "RECOLOUR_SPRITE"),
  (engineOverride, "engine_override", "ENGINE_OVERRIDE"),
  (sortVehicles, "sort", "SORT_VEHICLES"),
  (constant, "const", "CONST")]

def ofText? (s : String) : Option Keyword := (table.find? (·.2.1 == s)).map (·.1)

def spelling (k : Keyword) : String := ((table.find? (·.1 == k)).map (·.2.1)).getD ""

def className (k : Keyword) : String := ((table.find? (·.1 == k)).map (·.2.2)).getD ""

end Keyword

inductive Sign where
  | plus | minus | times | divide | modulo | bitAnd | bitOr | bitXor | logicalAnd | logicalOr
  | logicalNot | bitNot | equals | parenOpen | parenClose | shiftLeft | shiftRight | shiftRightU
  | same | differs | atMost | atLeast | less | greater | comma | range | bracketOpen
  | bracketClose | braceOpen | braceClose | question | colon | semicolon
  deriving Repr, DecidableEq, Inhabited

namespace Sign

/-- Each sign with its spelling and the name of its class; of two spellings that start alike the
longer stands first. -/
def table : List (Sign × String × String) := [
  (shiftRightU, ">>>", "SHIFTU_RIGHT"),
  (logicalAnd, "&&", "LOGICAL_AND"),
  (logicalOr, "||", "LOGICAL_OR"),
  (shiftLeft, "<<", "SHIFT_LEFT"),
  (shiftRight, ">>", "SHIFT_RIGHT"),
  (same, "==", "COMP_EQ"),
  (differs, "!=", "COMP_NEQ"),
  (atMost, "<=", "COMP_LE"),
  (atLeast, ">=", "COMP_GE"),
  (range, "..", "RANGE"),
  (plus, "+", "PLUS"),
  (minus, "-", "MINUS"),
  (times, "*", "TIMES"),
  (divide, "/", "DIVIDE"),
  (modulo, "%", "MODULO"),
  (bitAnd, "&", "AND"),
  (bitOr, "|", "OR"),
  (bitXor, "^", "XOR"),
  (logicalNot, "!", "LOGICAL_NOT"),
  (bitNot, "~", "BINARY_NOT"),
  (equals, "=", "EQ"),
  (parenOpen, "(", "LPAREN"),
  (parenClose, ")", "RPAREN"),
  (less, "<", "COMP_LT"),
  (greater, ">", "COMP_GT"),
  (comma, ",", "COMMA"),
  (bracketOpen, "[", "LBRACKET"),
  (bracketClose, "]", "RBRACKET"),
  (braceOpen, "\x7b", "LBRACE"),
  (braceClose, "\x7d", "RBRACE"),
  (question, "?", "TERNARY_OPEN"),
  (colon, ":", "COLON"),
  (semicolon, ";", "SEMICOLON")]

def spelling (s : Sign) : String := ((table.find? (·.1 == s)).map (·.2.1)).getD ""

def className (s : Sign) : String := ((table.find? (·.1 == s)).map (·.2.2)).getD ""

end Sign

inductive Token where
  | number (value : Nat)
  | float (value : Float)
  | unit (name : String)
  | ident (name : String)
  | keyword (k : Keyword)
  | literal (text : String)
  | sign (s : Sign)
  deriving Inhabited

namespace Token

def className : Token → String
  | number _ => "NUMBER"
  | float _ => "FLOAT"
  | unit _ => "UNIT"
  | ident _ => "ID"
  | keyword k => k.className
  | literal _ => "STRING_LITERAL"
  | sign s => s.className

/-- A token as messages show it. Numbers appear as the signed words that they stand for. -/
def text : Token → String
  | number n => toString (Number.signed32 n)
  | float x => Number.floatText x
  | unit n => n
  | ident n => n
  | keyword k => k.spelling
  | literal s => "\"" ++ s ++ "\""
  | sign s => s.spelling

end Token

structure Lexeme where
  token : Token
  pos : Position
  /-- How often, since the token before, a line mark closed a file that was not open. -/
  badMarks : Nat := 0
  deriving Inhabited

end NewGrf
