import NewGrf.Editor.Words
import NewGrf.Text.Json

namespace NewGrf.Editor

abbrev File := String × String

private def textOf (lines : List String) : String := String.join (lines.map (· ++ "\n"))

namespace Kate

def head : List String := [
  "<?xml version=\"1.0\" encoding=\"UTF-8\"?>",
  "<!DOCTYPE language SYSTEM \"language.dtd\">",
  "<!--",
  "        This is a syntax highlighter for NML, the NewGRF markup language",
  "        (http://dev.openttdcoop.org/nml) used to write NewGRF",
  "        extensions for OpenTTD (http://www.openttd.org)",
  "",
  "        The part on highlighting preprocessor instructions are taken from kate's c++ "
    ++ "highlighter",
  "        in the version 1.49 by Sebastian Pipping (webmaster@hartwork.org)",
  "-->",
  "<language name=\"NML\" section=\"Sources\" version=\"0.01\" kateversion=\"2.4\"",
  "      extensions=\"*.nml;*.pnml;*.tnml\"",
  "      mimetype=\"text/x-nml\"",
  "      indenter=\"cstyle\"",
  "      author=\"Ingo von Borstel\"",
  "      license=\"GPL v2\"",
  "      priority=\"10\">",
  "",
  "  <highlighting>",
  "    <list name=\"blockwords\">"]

private def item (word : String) : String := "      <item> " ++ word ++ " </item>"

private def next (name : String) : List String :=
  ["    </list>", "    <list name=\"" ++ name ++ "\">"]

def contexts : List String := [
  "    </list>",
  "",
  "    <contexts>",
  "      <!-- Normal text with the usual keywords and inserts -->",
  "      <context name=\"Normal\" attribute=\"Normal Text\" lineEndContext=\"#stay\">",
  "        <DetectSpaces />",
  "        <DetectChar context=\"AfterHash\" char=\"#\" firstNonSpace=\"true\" lookAhead=\"true\" "
    ++ "/>",
  "        <keyword attribute=\"Block\" context=\"#stay\" String=\"blockwords\" />",
  "        <keyword attribute=\"Feature\" context=\"#stay\" String=\"features\" />",
  "        <keyword attribute=\"Built-in Function\" context=\"#stay\" String=\"builtin\" />",
  "        <keyword attribute=\"Constant\" context=\"#stay\" String=\"constants\" />",
  "        <DetectChar attribute=\"String\" context=\"String\" char=\"&quot;\"/>",
  "        <Detect2Chars attribute=\"Comment\" context=\"Comment 1\" char=\"/\" char1=\"/\" />",
  "        <Detect2Chars attribute=\"Comment\" context=\"Comment 2\" char=\"/\" char1=\"*\" />",
  "      </context>",
  "",
  "      <!-- Strings within quotation marks -->",
  "      <context attribute=\"String\" lineEndContext=\"#pop\" name=\"String\">",
  "        <LineContinue attribute=\"String\" context=\"#stay\"/>",
  "        <HlCStringChar attribute=\"String Char\" context=\"#stay\"/>",
  "        <DetectChar attribute=\"String\" context=\"#pop\" char=\"&quot;\"/>",
  "      </context>",
  "",
  "      <!-- Strings starting with // -->",
  "      <context attribute=\"Comment\" lineEndContext=\"#pop\" name=\"Comment 1\">",
  "        <LineContinue attribute=\"Comment\" context=\"#stay\"/>",
  "        <DetectSpaces />",
  "        <IncludeRules context=\"##Alerts\" />",
  "        <DetectIdentifier />",
  "      </context>",
  "      <!-- Multi-line strings like /* ... */ -->",
  "      <context attribute=\"Comment\" lineEndContext=\"#stay\" name=\"Comment 2\">",
  "        <DetectSpaces />",
  "        <Detect2Chars attribute=\"Comment\" context=\"#pop\" char=\"*\" char1=\"/\" "
    ++ "endRegion=\"Comment\"/>",
  "        <IncludeRules context=\"##Alerts\" />",
  "        <DetectIdentifier />",
  "      </context>",
  "",
  "      <!-- Preprocessor commands starting with a hash - Main switch for preprocessor -->",
  "      <context attribute=\"Error\" lineEndContext=\"#pop\" name=\"AfterHash\">",
  "        <!-- "
    ++ "define,elif,else,endif,error,if,ifdef,ifndef,include,include_next,line,pragma,undef,"
    ++ "warning -->",
  "        <RegExpr attribute=\"Preprocessor\" context=\"Preprocessor\"",
  "                 String=\"#\\s*if(?:def|ndef)?(?=\\s+\\S)\" insensitive=\"true\" "
    ++ "beginRegion=\"PP\" "
    ++ "firstNonSpace=\"true\" />",
  "        <RegExpr attribute=\"Preprocessor\" context=\"Preprocessor\"",
  "                 String=\"#\\s*endif\" insensitive=\"true\" endRegion=\"PP\" "
    ++ "firstNonSpace=\"true\" "
    ++ "/>",
  "        <RegExpr attribute=\"Preprocessor\" context=\"Define\"",
  "                 String=\"#\\s*define.*((?=\\))\" insensitive=\"true\" firstNonSpace=\"true\" "
    ++ "/>",
  "        <RegExpr attribute=\"Preprocessor\" context=\"Preprocessor\"",
  "                 "
    ++ "String=\"#\\s*(?:el(?:se|if)|include(?:_next)?|define|undef|line|error|warning|pragma)\"",
  "                 insensitive=\"true\" firstNonSpace=\"true\" />",
  "        <RegExpr attribute=\"Preprocessor\" context=\"Preprocessor\"",
  "                 String=\"#\\s+[0-9]+\" insensitive=\"true\" firstNonSpace=\"true\" />",
  "      </context>",
  "      <!-- Preprocessor instructions -->",
  "      <context attribute=\"Preprocessor\" lineEndContext=\"#pop\" name=\"Preprocessor\">",
  "        <LineContinue attribute=\"Preprocessor\" context=\"#stay\"/>",
  "        <RangeDetect attribute=\"Prep. Lib\" context=\"#stay\" char=\"&quot;\" "
    ++ "char1=\"&quot;\"/>",
  "        <RangeDetect attribute=\"Prep. Lib\" context=\"#stay\" char=\"&lt;\" char1=\"&gt;\"/>",
  "        <IncludeRules context=\"##Doxygen\" />",
  "        <Detect2Chars attribute=\"Comment\" context=\"Comment/Preprocessor\" char=\"/\" "
    ++ "char1=\"*\" beginRegion=\"Comment2\" />",
  "        <Detect2Chars attribute=\"Comment\" context=\"Comment 1\" char=\"/\" char1=\"/\"/>",
  "      </context>",
  "      <!-- Preprocessor #define -->",
  "      <context attribute=\"Preprocessor\" lineEndContext=\"#pop\" name=\"Define\">",
  "        <LineContinue attribute=\"Preprocessor\" context=\"#stay\"/>",
  "      </context>",
  "      <!-- Preprocessor comments -->",
  "      <context attribute=\"Comment\" lineEndContext=\"#stay\" name=\"Comment/Preprocessor\">",
  "        <DetectSpaces />",
  "        <Detect2Chars attribute=\"Comment\" context=\"#pop\" char=\"*\" char1=\"/\" "
    ++ "endRegion=\"Comment2\" "
    ++ "/>",
  "        <DetectIdentifier />",
  "      </context>",
  "",
  "    </contexts>"]

def tail : List String := [
  "",
  "    <itemDatas>",
  "      <itemData name=\"Normal Text\"       defStyleNum=\"dsNormal\" />",
  "      <itemData name=\"Block\"             defStyleNum=\"dsKeyword\" />",
  "      <itemData name=\"Feature\"           defStyleNum=\"dsKeyword\" color=\"#0095ff\"",
  "                                         selColor=\"#ffffff\" bold=\"1\" italic=\"0\" "
    ++ "spellChecking=\"false\"/>",
  "      <itemData name=\"Built-in Function\" defStyleNum=\"dsDataType\" spellChecking=\"false\" "
    ++ "/>",
  "      <itemData name=\"String\"            defStyleNum=\"dsString\"/>",
  "      <itemData name=\"Preprocessor\"      defStyleNum=\"dsOthers\" spellChecking=\"false\"/>",
  "      <itemData name=\"Constant\"          defStyleNum=\"dsOthers\" color=\"#006400\" "
    ++ "italic=\"1\" "
    ++ "spellChecking=\"false\" />",
  "      <itemData name=\"Comment\"           defStyleNum=\"dsComment\"/>",
  "    </itemDatas>",
  "  </highlighting>",
  "",
  "  <general>",
  "    <comments>",
  "      <comment name=\"singleLine\" start=\"//\" />",
  "      <comment name=\"multiLine\" start=\"/*\" end=\"*/\" region=\"Comment\"/>",
  "    </comments>",
  "    <keywords casesensitive=\"1\" />",
  "  </general>",
  "",
  "  </language>",
  "<!--",
  "// kate: space-indent on; indent-width 2; replace-tabs on;",
  "-->"]

def file : File :=
  ("nml_kate.xml", textOf (head ++ keywords.map item ++ next "features" ++ features.map item
    ++ next "builtin" ++ functions.map item ++ next "constants" ++ constantWords.map item
    ++ contexts ++ tail))

end Kate

namespace NotepadPlus

def head : List String := [
  "<NotepadPlus>",
  "    <UserLang name=\"nml\" ext=\"nml pnml\">",
  "        <Settings>",
  "            <Global caseIgnored=\"no\" />",
  "            <TreatAsSymbol comment=\"no\" commentLine=\"yes\" />",
  "            <Prefix words1=\"no\" words2=\"no\" words3=\"no\" words4=\"no\" />",
  "        </Settings>",
  "        <KeywordLists>",
  "            <Keywords name=\"Delimiters\">000000</Keywords>",
  "            <Keywords name=\"Folder+\">\x7b</Keywords>",
  "            <Keywords name=\"Folder-\">\x7d</Keywords>",
  "            <Keywords name=\"Operators\">( ) , : ; [ ]</Keywords>",
  "            <Keywords name=\"Comment\">1/* 2*/ 0//</Keywords>"]

private def group (number : Nat) (remark : String) (words : List String) : List String :=
  ["            <!-- " ++ remark ++ "-->",
    "            <Keywords name=\"Words" ++ toString number ++ "\">" ++ " ".intercalate words
      ++ "</Keywords>"]

/-- What is shown in a style of its own: the number of the style, its colour and its font. -/
def styles : List (String × Nat × String × Nat) := [
  ("DEFAULT", 11, "000000", 0), ("FOLDEROPEN", 12, "000080", 1), ("FOLDERCLOSE", 13, "000080", 1),
  ("KEYWORD1", 5, "0000FF", 0), ("KEYWORD2", 6, "800000", 0), ("KEYWORD3", 7, "D1802E", 1),
  ("KEYWORD4", 8, "008040", 0), ("COMMENT", 1, "FF9900", 0), ("COMMENT LINE", 2, "FF9900", 0),
  ("NUMBER", 4, "000000", 0), ("OPERATOR", 10, "000080", 1), ("DELIMINER1", 14, "000000", 0),
  ("DELIMINER2", 15, "000000", 0), ("DELIMINER3", 16, "000000", 0)]

def tail : List String :=
  let line (name : String) (number : Nat) (colour : String) (font : Nat) : String :=
    "            <WordsStyle name=\"" ++ name ++ "\" styleID=\"" ++ toString number
      ++ "\" fgColor=\"" ++ colour ++ "\" bgColor=\"FFFFFF\" fontName=\"\" fontStyle=\""
      ++ toString font ++ "\" />"
  ["        </KeywordLists>", "        <Styles>"]
    ++ styles.map (fun (name, number, colour, font) => line name number colour font)
    ++ ["        </Styles>", "    </UserLang>", "</NotepadPlus>"]

def file : File :=
  ("nml_notepadpp.xml", textOf (head ++ group 1 "blocks, functions and units " blockWords
    ++ group 2 "properties and variables" propertyWords ++ group 3 "features " featureWords
    ++ group 4 "callbacks and constants " constantWords ++ tail))

end NotepadPlus

namespace CodeEditor

open Text Json

private def style (name : String) : String × Json := ("name", string (name ++ ".newgrfml"))

private def word (name pattern : String) : Json := object [style name, ("match", string pattern)]

private def span (name first last : String) : Json :=
  object [style name, ("begin", string first), ("end", string last)]

private def quoted (kind mark : String) : Json :=
  let captures (side : String) : Json :=
    object [("0", object [style ("punctuation.definition.string." ++ side)])]
  object [style ("string.quoted." ++ kind), ("begin", string mark),
    ("beginCaptures", captures "begin"), ("end", string mark), ("endCaptures", captures "end")]

def matching (words : List String) : String :=
  "(?<![_$[:alnum:]])(?:(?<=\\.\\.\\.)|(?<!\\.))(" ++ "|".intercalate words
    ++ ")(?![_$[:alnum:]])(?:(?=\\.\\.\\.)|(?!\\.))"

def patterns : List (String × List Json) := [
  ("comment", [span "comment.line" "//" "$", span "comment.line" "#" "$",
    span "comment.block" "/\\*" "\\*/"]),
  ("numeric-literal", [word "constant.numeric.decimal" "\\b[0-9]+\\b",
    word "constant.numeric.binary" "\\b0(b|B)[01]*\\b",
    word "constant.numeric.hex" "\\b0(x|X)[0-9a-fA-F]*\\b"]),
  ("string", [quoted "double" "\"", quoted "single" "'"]),
  ("block", [word "storage.type.primitive" (matching blockWords)]),
  ("variable", [word "variable.other.property" (matching propertyWords)]),
  ("feature", [word "support.class" (matching featureWords)]),
  ("callback", [word "constant.numeric" (matching constantWords)])]

def grammar : Json := object [
  ("name", string "newgrfml"), ("scopeName", string "source.newgrfml"),
  ("fileTypes", array [string ".nml", string ".pnml"]),
  ("patterns", array (patterns.map fun (name, _) => object [("include", string ("#" ++ name))])),
  ("repository", object (patterns.map fun (name, ps) => (name, object [("patterns", array ps)])))]

def rules : File := ("newgrfml.tmLanguage.json", textOf [grammar.layOut ""])

def suggestions : File :=
  let entry (name : String) (words : List String) : String :=
    quote name ++ ":[" ++ ",".intercalate (words.map quote) ++ "]"
  ("providers.json", "\x7b" ++ ",".intercalate [entry "block" blockWords,
    entry "variables" propertyWords, entry "features" featureWords,
    entry "callbacks" constantWords] ++ "\x7d")

end CodeEditor

end NewGrf.Editor
