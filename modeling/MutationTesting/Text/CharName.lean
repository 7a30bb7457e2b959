import MutationTesting.Text.CharName.Ancient
import MutationTesting.Text.CharName.Ideographic
import MutationTesting.Text.CharName.Pictures
import MutationTesting.Text.CharName.Symbols
import MutationTesting.Text.CharName.Western
import MutationTesting.Text.CharName.Worldwide
import MutationTesting.Text.CharTable

/-!
# Characters by name

Most names are in tables.  Ideographs are named by their codes and Hangul syllables by their sounds:
an optional consonant, a vowel, and an optional final consonant.  The codes of the syllables follow
the order of their sounds.  Only these names have to be written in capitals.

Some characters have names besides their own: abbreviations, names of control characters, and
corrected spellings.
-/

namespace MutationTesting.Text.CharName

/-- Characters by code with their further names.  Those of variation selectors follow a rule. -/
def aliases : List (Nat × List String) :=
  [(0x0, ["NUL", "NULL"]), (0x1, ["SOH", "START OF HEADING"]), (0x2, ["START OF TEXT", "STX"]),
   (0x3, ["END OF TEXT", "ETX"]), (0x4, ["END OF TRANSMISSION", "EOT"]),
   (0x5, ["ENQ", "ENQUIRY"]), (0x6, ["ACK", "ACKNOWLEDGE"]), (0x7, ["ALERT", "BEL"]),
   (0x8, ["BACKSPACE", "BS"]),
   (0x9, ["CHARACTER TABULATION", "HORIZONTAL TABULATION", "HT", "TAB"]),
   (0xA, ["END OF LINE", "EOL", "LF", "LINE FEED", "NEW LINE", "NL"]),
   (0xB, ["LINE TABULATION", "VERTICAL TABULATION", "VT"]), (0xC, ["FF", "FORM FEED"]),
   (0xD, ["CARRIAGE RETURN", "CR"]), (0xE, ["LOCKING-SHIFT ONE", "SHIFT OUT", "SO"]),
   (0xF, ["LOCKING-SHIFT ZERO", "SHIFT IN", "SI"]), (0x10, ["DATA LINK ESCAPE", "DLE"]),
   (0x11, ["DC1", "DEVICE CONTROL ONE"]), (0x12, ["DC2", "DEVICE CONTROL TWO"]),
   (0x13, ["DC3", "DEVICE CONTROL THREE"]), (0x14, ["DC4", "DEVICE CONTROL FOUR"]),
   (0x15, ["NAK", "NEGATIVE ACKNOWLEDGE"]), (0x16, ["SYN", "SYNCHRONOUS IDLE"]),
   (0x17, ["END OF TRANSMISSION BLOCK", "ETB"]), (0x18, ["CAN", "CANCEL"]),
   (0x19, ["END OF MEDIUM", "EOM"]), (0x1A, ["SUB", "SUBSTITUTE"]), (0x1B, ["ESC", "ESCAPE"]),
   (0x1C, ["FILE SEPARATOR", "FS", "INFORMATION SEPARATOR FOUR"]),
   (0x1D, ["GROUP SEPARATOR", "GS", "INFORMATION SEPARATOR THREE"]),
   (0x1E, ["INFORMATION SEPARATOR TWO", "RECORD SEPARATOR", "RS"]),
   (0x1F, ["INFORMATION SEPARATOR ONE", "UNIT SEPARATOR", "US"]), (0x20, ["SP"]),
   (0x7F, ["DEL", "DELETE"]), (0x80, ["PAD", "PADDING CHARACTER"]),
   (0x81, ["HIGH OCTET PRESET", "HOP"]), (0x82, ["BPH", "BREAK PERMITTED HERE"]),
   (0x83, ["NBH", "NO BREAK HERE"]), (0x84, ["IND", "INDEX"]), (0x85, ["NEL", "NEXT LINE"]),
   (0x86, ["SSA", "START OF SELECTED AREA"]), (0x87, ["END OF SELECTED AREA", "ESA"]),
   (0x88, ["CHARACTER TABULATION SET", "HORIZONTAL TABULATION SET", "HTS"]),
   (0x89, ["CHARACTER TABULATION WITH JUSTIFICATION", "HORIZONTAL TABULATION WITH JUSTIFICATION", "HTJ"]),
   (0x8A, ["LINE TABULATION SET", "VERTICAL TABULATION SET", "VTS"]),
   (0x8B, ["PARTIAL LINE DOWN", "PARTIAL LINE FORWARD", "PLD"]),
   (0x8C, ["PARTIAL LINE BACKWARD", "PARTIAL LINE UP", "PLU"]),
   (0x8D, ["REVERSE INDEX", "REVERSE LINE FEED", "RI"]),
   (0x8E, ["SINGLE SHIFT TWO", "SINGLE-SHIFT-2", "SS2"]),
   (0x8F, ["SINGLE SHIFT THREE", "SINGLE-SHIFT-3", "SS3"]),
   (0x90, ["DCS", "DEVICE CONTROL STRING"]), (0x91, ["PRIVATE USE ONE", "PRIVATE USE-1", "PU1"]),
   (0x92, ["PRIVATE USE TWO", "PRIVATE USE-2", "PU2"]), (0x93, ["SET TRANSMIT STATE", "STS"]),
   (0x94, ["CANCEL CHARACTER", "CCH"]), (0x95, ["MESSAGE WAITING", "MW"]),
   (0x96, ["SPA", "START OF GUARDED AREA", "START OF PROTECTED AREA"]),
   (0x97, ["END OF GUARDED AREA", "END OF PROTECTED AREA", "EPA"]),
   (0x98, ["SOS", "START OF STRING"]), (0x99, ["SGC", "SINGLE GRAPHIC CHARACTER INTRODUCER"]),
   (0x9A, ["SCI", "SINGLE CHARACTER INTRODUCER"]),
   (0x9B, ["CONTROL SEQUENCE INTRODUCER", "CSI"]), (0x9C, ["ST", "STRING TERMINATOR"]),
   (0x9D, ["OPERATING SYSTEM COMMAND", "OSC"]), (0x9E, ["PM", "PRIVACY MESSAGE"]),
   (0x9F, ["APC", "APPLICATION PROGRAM COMMAND"]), (0xA0, ["NBSP"]), (0xAD, ["SHY"]),
   (0x1A2, ["LATIN CAPITAL LETTER GHA"]), (0x1A3, ["LATIN SMALL LETTER GHA"]), (0x34F, ["CGJ"]),
   (0x61C, ["ALM"]), (0x709, ["SYRIAC SUBLINEAR COLON SKEWED LEFT"]),
   (0xCDE, ["KANNADA LETTER LLLA"]), (0xE9D, ["LAO LETTER FO FON"]),
   (0xE9F, ["LAO LETTER FO FAY"]), (0xEA3, ["LAO LETTER RO"]), (0xEA5, ["LAO LETTER LO"]),
   (0xFD0, ["TIBETAN MARK BKA- SHOG GI MGO RGYAN"]),
   (0x11EC, ["HANGUL JONGSEONG YESIEUNG-KIYEOK"]),
   (0x11ED, ["HANGUL JONGSEONG YESIEUNG-SSANGKIYEOK"]),
   (0x11EE, ["HANGUL JONGSEONG SSANGYESIEUNG"]), (0x11EF, ["HANGUL JONGSEONG YESIEUNG-KHIEUKH"]),
   (0x180B, ["FVS1"]), (0x180C, ["FVS2"]), (0x180D, ["FVS3"]), (0x180E, ["MVS"]),
   (0x180F, ["FVS4"]), (0x200B, ["ZWSP"]), (0x200C, ["ZWNJ"]), (0x200D, ["ZWJ"]),
   (0x200E, ["LRM"]), (0x200F, ["RLM"]), (0x202A, ["LRE"]), (0x202B, ["RLE"]), (0x202C, ["PDF"]),
   (0x202D, ["LRO"]), (0x202E, ["RLO"]), (0x202F, ["NNBSP"]), (0x205F, ["MMSP"]),
   (0x2060, ["WJ"]), (0x2066, ["LRI"]), (0x2067, ["RLI"]), (0x2068, ["FSI"]), (0x2069, ["PDI"]),
   (0x2118, ["WEIERSTRASS ELLIPTIC FUNCTION"]), (0x2448, ["MICR ON US SYMBOL"]),
   (0x2449, ["MICR DASH SYMBOL"]),
   (0x2B7A, ["LEFTWARDS TRIANGLE-HEADED ARROW WITH DOUBLE VERTICAL STROKE"]),
   (0x2B7C, ["RIGHTWARDS TRIANGLE-HEADED ARROW WITH DOUBLE VERTICAL STROKE"]),
   (0xA015, ["YI SYLLABLE ITERATION MARK"]), (0xAA6E, ["MYANMAR LETTER KHAMTI LLA"]),
   (0xFE18, ["PRESENTATION FORM FOR VERTICAL RIGHT WHITE LENTICULAR BRACKET"]),
   (0xFEFF, ["BOM", "BYTE ORDER MARK", "ZWNBSP"]), (0x122D4, ["CUNEIFORM SIGN NU11 TENU"]),
   (0x122D5, ["CUNEIFORM SIGN NU11 OVER NU11 BUR OVER BUR"]),
   (0x16E56, ["MEDEFAIDRIN CAPITAL LETTER H"]), (0x16E57, ["MEDEFAIDRIN CAPITAL LETTER NG"]),
   (0x16E76, ["MEDEFAIDRIN SMALL LETTER H"]), (0x16E77, ["MEDEFAIDRIN SMALL LETTER NG"]),
   (0x1B001, ["HENTAIGANA LETTER E-1"]),
   (0x1D0C5, ["BYZANTINE MUSICAL SYMBOL FTHORA SKLIRON CHROMA VASIS"])]

def initialSounds : List String :=
  ["G", "GG", "N", "D", "DD", "R", "M", "B", "BB", "S", "SS", "", "J", "JJ", "C", "K", "T", "P", "H"]

def vowels : List String :=
  ["A", "AE", "YA", "YAE", "EO", "E", "YEO", "YE", "O", "WA", "WAE", "OE", "YO", "U", "WEO", "WE",
   "WI", "YU", "EU", "YI", "I"]

def finalSounds : List String :=
  ["", "G", "GG", "GS", "N", "NJ", "NH", "D", "L", "LG", "LM", "LB", "LS", "LT", "LP", "LH", "M",
   "B", "BS", "S", "SS", "NG", "J", "C", "K", "T", "P", "H"]

/-- The longest sound at the beginning of a text, by its place, with the rest of the text. -/
def longestSound? (sounds : List String) (cs : List Char) : Option (Nat × List Char) :=
  let fitting := sounds.zipIdx.filter fun (sound, _) => sound.toList.isPrefixOf cs
  let longest := fitting.foldl (fun best found =>
    match best with
    | none => some found
    | some known => if known.1.length < found.1.length then some found else best) none
  longest.map fun (sound, place) => (place, cs.drop sound.length)

def firstSyllable : Nat := 0xAC00

/-- The code of a syllable written by its sounds. -/
def syllableCode? (cs : List Char) : Option Nat := do
  let (initial, cs) ← longestSound? initialSounds cs
  let (vowel, cs) ← longestSound? vowels cs
  let (final, cs) ← longestSound? finalSounds cs
  if cs.isEmpty then
    some (firstSyllable + (initial * vowels.length + vowel) * finalSounds.length + final)
  else none

end MutationTesting.Text.CharName

namespace MutationTesting.Text

namespace CharName

def rows : List Row :=
  european ++ westAsian ++ worldwide ++ symbols ++ ideographic ++ ancient ++ hieroglyphs ++ musical ++
    pictures

/-- The unified ideographs. -/
def ideographRanges : List CharRange :=
  [⟨0x3400, 0x4DBF⟩, ⟨0x4E00, 0x9FFF⟩, ⟨0x20000, 0x2A6DF⟩, ⟨0x2A700, 0x2B738⟩,
   ⟨0x2B740, 0x2B81D⟩, ⟨0x2B820, 0x2CEA1⟩, ⟨0x2CEB0, 0x2EBE0⟩, ⟨0x30000, 0x3134A⟩]

/-- The other characters that are named by their codes, with the beginnings of their names. -/
def numberedRanges : List (String × CharRange) :=
  [("CJK COMPATIBILITY IDEOGRAPH-", ⟨0xF900, 0xFA6D⟩),
   ("CJK COMPATIBILITY IDEOGRAPH-", ⟨0xFA70, 0xFAD9⟩),
   ("CJK COMPATIBILITY IDEOGRAPH-", ⟨0x2F800, 0x2FA1D⟩),
   ("KHITAN SMALL SCRIPT CHARACTER-", ⟨0x18B00, 0x18CD5⟩),
   ("NUSHU CHARACTER-", ⟨0x1B170, 0x1B2FB⟩)]

/-- The value of a hexadecimal digit in upper case. -/
def upperHexValue? (c : Char) : Option Nat :=
  if '0' ≤ c ∧ c ≤ '9' then some (c.toNat - 48)
  else if 'A' ≤ c ∧ c ≤ 'F' then some (c.toNat - 55)
  else none

/-- A code in hexadecimal digits. -/
def hexCode? (digits : List Char) : Option Nat := do
  let values ← digits.mapM upperHexValue?
  some (values.foldl (fun n d => 16 * n + d) 0)

/-- The code of a unified ideograph in four or five digits. -/
def ideographCode? (digits : List Char) : Option Nat := do
  let code ← hexCode? digits
  if (digits.length = 4 ∨ digits.length = 5) ∧ ideographRanges.any (·.contains code) then some code
  else none

/-- The code that a name of numbered characters ends in, without needless zeros. -/
def numberedCode? (name : List Char) : Option Nat :=
  numberedRanges.findSome? fun (beginning, range) =>
    if beginning.toList.isPrefixOf name then do
      let digits := name.drop beginning.length
      let code ← hexCode? digits
      if digits.head? ≠ some '0' ∧ range.contains code then some code else none
    else none

/-- The code of a variation selector by its short name, `VS` with a number from 1 to 256. -/
def selectorCode? : List Char → Option Nat
  | 'V' :: 'S' :: digits => do
    let number ← (String.ofList digits).toNat?
    if digits.head? = some '0' ∨ !digits.all Char.isDigit ∨ number = 0 ∨ 256 < number then none
    else if number ≤ 16 then some (0xFE00 + (number - 1))
    else some (0xE0100 + (number - 17))
  | _ => none

def aliasCode? (name : List Char) : Option Nat :=
  (aliases.find? fun (_, names) => names.contains (String.ofList name)).map (·.1)

/-- The code of a name in capitals that is no name of a unified ideograph or a Hangul syllable. -/
def listedCode? (name : List Char) : Option Nat :=
  (numberedCode? name).or ((rows.findSome? (·.code? name)).or
    ((selectorCode? name).or (aliasCode? name)))

/-- What follows a beginning of a text. -/
def after? (beginning : String) (cs : List Char) : Option (List Char) :=
  if beginning.toList.isPrefixOf cs then some (cs.drop beginning.length) else none

/-- The code of the character with a name. -/
def code? (name : List Char) : Option Nat :=
  match after? "HANGUL SYLLABLE " name with
  | some sounds => syllableCode? sounds
  | none =>
    match after? "CJK UNIFIED IDEOGRAPH-" name with
    | some digits => ideographCode? digits
    | none => listedCode? (name.map Char.toUpper)

end CharName

/-- The character with a given name. -/
def charNamed? (name : List Char) : Option Char := (CharName.code? name).map Char.ofNat

end MutationTesting.Text
