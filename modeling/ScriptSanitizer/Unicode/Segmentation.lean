import ScriptSanitizer.Unicode.Property

/-!
# Segmentation

The values of the properties by which the Unicode standard divides a text into grapheme clusters,
words and sentences, in the edition 16.0.  A code point has at most one value of each; those with
none are in no set here.
-/

namespace ScriptSanitizer

namespace Unicode

/-- The part of a code point in the division into grapheme clusters. -/
inductive GraphemeBreak where
  | carriageReturn
  | control
  | extend
  | leadingJamo
  | lineFeed
  | openSyllable
  | closedSyllable
  | prepend
  | regionalIndicator
  | spacingMark
  | trailingJamo
  | vowelJamo
  | zeroWidthJoiner
  deriving DecidableEq

namespace GraphemeBreak

/-- The members of each set, as categories and exceptions. -/
def members : GraphemeBreak → Members
  | carriageReturn => ⟨[], [0xD, 0xE]⟩
  | control => ⟨[.control, .format], [
      0xA, 0xB, 0xD, 0xE, 0x600, 0x606, 0x6DD, 0x6DE, 0x70F, 0x710, 0x890, 0x892, 0x8E2, 0x8E3,
      0x200C, 0x200E, 0x2028, 0x202A, 0x2065, 0x2066, 0xFFF0, 0xFFF9, 0x110BD, 0x110BE, 0x110CD,
      0x110CE, 0xE0000, 0xE0001, 0xE0002, 0xE0100, 0xE01F0, 0xE1000]⟩
  | extend => ⟨[.nonspacingMark, .enclosingMark], [
      0x9BE, 0x9BF, 0x9D7, 0x9D8, 0xB3E, 0xB3F, 0xB57, 0xB58, 0xBBE, 0xBBF, 0xBD7, 0xBD8, 0xCC0,
      0xCC1, 0xCC2, 0xCC3, 0xCC7, 0xCC9, 0xCCA, 0xCCC, 0xCD5, 0xCD7, 0xD3E, 0xD3F, 0xD57, 0xD58,
      0xDCF, 0xDD0, 0xDDF, 0xDE0, 0x1715, 0x1716, 0x1734, 0x1735, 0x1B35, 0x1B36, 0x1B3B, 0x1B3C,
      0x1B3D, 0x1B3E, 0x1B43, 0x1B45, 0x1BAA, 0x1BAB, 0x1BF2, 0x1BF4, 0x200C, 0x200D, 0x302E,
      0x3030, 0xA953, 0xA954, 0xA9C0, 0xA9C1, 0xFF9E, 0xFFA0, 0x111C0, 0x111C1, 0x11235, 0x11236,
      0x1133E, 0x1133F, 0x1134D, 0x1134E, 0x11357, 0x11358, 0x113B8, 0x113B9, 0x113C2, 0x113C3,
      0x113C5, 0x113C6, 0x113C7, 0x113CA, 0x113CF, 0x113D0, 0x114B0, 0x114B1, 0x114BD, 0x114BE,
      0x115AF, 0x115B0, 0x116B6, 0x116B7, 0x11930, 0x11931, 0x1193D, 0x1193E, 0x11F41, 0x11F42,
      0x16FF0, 0x16FF2, 0x1D165, 0x1D167, 0x1D16D, 0x1D173, 0x1F3FB, 0x1F400, 0xE0020, 0xE0080]⟩
  | leadingJamo => ⟨[], [0x1100, 0x1160, 0xA960, 0xA97D]⟩
  | lineFeed => ⟨[], [0xA, 0xB]⟩
  | openSyllable => ⟨[], [0xAC00, 0xD7A4]⟩
  | closedSyllable => ⟨[], [0xAC00, 0xD7A4]⟩
  | prepend => ⟨[], [
      0x600, 0x606, 0x6DD, 0x6DE, 0x70F, 0x710, 0x890, 0x892, 0x8E2, 0x8E3, 0xD4E, 0xD4F, 0x110BD,
      0x110BE, 0x110CD, 0x110CE, 0x111C2, 0x111C4, 0x113D1, 0x113D2, 0x1193F, 0x11940, 0x11941,
      0x11942, 0x11A3A, 0x11A3B, 0x11A84, 0x11A8A, 0x11D46, 0x11D47, 0x11F02, 0x11F03]⟩
  | regionalIndicator => ⟨[], [0x1F1E6, 0x1F200]⟩
  | spacingMark => ⟨[.spacingMark], [
      0x9BE, 0x9BF, 0x9D7, 0x9D8, 0xB3E, 0xB3F, 0xB57, 0xB58, 0xBBE, 0xBBF, 0xBD7, 0xBD8, 0xCC0,
      0xCC1, 0xCC2, 0xCC3, 0xCC7, 0xCC9, 0xCCA, 0xCCC, 0xCD5, 0xCD7, 0xD3E, 0xD3F, 0xD57, 0xD58,
      0xDCF, 0xDD0, 0xDDF, 0xDE0, 0xE33, 0xE34, 0xEB3, 0xEB4, 0x102B, 0x102D, 0x1038, 0x1039,
      0x1062, 0x1065, 0x1067, 0x106E, 0x1083, 0x1084, 0x1087, 0x108D, 0x108F, 0x1090, 0x109A,
      0x109D, 0x1715, 0x1716, 0x1734, 0x1735, 0x1A61, 0x1A62, 0x1A63, 0x1A65, 0x1B35, 0x1B36,
      0x1B3B, 0x1B3C, 0x1B3D, 0x1B3E, 0x1B43, 0x1B45, 0x1BAA, 0x1BAB, 0x1BF2, 0x1BF4, 0x302E,
      0x3030, 0xA953, 0xA954, 0xA9C0, 0xA9C1, 0xAA7B, 0xAA7C, 0xAA7D, 0xAA7E, 0x111C0, 0x111C1,
      0x11235, 0x11236, 0x1133E, 0x1133F, 0x1134D, 0x1134E, 0x11357, 0x11358, 0x113B8, 0x113B9,
      0x113C2, 0x113C3, 0x113C5, 0x113C6, 0x113C7, 0x113CA, 0x113CF, 0x113D0, 0x114B0, 0x114B1,
      0x114BD, 0x114BE, 0x115AF, 0x115B0, 0x116B6, 0x116B7, 0x11720, 0x11722, 0x11930, 0x11931,
      0x1193D, 0x1193E, 0x11F41, 0x11F42, 0x16FF0, 0x16FF2, 0x1D165, 0x1D167, 0x1D16D, 0x1D173]⟩
  | trailingJamo => ⟨[], [0x11A8, 0x1200, 0xD7CB, 0xD7FC]⟩
  | vowelJamo => ⟨[], [0x1160, 0x11A8, 0xD7B0, 0xD7C7, 0x16D63, 0x16D64, 0x16D67, 0x16D6B]⟩
  | zeroWidthJoiner => ⟨[], [0x200D, 0x200E]⟩

/-- The code point has the value.  A syllable of Hangul is open if it is the first of the 28 that
share a consonant and a vowel. -/
def contains (value : GraphemeBreak) (code : Nat) : Bool :=
  value.members.contains code &&
    match value with
    | openSyllable => (code - 0xAC00) % 28 == 0
    | closedSyllable => (code - 0xAC00) % 28 != 0
    | _ => true

/-- Every value under each of its names, written without capitals and separators. -/
def table : List (String × GraphemeBreak) :=
  [
    ("cr", carriageReturn), ("control", control), ("cn", control), ("extend", extend),
    ("ex", extend), ("l", leadingJamo), ("lf", lineFeed), ("lv", openSyllable),
    ("lvt", closedSyllable), ("prepend", prepend), ("pp", prepend),
    ("regionalindicator", regionalIndicator), ("ri", regionalIndicator),
    ("spacingmark", spacingMark), ("sm", spacingMark), ("t", trailingJamo), ("v", vowelJamo),
    ("zwj", zeroWidthJoiner)
  ]

end GraphemeBreak

/-- The part of a code point in the division into words. -/
inductive WordBreak where
  | letter
  | carriageReturn
  | doubleQuote
  | extend
  | connector
  | format
  | hebrewLetter
  | katakana
  | lineFeed
  | withinLetters
  | withinNumbers
  | withinBoth
  | newline
  | numeric
  | regionalIndicator
  | singleQuote
  | space
  | zeroWidthJoiner
  deriving DecidableEq

namespace WordBreak

/-- The members of each set, as categories and exceptions. -/
def members : WordBreak → Members
  | letter => ⟨[.modifierLetter, .otherLetter, .letterNumber], [
      0x41, 0x5B, 0x61, 0x7B, 0xB5, 0xB6, 0xC0, 0xD7, 0xD8, 0xF7, 0xF8, 0x1BB, 0x1BC, 0x1C0, 0x1C4,
      0x294, 0x295, 0x2B0, 0x2C2, 0x2C6, 0x2D2, 0x2D8, 0x2DE, 0x2E0, 0x2E5, 0x2EC, 0x2ED, 0x2EE,
      0x2EF, 0x300, 0x370, 0x374, 0x376, 0x378, 0x37B, 0x37E, 0x37F, 0x380, 0x386, 0x387, 0x388,
      0x38B, 0x38C, 0x38D, 0x38E, 0x3A2, 0x3A3, 0x3F6, 0x3F7, 0x482, 0x48A, 0x530, 0x531, 0x557,
      0x55A, 0x55D, 0x55E, 0x55F, 0x560, 0x589, 0x58A, 0x58B, 0x5D0, 0x5EB, 0x5EF, 0x5F4, 0x70F,
      0x710, 0xE01, 0xE31, 0xE32, 0xE34, 0xE40, 0xE47, 0xE81, 0xE83, 0xE84, 0xE85, 0xE86, 0xE8B,
      0xE8C, 0xEA4, 0xEA5, 0xEA6, 0xEA7, 0xEB1, 0xEB2, 0xEB4, 0xEBD, 0xEBE, 0xEC0, 0xEC5, 0xEC6,
      0xEC7, 0xEDC, 0xEE0, 0x1000, 0x102B, 0x103F, 0x1040, 0x1050, 0x1056, 0x105A, 0x105E, 0x1061,
      0x1062, 0x1065, 0x1067, 0x106E, 0x1071, 0x1075, 0x1082, 0x108E, 0x108F, 0x10A0, 0x10C6,
      0x10C7, 0x10C8, 0x10CD, 0x10CE, 0x10D0, 0x10FB, 0x10FD, 0x1100, 0x13A0, 0x13F6, 0x13F8,
      0x13FE, 0x1780, 0x17B4, 0x17D7, 0x17D8, 0x17DC, 0x17DD, 0x1950, 0x196E, 0x1970, 0x1975,
      0x1980, 0x19AC, 0x19B0, 0x19CA, 0x1A20, 0x1A55, 0x1AA7, 0x1AA8, 0x1C80, 0x1C8B, 0x1C90,
      0x1CBB, 0x1CBD, 0x1CC0, 0x1D00, 0x1D2C, 0x1D6B, 0x1D78, 0x1D79, 0x1D9B, 0x1E00, 0x1F16,
      0x1F18, 0x1F1E, 0x1F20, 0x1F46, 0x1F48, 0x1F4E, 0x1F50, 0x1F58, 0x1F59, 0x1F5A, 0x1F5B,
      0x1F5C, 0x1F5D, 0x1F5E, 0x1F5F, 0x1F7E, 0x1F80, 0x1FB5, 0x1FB6, 0x1FBD, 0x1FBE, 0x1FBF,
      0x1FC2, 0x1FC5, 0x1FC6, 0x1FCD, 0x1FD0, 0x1FD4, 0x1FD6, 0x1FDC, 0x1FE0, 0x1FED, 0x1FF2,
      0x1FF5, 0x1FF6, 0x1FFD, 0x2102, 0x2103, 0x2107, 0x2108, 0x210A, 0x2114, 0x2115, 0x2116,
      0x2119, 0x211E, 0x2124, 0x2125, 0x2126, 0x2127, 0x2128, 0x2129, 0x212A, 0x212E, 0x212F,
      0x2135, 0x2139, 0x213A, 0x213C, 0x2140, 0x2145, 0x214A, 0x214E, 0x214F, 0x2183, 0x2185,
      0x24B6, 0x24EA, 0x2C00, 0x2C7C, 0x2C7E, 0x2CE5, 0x2CEB, 0x2CEF, 0x2CF2, 0x2CF4, 0x2D00,
      0x2D26, 0x2D27, 0x2D28, 0x2D2D, 0x2D2E, 0x3006, 0x3008, 0x3021, 0x302A, 0x3031, 0x3036,
      0x3038, 0x303B, 0x3041, 0x3097, 0x309D, 0x30A0, 0x30A1, 0x30FB, 0x30FC, 0x3100, 0x31F0,
      0x3200, 0x3400, 0x4DC0, 0x4E00, 0xA000, 0xA640, 0xA66E, 0xA680, 0xA69C, 0xA708, 0xA717,
      0xA720, 0xA770, 0xA771, 0xA788, 0xA789, 0xA78F, 0xA790, 0xA7CE, 0xA7D0, 0xA7D2, 0xA7D3,
      0xA7D4, 0xA7D5, 0xA7DD, 0xA7F5, 0xA7F7, 0xA7FA, 0xA7FB, 0xA9E0, 0xA9E5, 0xA9E6, 0xA9F0,
      0xA9FA, 0xA9FF, 0xAA60, 0xAA77, 0xAA7A, 0xAA7B, 0xAA7E, 0xAAB0, 0xAAB1, 0xAAB2, 0xAAB5,
      0xAAB7, 0xAAB9, 0xAABE, 0xAAC0, 0xAAC1, 0xAAC2, 0xAAC3, 0xAADB, 0xAADE, 0xAB30, 0xAB5C,
      0xAB60, 0xAB69, 0xAB70, 0xABC0, 0xF900, 0xFA6E, 0xFA70, 0xFADA, 0xFB00, 0xFB07, 0xFB13,
      0xFB18, 0xFB1D, 0xFB1E, 0xFB1F, 0xFB29, 0xFB2A, 0xFB37, 0xFB38, 0xFB3D, 0xFB3E, 0xFB3F,
      0xFB40, 0xFB42, 0xFB43, 0xFB45, 0xFB46, 0xFB50, 0xFF21, 0xFF3B, 0xFF41, 0xFF5B, 0xFF66,
      0xFFA0, 0x10400, 0x10450, 0x104B0, 0x104D4, 0x104D8, 0x104FC, 0x10570, 0x1057B, 0x1057C,
      0x1058B, 0x1058C, 0x10593, 0x10594, 0x10596, 0x10597, 0x105A2, 0x105A3, 0x105B2, 0x105B3,
      0x105BA, 0x105BB, 0x105BD, 0x10C80, 0x10CB3, 0x10CC0, 0x10CF3, 0x10D50, 0x10D66, 0x10D70,
      0x10D86, 0x11700, 0x1171B, 0x11740, 0x11747, 0x118A0, 0x118E0, 0x16E40, 0x16E80, 0x17000,
      0x187F8, 0x18800, 0x18CD6, 0x18CFF, 0x18D09, 0x1AFF0, 0x1AFF4, 0x1AFF5, 0x1AFFC, 0x1AFFD,
      0x1AFFF, 0x1B000, 0x1B123, 0x1B132, 0x1B133, 0x1B150, 0x1B153, 0x1B155, 0x1B156, 0x1B164,
      0x1B168, 0x1B170, 0x1B2FC, 0x1D400, 0x1D455, 0x1D456, 0x1D49D, 0x1D49E, 0x1D4A0, 0x1D4A2,
      0x1D4A3, 0x1D4A5, 0x1D4A7, 0x1D4A9, 0x1D4AD, 0x1D4AE, 0x1D4BA, 0x1D4BB, 0x1D4BC, 0x1D4BD,
      0x1D4C4, 0x1D4C5, 0x1D506, 0x1D507, 0x1D50B, 0x1D50D, 0x1D515, 0x1D516, 0x1D51D, 0x1D51E,
      0x1D53A, 0x1D53B, 0x1D53F, 0x1D540, 0x1D545, 0x1D546, 0x1D547, 0x1D54A, 0x1D551, 0x1D552,
      0x1D6A6, 0x1D6A8, 0x1D6C1, 0x1D6C2, 0x1D6DB, 0x1D6DC, 0x1D6FB, 0x1D6FC, 0x1D715, 0x1D716,
      0x1D735, 0x1D736, 0x1D74F, 0x1D750, 0x1D76F, 0x1D770, 0x1D789, 0x1D78A, 0x1D7A9, 0x1D7AA,
      0x1D7C3, 0x1D7C4, 0x1D7CC, 0x1DF00, 0x1DF0A, 0x1DF0B, 0x1DF1F, 0x1DF25, 0x1DF2B, 0x1E900,
      0x1E944, 0x1F130, 0x1F14A, 0x1F150, 0x1F16A, 0x1F170, 0x1F18A, 0x20000, 0x2A6E0, 0x2A700,
      0x2B73A, 0x2B740, 0x2B81E, 0x2B820, 0x2CEA2, 0x2CEB0, 0x2EBE1, 0x2EBF0, 0x2EE5E, 0x2F800,
      0x2FA1E, 0x30000, 0x3134B, 0x31350, 0x323B0]⟩
  | carriageReturn => ⟨[], [0xD, 0xE]⟩
  | doubleQuote => ⟨[], [0x22, 0x23]⟩
  | extend => ⟨[.nonspacingMark, .spacingMark, .enclosingMark], [
      0x200C, 0x200D, 0xFF9E, 0xFFA0, 0x1F3FB, 0x1F400, 0xE0020, 0xE0080]⟩
  | connector => ⟨[.connectorPunctuation], [0x202F, 0x2030]⟩
  | format => ⟨[.format], [
      0x600, 0x606, 0x6DD, 0x6DE, 0x70F, 0x710, 0x890, 0x892, 0x8E2, 0x8E3, 0x200B, 0x200E, 0x110BD,
      0x110BE, 0x110CD, 0x110CE, 0xE0020, 0xE0080]⟩
  | hebrewLetter => ⟨[], [
      0x5D0, 0x5EB, 0x5EF, 0x5F3, 0xFB1D, 0xFB1E, 0xFB1F, 0xFB29, 0xFB2A, 0xFB37, 0xFB38, 0xFB3D,
      0xFB3E, 0xFB3F, 0xFB40, 0xFB42, 0xFB43, 0xFB45, 0xFB46, 0xFB50]⟩
  | katakana => ⟨[], [
      0x3031, 0x3036, 0x309B, 0x309D, 0x30A0, 0x30FB, 0x30FC, 0x3100, 0x31F0, 0x3200, 0x32D0,
      0x32FF, 0x3300, 0x3358, 0xFF66, 0xFF9E, 0x1AFF0, 0x1AFF4, 0x1AFF5, 0x1AFFC, 0x1AFFD, 0x1AFFF,
      0x1B000, 0x1B001, 0x1B120, 0x1B123, 0x1B155, 0x1B156, 0x1B164, 0x1B168]⟩
  | lineFeed => ⟨[], [0xA, 0xB]⟩
  | withinLetters => ⟨[], [
      0x3A, 0x3B, 0xB7, 0xB8, 0x387, 0x388, 0x55F, 0x560, 0x5F4, 0x5F5, 0x2027, 0x2028, 0xFE13,
      0xFE14, 0xFE55, 0xFE56, 0xFF1A, 0xFF1B]⟩
  | withinNumbers => ⟨[], [
      0x2C, 0x2D, 0x3B, 0x3C, 0x37E, 0x37F, 0x589, 0x58A, 0x60C, 0x60E, 0x66C, 0x66D, 0x7F8, 0x7F9,
      0x2044, 0x2045, 0xFE50, 0xFE51, 0xFE54, 0xFE55, 0xFF0C, 0xFF0D, 0xFF1B, 0xFF1C]⟩
  | withinBoth => ⟨[], [
      0x2E, 0x2F, 0x2018, 0x201A, 0x2024, 0x2025, 0xFE52, 0xFE53, 0xFF07, 0xFF08, 0xFF0E, 0xFF0F]⟩
  | newline => ⟨[], [0xB, 0xD, 0x85, 0x86, 0x2028, 0x202A]⟩
  | numeric => ⟨[.decimalNumber], [
      0x600, 0x606, 0x66B, 0x66C, 0x6DD, 0x6DE, 0x890, 0x892, 0x8E2, 0x8E3, 0x19DA, 0x19DB, 0x110BD,
      0x110BE, 0x110CD, 0x110CE]⟩
  | regionalIndicator => ⟨[], [0x1F1E6, 0x1F200]⟩
  | singleQuote => ⟨[], [0x27, 0x28]⟩
  | space => ⟨[.spaceSeparator], [0xA0, 0xA1, 0x2007, 0x2008, 0x202F, 0x2030]⟩
  | zeroWidthJoiner => ⟨[], [0x200D, 0x200E]⟩

/-- The code point has the value. -/
def contains (value : WordBreak) (code : Nat) : Bool := value.members.contains code

/-- Every value under each of its names, written without capitals and separators. -/
def table : List (String × WordBreak) :=
  [
    ("aletter", letter), ("le", letter), ("cr", carriageReturn), ("doublequote", doubleQuote),
    ("dq", doubleQuote), ("extend", extend), ("extendnumlet", connector), ("ex", connector),
    ("format", format), ("fo", format), ("hebrewletter", hebrewLetter), ("hl", hebrewLetter),
    ("katakana", katakana), ("ka", katakana), ("lf", lineFeed), ("midletter", withinLetters),
    ("ml", withinLetters), ("midnum", withinNumbers), ("mn", withinNumbers),
    ("midnumlet", withinBoth), ("mb", withinBoth), ("newline", newline), ("nl", newline),
    ("numeric", numeric), ("nu", numeric), ("regionalindicator", regionalIndicator),
    ("ri", regionalIndicator), ("singlequote", singleQuote), ("sq", singleQuote),
    ("wsegspace", space), ("zwj", zeroWidthJoiner)
  ]

end WordBreak

/-- The part of a code point in the division into sentences. -/
inductive SentenceBreak where
  | ambiguousEnd
  | carriageReturn
  | close
  | extend
  | format
  | lineFeed
  | lower
  | numeric
  | otherLetter
  | continuation
  | sentenceEnd
  | separator
  | space
  | upper
  deriving DecidableEq

namespace SentenceBreak

/-- The members of each set, as categories and exceptions. -/
def members : SentenceBreak → Members
  | ambiguousEnd => ⟨[], [0x2E, 0x2F, 0x2024, 0x2025, 0xFE52, 0xFE53, 0xFF0E, 0xFF0F]⟩
  | carriageReturn => ⟨[], [0xD, 0xE]⟩
  | close => ⟨[], [
      0x22, 0x23, 0x27, 0x2A, 0x5B, 0x5C, 0x5D, 0x5E, 0x7B, 0x7C, 0x7D, 0x7E, 0xAB, 0xAC, 0xBB,
      0xBC, 0xF3A, 0xF3E, 0x169B, 0x169D, 0x2018, 0x2020, 0x2039, 0x203B, 0x2045, 0x2047, 0x207D,
      0x207F, 0x208D, 0x208F, 0x2308, 0x230C, 0x2329, 0x232B, 0x275B, 0x2761, 0x2768, 0x2776,
      0x27C5, 0x27C7, 0x27E6, 0x27F0, 0x2983, 0x2999, 0x29D8, 0x29DC, 0x29FC, 0x29FE, 0x2E00,
      0x2E0E, 0x2E1C, 0x2E1E, 0x2E20, 0x2E2A, 0x2E42, 0x2E43, 0x2E55, 0x2E5D, 0x3008, 0x3012,
      0x3014, 0x301C, 0x301D, 0x3020, 0xFD3E, 0xFD40, 0xFE17, 0xFE19, 0xFE35, 0xFE45, 0xFE47,
      0xFE49, 0xFE59, 0xFE5F, 0xFF08, 0xFF0A, 0xFF3B, 0xFF3C, 0xFF3D, 0xFF3E, 0xFF5B, 0xFF5C,
      0xFF5D, 0xFF5E, 0xFF5F, 0xFF61, 0xFF62, 0xFF64, 0x1F676, 0x1F679]⟩
  | extend => ⟨[.nonspacingMark, .spacingMark, .enclosingMark], [
      0x200C, 0x200E, 0xFF9E, 0xFFA0, 0xE0020, 0xE0080]⟩
  | format => ⟨[.format], [
      0x600, 0x606, 0x6DD, 0x6DE, 0x890, 0x892, 0x8E2, 0x8E3, 0x200C, 0x200E, 0x110BD, 0x110BE,
      0x110CD, 0x110CE, 0xE0020, 0xE0080]⟩
  | lineFeed => ⟨[], [0xA, 0xB]⟩
  | lower => ⟨[.lowercaseLetter], [
      0xAA, 0xAB, 0xBA, 0xBB, 0x2B0, 0x2B9, 0x2C0, 0x2C2, 0x2E0, 0x2E5, 0x37A, 0x37B, 0x10D0,
      0x10FB, 0x10FC, 0x1100, 0x1D2C, 0x1D6B, 0x1D78, 0x1D79, 0x1D9B, 0x1DC0, 0x2071, 0x2072,
      0x207F, 0x2080, 0x2090, 0x209D, 0x2170, 0x2180, 0x24D0, 0x24EA, 0x2C7C, 0x2C7E, 0xA69C,
      0xA69E, 0xA770, 0xA771, 0xA7F2, 0xA7F5, 0xA7F8, 0xA7FA, 0xAB5C, 0xAB60, 0xAB69, 0xAB6A,
      0x10780, 0x10781, 0x10783, 0x10786, 0x10787, 0x107B1, 0x107B2, 0x107BB, 0x1E030, 0x1E06E]⟩
  | numeric => ⟨[.decimalNumber], [
      0x600, 0x606, 0x66B, 0x66D, 0x6DD, 0x6DE, 0x890, 0x892, 0x8E2, 0x8E3, 0x19DA, 0x19DB, 0x110BD,
      0x110BE, 0x110CD, 0x110CE]⟩
  | otherLetter => ⟨[.modifierLetter, .otherLetter, .letterNumber], [
      0xAA, 0xAB, 0xBA, 0xBB, 0x2B0, 0x2B9, 0x2C0, 0x2C2, 0x2E0, 0x2E5, 0x37A, 0x37B, 0x5F3, 0x5F4,
      0x10D0, 0x10FB, 0x10FC, 0x1100, 0x1C90, 0x1CBB, 0x1CBD, 0x1CC0, 0x1D2C, 0x1D6B, 0x1D78,
      0x1D79, 0x1D9B, 0x1DC0, 0x2071, 0x2072, 0x207F, 0x2080, 0x2090, 0x209D, 0x2160, 0x2180,
      0x2C7C, 0x2C7E, 0xA69C, 0xA69E, 0xA770, 0xA771, 0xA7F2, 0xA7F5, 0xA7F8, 0xA7FA, 0xAB5C,
      0xAB60, 0xAB69, 0xAB6A, 0xFF9E, 0xFFA0, 0x10780, 0x10781, 0x10783, 0x10786, 0x10787, 0x107B1,
      0x107B2, 0x107BB, 0x1E030, 0x1E06E]⟩
  | continuation => ⟨[], [
      0x2C, 0x2E, 0x3A, 0x3C, 0x37E, 0x37F, 0x55D, 0x55E, 0x60C, 0x60E, 0x7F8, 0x7F9, 0x1802,
      0x1803, 0x1808, 0x1809, 0x2013, 0x2015, 0x3001, 0x3002, 0xFE10, 0xFE12, 0xFE13, 0xFE15,
      0xFE31, 0xFE33, 0xFE50, 0xFE52, 0xFE54, 0xFE56, 0xFE58, 0xFE59, 0xFE63, 0xFE64, 0xFF0C,
      0xFF0E, 0xFF1A, 0xFF1C, 0xFF64, 0xFF65]⟩
  | sentenceEnd => ⟨[], [
      0x21, 0x22, 0x3F, 0x40, 0x589, 0x58A, 0x61D, 0x620, 0x6D4, 0x6D5, 0x700, 0x703, 0x7F9, 0x7FA,
      0x837, 0x838, 0x839, 0x83A, 0x83D, 0x83F, 0x964, 0x966, 0x104A, 0x104C, 0x1362, 0x1363,
      0x1367, 0x1369, 0x166E, 0x166F, 0x1735, 0x1737, 0x17D4, 0x17D6, 0x1803, 0x1804, 0x1809,
      0x180A, 0x1944, 0x1946, 0x1AA8, 0x1AAC, 0x1B4E, 0x1B50, 0x1B5A, 0x1B5C, 0x1B5E, 0x1B60,
      0x1B7D, 0x1B80, 0x1C3B, 0x1C3D, 0x1C7E, 0x1C80, 0x203C, 0x203E, 0x2047, 0x204A, 0x2CF9,
      0x2CFC, 0x2E2E, 0x2E2F, 0x2E3C, 0x2E3D, 0x2E53, 0x2E55, 0x3002, 0x3003, 0xA4FF, 0xA500,
      0xA60E, 0xA610, 0xA6F3, 0xA6F4, 0xA6F7, 0xA6F8, 0xA876, 0xA878, 0xA8CE, 0xA8D0, 0xA92F,
      0xA930, 0xA9C8, 0xA9CA, 0xAA5D, 0xAA60, 0xAAF0, 0xAAF2, 0xABEB, 0xABEC, 0xFE12, 0xFE13,
      0xFE15, 0xFE17, 0xFE56, 0xFE58, 0xFF01, 0xFF02, 0xFF1F, 0xFF20, 0xFF61, 0xFF62, 0x10A56,
      0x10A58, 0x10F55, 0x10F5A, 0x10F86, 0x10F8A, 0x11047, 0x11049, 0x110BE, 0x110C2, 0x11141,
      0x11144, 0x111C5, 0x111C7, 0x111CD, 0x111CE, 0x111DE, 0x111E0, 0x11238, 0x1123A, 0x1123B,
      0x1123D, 0x112A9, 0x112AA, 0x113D4, 0x113D6, 0x1144B, 0x1144D, 0x115C2, 0x115C4, 0x115C9,
      0x115D8, 0x11641, 0x11643, 0x1173C, 0x1173F, 0x11944, 0x11945, 0x11946, 0x11947, 0x11A42,
      0x11A44, 0x11A9B, 0x11A9D, 0x11C41, 0x11C43, 0x11EF7, 0x11EF9, 0x11F43, 0x11F45, 0x16A6E,
      0x16A70, 0x16AF5, 0x16AF6, 0x16B37, 0x16B39, 0x16B44, 0x16B45, 0x16D6E, 0x16D70, 0x16E98,
      0x16E99, 0x1BC9F, 0x1BCA0, 0x1DA88, 0x1DA89]⟩
  | separator => ⟨[], [0x85, 0x86, 0x2028, 0x202A]⟩
  | space => ⟨[.spaceSeparator], [0x9, 0xA, 0xB, 0xD]⟩
  | upper => ⟨[.uppercaseLetter, .titlecaseLetter], [
      0x1C90, 0x1CBB, 0x1CBD, 0x1CC0, 0x2160, 0x2170, 0x24B6, 0x24D0, 0x1F130, 0x1F14A, 0x1F150,
      0x1F16A, 0x1F170, 0x1F18A]⟩

/-- The code point has the value. -/
def contains (value : SentenceBreak) (code : Nat) : Bool := value.members.contains code

/-- Every value under each of its names, written without capitals and separators. -/
def table : List (String × SentenceBreak) :=
  [
    ("aterm", ambiguousEnd), ("at", ambiguousEnd), ("cr", carriageReturn), ("close", close),
    ("cl", close), ("extend", extend), ("ex", extend), ("format", format), ("fo", format),
    ("lf", lineFeed), ("lower", lower), ("lo", lower), ("numeric", numeric), ("nu", numeric),
    ("oletter", otherLetter), ("le", otherLetter), ("scontinue", continuation),
    ("sc", continuation), ("sterm", sentenceEnd), ("st", sentenceEnd), ("sep", separator),
    ("se", separator), ("sp", space), ("upper", upper), ("up", upper)
  ]

end SentenceBreak

end Unicode

end ScriptSanitizer
