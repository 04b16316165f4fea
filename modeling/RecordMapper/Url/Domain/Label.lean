import RecordMapper.Text.Canonical
import RecordMapper.Text.Mark
import RecordMapper.Url.Domain.Spelling

/-!
What the letters of a label may be next to each other.
-/

set_option autoImplicit false

namespace RecordMapper.Text

/-!
## Data on cursive scripts

Data of the Unicode character database on cursive scripts: which letters join their neighbours.
-/

/-- Ranges of the letters that join the letters before and after them. -/
def dualRanges : List (Nat × Nat) := [
  (0x620, 0x620), (0x626, 0x626), (0x628, 0x628), (0x62A, 0x62E), (0x633, 0x63F), (0x641, 0x647),
  (0x649, 0x64A), (0x66E, 0x66F), (0x678, 0x687), (0x69A, 0x6BF), (0x6C1, 0x6C2), (0x6CC, 0x6CC),
  (0x6CE, 0x6CE), (0x6D0, 0x6D1), (0x6FA, 0x6FC), (0x6FF, 0x6FF), (0x712, 0x714), (0x71A, 0x71D),
  (0x71F, 0x727), (0x729, 0x729), (0x72B, 0x72B), (0x72D, 0x72E), (0x74E, 0x758), (0x75C, 0x76A),
  (0x76D, 0x770), (0x772, 0x772), (0x775, 0x777), (0x77A, 0x77F), (0x7CA, 0x7EA), (0x841, 0x845),
  (0x848, 0x848), (0x84A, 0x853), (0x855, 0x855), (0x860, 0x860), (0x862, 0x865), (0x868, 0x868),
  (0x886, 0x886), (0x889, 0x88D), (0x88F, 0x88F), (0x8A0, 0x8A9), (0x8AF, 0x8B0), (0x8B3, 0x8B8),
  (0x8BA, 0x8C8), (0x1807, 0x1807), (0x1820, 0x1878), (0x1887, 0x18A8), (0x18AA, 0x18AA),
  (0xA840, 0xA871), (0x10AC0, 0x10AC4), (0x10AD3, 0x10AD6), (0x10AD8, 0x10ADC), (0x10ADE, 0x10AE0),
  (0x10AEB, 0x10AEE), (0x10B80, 0x10B80), (0x10B82, 0x10B82), (0x10B86, 0x10B88),
  (0x10B8A, 0x10B8B), (0x10B8D, 0x10B8D), (0x10B90, 0x10B90), (0x10BAD, 0x10BAE),
  (0x10D01, 0x10D21), (0x10D23, 0x10D23), (0x10EC3, 0x10EC4), (0x10EC6, 0x10EC7),
  (0x10F30, 0x10F32), (0x10F34, 0x10F44), (0x10F51, 0x10F53), (0x10F70, 0x10F73),
  (0x10F76, 0x10F81), (0x10FB0, 0x10FB0), (0x10FB2, 0x10FB3), (0x10FB8, 0x10FB8),
  (0x10FBB, 0x10FBC), (0x10FBE, 0x10FBF), (0x10FC1, 0x10FC1), (0x10FC4, 0x10FC4),
  (0x10FCA, 0x10FCA), (0x1E900, 0x1E943)]

/-- Ranges of the letters that join only the letter before them. -/
def backwardRanges : List (Nat × Nat) := [
  (0x622, 0x625), (0x627, 0x627), (0x629, 0x629), (0x62F, 0x632), (0x648, 0x648), (0x671, 0x673),
  (0x675, 0x677), (0x688, 0x699), (0x6C0, 0x6C0), (0x6C3, 0x6CB), (0x6CD, 0x6CD), (0x6CF, 0x6CF),
  (0x6D2, 0x6D3), (0x6D5, 0x6D5), (0x6EE, 0x6EF), (0x710, 0x710), (0x715, 0x719), (0x71E, 0x71E),
  (0x728, 0x728), (0x72A, 0x72A), (0x72C, 0x72C), (0x72F, 0x72F), (0x74D, 0x74D), (0x759, 0x75B),
  (0x76B, 0x76C), (0x771, 0x771), (0x773, 0x774), (0x778, 0x779), (0x840, 0x840), (0x846, 0x847),
  (0x849, 0x849), (0x854, 0x854), (0x856, 0x858), (0x867, 0x867), (0x869, 0x86A), (0x870, 0x882),
  (0x88E, 0x88E), (0x8AA, 0x8AC), (0x8AE, 0x8AE), (0x8B1, 0x8B2), (0x8B9, 0x8B9),
  (0x10AC5, 0x10AC5), (0x10AC7, 0x10AC7), (0x10AC9, 0x10ACA), (0x10ACE, 0x10AD2),
  (0x10ADD, 0x10ADD), (0x10AE1, 0x10AE1), (0x10AE4, 0x10AE4), (0x10AEF, 0x10AEF),
  (0x10B81, 0x10B81), (0x10B83, 0x10B85), (0x10B89, 0x10B89), (0x10B8C, 0x10B8C),
  (0x10B8E, 0x10B8F), (0x10B91, 0x10B91), (0x10BA9, 0x10BAC), (0x10D22, 0x10D22),
  (0x10EC2, 0x10EC2), (0x10F33, 0x10F33), (0x10F54, 0x10F54), (0x10F74, 0x10F75),
  (0x10FB4, 0x10FB6), (0x10FB9, 0x10FBA), (0x10FBD, 0x10FBD), (0x10FC2, 0x10FC3),
  (0x10FC9, 0x10FC9)]

/-- Ranges of the letters that join only the letter after them. -/
def forwardRanges : List (Nat × Nat) := [
  (0xA872, 0xA872), (0x10ACD, 0x10ACD), (0x10AD7, 0x10AD7), (0x10D00, 0x10D00), (0x10FCB, 0x10FCB)]

end RecordMapper.Text

/-!
## Joiners

Where a label may have a joiner or a non-joiner: where it changes how the text looks. That is after
a mark that takes a vowel away; and for the non-joiner, between two letters that would join.
-/

namespace RecordMapper.Url.Domain

open Text

def isVirama (c : Char) : Bool := combiningClass c == 9

/-- Whether letters join across a character: a mark without a place, or the nasal sign of Adlam. -/
def isTransparent (c : Char) : Bool := isNonspacing c || c.toNat == 0x1E94B

/-- Whether a letter joins the one after it. -/
def joinsNext (c : Char) : Bool := inRanges dualRanges c.toNat || inRanges forwardRanges c.toNat

/-- Whether a letter joins the one before it. -/
def joinsPrevious (c : Char) : Bool :=
  inRanges dualRanges c.toNat || inRanges backwardRanges c.toNat

/-- Whether a joiner may stand after `before`, which is held in reverse, and before `rest`. -/
def joinerFits (c : Char) (before rest : List Char) : Bool :=
  before.head?.any isVirama ||
    (c == '\u200C' && (before.dropWhile isTransparent).head?.any joinsNext &&
      (rest.dropWhile isTransparent).head?.any joinsPrevious)

/-- Whether every joiner may stand where it does, after `before`, which is held in reverse. -/
def joinersFit (before : List Char) : List Char → Bool
  | [] => true
  | c :: rest => (!isJoiner c || joinerFits c before rest) && joinersFit (c :: before) rest

end RecordMapper.Url.Domain

/-!
## Data on directions

Data of the Unicode character database on the direction of writing. Right-to-left letters of all
scripts are taken together, and so are the kinds of neutral characters.
-/

namespace RecordMapper.Text

/-- What a character contributes to the direction of the text that it stands in. -/
inductive WritingDirection where
  | left
  | right
  | digit
  | arabicDigit
  | neutral
  | mark
  deriving DecidableEq, Repr

/-- Runs `(first, last, direction)` of the characters whose direction does not follow from the rule:
marks that take no place are marks, all else is left-to-right. -/
def directionRuns : List (Nat × Nat × WritingDirection) := [
  (0x0, 0x2F, .neutral), (0x30, 0x39, .digit), (0x3A, 0x40, .neutral), (0x5B, 0x60, .neutral),
  (0x7B, 0xB1, .neutral), (0xB6, 0xBB, .neutral), (0xBC, 0xBE, .digit), (0xBF, 0xBF, .neutral),
  (0xD7, 0xD7, .neutral), (0xF7, 0xF7, .neutral), (0x2B9, 0x2BA, .neutral),
  (0x2C2, 0x2CF, .neutral), (0x2D2, 0x2DF, .neutral), (0x2E5, 0x2ED, .neutral),
  (0x2EF, 0x2FF, .neutral), (0x345, 0x345, .left), (0x374, 0x375, .neutral),
  (0x387, 0x387, .neutral), (0x3F6, 0x3F6, .neutral), (0x58A, 0x58F, .neutral),
  (0x5BE, 0x5BE, .right), (0x5C0, 0x5C0, .right), (0x5C3, 0x5C3, .right), (0x5C6, 0x5C6, .right),
  (0x5D0, 0x5F4, .right), (0x606, 0x607, .neutral), (0x608, 0x608, .right),
  (0x609, 0x60A, .neutral), (0x60B, 0x60B, .right), (0x60C, 0x60C, .neutral),
  (0x60D, 0x60D, .right), (0x60E, 0x60F, .neutral), (0x61B, 0x64A, .right),
  (0x660, 0x669, .arabicDigit), (0x66A, 0x66A, .neutral), (0x66B, 0x66C, .arabicDigit),
  (0x66D, 0x66F, .right), (0x671, 0x6D5, .right), (0x6DE, 0x6DE, .neutral), (0x6E5, 0x6E6, .right),
  (0x6E9, 0x6E9, .neutral), (0x6EE, 0x6EF, .right), (0x6F0, 0x6F9, .digit), (0x6FA, 0x710, .right),
  (0x712, 0x72F, .right), (0x74D, 0x7A5, .right), (0x7B1, 0x7EA, .right), (0x7F4, 0x7F5, .right),
  (0x7F6, 0x7F9, .neutral), (0x7FA, 0x7FA, .right), (0x7FE, 0x815, .right), (0x81A, 0x81A, .right),
  (0x824, 0x824, .right), (0x828, 0x828, .right), (0x830, 0x858, .right), (0x85E, 0x88F, .right),
  (0x8A0, 0x8C9, .right), (0x9F2, 0x9F3, .neutral), (0x9FB, 0x9FB, .neutral),
  (0xAF1, 0xAF1, .neutral), (0xBF3, 0xBFA, .neutral), (0xC78, 0xC7E, .neutral),
  (0xCBF, 0xCBF, .left), (0xCC6, 0xCC6, .left), (0xE3F, 0xE3F, .neutral), (0xF3A, 0xF3D, .neutral),
  (0x1390, 0x1399, .neutral), (0x1400, 0x1400, .neutral), (0x169B, 0x169C, .neutral),
  (0x17DB, 0x17DB, .neutral), (0x17F0, 0x180A, .neutral), (0x1940, 0x1945, .neutral),
  (0x19DE, 0x19FF, .neutral), (0x200C, 0x208B, .neutral), (0x20A0, 0x20C1, .neutral),
  (0x2103, 0x2104, .neutral), (0x2108, 0x2109, .neutral), (0x2114, 0x2125, .neutral),
  (0x2127, 0x2129, .neutral), (0x212E, 0x212E, .neutral), (0x2135, 0x2138, .right),
  (0x213A, 0x213A, .neutral), (0x2140, 0x214D, .neutral), (0x2150, 0x215F, .digit),
  (0x2189, 0x2189, .digit), (0x218A, 0x2335, .neutral), (0x237B, 0x2394, .neutral),
  (0x2396, 0x26AB, .neutral), (0x26AD, 0x27FF, .neutral), (0x2900, 0x2BFF, .neutral),
  (0x2CE5, 0x2CEA, .neutral), (0x2CF9, 0x2CFF, .neutral), (0x2E00, 0x2E9E, .neutral),
  (0x2EA0, 0x2EF2, .neutral), (0x3001, 0x3004, .neutral), (0x3008, 0x3020, .neutral),
  (0x3030, 0x3030, .neutral), (0x3036, 0x3037, .neutral), (0x303D, 0x303F, .neutral),
  (0x30A0, 0x30A0, .neutral), (0x30FB, 0x30FB, .neutral), (0x31C0, 0x31E5, .neutral),
  (0x321D, 0x321E, .neutral), (0x33DE, 0x33DF, .neutral), (0x4DC0, 0x4DFF, .neutral),
  (0xA490, 0xA4C6, .neutral), (0xA60D, 0xA60F, .neutral), (0xA673, 0xA673, .neutral),
  (0xA67E, 0xA67F, .neutral), (0xA700, 0xA721, .neutral), (0xA788, 0xA788, .neutral),
  (0xA828, 0xA82B, .neutral), (0xA838, 0xA839, .neutral), (0xA874, 0xA877, .neutral),
  (0xAB6A, 0xAB6B, .neutral), (0xFB1D, 0xFB1D, .right), (0xFB1F, 0xFBC2, .right),
  (0xFBC3, 0xFBD2, .neutral), (0xFBD3, 0xFD3D, .right), (0xFD3E, 0xFD4F, .neutral),
  (0xFD50, 0xFD8F, .right), (0xFD90, 0xFD91, .neutral), (0xFD92, 0xFDC7, .right),
  (0xFDC8, 0xFDCF, .neutral), (0xFDF0, 0xFDFC, .right), (0xFDFD, 0xFE18, .neutral),
  (0xFE31, 0xFE5E, .neutral), (0xFE71, 0xFEFC, .right), (0xFF5F, 0xFF65, .neutral),
  (0xFF9E, 0xFF9F, .mark), (0xFFE0, 0xFFEE, .neutral), (0x10101, 0x10101, .neutral),
  (0x10140, 0x1018C, .neutral), (0x10190, 0x101A0, .neutral), (0x102E1, 0x102FB, .digit),
  (0x10800, 0x1091B, .right), (0x1091F, 0x1091F, .neutral), (0x10920, 0x10A00, .right),
  (0x10A10, 0x10A35, .right), (0x10A40, 0x10AE4, .right), (0x10AEB, 0x10B35, .right),
  (0x10B39, 0x10B3F, .neutral), (0x10B40, 0x10D23, .right), (0x10D30, 0x10D49, .arabicDigit),
  (0x10D4A, 0x10D65, .right), (0x10D6E, 0x10D6E, .neutral), (0x10D6F, 0x10D85, .right),
  (0x10D8E, 0x10D8F, .neutral), (0x10E60, 0x10E7E, .arabicDigit), (0x10E80, 0x10EA9, .right),
  (0x10EAD, 0x10EC7, .right), (0x10ED0, 0x10ED8, .neutral), (0x10F00, 0x10F45, .right),
  (0x10F51, 0x10F81, .right), (0x10F86, 0x10FF6, .right), (0x11052, 0x11065, .neutral),
  (0x11660, 0x1166C, .neutral), (0x1171E, 0x1171E, .mark), (0x11A07, 0x11A08, .left),
  (0x11C3F, 0x11C3F, .left), (0x11FD5, 0x11FF1, .neutral), (0x16FE2, 0x16FE2, .neutral),
  (0x1CC00, 0x1CEF0, .neutral), (0x1D1E9, 0x1D241, .neutral), (0x1D245, 0x1D245, .neutral),
  (0x1D300, 0x1D356, .neutral), (0x1D6C1, 0x1D6C1, .neutral), (0x1D6DB, 0x1D6DB, .neutral),
  (0x1D6FB, 0x1D6FB, .neutral), (0x1D715, 0x1D715, .neutral), (0x1D735, 0x1D735, .neutral),
  (0x1D74F, 0x1D74F, .neutral), (0x1D76F, 0x1D76F, .neutral), (0x1D789, 0x1D789, .neutral),
  (0x1D7A9, 0x1D7A9, .neutral), (0x1D7C3, 0x1D7C3, .neutral), (0x1E2FF, 0x1E2FF, .neutral),
  (0x1E800, 0x1E8CF, .right), (0x1E900, 0x1E943, .right), (0x1E94B, 0x1EEBB, .right),
  (0x1EEF0, 0x1F10F, .neutral), (0x1F12F, 0x1F12F, .neutral), (0x1F16D, 0x1F16F, .neutral),
  (0x1F1AD, 0x1F1AD, .neutral), (0x1F260, 0x1FBFA, .neutral)]

end RecordMapper.Text

/-!
## Directions

Labels that keep their order next to right-to-left text. A label has letters of one direction, which
starts it and, but for digits and marks, ends it.
-/

namespace RecordMapper.Url.Domain

open Text

def direction (c : Char) : WritingDirection :=
  (runValue? directionRuns c.toNat).getD (if isNonspacing c then .mark else .left)

def hasRightToLeft (label : List Char) : Bool :=
  label.any fun c => direction c == .right || direction c == .arabicDigit

/-- What may stand in a label that starts with a letter of a direction. -/
def staysIn (start d : WritingDirection) : Bool :=
  match start, d with
  | .left, .right | .left, .arabicDigit | .right, .left => false
  | _, _ => true

def endsIn (start d : WritingDirection) : Bool :=
  d == start || d == .digit || (start == .right && d == .arabicDigit)

/-- Whether a label keeps its order. Marks at its end are not counted as the end, and it does not
mix two kinds of digits. -/
def keepsOrder (label : List Char) : Bool :=
  let directions := label.map direction
  match directions with
  | [] => true
  | start :: _ =>
    (start == .left || start == .right) && directions.all (staysIn start) &&
      (directions.reverse.dropWhile (· == .mark)).head?.any (endsIn start) &&
      !(start == .right && directions.contains .digit && directions.contains .arabicDigit)

end RecordMapper.Url.Domain
