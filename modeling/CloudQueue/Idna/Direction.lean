import CloudQueue.Text.Marks

/-!
# Directions

Letters are written to the left or to the right, digits in a direction of their own, and other
characters in that of their neighbours. In a host name with a character written to the left, or an
Arabic digit, no label may mix directions in a way that hides where it starts and ends.
-/

namespace CloudQueue.Idna

inductive Direction where
  | leftToRight
  | rightToLeft
  | europeanNumber
  | arabicNumber
  | neutral
  | nonspacing
  deriving DecidableEq, Repr

/-- Characters written to the left. The ranges of this table and those below are merged across
nonspacing marks and characters that no host name holds. -/
def rightToLeftRanges : List (Nat × Nat) := Text.codePointRanges
  "5BE-5F4 608 60B 60D 61B-64A 66D-6D5 6E5-6E6 6EE-6EF 6FA-7F5 7FA-8C9 FBB2-FBC2 FE73 10800-1091B
   10920-10B35 10B40-10D23 10D40-10D4F 10D6F-10D85 10E80-10EC7 10F00-10FF6 1E800-1ED3D"

def europeanRanges : List (Nat × Nat) := Text.codePointRanges
  "30-39 6F0-6F9 102E1-102FB"

def arabicRanges : List (Nat × Nat) := Text.codePointRanges
  "660-669 66B-66C 10D30-10D39 10E60-10E7E"

def neutralRanges : List (Nat × Nat) := Text.codePointRanges
  "0-8 E-1B 21-2F 3A-60 7B-D7 F7 2B9-2BA 2C2-2CF 2D2-2ED 2EF-2FF 375 3F6 58A-58F 606-607 609-60A 60C
   60E-60F 66A 6DE 6E9 7F6-7F9 9F2-9F3 9FB AF1 BF3-BFA C78-C7E E3F F3A-F3D 1390-1399 1400 169B-169C
   17DB 17F0-180A 1940-1945 19DE-19FF 200C-214D 218A-2335 237B-2394 2396-26AB 26AD-27FF 2900-2BFF
   2CE5-2CEA 2CF9-2CFF 2E00-3004 3008-3020 3030 3037 303D-303F 30A0 30FB 31C0-31E5 4DC0-4DFF
   A490-A4C6 A60D-A60F A673-A67F A700-A721 A788 A828-A82B A838-A839 A874-A877 AB6A-AB6B FBC3-FE46
   10101 10140-1018C 10190-101A0 1091F 10B39-10B3F 10D6E 10D8E-10D8F 10ED0-10ED8 11052-11065
   11660-1166C 11FD5-11FF1 16FE2 1CC00-1CEF0 1D1E9-1D245 1D300-1D356 1E2FF 1EEF0-1F12F 1F16D-1F16F
   1F1AD 1F260-1FBFA"

/-- Nonspacing marks that have a direction of their own, which is to the right. -/
def directedMarks : List (Nat × Nat) := Text.codePointRanges "CBF CC6 11A07-11A08 11C3F"

def Direction.of (c : Char) : Direction :=
  let n := c.toNat
  if Text.isNonspacing c then
    if Text.inRanges directedMarks n then .leftToRight else .nonspacing
  else if Text.inRanges rightToLeftRanges n then .rightToLeft
  else if Text.inRanges europeanRanges n then .europeanNumber
  else if Text.inRanges arabicRanges n then .arabicNumber
  else if Text.inRanges neutralRanges n then .neutral
  else .leftToRight

/-- Whether a direction makes the order of a whole host name depend on directions. -/
def Direction.isRightward : Direction → Bool
  | .rightToLeft | .arabicNumber => true
  | _ => false

def endsIn (ends : List Direction) (ds : List Direction) : Bool :=
  match ds.reverse.dropWhile (· == .nonspacing) with
  | d :: _ => ends.contains d
  | [] => false

/-- Whether the directions of a label show where it starts and ends. -/
def isOrdered : List Direction → Bool
  | [] => true
  | .leftToRight :: ds =>
    !ds.contains .rightToLeft && !ds.contains .arabicNumber &&
      endsIn [.leftToRight, .europeanNumber] (.leftToRight :: ds)
  | .rightToLeft :: ds =>
    !ds.contains .leftToRight && !(ds.contains .europeanNumber && ds.contains .arabicNumber) &&
      endsIn [.rightToLeft, .europeanNumber, .arabicNumber] (.rightToLeft :: ds)
  | _ => false

def areOrdered (labels : List (List Char)) : Bool :=
  let directions := labels.map (·.map Direction.of)
  !directions.any (·.any Direction.isRightward) || directions.all isOrdered

end CloudQueue.Idna
