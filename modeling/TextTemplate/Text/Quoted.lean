import TextTemplate.Text.NonPrinting
import TextTemplate.Text.ExtendingMark
import TextTemplate.Text.DefaultIgnorable

/-! Text between double quotes in which every character can be seen. Four controls, the double quote
and the backslash have an escape of two characters; other characters that would not show stand by
their number. -/

namespace TextTemplate.Text

def inRanges (ranges : List (Nat × Nat)) (c : Char) : Bool :=
  ranges.any fun r => r.1 ≤ c.toNat ∧ c.toNat ≤ r.2

def isVisible (c : Char) : Bool :=
  if c.toNat < 0x7f then 0x20 ≤ c.toNat
  else if c.toNat = 0x7f then false
  else
    !inRanges nonPrintingRanges c && !inRanges extendingMarkRanges c &&
      !inRanges defaultIgnorableRanges c

def numbered (c : Char) : List Char :=
  ['\\', 'u', '\x7b'] ++ Nat.toDigits 16 c.toNat ++ ['\x7d']

def escape (c : Char) : List Char :=
  match c with
  | '\x00' => ['\\', '0']
  | '\t' => ['\\', 't']
  | '\r' => ['\\', 'r']
  | '\n' => ['\\', 'n']
  | '"' => ['\\', '"']
  | '\\' => ['\\', '\\']
  | c => if isVisible c then [c] else numbered c

def quoted (s : String) : String :=
  String.ofList ('"' :: s.toList.flatMap escape ++ ['"'])

end TextTemplate.Text
