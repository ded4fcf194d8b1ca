import RotaryScan.Text.Combining
import RotaryScan.Text.Hidden

namespace RotaryScan.Text

def inRanges (ranges : List (Nat × Nat)) (c : Char) : Bool :=
  ranges.any fun (first, last) => first ≤ c.toNat && c.toNat ≤ last

def isControl (c : Char) : Bool := inRanges [(0x00, 0x1f), (0x7f, 0x9f)] c

/-- The property White_Space. -/
def isBlank (c : Char) : Bool :=
  inRanges
    [(0x09, 0x0d), (0x20, 0x20), (0x85, 0x85), (0xa0, 0xa0), (0x1680, 0x1680), (0x2000, 0x200a),
      (0x2028, 0x2029), (0x202f, 0x202f), (0x205f, 0x205f), (0x3000, 0x3000)] c

def isHidden (c : Char) : Bool := inRanges hiddenRanges c

def isCombining (c : Char) : Bool := inRanges combiningRanges c

def numbered (c : Char) : List Char := ['\\', 'u', '\x7b'] ++ Nat.toDigits 16 c.toNat ++ ['\x7d']

/-- How a character stands between quotes: those that could not be told apart on a terminal are
written out. -/
def escape (c : Char) : List Char :=
  match c with
  | '\x00' => ['\\', '0']
  | '\t' => ['\\', 't']
  | '\n' => ['\\', 'n']
  | '\r' => ['\\', 'r']
  | '"' => ['\\', '"']
  | '\\' => ['\\', '\\']
  | _ => if isHidden c || isCombining c then numbered c else [c]

def quote (s : String) : String := String.ofList ('"' :: s.toList.flatMap escape ++ ['"'])

/-- The control characters that a terminal may obey rather than show: bell, backspace, form feed,
escape, delete, and all of those beyond ASCII. -/
def isTerminalControl (c : Char) : Bool :=
  inRanges [(0x07, 0x08), (0x0c, 0x0c), (0x1b, 0x1b), (0x7f, 0x9f)] c

def byteNumbered (c : Char) : List Char :=
  ['\\', 'x', Nat.digitChar (c.toNat / 16), Nat.digitChar (c.toNat % 16)]

def displayChar (c : Char) : List Char :=
  if isTerminalControl c then if c.toNat < 0x80 then byteNumbered c else numbered c else [c]

def display (s : String) : String := String.ofList (s.toList.flatMap displayChar)

def fraction (amount places : Nat) : String :=
  let unit := Nat.pow 10 places
  let rest := (amount % unit).repr.toList
  let digits := List.replicate (places - rest.length) '0' ++ rest
  let kept := (digits.reverse.dropWhile (· = '0')).reverse
  (amount / unit).repr ++ if kept = [] then "" else "." ++ String.ofList kept

/-- A span of time in the largest unit of which it holds at least one. -/
def elapsed (nanoseconds : Nat) : String :=
  if 1000000000 ≤ nanoseconds then fraction nanoseconds 9 ++ "s"
  else if 1000000 ≤ nanoseconds then fraction nanoseconds 6 ++ "ms"
  else if 1000 ≤ nanoseconds then fraction nanoseconds 3 ++ "µs"
  else nanoseconds.repr ++ "ns"

end RotaryScan.Text
