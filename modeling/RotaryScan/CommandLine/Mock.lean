import RotaryScan.CommandLine.Basic
import RotaryScan.Decimal.Reader
import RotaryScan.Mock

namespace RotaryScan.CommandLine

structure MockOptions where
  output : String
  settings : MockSettings := {}

namespace MockOptions

def specs : List OptionSpec :=
  [⟨'l', "lines", "N", "number of scan lines (default 30)"⟩,
    ⟨'p', "points", "N", "points per line (default 60)"⟩,
    ⟨'m', "mean", "F", "mean raw sample (default 1000)"⟩,
    ⟨'s', "std-dev", "F", "standard deviation of samples (default 25)"⟩,
    ⟨none, "seed", "N", "random seed (default 0)"⟩,
    helpSpec]

def readBelow? (bound : Nat) (s : String) : Option Nat :=
  (Decimal.readNat? s.toList).filter (· < bound)

def readByte? (s : String) : Option UInt8 := (readBelow? UInt8.size s).map UInt8.ofNat

def readSeed? (s : String) : Option UInt64 := (readBelow? UInt64.size s).map UInt64.ofNat

def ofMatches (found : Matches) : Except ArgumentError MockOptions := do
  let some output := found.free.head? | throw .missingOutput
  let defaults : MockSettings := {}
  let lineCount ← valueOr found "lines" readByte? defaults.header.lineCount
  let pointCount ← valueOr found "points" readByte? defaults.header.pointCount
  let mean ← valueOr found "mean" Decimal.read? defaults.mean
  let deviation ← valueOr found "std-dev" Decimal.read? defaults.deviation
  let seed ← valueOr found "seed" readSeed? defaults.seed
  let header := { defaults.header with lineCount, pointCount }
  return { output, settings := { header, mean, deviation, seed } }

def parse : List String → Except ArgumentError (Request MockOptions) := parseWith specs ofMatches

def program : String := "rscan-mock-rs"

def usage : String := CommandLine.usage program "output" specs

end MockOptions

end RotaryScan.CommandLine
