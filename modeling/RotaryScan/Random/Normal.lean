import RotaryScan.Random.ChaCha
import RotaryScan.Random.Layers

namespace RotaryScan.Random

def layerEnd (index : Nat) : Float := layerEnds.getD index 0

def layerHeight (index : Nat) : Float := layerHeights.getD index 0

def tailStart : Float := layerEnd 1

def epsilon : Float := 1.1102230246251565e-16

def openUnit (s : Stream) : Float × Stream :=
  let (bits, s) := s.doubleWord
  (Float.ofBits (bits >>> 12 ||| 0x3ff0000000000000) - (1 - epsilon), s)

def unit (s : Stream) : Float × Stream :=
  let (bits, s) := s.doubleWord
  ((bits >>> 11).toFloat * epsilon, s)

def tailDistance (attempts : Nat) (s : Stream) : Float × Stream :=
  match attempts with
  | 0 => (0, s)
  | attempts + 1 =>
    let (a, s) := openUnit s
    let (b, s) := openUnit s
    let x := a.log / tailStart
    let y := b.log
    if -2 * y < x * x then tailDistance attempts s else (x, s)

/-- More rejections in a row than ever happen. -/
def attempts : Nat := 1000

/-- A draw from the standard normal distribution: a point in a random layer, which is taken if it
lies under the curve. -/
def normalWithin : Nat → Stream → Float × Stream
  | 0, s => (0, s)
  | left + 1, s =>
    let (bits, s) := s.doubleWord
    let index := (bits &&& 0xff).toNat
    let u := Float.ofBits (bits >>> 12 ||| 0x4000000000000000) - 3
    let x := u * layerEnd index
    if x.abs < layerEnd (index + 1) then (x, s)
    else if index = 0 then
      let (distance, s) := tailDistance attempts s
      (if u < 0 then distance - tailStart else tailStart - distance, s)
    else
      let (v, s) := unit s
      let height := layerHeight (index + 1) +
        (layerHeight index - layerHeight (index + 1)) * v
      if height < (-x * x / 2).exp then (x, s) else normalWithin left s

def normal (s : Stream) : Float × Stream := normalWithin attempts s

end RotaryScan.Random
