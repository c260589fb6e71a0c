/-!
Numbers written with a fixed count of decimals. What is written is nearest to the exact value, and a
half goes to the even neighbour.
-/

namespace ChatMemory.FixedPoint

def divideToEven (dividend divisor : Nat) : Nat :=
  let quotient := dividend / divisor
  let twice := 2 * (dividend % divisor)
  if twice < divisor || (twice == divisor && quotient % 2 == 0) then quotient else quotient + 1

example : (List.range 8).map (divideToEven · 2) = [0, 0, 1, 2, 2, 2, 3, 4] := by decide

/-- A finite number as a count of units, without its sign. There are `scale` units in one. -/
def units (scale : Nat) (value : Float32) : Nat :=
  let bits := value.toBits.toNat
  let exponent := (bits >>> 23) % 0x100
  let fraction := bits % 0x800000
  let digits := if exponent = 0 then fraction else fraction + 0x800000
  let power := if exponent = 0 then 1 else exponent
  if 150 ≤ power then digits <<< (power - 150) * scale
  else divideToEven (digits * scale) (1 <<< (150 - power))

def write (places : Nat) (value : Float32) : String :=
  if value.isNaN then "NaN"
  else
    let sign := if value.toBits < 0x80000000 then "" else "-"
    if value.isInf then sign ++ "inf"
    else
      let scale := Nat.pow 10 places
      let units := units scale value
      let decimals := (toString (units % scale)).toList
      sign ++ toString (units / scale) ++ "." ++
        String.ofList (List.replicate (places - decimals.length) '0' ++ decimals)

example : write 6 (-0.85) = "-0.850000" := by decide

example : write 6 0.0078125 = "0.007812" ∧ write 6 (-0.0) = "-0.000000" := by decide

end ChatMemory.FixedPoint
