import SourceDocs.Number.Binary64

/-!
# Sums and products of floats

Both are computed exactly and rounded once.
-/

namespace SourceDocs.Binary64

/-- The number next to `±n * 2 ^ e`. -/
def ofScaled (negative : Bool) (n : Nat) (e : Int) : Binary64 :=
  let (num, den) := timesPower 2 e n 1
  ofRatio negative num den

/-- The sum of two numbers. -/
def add (x y : Binary64) : Binary64 :=
  match x, y with
  | .nan, _ | _, .nan => .nan
  | .infinite s, .infinite t => if s = t then .infinite s else .nan
  | .infinite s, _ => .infinite s
  | _, .infinite t => .infinite t
  | .finite s m e, .finite t n f =>
    if m = 0 && n = 0 then zero (s && t)
    else
      let low := if e ≤ f then e else f
      let signed (negative : Bool) (k : Nat) (g : Int) : Int :=
        let size : Nat := k * Nat.pow 2 (g - low).toNat
        if negative then -size else size
      let total := signed s m e + signed t n f
      ofScaled (total < 0) total.natAbs low

/-- The product of two numbers. -/
def mul (x y : Binary64) : Binary64 :=
  match x, y with
  | .nan, _ | _, .nan => .nan
  | .finite s m e, .finite t n f =>
    ofScaled (s ≠ t) (m * n) (e + f)
  | x, y =>
    if x.isZero || y.isZero then .nan else .infinite (x.isNegative ≠ y.isNegative)

end SourceDocs.Binary64
