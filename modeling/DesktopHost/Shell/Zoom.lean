/-!
Zoom factors. A factor is kept by its bits, so that something that is not a number stays what it
was; every other factor is held between two bounds.
-/

set_option autoImplicit false

namespace DesktopHost

/-- The bits of a zoom factor in double precision. -/
structure Zoom where
  bits : UInt64
  deriving DecidableEq, Repr

namespace Zoom

def ofFloat (x : Float) : Zoom := ⟨x.toBits⟩

def toFloat (z : Zoom) : Float := Float.ofBits z.bits

def actual : Zoom := ofFloat 1.0

def least : Float := 0.3

def greatest : Float := 3.0

/-- One click's worth of zoom. -/
def increment : Zoom := ofFloat 0.1

def decrement : Zoom := ofFloat (-0.1)

/-- All bits of the exponent, and some of the fraction. -/
def isNaN (z : Zoom) : Bool := 0x7FF0000000000000 < (z.bits &&& 0x7FFFFFFFFFFFFFFF)

/-- The result of computing with something that is not a number. -/
def quiet (z : Zoom) : Zoom := ⟨z.bits ||| 0x0008000000000000⟩

def clamp (z : Zoom) : Zoom :=
  if z.isNaN then z
  else if z.toFloat < least then ofFloat least
  else if greatest < z.toFloat then ofFloat greatest
  else z

def add (a b : Zoom) : Zoom :=
  if a.isNaN then a.quiet else if b.isNaN then b.quiet else ofFloat (a.toFloat + b.toFloat)

/-- The factor in force after a change by `delta`. -/
def adjust (z delta : Zoom) : Zoom := (z.add delta).clamp

end Zoom
end DesktopHost
