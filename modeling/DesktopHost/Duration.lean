/-!
Durations count whole nanoseconds. Their text picks the largest unit whose integer part is not
zero and then writes the exact decimal fraction without trailing zeros.
-/

set_option autoImplicit false

namespace DesktopHost

/-- No sleep lasts longer than this many milliseconds, which are thirty years. -/
def longestSleep : Nat := 30 * 365 * 24 * 60 * 60 * 1000

/-- How long a sleep of `ms` milliseconds lasts. -/
def sleepLength (ms : Nat) : Nat := min ms longestSleep

structure Duration where
  nanos : Nat
  deriving DecidableEq, Repr

namespace Duration

def ofMillis (ms : Nat) : Duration := ⟨ms * 1000000⟩

def ofSecs (secs nanos : Nat) : Duration := ⟨secs * 1000000000 + nanos⟩

def dropTrailingZeros (cs : List Char) : List Char :=
  (cs.reverse.dropWhile (· == '0')).reverse

/-- The decimal digits of `n` on exactly `width` places. -/
def padded (width n : Nat) : List Char :=
  let ds := Nat.toDigits 10 n
  List.replicate (width - ds.length) '0' ++ ds

/-- `whole` and a fraction of `places` decimal digits. -/
def decimal (whole fraction places : Nat) : List Char :=
  let digits := dropTrailingZeros (padded places fraction)
  Nat.toDigits 10 whole ++ (if digits.isEmpty then [] else '.' :: digits)

structure TimeUnit where
  nanos : Nat
  places : Nat
  name : String

/-- The units a duration is written in, largest first. -/
def units : List TimeUnit := [⟨1000000000, 9, "s"⟩, ⟨1000000, 6, "ms"⟩, ⟨1000, 3, "µs"⟩]

def text (d : Duration) : String :=
  match units.find? (fun u => u.nanos ≤ d.nanos) with
  | some u => String.ofList (decimal (d.nanos / u.nanos) (d.nanos % u.nanos) u.places) ++ u.name
  | none => toString d.nanos ++ "ns"

end Duration
end DesktopHost
