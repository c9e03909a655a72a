import StoreRpc.Calendar

/-!
Timestamps counted in ticks of 100 nanoseconds since the beginning of 1601.

They are words without a sign, and seconds since 1970 have one. What lies before 1601 or behind the
last tick has the nearest timestamp that there is.
-/

namespace StoreRpc.Filetime

def ticksPerSecond : UInt64 := 10000000

/-- Seconds from the beginning of 1601 to that of 1970. -/
def unixEpoch : Int64 := 11644473600

/-- The sum, or the nearest number that can be represented. -/
def addClamped (a b : Int64) : Int64 := Int64.ofIntClamp (a.toInt + b.toInt)

/-- The product, or the nearest number that can be represented. -/
def mulClamped (a b : UInt64) : UInt64 := UInt64.ofNatClamp (a.toNat * b.toNat)

/-- Seconds since 1601, the fraction dropped. -/
def seconds (ticks : UInt64) : UInt64 := ticks / ticksPerSecond

/-- Seconds since 1970, the fraction dropped. -/
def toUnix (ticks : UInt64) : Int64 := (seconds ticks).toInt64 - unixEpoch

/-- Seconds since 1601 by those since 1970, or none for what was before. -/
def secondsOfUnix (unix : Int64) : UInt64 := (max (addClamped unix unixEpoch) 0).toUInt64

/-- The ticks of a second since 1970, or the nearest that can be represented. -/
def ofUnix (unix : Int64) : UInt64 := mulClamped (secondsOfUnix unix) ticksPerSecond

/-- The date and time of a timestamp, the fraction of the second dropped, if the calendar has
them. -/
def text? (ticks : UInt64) : Option String :=
  (Calendar.Moment.ofUnix? (toUnix ticks)).map Calendar.Moment.text

end StoreRpc.Filetime
