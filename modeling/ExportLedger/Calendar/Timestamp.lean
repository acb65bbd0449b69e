import ExportLedger.Calendar.Date
/-!
Instants to the nanosecond, each with the offset from UTC in which it is written, and local time.
-/
namespace ExportLedger

/-- Minutes east of UTC, less than a day either way. -/
structure Offset where
  minutes : Int
  gt_neg_day : -1440 < minutes := by decide
  lt_day : minutes < 1440 := by decide
  deriving DecidableEq, Repr

namespace Offset

def utc : Offset := ⟨0, by decide, by decide⟩

def ofMinutes? (minutes : Int) : Option Offset :=
  if h : -1440 < minutes ∧ minutes < 1440 then some ⟨minutes, h.1, h.2⟩ else none

end Offset

/-- A leap second is the second before it with a billion nanoseconds or more. -/
structure Timestamp where
  /-- Since the start of 1970 in UTC, leap seconds not counted. -/
  seconds : Int
  nanos : Nat
  offset : Offset
  nanos_lt : nanos < 2000000000
  deriving DecidableEq, Repr

/-- The local time of a place: the offset in force at each second since the start of 1970 in UTC. -/
structure Zone where
  offsetAt : Int → Offset

/-- The same offset at all times. -/
def Zone.fixed (offset : Offset) : Zone := ⟨fun _ => offset⟩

namespace Timestamp

/-- Same instant, written in another offset. -/
def atOffset (t : Timestamp) (offset : Offset) : Timestamp := { t with offset }

/-- Same instant, written in local time. -/
def inZone (t : Timestamp) (zone : Zone) : Timestamp := t.atOffset (zone.offsetAt t.seconds)

/-- What a clock that shows local time has counted since the start of 1970. -/
def localSeconds (t : Timestamp) : Int := t.seconds + 60 * t.offset.minutes

def date (t : Timestamp) : Date := .ofDayNumber (t.localSeconds / 86400)

def secondOfDay (t : Timestamp) : Nat := (t.localSeconds % 86400).toNat

end Timestamp

/-- What a clock shows that knows its zone. -/
structure LocalTime extends Timestamp where
  zone : Zone
  offset_eq : offset = zone.offsetAt seconds

instance : CoeOut LocalTime Timestamp := ⟨LocalTime.toTimestamp⟩

namespace Timestamp

def toLocal (t : Timestamp) (zone : Zone) : LocalTime :=
  { t.inZone zone with zone, offset_eq := rfl }

/-- On the date of `now`. Each of the two dates is told in the offset that was in force at its own
time. -/
def isOnDayOf (t : Timestamp) (now : LocalTime) : Bool := (t.inZone now.zone).date = now.date

end Timestamp

end ExportLedger
