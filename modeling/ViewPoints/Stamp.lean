import ViewPoints.Decimal.Binary
import ViewPoints.Failure
import ViewPoints.Pattern

/-!
Times of day `HH:MM:SS.mmm`. Durations and the end of the day are written in the same way, so
the fields may exceed a clock's. Differences are taken on whole milliseconds.
-/

namespace ViewPoints

structure Stamp where
  hour : Nat
  minute : Nat
  second : Nat
  millisecond : Nat
  deriving DecidableEq

namespace Stamp

/-- The number of milliseconds since midnight. -/
def millis (t : Stamp) : Nat :=
  ((t.hour * 60 + t.minute) * 60 + t.second) * 1000 + t.millisecond

/-- Seconds since midnight. -/
def seconds (t : Stamp) : Float :=
  (Float.ofNat t.hour * 60 + Float.ofNat t.minute) * 60 + Float.ofNat t.second +
    Float.ofNat t.millisecond / 1000

/-- The order of two numbers. -/
def byField (a b : Nat) : Ordering := if a < b then .lt else if b < a then .gt else .eq

/-- The order by hour, then minute, second and millisecond. -/
def order (a b : Stamp) : Ordering :=
  ((byField a.hour b.hour).then (byField a.minute b.minute)).then
    ((byField a.second b.second).then (byField a.millisecond b.millisecond))

/-- Two digits, two digits, two digits and three digits, in plain digits and with nothing
around them. -/
def ofChars? : List Char → Option Stamp
  | [h, h', ':', m, m', ':', s, s', '.', f, f', f''] =>
    if [h, h', m, m', s, s', f, f', f''].all Text.isPlainDigit then
      some ⟨Text.ofDigits [h, h'], Text.ofDigits [m, m'], Text.ofDigits [s, s'],
        Text.ofDigits [f, f', f'']⟩
    else none
  | _ => none

def parse? (text : String) : Option Stamp := ofChars? text.toList

def read (text : String) : Except Failure Stamp :=
  match parse? text with
  | some t => .ok t
  | none => .error (.malformedTime text)

/-- A text of the shape of a stamp, in digits of any script. -/
def shape : Pattern :=
  let two := .one Text.isDigit ++ .one Text.isDigit
  two ++ .lit ":" ++ two ++ .lit ":" ++ two ++ .lit "." ++ two ++ .one Text.isDigit

/-- Seconds from one stamp to another, negative when the end comes first. -/
def difference (start stop : Stamp) : Float :=
  Float.ofInt ((stop.millis : Int) - start.millis) / 1000

/-- Seconds between two written stamps. The end is read first. -/
def delta (start stop : String) : Except Failure Float := do
  let b ← read stop
  let a ← read start
  return difference a b

/-! ### Spans of time -/

/-- A span in whole milliseconds, if it is within the bounds of 64 bits. -/
def span? (n : Int) : Option Int := if n.natAbs < 0x8000000000000000 then some n else none

/-- The span since midnight, put together field by field. -/
def sinceMidnight? (t : Stamp) : Option Int := do
  let hours ← span? (t.hour * 3600000)
  let minutes ← span? (t.minute * 60000)
  let clock ← span? (hours + minutes)
  let seconds ← span? (t.second * 1000)
  let whole ← span? (clock + seconds)
  let rest ← span? t.millisecond
  span? (whole + rest)

theorem span?_eq {n : Int} (h : n.natAbs < 0x8000000000000000) : span? n = some n := if_pos h

theorem eq_of_span? {m n : Int} (h : span? n = some m) : m = n := by
  unfold span? at h
  split at h
  · exact (Option.some.inj h).symm
  · cases h

theorem millis_eq_fields (t : Stamp) : (t.millis : Int) =
    t.hour * 3600000 + t.minute * 60000 + t.second * 1000 + t.millisecond := by
  rw [millis]
  omega

/-- No step goes out of bounds for fields of 32 bits. -/
theorem sinceMidnight?_eq {t : Stamp} (hh : t.hour < 0x100000000) (hm : t.minute < 0x100000000)
    (hs : t.second < 0x100000000) (hf : t.millisecond < 0x100000000) :
    t.sinceMidnight? = some (t.millis : Int) := by
  rw [millis_eq_fields]
  simp only [sinceMidnight?, Option.bind_eq_bind]
  rw [span?_eq (by omega), Option.bind_some, span?_eq (by omega), Option.bind_some,
    span?_eq (by omega), Option.bind_some, span?_eq (by omega), Option.bind_some,
    span?_eq (by omega), Option.bind_some, span?_eq (by omega), Option.bind_some,
    span?_eq (by omega)]

/-- Within bounds the span since midnight is the number of milliseconds. -/
theorem eq_millis_of_sinceMidnight? {t : Stamp} {n : Int} (h : t.sinceMidnight? = some n) :
    n = t.millis := by
  simp only [sinceMidnight?, Option.bind_eq_bind, Option.bind_eq_some_iff] at h
  obtain ⟨hours, hh, minutes, hm, clock, hc, seconds, hs, whole, hw, rest, hr, hn⟩ := h
  rw [eq_of_span? hn, eq_of_span? hw, eq_of_span? hc, eq_of_span? hh, eq_of_span? hm,
    eq_of_span? hs, eq_of_span? hr, millis_eq_fields]

/-- The time between two written stamps is the span between them, where there is one. -/
theorem delta_eq_of_span? {start stop : String} {p q : Stamp} {m n d : Int}
    (hp : read start = .ok p) (hq : read stop = .ok q) (hm : p.sinceMidnight? = some m)
    (hn : q.sinceMidnight? = some n) (hd : span? (n - m) = some d) :
    delta start stop = .ok (Float.ofInt d / 1000) := by
  rw [eq_of_span? hd, eq_millis_of_sinceMidnight? hm, eq_millis_of_sinceMidnight? hn, delta, hq, hp]
  rfl

end Stamp

/-- A span of time, in seconds. -/
structure Window where
  start : Float
  stop : Float
  deriving DecidableEq

namespace Window

/-- Rounded to whole milliseconds. -/
def toMillis (x : Float) : Float := Binary.nearestWhole (x * 1000) / 1000

/-- The length of what two windows share. Each must begin before the other ends. -/
def overlap (a b : Window) : Option Float :=
  if a.start < b.stop && b.start < a.stop then
    let start := if a.start < b.start then b.start else a.start
    let stop := if b.stop < a.stop then b.stop else a.stop
    some (toMillis (stop - start))
  else none

end Window

end ViewPoints
