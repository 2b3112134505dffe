import TunnelProxy.IoError

/-!
# Durations

A duration is a number of seconds and a fraction in nanoseconds.  Instants are durations since the
clock began; they exist up to 2⁶³ seconds only, and waiting for a connection is bounded by 2³¹
milliseconds.
-/

namespace TunnelProxy

/-- A span of time. -/
structure Duration where
  /-- Whole seconds. -/
  seconds : Nat
  /-- Nanoseconds besides, less than a second. -/
  nanos : Nat := 0
  deriving DecidableEq, Inhabited

namespace Duration

/-- So many whole seconds. -/
def ofSeconds (seconds : UInt64) : Duration := ⟨seconds.toNat, 0⟩

/-- So many milliseconds. -/
def ofMillis (millis : Nat) : Duration := ⟨millis / 1000, millis % 1000 * 1000000⟩

/-- The whole milliseconds of a duration. -/
def millis (duration : Duration) : Nat := duration.seconds * 1000 + duration.nanos / 1000000

/-- A number with a fraction of so many digits, of which zeros at the end are not written. -/
def decimal (whole fraction digits : Nat) : String :=
  let shown := (Nat.toDigits 10 (Nat.pow 10 digits + fraction)).drop 1
  let kept := (shown.reverse.dropWhile fun digit => digit = '0').reverse
  if kept.isEmpty then toString whole else toString whole ++ "." ++ String.ofList kept

/-- The text of a duration, in the largest unit of which there is at least one. -/
def text (duration : Duration) : String :=
  let nanos := duration.nanos
  if 0 < duration.seconds then decimal duration.seconds nanos 9 ++ "s"
  else if 1000000 ≤ nanos then decimal (nanos / 1000000) (nanos % 1000000) 6 ++ "ms"
  else if 1000 ≤ nanos then decimal (nanos / 1000) (nanos % 1000) 3 ++ "µs"
  else toString nanos ++ "ns"

/-- The instant which is so much later, if there is one. -/
def after? (now span : Duration) : Option Duration :=
  let nanos := now.nanos + span.nanos
  let seconds := now.seconds + span.seconds + nanos / 1000000000
  if seconds < Nat.pow 2 63 then some ⟨seconds, nanos % 1000000000⟩ else none

/-- How many milliseconds to wait for a connection; -1 means for ever. -/
def pollLimit (limit : Option Duration) : Except IoError Int :=
  match limit with
  | none => .ok (-1)
  | some duration =>
      if duration.millis < Nat.pow 2 31 then .ok duration.millis
      else .error ⟨.invalidInput, s!"timeout convert error: {duration.text}"⟩

end Duration

/-- When waiting with a time limit is over. -/
inductive Deadline where
  /-- Waiting goes on for ever. -/
  | never
  /-- At this instant. -/
  | instant (time : Duration)
  /-- The time limit ends after the last instant which exists. -/
  | beyondClock
  deriving DecidableEq, Inhabited

/-- The end of waiting which begins now. -/
def Deadline.ofLimit (now : Duration) (limit : Option Duration) : Deadline :=
  match limit with
  | none => never
  | some span =>
      match now.after? span with
      | some time => instant time
      | none => beyondClock

end TunnelProxy
