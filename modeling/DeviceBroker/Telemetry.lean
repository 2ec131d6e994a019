import DeviceBroker.Filter
import DeviceBroker.LaunchError

/-!
# `Telemetry` — the log of a running daemon

The settings say which records are written and how. A filter that is not understood, or that breaks the
reading down, is the only thing that can be wrong with them.

## Contents

* `Telemetry`, `Telemetry.ofSettings`.
-/

namespace DeviceBroker

/-- Which records are written, and how. -/
structure Telemetry where
  filter : Filter
  format : LogFormat
  deriving Repr, DecidableEq

namespace Telemetry

/-- **The log that settings ask for.** -/
def ofSettings (settings : Settings) : Except TelemetryError Telemetry :=
  match Filter.read settings.effectiveFilter with
  | .error (.cut cut) => .error (.broken cut)
  | .error error => .error (.filter error.message)
  | .ok filter => .ok { filter, format := settings.logFormat }

end Telemetry

end DeviceBroker
