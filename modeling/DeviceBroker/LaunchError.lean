import DeviceBroker.Listener
import DeviceBroker.Settings.LoadError
import DeviceBroker.SocketDirectory

/-!
# `LaunchError` — why the daemon did not run, or did not run to its end

Each stage of the start has errors of its own; the launch adds which stage it was. An error's *sources*
are the errors it stems from, from the nearest to the first cause.

## Contents

* `TelemetryError` — why the log cannot be written.
* `LaunchError`, `LaunchError.message`, `LaunchError.sources`.
-/

namespace DeviceBroker

/-- Why the log cannot be written. -/
inductive TelemetryError where
  /-- The filter is not understood. -/
  | filter (reason : String)
  /-- The reading of the filter broke down. -/
  | broken (cut : Text.BadCut)
  deriving Repr, DecidableEq

/-- The wording of an error. -/
def TelemetryError.message : TelemetryError → String
  | filter reason => s!"invalid log filter: {reason}"
  | broken cut => cut.message

/-- Why the daemon did not run to its end. -/
inductive LaunchError where
  /-- There are no settings. -/
  | settings (source : Settings.LoadError)
  /-- The log cannot be written. -/
  | telemetry (source : TelemetryError)
  /-- The socket's directory is not ready. -/
  | socket (source : SocketDirectory.Error)
  /-- Signals cannot be listened for. -/
  | shutdown (source : ShutdownError)
  /-- There is no listener. -/
  | listener (source : Listener.Error)
  /-- Connections could not be accepted any more. -/
  | acceptFailed (kind : ErrorKind) (message : String)
  deriving Repr, DecidableEq

namespace LaunchError

/-- The wording of an error. -/
def message : LaunchError → String
  | settings source => s!"failed to load configuration: {source.message}"
  | telemetry source => s!"failed to initialise telemetry: {source.message}"
  | socket source => s!"failed to prepare daemon socket: {source.message}"
  | shutdown source => s!"failed to install shutdown handling: {source.message}"
  | listener source => s!"daemon socket listener failed: {source.message}"
  | acceptFailed kind message => s!"accepting connections failed ({kind.name}): {message}"

/-- The wordings of the errors underneath, the nearest first. -/
def sources : LaunchError → List String
  | settings source => [source.message]
  | telemetry source => [source.message]
  | socket source => source.message :: (source.source?.map IoError.message).toList
  | shutdown source => [source.message, source.source.message]
  | listener source => source.message :: (source.source?.map IoError.message).toList
  | acceptFailed .. => []

end LaunchError

end DeviceBroker
