import DeviceBroker.IoError
import DeviceBroker.LogRecord
import DeviceBroker.Text.Quoted

/-!
# `Shutdown` — who decides that the daemon stops

Everything that may want the daemon to stop holds a notifier. One party waits, and it gets the request
that was made first, whoever made it and whatever became of the notifier since. If every notifier is
gone and none was used, the wait ends too. Requests made after the wait change nothing and are logged.

The party that waits has a notifier of its own, from which the others are made. It gives it up when it
begins to wait, for otherwise there would always be one left.

## Contents

* `ShutdownReason`, `ShutdownError` — why a stop is requested; why no request could be listened for.
* `ShutdownReason.handledSignals` — the signals that request a stop.
* `Coordinator`, `notifier`, `drop`, `notify`, `wait`.
* `Coordinator.Operation`, `perform?`, `replay?` — histories.
-/

namespace DeviceBroker

/-- Why the daemon stops. -/
inductive ShutdownReason where
  /-- A signal arrived. -/
  | signal (number : Int)
  /-- Connections could not be accepted any more. -/
  | acceptFailed (kind : ErrorKind) (message : String)
  /-- A stop was asked for. -/
  | requested
  /-- Nobody is left who could ask. -/
  | channelClosed
  deriving Repr, DecidableEq

namespace ShutdownReason

/-- Interrupt. -/
def interrupt : Int := 2

/-- Terminate. -/
def terminate : Int := 15

/-- The signals that request a stop. -/
def handledSignals : List Int := [interrupt, terminate]

/-- The reason in the log. -/
def describe : ShutdownReason → String
  | signal number => s!"Signal({number})"
  | acceptFailed kind message =>
    "AcceptFailed \x7b kind: " ++ kind.name ++ ", message: " ++ Text.Quoted.quote message ++ " \x7d"
  | requested => "Requested"
  | channelClosed => "ChannelClosed"

end ShutdownReason

/-- Why signals cannot be listened for. -/
inductive ShutdownError where
  /-- The handlers could not be installed. -/
  | install (source : IoError)
  /-- The thread that listens could not be started. -/
  | spawn (source : IoError)
  deriving Repr, DecidableEq

namespace ShutdownError

/-- The failure underneath. -/
def source : ShutdownError → IoError
  | install source => source
  | spawn source => source

/-- The wording of an error. -/
def message : ShutdownError → String
  | install source => s!"failed to install signal handlers: {source.message}"
  | spawn source => s!"failed to spawn signal watcher thread: {source.message}"

end ShutdownError

/-- The requests made so far and who can still make one. -/
structure Coordinator where
  /-- Requests not yet taken, oldest first. -/
  requests : List ShutdownReason := []
  /-- The notifiers that exist; those dropped stay in the list as `false`. -/
  notifiers : List Bool := []
  /-- Whether the waiting party still has its own notifier. -/
  own : Bool := true
  /-- Whether the wait is over. -/
  waited : Bool := false
  deriving Repr, DecidableEq

namespace Coordinator

/-- The record of a request that came too late. -/
def ignored : LogRecord :=
  { level := .debug, target := LogRecord.Target.process,
    message := "shutdown already in progress; request ignored" }

/-- Makes a notifier and returns its number. Cloning one does the same. -/
def notifier (coordinator : Coordinator) : Nat × Coordinator :=
  (coordinator.notifiers.length,
    { coordinator with notifiers := coordinator.notifiers ++ [true] })

/-- Drops a notifier. -/
def drop (coordinator : Coordinator) (number : Nat) : Coordinator :=
  { coordinator with notifiers := coordinator.notifiers.set number false }

/-- **Requests a stop**; after the wait this is only logged. -/
def notify (coordinator : Coordinator) (reason : ShutdownReason) : List LogRecord × Coordinator :=
  if coordinator.waited then ([ignored], coordinator)
  else ([], { coordinator with requests := coordinator.requests ++ [reason] })

/-- Whether somebody is left who could request a stop. -/
def isOpen (coordinator : Coordinator) : Bool :=
  coordinator.own || coordinator.notifiers.any id

/-- **Waits** for the first request; nothing if the wait goes on. -/
def wait (coordinator : Coordinator) : Option ShutdownReason × Coordinator :=
  let coordinator := { coordinator with own := false }
  match coordinator.requests with
  | reason :: _ => (some reason, { coordinator with requests := [], waited := true })
  | [] =>
    if coordinator.isOpen then (none, coordinator)
    else (some .channelClosed, { coordinator with waited := true })

/-! ## Histories -/

/-- What is done with a coordinator and its notifiers. -/
inductive Operation where
  /-- A notifier is handed out. -/
  | notifier
  /-- A notifier is cloned. -/
  | clone (number : Nat)
  /-- A notifier is dropped. -/
  | drop (number : Nat)
  /-- A stop is requested through a notifier. -/
  | notify (number : Nat) (reason : ShutdownReason)
  /-- The waiting party begins to wait, or finds out whether it still has to. -/
  | wait
  deriving Repr, DecidableEq

/-- What an operation answers. -/
inductive Answer where
  /-- The number of a new notifier. -/
  | number (number : Nat)
  | done
  | logged (records : List LogRecord)
  /-- The request that counts; nothing if the wait goes on. -/
  | waited (reason : Option ShutdownReason)
  deriving Repr, DecidableEq

/-- Whether a notifier exists. -/
def isAlive (coordinator : Coordinator) (number : Nat) : Bool :=
  coordinator.notifiers[number]? == some true

/-- **One operation**, if it is possible. Only a notifier that exists can be used, none is handed out once
    the wait has begun, and nobody waits when the wait is over. -/
def perform? (coordinator : Coordinator) : Operation → Option (Answer × Coordinator)
  | .notifier =>
    if coordinator.own then
      let (number, coordinator) := coordinator.notifier
      some (.number number, coordinator)
    else none
  | .clone number =>
    if coordinator.isAlive number then
      let (number, coordinator) := coordinator.notifier
      some (.number number, coordinator)
    else none
  | .drop number =>
    if coordinator.isAlive number then some (.done, coordinator.drop number) else none
  | .notify number reason =>
    if coordinator.isAlive number then
      let (records, coordinator) := coordinator.notify reason
      some (.logged records, coordinator)
    else none
  | .wait =>
    if coordinator.waited then none
    else
      let (reason, coordinator) := coordinator.wait
      some (.waited reason, coordinator)

/-- **A history**: all operations in order, if each is possible, and what they answer. -/
def replay? (coordinator : Coordinator) : List Operation → Option (List Answer × Coordinator)
  | [] => some ([], coordinator)
  | operation :: rest =>
    match coordinator.perform? operation with
    | none => none
    | some (answer, coordinator) =>
      match coordinator.replay? rest with
      | none => none
      | some (answers, coordinator) => some (answer :: answers, coordinator)

end Coordinator

end DeviceBroker
