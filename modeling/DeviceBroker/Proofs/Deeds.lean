import DeviceBroker.Service

/-!
# `Proofs.Deeds` — what a thread can do

A thread goes through its phases in one order, and at each phase it can do one or a few things. This file
says once what these are, with all that comes of them; whatever is proved of threads goes by these cases.

## Contents

* `Worker.Performs`, `perform?_eq_some_iff` — **every deed of a thread**, the phase in which it can be done, and
  its outcome.
* `Service.work?_eq_some` — a deed of a thread among others.
-/

namespace DeviceBroker

namespace Worker

/-- **A deed and its outcome**: one case for each kind of deed, at the phase in which it can be done. -/
inductive Performs (worker : Worker) (index : Nat) (device : Device) (registry : Registry) :
    Deed → Outcome → Prop
  /-- It enters the registry. -/
  | register (obstacle : Option IoError) :
      worker.phase = .handed →
      Performs worker index device registry (.register obstacle)
        (worker.enterRegistry index obstacle device registry)
  /-- It reads a piece of the stream, which is not empty and not too long for one read. -/
  | deliver (session : Session) (bytes : Bytes) :
      worker.phase = .reading session → bytes ≠ [] → bytes.length ≤ Session.readSize →
      Performs worker index device registry (.deliver bytes)
        { worker := { worker with phase := .serving { session with input := session.input.push bytes } },
          device, registry }
  /-- It finds the end of the stream. -/
  | hangUp (session : Session) :
      worker.phase = .reading session →
      Performs worker index device registry .hangUp
        (worker.afterTurn (session.endOfStream device) registry)
  /-- It cannot read, and will not try again. -/
  | breakOff (session : Session) (error : IoError) :
      worker.phase = .reading session → error.isInterrupted = false →
      Performs worker index device registry (.breakOff error)
        (worker.afterTurn (session.readFailed device error) registry)
  /-- It serves the next line, or finds that there is none. -/
  | serve (session : Session) (writes : List WriteResult) (flushes : List FlushResult) :
      worker.phase = .serving session →
      Performs worker index device registry (.serve writes flushes)
        (worker.serveNext { session with output := { session.output with writes, flushes } } device registry)
  /-- It gives up its session's claim. -/
  | release (session : Session) (ending : Session.Ending) :
      worker.phase = .ended session ending →
      Performs worker index device registry .release
        (worker.closeSession session ending device registry)
  /-- It leaves the registry. -/
  | deregister (id : SessionId) :
      worker.phase = .released id →
      Performs worker index device registry .deregister
        { worker := { worker with phase := .finished id }, device, registry := registry.leave id }

/-- **Every deed that is done** is one of these, and each of these can be done. -/
theorem perform?_eq_some_iff {worker : Worker} {index : Nat} {device : Device} {registry : Registry}
    {deed : Deed} {outcome : Outcome} :
    worker.perform? index device registry deed = some outcome
      ↔ Performs worker index device registry deed outcome := by
  constructor
  · intro h
    unfold perform? at h
    -- one case for each deed at the phase in which it can be done, and one for all others
    split at h
    · next obstacle hphase =>
      cases h
      exact .register obstacle hphase
    · next session bytes hphase =>
      split at h
      · cases h
      · next hsize =>
        cases h
        obtain ⟨hsome, hshort⟩ := not_or.1 hsize
        exact .deliver session bytes hphase hsome (Nat.not_lt.1 hshort)
    · next session hphase =>
      cases h
      exact .hangUp session hphase
    · next session error hphase =>
      split at h
      · cases h
      · next hinterrupted =>
        cases h
        exact .breakOff session error hphase ((Bool.not_eq_true _).mp hinterrupted)
    · next session writes flushes hphase =>
      cases h
      exact .serve session writes flushes hphase
    · next session ending hphase =>
      cases h
      exact .release session ending hphase
    · next id hphase =>
      cases h
      exact .deregister id hphase
    · cases h
  · intro h
    cases h with
    | register obstacle hphase => simp only [perform?, hphase]
    | deliver session bytes hphase hsome hshort =>
      simp only [perform?, hphase]
      exact if_neg (not_or.2 ⟨hsome, Nat.not_lt.2 hshort⟩)
    | hangUp session hphase => simp only [perform?, hphase]
    | breakOff session error hphase hinterrupted =>
      simp only [perform?, hphase]
      exact if_neg (by simp [hinterrupted])
    | serve session writes flushes hphase => simp only [perform?, hphase]
    | release session ending hphase => simp only [perform?, hphase]
    | deregister id hphase => simp only [perform?, hphase]

end Worker

namespace Service

/-- **A deed of one thread** among others: its outcome is put in the place of the thread. -/
theorem work?_eq_some {service next : Service} {index : Nat} {deed : Worker.Deed} {log : List LogRecord}
    (h : service.work? index deed = some (next, log)) :
    ∃ worker outcome, service.workers[index]? = some worker ∧
      Worker.Performs worker index service.device service.registry deed outcome ∧
      next = { device := outcome.device, registry := outcome.registry,
               workers := service.workers.set index outcome.worker } ∧
      log = outcome.log := by
  unfold work? at h
  split at h
  · cases h
  · next worker hworker =>
    split at h
    · cases h
    · next outcome hperform =>
      cases h
      exact ⟨worker, outcome, hworker, Worker.perform?_eq_some_iff.1 hperform, rfl, rfl⟩

end Service

end DeviceBroker
