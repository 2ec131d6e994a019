import DeviceBroker.Proofs.Events
import DeviceBroker.Proofs.Plan

/-!
# `Proofs.Course` — performing deeds

What deeds come to when they are performed one after the other on a device: the answers, what is seen, and
the device behind them. Nothing here reads from a client, and every answer arrives.

## Contents

* `Session.Course`, `Course.bytes`, `Session.course` — **performing a list of deeds**; `course_append`.
* `answers_course`, `delivered_course`, `withoutReads_course` — the parts of a course.
* `length_uses_course` — every deed shows once that it was done.
-/

namespace DeviceBroker

namespace Session

/-- What performing deeds leads to: which line got which answer, what is seen, and the device behind it. -/
structure Course where
  answers : List (Bytes × Reply) := []
  events : List Event := []
  device : Device

/-- The bytes of all answers of a course. -/
def Course.bytes (course : Course) : Bytes :=
  course.answers.flatMap fun entry => entry.2.render

/-- One deed, performed on a device; a line is answered, and the answer arrives. -/
def Deed.course (id : SessionId) (device : Device) : Deed → Course
  | serve line =>
    let (reply, device, notes) := answer id device (Command.parse line)
    { answers := [(line, reply)], device,
      events := (received id line :: (notes ++ [.replied reply.render])).map .effect }
  | ask request =>
    { device := (device.perform request).2, events := [.device (device.perform request).1] }
  | visit other script output =>
    { device := (run other output script device).device,
      events := [(run other output script device).event] }

/-- **Performs deeds** one after the other. -/
def course (id : SessionId) (device : Device) : List Deed → Course
  | [] => { device }
  | deed :: deeds =>
    let first := deed.course id device
    let rest := course id first.device deeds
    { answers := first.answers ++ rest.answers, events := first.events ++ rest.events,
      device := rest.device }

/-- The lines answered are the lines of the deeds. -/
theorem answers_course (id : SessionId) (device : Device) (plan : List Deed) :
    (course id device plan).answers.map Prod.fst = plan.filterMap Deed.line? := by
  induction plan generalizing device with
  | nil => rfl
  | cons deed plan ih =>
    rw [course, List.map_append, ih]
    cases deed <;> rfl

/-- What is delivered are the answers. -/
theorem delivered_course (id : SessionId) (device : Device) (plan : List Deed) :
    (course id device plan).events.flatMap Event.delivered = (course id device plan).bytes := by
  induction plan generalizing device with
  | nil => rfl
  | cons deed plan ih =>
    rw [course, Course.bytes, List.flatMap_append, List.flatMap_append, ih]
    congr 1
    cases deed with
    | serve line =>
      have hnotes := delivered_notes id device (Command.parse line)
      simp only [Deed.course, List.map_cons, List.map_append, List.flatMap_cons, List.flatMap_append]
      rw [hnotes]
      simp [Event.delivered, received, record, Effect.bytes]
    | ask request => simp [Deed.course, Event.delivered]
    | visit other script output => simp [Deed.course, Report.event, Event.delivered]

/-- No read is seen on the way. -/
theorem withoutReads_course (id : SessionId) (device : Device) (plan : List Deed) :
    withoutReads (course id device plan).events = (course id device plan).events := by
  induction plan generalizing device with
  | nil => rfl
  | cons deed plan ih =>
    rw [course, withoutReads_append, ih]
    congr 1
    cases deed with
    | serve line => exact withoutReads_effects _
    | ask request => rfl
    | visit other script output => rfl

/-- **Deeds in two parts** are performed one part after the other. -/
theorem course_append (id : SessionId) (device : Device) (a b : List Deed) :
    course id device (a ++ b) =
      { answers := (course id device a).answers ++ (course id (course id device a).device b).answers
        events := (course id device a).events ++ (course id (course id device a).device b).events
        device := (course id (course id device a).device b).device } := by
  induction a generalizing device with
  | nil => rfl
  | cons deed a ih => simp only [List.cons_append, course, ih, List.append_assoc]

theorem bytes_course_append (id : SessionId) (device : Device) (a b : List Deed) :
    (course id device (a ++ b)).bytes
      = (course id device a).bytes ++ (course id (course id device a).device b).bytes := by
  rw [course_append, Course.bytes, List.flatMap_append]
  rfl

/-- A deed shows once that it was done. -/
theorem uses_deed (id : SessionId) (device : Device) (deed : Deed) :
    ((deed.course id device).events.filter Event.isUse).length = 1 := by
  cases deed with
  | serve line =>
    have hnotes := uses_notes id device (Command.parse line)
    simp only [Deed.course, List.map_cons, List.map_append, List.map_nil]
    rw [List.filter_cons_of_pos rfl, List.filter_append, hnotes]
    rfl
  | ask request => rfl
  | visit other script output => rfl

/-- **Every deed shows once** that it was done. -/
theorem length_uses_course (id : SessionId) (device : Device) (plan : List Deed) :
    ((course id device plan).events.filter Event.isUse).length = plan.length := by
  induction plan generalizing device with
  | nil => rfl
  | cons deed plan ih =>
    rw [course, List.filter_append, List.length_append, uses_deed, ih, List.length_cons, Nat.add_comm]

end Session

end DeviceBroker
