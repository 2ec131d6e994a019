import DeviceBroker.Proofs.Cue
import DeviceBroker.Proofs.Reading

/-!
# `Proofs.Holding` — what a session holds while it reads

A session holds the bytes of an unfinished line whenever it reads, and never more of them than a line may
be. It looks only behind a read, so for a moment it can hold as much more as one read brings. Both follow
from one invariant of its pauses, which also says which cues led to a pause and which are still to come.

## Contents

* `remainder_append_of_not_mem`, `length_remainder_append_lt` — what more bytes do to the unfinished line.
* `Pause.toCome`, `Pause.Past` — the cues on both sides of a pause.
* `Pause.Stands`, `Goes.stands`, `Visits.stands` — **what holds at every pause** of a run.
-/

namespace DeviceBroker

namespace Bytes

/-! ## The unfinished line -/

theorem remainder_append_of_not_mem (a : Bytes) {b : Bytes} (h : newline ∉ b) :
    remainder (a ++ b) = remainder a ++ b := by
  rw [remainder_append]
  apply remainder_of_not_mem
  intro hmem
  exact (List.mem_append.1 hmem).elim (newline_not_mem_remainder a) h

/-- More bytes make the unfinished line longer by no more than they are. -/
theorem length_remainder_append_le (a b : Bytes) :
    (remainder (a ++ b)).length ≤ (remainder a).length + b.length := by
  rw [remainder_append, ← List.length_append]
  exact (remainder_suffix _).length_le

/-- Behind a newline the unfinished line is shorter than the bytes that brought it. -/
theorem length_remainder_append_lt (a : Bytes) {b : Bytes} (h : newline ∈ b) :
    (remainder (a ++ b)).length < b.length := by
  obtain ⟨head, rest, rfl, hhead⟩ := List.eq_append_cons_of_mem h
  have hrest : remainder (a ++ (head ++ newline :: rest)) = remainder rest := by
    rw [remainder_append, ← List.append_assoc, remainder_cut]
    intro hmem
    exact (List.mem_append.1 hmem).elim (newline_not_mem_remainder a) hhead
  rw [hrest, List.length_append, List.length_cons]
  have hle : (remainder rest).length ≤ rest.length := (remainder_suffix rest).length_le
  omega

/-- A stretch without a newline is the end of what stands unfinished behind it. -/
theorem suffix_remainder_append (before : Bytes) {run : Bytes} (h : newline ∉ run) :
    run <:+ remainder (before ++ run) := by
  rw [remainder_append_of_not_mem before h]
  exact List.suffix_append _ _

/-- A beginning of two byte strings ends in the first or in the second. -/
theorem prefix_of_append {part a b : Bytes} (h : part <+: a ++ b) :
    part <+: a ∨ ∃ more, more <+: b ∧ part = a ++ more := by
  rcases List.prefix_or_prefix_of_prefix h (List.prefix_append a b) with hshort | ⟨more, rfl⟩
  · exact Or.inl hshort
  · exact Or.inr ⟨more, (List.prefix_append_right_inj a).1 h, rfl⟩

end Bytes

namespace Session

open Bytes Progress

/-! ## Both sides of a pause -/

namespace Pause

variable {id : SessionId} {output : ReplyStream} {found : Device} {script : List Step}
  {pause next : Pause} {bytes : Bytes} {reading : Reading} {past now : List Cue}

/-- The cues that are still to come. -/
def toCome (pause : Pause) : List Cue :=
  cues (remainder pause.seen) (reached pause.rest) ++ [lastCue (remainder pause.seen) pause.rest]

/-- **The cues behind a pause**: they led to it, and their lines are those of the bytes received. -/
structure Past (id : SessionId) (output : ReplyStream) (found : Device) (script : List Step) (pause : Pause)
    (past : List Cue) : Prop where
  cues : cues [] (reached script) ++ [lastCue [] script] = past ++ pause.toCome
  progress : follow id output found past
    = { output := pause.session.output, device := pause.device, events := pause.events }
  lines : (past.filterMap Cue.deed?).filterMap Deed.line? = lines pause.seen

/-- The cues of a step that is passed. -/
theorem toCome_pass {step : Step} {rest : List Step} (hrest : pause.rest = step :: rest)
    (hlast : step.isLast = false) (hbytes : step.bytes = []) (reading : Reading) :
    pause.toCome = stepCues (remainder pause.seen) step ++ (pause.behind [] reading rest).toCome := by
  unfold toCome behind
  rw [hrest, reached_cons hlast, lastCue_cons hlast, Session.cues, hbytes, List.append_assoc,
    ← remainder_append]

/-- The cues of one read. -/
theorem toCome_read {data : Bytes} {rest : List Step} (hrest : pause.rest = .data data :: rest)
    (hdata : data ≠ []) (reading : Reading) :
    pause.toCome = pieceCues (remainder pause.seen) (data.take readSize) ++
      (pause.behind (data.take readSize) reading (.data (data.drop readSize) :: rest)).toCome := by
  have hbytes : remainder (remainder pause.seen ++ data)
      = remainder (remainder (pause.seen ++ data.take readSize) ++ data.drop readSize) := by
    rw [← remainder_append, ← remainder_append, List.append_assoc, List.take_append_drop]
  unfold toCome behind
  dsimp only
  rw [hrest, reached_cons rfl, reached_cons rfl, lastCue_cons rfl, lastCue_cons rfl, Session.cues,
    Session.cues, stepCues, stepCues, chunks_of_ne_nil hdata, piecesCues, ← remainder_append]
  simp only [Step.bytes]
  rw [hbytes]
  simp only [List.append_assoc]

/-- **Behind what was done at a pause** stand its cues. -/
theorem Past.andThen (h : Past id output found script pause past) (hid : pause.session.id = id)
    {rest : List Step} (hcues : pause.toCome = now ++ (pause.behind bytes reading rest).toCome)
    {left : Session → Prop}
    (hfollows : Follows pause.session pause.device now left reading.turn reading.events)
    (going : reading.turn.ending = none)
    (hlines : (now.filterMap Cue.deed?).filterMap Deed.line? = Bytes.lines (remainder pause.seen ++ bytes)) :
    Past id output found script (pause.behind bytes reading rest) (past ++ now) where
  cues := by rw [h.cues, hcues, List.append_assoc]
  progress := by
    rw [follow_append, h.progress, andThen_going rfl, ← hid, ← hfollows.progress, Turn.progress, going]
    rfl
  lines := by
    rw [List.filterMap_append, List.filterMap_append, h.lines, hlines]
    exact (lines_append pause.seen bytes).symm

/-! ## What holds at a pause -/

/-- **What holds at every pause** of a run: the session holds the unfinished line, and neither that line nor
    any that came before was longer than the limit and one read together. -/
structure Stands (id : SessionId) (output : ReplyStream) (found : Device) (script : List Step)
    (pause : Pause) : Prop where
  named : pause.session.id = id
  waiting : Waiting pause.session (remainder pause.seen)
  short : (remainder pause.seen).length ≤ LineBuffer.limit
  brief : ∀ part, part <+: pause.seen → (remainder part).length < LineBuffer.limit + readSize
  came : heard (reached script) = pause.seen ++ heard (reached pause.rest)
  handed : handed pause.events = pause.seen.length
  past : ∃ past, Past id output found script pause past

theorem stands_opening (id : SessionId) (output : ReplyStream) (found : Device) (script : List Step) :
    Stands id output found script (opening id output script found) where
  named := rfl
  waiting := ⟨LineBuffer.sound_unsearched [], rfl, List.not_mem_nil⟩
  short := Nat.zero_le _
  brief := by
    intro part hpart
    obtain rfl := List.prefix_nil.1 hpart
    exact Nat.lt_of_lt_of_le readSize_pos (Nat.le_add_left _ _)
  came := rfl
  handed := rfl
  past := ⟨[], by rw [toCome, opening, remainder_nil]; rfl, rfl, rfl⟩

/-- **A beginning of what is received** has a short unfinished line, unless it is all of it. -/
theorem Stands.brief_of_ne (h : Stands id output found script pause) (hsize : bytes.length ≤ readSize)
    {part : Bytes} (hpart : part <+: pause.seen ++ bytes) (hne : part ≠ pause.seen ++ bytes) :
    (remainder part).length < LineBuffer.limit + readSize := by
  rcases prefix_of_append hpart with hseen | ⟨more, hmore, rfl⟩
  · exact h.brief part hseen
  · have hless : more.length < bytes.length := by
      apply Nat.lt_of_le_of_ne hmore.length_le
      intro hlength
      exact hne (congrArg (pause.seen ++ ·) (hmore.eq_of_length hlength))
    have hle := length_remainder_append_le pause.seen more
    have hshort := h.short
    omega

theorem heard_reached_data (data : Bytes) (rest : List Step) :
    heard (reached (.data data :: rest)) = data ++ heard (reached rest) := by
  rw [reached_cons rfl, heard_cons]
  rfl

/-- One read follows its cues. -/
theorem Stands.reading_follows (h : Stands id output found script pause) (data : Bytes) :
    Follows pause.session pause.device (pieceCues (remainder pause.seen) (data.take readSize))
      (fun left => Waiting left (remainder (remainder pause.seen ++ data.take readSize)))
      (pause.reading data).turn (pause.reading data).events := by
  have hpiece := receive_follows h.waiting pause.device (data.take readSize)
  refine ⟨?_, hpiece.id, hpiece.leaves⟩
  rw [pieceCues, follow_read, ← hpiece.progress]
  rfl

/-- A session that goes on behind a read holds no more than a line may be. -/
theorem size_of_receive {session : Session} {device : Device} {piece : Bytes}
    (going : (session.receive device piece).ending = none) :
    (session.receive device piece).session.input.size ≤ LineBuffer.limit := by
  unfold receive at going ⊢
  dsimp only at going ⊢
  generalize handleLines { session with input := session.input.push piece } device = turn at going ⊢
  split at going
  · cases going
  · next hkept =>
    rw [if_neg hkept]
    rw [going] at hkept
    simpa [LineBuffer.isOverlong] using hkept

/-- A step that is passed hands nothing over. -/
theorem handed_pass (pause : Pause) {step : Step} (hlast : step.isLast = false) (hbytes : step.bytes = []) :
    Session.handed (serveStep pause.session pause.device step).events = 0 := by
  cases step with
  | data bytes =>
    obtain rfl : bytes = [] := hbytes
    rw [serveStep, chunks]
    rfl
  | failure error => rfl
  | device request => rfl
  | session id script output => rfl
  | eof => cases hlast

/-- A read hands over what it takes. -/
theorem handed_reading (pause : Pause) (data : Bytes) :
    Session.handed (pause.reading data).events = (data.take readSize).length := by
  rw [reading, handed_cons, handed_effects]
  rfl

/-- A step that brings no bytes serves no line. -/
theorem lines_pass {seen : Bytes} {step : Step} (hbytes : step.bytes = []) :
    ((stepCues (remainder seen) step).filterMap Cue.deed?).filterMap Deed.line? = [] := by
  rw [deeds_stepCues, hbytes, carried_nil]
  cases step <;> rfl

theorem lines_pieceCues (rest piece : Bytes) :
    ((pieceCues rest piece).filterMap Cue.deed?).filterMap Deed.line? = Bytes.lines (rest ++ piece) := by
  rw [deeds_pieceCues, List.filterMap_map]
  exact List.filterMap_some

/-- **It holds at the next pause** if it holds at a pause. -/
theorem Goes.stands (hgoes : Goes pause next) (h : Stands id output found script pause) :
    Stands id output found script next := by
  obtain ⟨past, hpast⟩ := h.past
  cases hgoes with
  | @pass step rest hrest hbytes hgoing =>
    -- nothing is received, so all that grows is what was seen and the cues behind the pause
    have hlast : step.isLast = false := by
      cases hlast : step.isLast with
      | false => rfl
      | true => exact absurd hgoing (ending_last pause hlast)
    have hfollows := serveStep_follows h.waiting pause.device hlast
    have hwaiting := hfollows.leaves hgoing
    have hlines := lines_of_not_mem h.waiting.unended
    rw [hbytes, List.append_nil, remainder_of_not_mem h.waiting.unended] at hwaiting
    have hcame := h.came
    rw [hrest, reached_cons hlast, heard_cons, hbytes, List.nil_append] at hcame
    refine ⟨hfollows.id.trans h.named, ?_, ?_, ?_, ?_, ?_, past ++ stepCues (remainder pause.seen) step, ?_⟩
    · simpa [behind] using hwaiting
    · simpa [behind] using h.short
    · simpa [behind] using h.brief
    · simpa [behind] using hcame
    · rw [behind, handed_append, handed_pass pause hlast hbytes, List.append_nil]
      exact h.handed
    · apply hpast.andThen h.named (toCome_pass hrest hlast hbytes _) hfollows hgoing
      rw [List.append_nil, lines_pass hbytes, hlines]
  | @read data rest hrest hdata hgoing =>
    -- the session goes on behind the read, so what it holds now has passed the check
    have hfollows := h.reading_follows data
    have hwaiting := hfollows.leaves hgoing
    rw [← remainder_append] at hwaiting
    have hsize : (data.take readSize).length ≤ readSize := List.length_take_le _ _
    have hshort : (remainder (pause.seen ++ data.take readSize)).length ≤ LineBuffer.limit := by
      rw [← hwaiting.pending]
      exact size_of_receive hgoing
    refine ⟨hfollows.id.trans h.named, hwaiting, hshort, ?_, ?_, ?_,
      past ++ pieceCues (remainder pause.seen) (data.take readSize), ?_⟩
    · intro part hpart
      by_cases hall : part = pause.seen ++ data.take readSize
      · rw [hall]
        have hpos := readSize_pos
        omega
      · exact h.brief_of_ne hsize hpart hall
    · rw [h.came, hrest, behind, heard_reached_data, heard_reached_data, List.append_assoc,
        ← List.append_assoc (data.take readSize), List.take_append_drop]
    · rw [behind, handed_append, handed_reading, h.handed, List.length_append]
    · exact hpast.andThen h.named (toCome_read hrest hdata _) hfollows hgoing (lines_pieceCues _ _)

/-- **It holds at every pause of a run.** -/
theorem Visits.stands (hvisits : Visits (opening id output script found) pause) :
    Stands id output found script pause := by
  induction hvisits with
  | refl => exact stands_opening id output found script
  | tail _ hgoes ih => exact hgoes.stands ih

end Pause

end Session

end DeviceBroker
