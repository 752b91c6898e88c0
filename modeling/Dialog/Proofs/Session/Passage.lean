import Dialog.Proofs.Session.Place
import Mathlib.Tactic.ByContra

namespace Dialog.Session

/-!
# Passages

A passage is so many steps one after the other, each made before the end and each
gone through. A run is a passage, and then stops: at the end of the session, at a
step that fails, or because the steps that it was allowed are used up
(`runWithin_cases`). So a run that stops for one of the first two reasons leaves
the same behind however many more steps it is allowed, and never to stop is the
same before a passage and after it.
-/

/-- So many steps that go through, with their events. -/
inductive Passage : Session → Nat → List Event → Session → Prop where
  | here (session : Session) : Passage session 0 [] session
  | onward {first last : Session} {count : Nat} {events : List Event} :
      first.halted = false →
      first.step.fault = none →
      Passage first.step.session count events last →
      Passage first (count + 1) (first.step.events ++ events) last

/-- What a run leaves behind when other events came before it. -/
def Ran.after (events : List Event) (ran : Ran) : Ran :=
  { ran with events := events ++ ran.events }

/-- A session that has ended makes no steps. -/
theorem runWithin_of_halted
    {session : Session}
    (halted : session.halted = true)
    (bound : Nat) :
    session.runWithin bound = ⟨session, [], .halted⟩ := by
  cases bound <;> simp [runWithin, halted]

/-- A run stops at the first step that fails. -/
theorem runWithin_of_failed
    {session : Session}
    {fault : SessionFault}
    (running : session.halted = false)
    (failed : session.step.fault = some fault)
    (bound : Nat) :
    session.runWithin (bound + 1) =
      ⟨session.step.session, session.step.events, .failed fault⟩ := by
  simp [runWithin, running, failed]

/-- After a step that succeeds, the run goes on with one step fewer. -/
theorem runWithin_of_passed
    {session : Session}
    (running : session.halted = false)
    (passed : session.step.fault = none)
    (bound : Nat) :
    session.runWithin (bound + 1) =
      (session.step.session.runWithin bound).after session.step.events := by
  simp [runWithin, running, passed, Ran.after]

namespace Passage

variable {script : Script} {first middle last : Session} {count more : Nat}
  {events later : List Event}

/-- One passage may be continued by another. -/
theorem trans
    (begun : Passage first count events middle)
    (continued : Passage middle more later last) :
    Passage first (count + more) (events ++ later) last := by
  induction begun with
  | here => simpa using continued
  | onward running passed _ inductionHypothesis =>
      rw [Nat.add_right_comm, List.append_assoc]
      exact .onward running passed (inductionHypothesis continued)

/-- One step that succeeds is a passage. -/
theorem single
    (running : first.halted = false)
    (passed : first.step.fault = none) :
    Passage first 1 first.step.events first.step.session := by
  simpa using Passage.onward running passed (.here first.step.session)

/-- Nothing is passed after the end. -/
theorem running
    (passage : Passage first count events last)
    (running : last.halted = false) :
    first.halted = false := by
  cases passage with
  | here => exact running
  | onward firstRunning => exact firstRunning

/-- A passage leaves a session in play. -/
theorem plays
    (passage : Passage first count events last)
    (plays : first.Plays script) :
    last.Plays script := by
  induction passage with
  | here => exact plays
  | onward _ _ _ inductionHypothesis => exact inductionHypothesis plays.step

/-- A run goes along a passage first. -/
theorem runWithin
    (passage : Passage first count events last)
    (bound : Nat) :
    first.runWithin (count + bound) = (last.runWithin bound).after events := by
  induction passage with
  | here => simp [Ran.after]
  | onward running passed _ inductionHypothesis =>
      rw [Nat.add_right_comm, runWithin_of_passed running passed, inductionHypothesis]
      simp [Ran.after, List.append_assoc]

/-- A run ends after a passage as it does without it. -/
theorem ending_runWithin
    (passage : Passage first count events last)
    (bound : Nat) :
    (first.runWithin (count + bound)).ending = (last.runWithin bound).ending := by
  rw [passage.runWithin]
  rfl

end Passage

/-- How a run of so many steps at most stops, after the passage that it went along. -/
inductive Stops (session : Session) (bound : Nat) : Ran → Prop where
  | halted {count : Nat} {events : List Event} {last : Session} :
      Passage session count events last →
      count ≤ bound →
      last.halted = true →
      Stops session bound ⟨last, events, .halted⟩
  | failed {count : Nat} {events : List Event} {last : Session} {fault : SessionFault} :
      Passage session count events last →
      count < bound →
      last.halted = false →
      last.step.fault = some fault →
      Stops session bound ⟨last.step.session, events ++ last.step.events, .failed fault⟩
  | unfinished {events : List Event} {last : Session} :
      Passage session bound events last →
      last.halted = false →
      Stops session bound ⟨last, events, .endless⟩

/-- A run that stops after a first step has stopped with that step before it. -/
theorem Stops.onward
    {session : Session}
    {bound : Nat}
    {ran : Ran}
    (running : session.halted = false)
    (passed : session.step.fault = none)
    (stops : Stops session.step.session bound ran) :
    Stops session (bound + 1) (ran.after session.step.events) := by
  cases stops with
  | halted passage within ended =>
      exact .halted (passage.onward running passed) (Nat.succ_le_succ within) ended
  | failed passage within lastRunning blamed =>
      rw [Ran.after, ← List.append_assoc]
      exact .failed (passage.onward running passed) (Nat.succ_lt_succ within) lastRunning blamed
  | unfinished passage lastRunning =>
      exact .unfinished (passage.onward running passed) lastRunning

/-- A run within some steps is a passage that has stopped for one of three reasons. -/
theorem runWithin_cases
    (bound : Nat)
    (session : Session) :
    Stops session bound (session.runWithin bound) := by
  induction bound generalizing session with
  | zero =>
      cases ended : session.halted with
      | true =>
          rw [runWithin_of_halted ended]
          exact .halted (.here session) (Nat.le_refl 0) ended
      | false =>
          have stopped : session.runWithin 0 = ⟨session, [], .endless⟩ := by
            simp [runWithin, ended]
          rw [stopped]
          exact .unfinished (.here session) ended
  | succ bound inductionHypothesis =>
      cases ended : session.halted with
      | true =>
          rw [runWithin_of_halted ended]
          exact .halted (.here session) (Nat.zero_le (bound + 1)) ended
      | false =>
          cases outcome : session.step.fault with
          | some fault =>
              rw [runWithin_of_failed ended outcome]
              exact .failed (.here session) (Nat.succ_pos bound) ended outcome
          | none =>
              rw [runWithin_of_passed ended outcome]
              exact (inductionHypothesis session.step.session).onward ended outcome

/-- A run that ends at the end of its session leaves the session ended. -/
theorem halted_of_runWithin
    {session : Session}
    {bound : Nat}
    (ends : (session.runWithin bound).ending = .halted) :
    (session.runWithin bound).session.halted = true := by
  have stops := runWithin_cases bound session
  generalize session.runWithin bound = ran at ends stops ⊢
  cases stops with
  | halted passage within ended => exact ended
  | failed | unfinished => cases ends

/-- A step that fails or comes to the end is the last of its run. -/
theorem runWithin_ends_of_step
    {session : Session}
    (running : session.halted = false)
    (ends : (∃ fault, session.step.fault = some fault) ∨ session.step.session.halted = true) :
    (session.runWithin 1).ending ≠ .endless := by
  cases outcome : session.step.fault with
  | some fault => simp [runWithin_of_failed running outcome]
  | none =>
      rcases ends with ⟨fault, failed⟩ | ended
      · rw [outcome] at failed
        cases failed
      · simp [runWithin_of_passed running outcome, runWithin_of_halted ended, Ran.after]

/-- A run that stops of itself leaves the same behind when it is allowed more steps. -/
theorem runWithin_of_le
    {session : Session}
    {bound larger : Nat}
    (ends : (session.runWithin bound).ending ≠ .endless)
    (within : bound ≤ larger) :
    session.runWithin larger = session.runWithin bound := by
  have stops := runWithin_cases bound session
  generalize session.runWithin bound = ran at ends stops ⊢
  cases stops with
  | @halted count events last passage few ended =>
      obtain ⟨rest, rfl⟩ := Nat.exists_eq_add_of_le (Nat.le_trans few within)
      rw [passage.runWithin, runWithin_of_halted ended]
      simp [Ran.after]
  | @failed count events last fault passage few running blamed =>
      obtain ⟨rest, rfl⟩ := Nat.exists_eq_add_of_lt (Nat.lt_of_lt_of_le few within)
      rw [Nat.add_assoc, passage.runWithin, runWithin_of_failed running blamed]
      rfl
  | unfinished passage running => exact absurd rfl ends

/-- Runs that stop of themselves leave the same behind, however many steps they were allowed. -/
theorem runWithin_eq_of_ends
    {session : Session}
    {bound other : Nat}
    (ends : (session.runWithin bound).ending ≠ .endless)
    (otherEnds : (session.runWithin other).ending ≠ .endless) :
    session.runWithin bound = session.runWithin other := by
  rcases Nat.le_total bound other with within | within
  · exact (runWithin_of_le ends within).symm
  · exact runWithin_of_le otherEnds within

/-- Whether a session goes on stepping for ever: no number of steps ends its run. -/
def Endless (session : Session) : Prop :=
  ∀ bound, (session.runWithin bound).ending = .endless

/-- Never to stop is the same before a passage and after it. -/
theorem Passage.endless_iff
    {first last : Session}
    {count : Nat}
    {events : List Event}
    (passage : Passage first count events last) :
    first.Endless ↔ last.Endless := by
  constructor
  · intro endless bound
    exact (passage.ending_runWithin bound).symm.trans (endless (count + bound))
  · intro endless bound
    by_contra ends
    rw [← runWithin_of_le ends (Nat.le_add_left bound count), passage.ending_runWithin] at ends
    exact ends (endless bound)

end Dialog.Session
