import PcmLink.Proofs.Transmitter.Attempts
import PcmLink.Proofs.Transmitter.Interleaving

/-!
# What a running timer outlasts

A timer outlasts every failed send whose error is not fatal, and tells of it in a warning. The
errors of a frame that is too long and of a write that takes only a part are not fatal, but those of
every write that fails are, whatever the failure. So a timer ends only for lack of privilege or of
the interface exactly if no write of its sends fails in another way, unless it is given up.
-/

namespace PcmLink

/-- The warning is about a timed send. -/
def Warning.ofSend : Warning → Bool
  | .failedSend _ => true
  | _ => false

namespace Transmitter

section Warnings

variable (transmitter : Transmitter)

/-- The warning that the result of a timed send leaves, if the timer outlasts it. -/
def outlasted : Except Error Nat → Option Warning
  | .ok _ => none
  | .error error => if error.isFatal then none else some (.failedSend error)

/-- An attempt to send gives no warning. -/
theorem warnings_sendNow (station : Station) :
    (transmitter.sendNow station).2.warnings = station.warnings := by
  obtain ⟨outbound, stopped, stopIn, same⟩ := transmitter.exists_sendNow station
  rw [same]

/-- A fatal error of an attempt that is not given up is one of a failed write. -/
theorem exists_ofSocket_of_sendNow {station : Station} {error : Error}
    (failed : (transmitter.sendNow station).1 = .error error) (fatal : error.isFatal = true)
    (told : error ≠ .overflow) : ∃ failure, error = .ofSocket failure transmitter.interface := by
  unfold sendNow at failed
  by_cases admitted : transmitter.Admits transmitter.frame.bytes
  · have result := @result_of_admits _ station _ admitted
    rw [failed] at result
    rcases result with whole | ⟨sent, cut⟩ | ⟨failure, lost⟩
    · cases whole
    · rw [Except.error.inj cut] at fatal
      cases fatal
    · exact ⟨failure, Except.error.inj lost⟩
  · rw [send_of_not_admits admitted, refusal] at failed
    split at failed
    · rw [← Except.error.inj failed] at fatal
      cases fatal
    · exact absurd (Except.error.inj failed).symm told

/-- A command gives no warning. -/
theorem warnings_handle (command : Command) (station : Station) :
    (transmitter.handle command station).2.warnings = station.warnings := by
  cases command with
  | sendNow => exact transmitter.warnings_sendNow station
  | setSpeed option =>
    obtain ⟨control, requests, asked⟩ := station.exists_setSpeed transmitter.interface option
    show (station.setSpeed transmitter.interface option).2.warnings = station.warnings
    rw [asked]

/-- Acting on a line gives no warning about a timed send. -/
theorem filter_warnings_obey (line : String) (station : Station) :
    (transmitter.obey line station).2.warnings.filter Warning.ofSend =
      station.warnings.filter Warning.ofSend := by
  unfold obey
  cases Command.parse line with
  | none => rfl
  | some command =>
    have silent := transmitter.warnings_handle command station
    show (survive .failedCommand (transmitter.handle command station).1
      (transmitter.handle command station).2).2.warnings.filter Warning.ofSend = _
    cases (transmitter.handle command station).1 with
    | ok => rw [survive, silent]
    | error error =>
      by_cases fatal : error.isFatal
      · rw [survive_of_fatal fatal, silent]
      · have other : [Warning.failedCommand error].filter Warning.ofSend = [] := rfl
        rw [survive_of_not_fatal fatal, Station.warn, silent, List.filter_append, other,
          List.append_nil]

end Warnings

end Transmitter

/-- From one session to another the timed sends came to these results, and the timer has outlasted
them all but a fatal one. -/
structure Session.Outlasts (before : Session) (results : List (Except Error Nat))
    (after : Session) : Prop where
  /-- The flag is not cleared. -/
  stopped : before.station.stopped = true → after.station.stopped = true
  /-- The timer has ended with the errors that are fatal. -/
  failed (error : Error) : after.timer = .ended (.error error) ↔
    before.timer = .ended (.error error) ∨ .error error ∈ results ∧ error.isFatal = true
  /-- The timer has ended otherwise only because of the flag. -/
  ended : after.timer = .ended (.ok ()) →
    before.timer = .ended (.ok ()) ∨ after.station.stopped = true
  /-- There is a warning for each error that is not fatal. -/
  warnings : after.station.warnings.filter Warning.ofSend =
    before.station.warnings.filter Warning.ofSend ++ results.filterMap Transmitter.outlasted

namespace Session

variable {before middle after : Session} {first second : List (Except Error Nat)}

/-- A timer that does nothing has nothing to outlast. -/
theorem Outlasts.of_timer_eq (same : after.timer = before.timer)
    (stopped : before.station.stopped = true → after.station.stopped = true)
    (warnings : after.station.warnings.filter Warning.ofSend =
      before.station.warnings.filter Warning.ofSend) : before.Outlasts [] after where
  stopped := stopped
  failed error := by simp [same]
  ended := fun ended => .inl (same ▸ ended)
  warnings := by rw [warnings, List.filterMap_nil, List.append_nil]

/-- What is outlasted first and what is outlasted then are outlasted together. -/
theorem Outlasts.trans (front : before.Outlasts first middle)
    (back : middle.Outlasts second after) : before.Outlasts (first ++ second) after where
  stopped := fun set => back.stopped (front.stopped set)
  failed error := by
    rw [back.failed, front.failed, List.mem_append, or_and_right, or_assoc]
  ended := fun ended => by
    rcases back.ended ended with before | set
    · exact (front.ended before).imp_right back.stopped
    · exact .inr set
  warnings := by rw [back.warnings, front.warnings, List.filterMap_append, List.append_assoc]

end Session

namespace Transmitter

variable (transmitter : Transmitter)

/-- The result of the timed send in a step, if there is one. -/
def attempted (session : Session) : Move → List (Except Error Nat)
  | .timer _ =>
    match session.timer with
    | .sending => [(transmitter.sendNow session.station).1]
    | _ => []
  | _ => []

/-- The results of the timed sends of a session that takes steps in an order. -/
def timedAttempts : List Move → Session → List (Except Error Nat)
  | [], _ => []
  | next :: moves, session =>
    transmitter.attempted session next ++
      timedAttempts moves (transmitter.move session next).2

/-- A timer that sends outlasts an error that is not fatal. -/
theorem outlasts_send {session : Session} (sending : session.timer = .sending) :
    session.Outlasts [(transmitter.sendNow session.station).1]
      { session with
        station := (transmitter.sendTimed session.station).2
        timer := .behind (transmitter.sendTimed session.station).1 } := by
  have kept := (transmitter.hands_sendNow session.station).stopped
  have silent := transmitter.warnings_sendNow session.station
  have timed : transmitter.sendTimed session.station =
      survive .failedSend (transmitter.sendNow session.station).1
        (transmitter.sendNow session.station).2 := rfl
  rw [timed]
  cases (transmitter.sendNow session.station).1 with
  | ok sent =>
    exact {
      stopped := kept
      failed := fun error => by simp [survive, TimerPhase.behind, sending]
      ended := fun ended => by cases ended
      warnings := by
        rw [survive, silent]
        exact (List.append_nil _).symm }
  | error error =>
    by_cases fatal : error.isFatal
    · rw [survive_of_fatal fatal]
      exact {
        stopped := kept
        failed := fun other => by
          simp only [TimerPhase.behind, sending, TimerPhase.ended.injEq, Except.error.injEq,
            List.mem_singleton, reduceCtorEq, false_or]
          constructor
          · rintro rfl
            exact ⟨rfl, fatal⟩
          · rintro ⟨rfl, _⟩
            rfl
        ended := fun ended => by cases ended
        warnings := by
          have none_left : [Except.error error].filterMap outlasted = [] := by
            simp [outlasted, fatal]
          rw [none_left, List.append_nil, silent] }
    · rw [survive_of_not_fatal fatal]
      exact {
        stopped := kept
        failed := fun other => by
          simp only [TimerPhase.behind, sending, Except.error.injEq, List.mem_singleton,
            reduceCtorEq, false_or, false_iff, not_and]
          rintro rfl
          exact fatal
        ended := fun ended => by cases ended
        warnings := by
          have one_left : [Except.error error].filterMap outlasted = [.failedSend error] := by
            simp [outlasted, fatal]
          rw [one_left, Station.warn, silent, List.filter_append]
          rfl }

/-- A step outlasts the send in it. -/
theorem outlasts_of_steps {session after : Session} {next : Move} {events : List Event}
    (step : session.Steps transmitter next events after) :
    session.Outlasts (transmitter.attempted session next) after := by
  have kept := (transmitter.hands_of_steps step).stopped
  cases step with
  | send sending =>
    rw [attempted, sending]
    exact transmitter.outlasts_send sending
  | leave waiting stopped =>
    rw [attempted, waiting]
    exact {
      stopped := kept
      failed := fun error => by simp [waiting]
      ended := fun _ => .inr stopped
      warnings := (List.append_nil _).symm }
  | wait waiting running due =>
    rw [attempted, waiting]
    exact {
      stopped := kept
      failed := fun error => by cases due <;> simp [waiting]
      ended := fun ended => by cases due <;> simp at ended
      warnings := (List.append_nil _).symm }
  | silence ended =>
    rw [attempted, ended]
    exact .of_timer_eq rfl kept rfl
  | obey => exact .of_timer_eq rfl kept (transmitter.filter_warnings_obey _ _)
  | close | read | drop | heed | fail | quiet | stop => exact .of_timer_eq rfl kept rfl

/-- Steps in any order outlast the sends in them. -/
theorem outlasts_interleave (moves : List Move) (session : Session) :
    session.Outlasts (transmitter.timedAttempts moves session)
      (transmitter.interleave moves session).2 := by
  induction moves generalizing session with
  | nil => exact .of_timer_eq rfl id rfl
  | cons next moves ih =>
    have first := transmitter.outlasts_of_steps (transmitter.steps_move session next)
    exact first.trans (ih _)

/-- Every result of a timed send is that of an attempt. -/
theorem exists_sendNow_of_mem {moves : List Move} {session : Session} {result : Except Error Nat}
    (found : result ∈ transmitter.timedAttempts moves session) :
    ∃ station, result = (transmitter.sendNow station).1 := by
  induction moves generalizing session with
  | nil => cases found
  | cons next moves ih =>
    rcases List.mem_append.mp found with now | later
    · refine ⟨session.station, ?_⟩
      unfold attempted at now
      split at now
      · split at now
        · exact List.mem_singleton.mp now
        · cases now
      · cases now
    · exact ih later

/-- The sends of steps in an order are those of the first of them and then those of the others. -/
theorem timedAttempts_append (front back : List Move) (session : Session) :
    transmitter.timedAttempts (front ++ back) session =
      transmitter.timedAttempts front session ++
        transmitter.timedAttempts back (transmitter.interleave front session).2 := by
  induction front generalizing session with
  | nil => rfl
  | cons next front ih =>
    simp only [List.cons_append, timedAttempts, interleave, ih, List.append_assoc]

/-- An ended timer sends no more. -/
theorem timedAttempts_of_ended {session : Session} {result : Except Error Unit}
    (ended : session.timer = .ended result) (due : Bool) (count : Nat) :
    transmitter.timedAttempts (List.replicate count (.timer due)) session = [] := by
  induction count with
  | zero => rfl
  | succ count ih =>
    have stays : (transmitter.move session (.timer due)).2 = session := by
      rw [move, moveTimer, ended]
    rw [List.replicate_succ, timedAttempts, stays, ih, attempted, ended]
    rfl

/-- In a tick the timer sends once. -/
theorem timedAttempts_tick {session : Session} (sending : session.timer = .sending) :
    transmitter.timedAttempts [.timer true, .timer true] session =
      [(transmitter.sendNow session.station).1] := by
  have first : transmitter.moveTimer true session =
      ([.sent],
        { session with
          station := (transmitter.sendTimed session.station).2
          timer := .behind (transmitter.sendTimed session.station).1 }) := by
    rw [moveTimer, sending]
  simp only [timedAttempts, move, first, attempted, sending]
  cases (transmitter.sendTimed session.station).1 <;> rfl

/-- The sends of a timer that is left alone for some ticks are those of its run. -/
theorem timedAttempts_run (ticks : Nat) {session : Session} (sending : session.timer = .sending) :
    transmitter.timedAttempts (List.replicate (2 * ticks) (.timer true)) session =
      transmitter.runAttempts ticks session.station := by
  induction ticks generalizing session with
  | zero => rfl
  | succ ticks ih =>
    have moves : List.replicate (2 * (ticks + 1)) (Move.timer true) =
        [.timer true, .timer true] ++ List.replicate (2 * ticks) (.timer true) := rfl
    rw [moves, timedAttempts_append, transmitter.timedAttempts_tick sending,
      transmitter.interleave_tick sending, runAttempts]
    rcases transmitter.tick session.station with ⟨progress, station⟩
    cases progress with
    | some result => rw [transmitter.timedAttempts_of_ended rfl]; rfl
    | none => rw [ih rfl]; rfl

/-- Whatever the link makes of the sends of a timer, whenever the flag is set, and whatever a
listener does meanwhile: unless the timer is given up, it ends with an error for nothing but lack of
privilege or of the interface exactly if no write of its sends fails in another way. Its sends are
given up exactly if the length of the longest frame is no machine word. It ends with an error
exactly if one of its sends came to that error and it is fatal, and without one only if the flag is
set; of every other error it has told in a warning. Left alone it does all this as it runs. -/
theorem timer_ends_for_privilege_iff (station : Station) (source : Source) (moves : List Move) :
    let start : Session := { station, source }
    let final := (transmitter.interleave moves start).2
    let results := transmitter.timedAttempts moves start
    ((∀ error, final.timer = .ended (.error error) → error ≠ .overflow →
          error = .permissionDenied transmitter.interface ∨
            error = .interfaceNotFound transmitter.interface) ↔
        ∀ failure, .error (.io failure) ∉ results) ∧
      (∀ result ∈ results,
        result = .error .overflow ↔ UInt64.size ≤ 14 + transmitter.payloadLimit.toNat) ∧
      (∀ error, final.timer = .ended (.error error) ↔
        .error error ∈ results ∧ error.isFatal = true) ∧
      (final.timer = .ended (.ok ()) → final.station.stopped = true) ∧
      final.station.warnings.filter Warning.ofSend =
        station.warnings.filter Warning.ofSend ++ results.filterMap outlasted ∧
      ∀ ticks, moves = List.replicate (2 * ticks) (.timer true) →
        results = transmitter.runAttempts ticks station ∧
          final.station = (transmitter.run ticks station).2 ∧
          final.timer = (transmitter.run ticks station).1.elim .sending .ended := by
  intro start final results
  have outlasts : start.Outlasts results final := transmitter.outlasts_interleave moves start
  have failed (error : Error) : final.timer = .ended (.error error) ↔
      .error error ∈ results ∧ error.isFatal = true := by
    have whole := outlasts.failed error
    simpa only [start, reduceCtorEq, false_or] using whole
  refine ⟨⟨?_, ?_⟩, ?_, failed, ?_, outlasts.warnings, ?_⟩
  · intro privileged failure found
    rcases privileged _ ((failed _).mpr ⟨found, rfl⟩) nofun with same | same <;> cases same
  · intro none_other error ended told
    obtain ⟨found, fatal⟩ := (failed error).mp ended
    obtain ⟨station, made⟩ := transmitter.exists_sendNow_of_mem found
    obtain ⟨failure, same⟩ := transmitter.exists_ofSocket_of_sendNow made.symm fatal told
    rcases Error.ofSocket_cases failure transmitter.interface with denied | missing | other
    · exact .inl (same.trans denied)
    · exact .inr (same.trans missing)
    · rw [same, other] at found
      exact absurd found (none_other failure)
  · intro result found
    obtain ⟨station, made⟩ := transmitter.exists_sendNow_of_mem found
    rw [made, sendNow]
    exact send_eq_overflow_iff
  · intro ended
    rcases outlasts.ended ended with before | set
    · cases before
    · exact set
  · rintro ticks rfl
    have alone : final = _ := transmitter.interleave_run ticks rfl
    refine ⟨transmitter.timedAttempts_run ticks rfl, ?_, ?_⟩
    · rw [alone]
    · rw [alone]

/-- A run whose first write is interrupted ends with that failure, which may pass, and sends
nothing. -/
theorem timer_ends_for_privilege_iff_interrupted :
    let transmitter : Transmitter := {
      interface := "eth0", payloadLimit := 1500
      frame := { destination := .broadcast, source := .zero, protocolType := .bench
                 payload := [1, 2] } }
    let lost : IoError := .custom .interrupted "interrupted"
    let station : Station := { outbound := { outcomes := [.failed lost] } }
    let source : Source := { pieces := [] }
    let moves := List.replicate (2 * 2) (Move.timer true)
    let final := (transmitter.interleave moves { station, source }).2
    moves = List.replicate (2 * 2) (.timer true) ∧ lost.isTransient = true ∧
      (transmitter.run 2 station).1 = some (.error (.io lost)) ∧
      (transmitter.run 2 station).2.outbound.wire = [] ∧
      final.timer = .ended (.error (.io lost)) ∧ final.station.warnings = [] := by
  intro transmitter lost station source moves final
  obtain ⟨_, _, failed, _, _, alone⟩ := transmitter.timer_ends_for_privilege_iff station source moves
  obtain ⟨results, after, _⟩ := alone 2 rfl
  have found : .error (.io lost) ∈ transmitter.timedAttempts moves { station, source } := by
    rw [results]
    exact List.mem_cons_self
  refine ⟨rfl, rfl, rfl, rfl, (failed _).mpr ⟨found, rfl⟩, ?_⟩
  show final.station.warnings = []
  rw [after]
  rfl

end Transmitter

end PcmLink
