import PcmLink.Proofs.Transmitter.Limit
import PcmLink.Proofs.Transmitter.Session

/-!
# What a timer and a listener do in every order of their steps

Only sends touch the link: along any session it is handed the whole frame once for every send of
the timer and every command to send, and nothing else, whatever becomes of the writes. A set flag
stays set, and a listener sets it before it ends with an error, unless it is given up. From then on
every phase leaves its activity so many sends, commands and steps of its own, and each step uses one
of them up.
-/

namespace PcmLink

/-- A link remembers what it is handed, whatever becomes of it. -/
theorem Outbound.handed_write (outbound : Outbound) (bytes : List UInt8) :
    (outbound.write bytes).2.handed = outbound.handed ++ [bytes] := by
  unfold write meet
  split <;> rfl

/-- From one station to another the link was handed writes, and a set flag stayed set. -/
structure Station.Hands (before : Station) (handed : List (List UInt8)) (after : Station) :
    Prop where
  /-- The writes are those the link remembers since. -/
  handed : after.outbound.handed = before.outbound.handed ++ handed
  /-- The flag is not cleared. -/
  stopped : before.stopped = true → after.stopped = true

namespace Station

/-- A station with the same link hands it nothing. -/
theorem Hands.of_eq {before after : Station} (same : after.outbound = before.outbound)
    (kept : before.stopped = true → after.stopped = true) : before.Hands [] after :=
  ⟨by rw [same, List.append_nil], kept⟩

/-- Writes follow writes. -/
theorem Hands.trans {before middle after : Station} {first second : List (List UInt8)}
    (front : before.Hands first middle) (back : middle.Hands second after) :
    before.Hands (first ++ second) after where
  handed := by rw [back.handed, front.handed, List.append_assoc]
  stopped := fun set => back.stopped (front.stopped set)

/-- Doing nothing hands over nothing. -/
theorem Hands.refl (station : Station) : station.Hands [] station := .of_eq rfl id

/-- Setting the flag hands over nothing. -/
theorem hands_stop (station : Station) : station.Hands [] station.stop := .of_eq rfl fun _ => rfl

/-- Counting a write leaves the link alone and may set the flag. -/
theorem hands_countWrite (station : Station) : station.Hands [] station.countWrite := by
  unfold countWrite
  split
  · split
    · exact .of_eq rfl fun _ => rfl
    · exact .of_eq rfl id
  · exact .refl station

/-- A write hands the link its bytes. -/
theorem hands_write (station : Station) (bytes : List UInt8) :
    station.Hands [bytes] (station.write bytes).2 := by
  have counted := hands_countWrite station
  refine ⟨?_, counted.stopped⟩
  have handed := counted.handed
  rw [List.append_nil] at handed
  rw [← handed]
  exact Outbound.handed_write _ bytes

/-- Forcing a speed hands the link nothing. -/
theorem hands_setSpeed (station : Station) (interface option : String) :
    station.Hands [] (station.setSpeed interface option).2 := by
  have asked (speed : LinkSpeed) : station.Hands [] (station.request interface speed).2 := by
    unfold request
    split <;> exact .of_eq rfl id
  unfold setSpeed
  split
  · exact .refl station
  · rename_i speed parsed
    have after := asked speed
    split
    all_goals
      rename_i requested
      rwa [requested] at after

end Station

namespace Transmitter

section Station

variable (transmitter : Transmitter) (station : Station)

/-- What the link is handed when the frame is sent: the whole frame, if it is admitted. -/
def written : List (List UInt8) :=
  if transmitter.Admits transmitter.frame.bytes then [transmitter.frame.bytes] else []

/-- Sending the frame hands it over if it is admitted. -/
theorem hands_sendNow : station.Hands transmitter.written (transmitter.sendNow station).2 := by
  unfold sendNow written
  by_cases admitted : transmitter.Admits transmitter.frame.bytes
  · have wrote := station.hands_write transmitter.frame.bytes
    rw [if_pos admitted, send_of_admits admitted]
    split
    · rename_i written
      rwa [written] at wrote
    · rename_i written
      rw [written] at wrote
      split <;> exact wrote
  · rw [if_neg admitted, send_of_not_admits admitted]
    exact .refl station

/-- Surviving an error hands over nothing. -/
theorem hands_survive {α : Type} (warning : Error → Warning) (result : Except Error α) :
    station.Hands [] (survive warning result station).2 := by
  unfold survive
  split
  · exact .refl station
  · split
    · exact .refl station
    · exact .of_eq rfl id

/-- A timed send hands over what a send does. -/
theorem hands_sendTimed : station.Hands transmitter.written (transmitter.sendTimed station).2 := by
  have sent := transmitter.hands_sendNow station
  have survived := hands_survive (transmitter.sendNow station).2 .failedSend
    (transmitter.sendNow station).1
  have whole := sent.trans survived
  rwa [List.append_nil] at whole

end Station

end Transmitter

/-- What the link is handed at an event. -/
def Event.handed (transmitter : Transmitter) : Event → List (List UInt8)
  | .sent | .obeyed .sendNow => transmitter.written
  | .obeyed (.setSpeed _) => []

namespace Transmitter

variable (transmitter : Transmitter)

/-- A command hands over what the event of it does. -/
theorem hands_handle (command : Command) (station : Station) :
    station.Hands (Event.handed transmitter (.obeyed command))
      (transmitter.handle command station).2 := by
  cases command with
  | sendNow => exact transmitter.hands_sendNow station
  | setSpeed option => exact station.hands_setSpeed transmitter.interface option

/-- A line hands over what the command in it does, if there is one. -/
theorem hands_obey (line : String) (station : Station) :
    station.Hands (((Command.parse line).toList.map Event.obeyed).flatMap
      (Event.handed transmitter)) (transmitter.obey line station).2 := by
  unfold obey
  cases Command.parse line with
  | none => exact .refl station
  | some command =>
    have handled := transmitter.hands_handle command station
    have survived := hands_survive (transmitter.handle command station).2 .failedCommand
      (transmitter.handle command station).1
    exact handled.trans survived

/-- A step hands over what its events do. -/
theorem hands_of_steps {session after : Session} {next : Move} {events : List Event}
    (step : session.Steps transmitter next events after) :
    session.station.Hands (events.flatMap (Event.handed transmitter)) after.station := by
  cases step with
  | send =>
    have once : [Event.sent].flatMap (Event.handed transmitter) = transmitter.written :=
      List.append_nil _
    rw [once]
    exact transmitter.hands_sendTimed session.station
  | obey => exact transmitter.hands_obey _ session.station
  | fail | stop => exact session.station.hands_stop
  | leave | wait | silence | close | read | drop | heed | quiet => exact .refl session.station

/-- Steps in any order hand over what their events do. -/
theorem hands_interleave (moves : List Move) (session : Session) :
    session.station.Hands
      ((transmitter.interleave moves session).1.flatMap (Event.handed transmitter))
      (transmitter.interleave moves session).2.station := by
  induction moves generalizing session with
  | nil => exact .refl session.station
  | cons next moves ih =>
    have first := transmitter.hands_of_steps (transmitter.steps_move session next)
    have later := ih (transmitter.move session next).2
    simp only [interleave, List.flatMap_append]
    exact first.trans later

/-- The writes at events are as many as they send the frame, each of the whole frame. -/
theorem flatMap_handed (events : List Event) :
    events.flatMap (Event.handed transmitter) =
      List.replicate
        (if transmitter.Admits transmitter.frame.bytes then
          events.count .sent + events.count (.obeyed .sendNow)
        else 0)
        transmitter.frame.bytes := by
  by_cases fits : transmitter.Admits transmitter.frame.bytes
  · have written : transmitter.written = [transmitter.frame.bytes] := if_pos fits
    rw [if_pos fits]
    induction events with
    | nil => rfl
    | cons event events ih =>
      rw [List.flatMap_cons, ih]
      cases event with
      | sent =>
        rw [Event.handed, written, List.count_cons_self, List.count_cons_of_ne (by decide),
          Nat.add_right_comm]
        rfl
      | obeyed command =>
        cases command with
        | sendNow =>
          rw [Event.handed, written, List.count_cons_self, List.count_cons_of_ne (by decide)]
          rfl
        | setSpeed option =>
          have timed : Event.obeyed (.setSpeed option) ≠ .sent := nofun
          have other : Event.obeyed (.setSpeed option) ≠ .obeyed .sendNow := nofun
          rw [Event.handed, List.count_cons_of_ne timed, List.count_cons_of_ne other,
            List.nil_append]
  · have written : transmitter.written = [] := if_neg fits
    rw [if_neg fits, List.replicate_zero, List.flatMap_eq_nil_iff]
    intro event _
    cases event with
    | sent => exact written
    | obeyed command =>
      cases command with
      | sendNow => exact written
      | setSpeed => rfl

end Transmitter

section Confession

/-- A listener that has ended with an error has set the flag, or it was given up since the length of
the longest frame is no machine word. -/
def Session.Confesses (transmitter : Transmitter) (session : Session) : Prop :=
  ∀ error, session.listener = .ended (.error error) →
    if error = .overflow then UInt64.size ≤ 14 + transmitter.payloadLimit.toNat
    else session.station.stopped = true

/-- A listener that is about to end has ended with an error only if it is given up. -/
theorem ListenerPhase.eq_overflow_of_closing (result : Except Error Unit) {error : Error}
    (ended : closing result = .ended (.error error)) :
    error = .overflow ∧ result = .error .overflow := by
  cases result with
  | ok => cases ended
  | error cause =>
    by_cases givenUp : cause = .overflow
    · rw [givenUp] at ended ⊢
      cases ended
      exact ⟨rfl, rfl⟩
    · rw [closing_of_ne givenUp] at ended
      cases ended

/-- A listener ends with an error only in the step that sets the flag, or it is given up behind a
line. -/
theorem Session.Confesses.of_steps {transmitter : Transmitter} {session after : Session}
    {next : Move} {events : List Event} (confesses : session.Confesses transmitter)
    (step : session.Steps transmitter next events after) : after.Confesses transmitter := by
  have kept := (transmitter.hands_of_steps step).stopped
  intro error ended
  cases step with
  | send | leave | wait | silence | quiet | stop =>
    have told := confesses error ended
    by_cases givenUp : error = .overflow
    · rw [if_pos givenUp] at told ⊢
      exact told
    · rw [if_neg givenUp] at told ⊢
      exact kept told
  | close _ _ result =>
    obtain ⟨_, givenUp⟩ := ListenerPhase.eq_overflow_of_closing _ ended
    cases result with
    | ok => cases givenUp
    | error failure => cases givenUp
  | drop =>
    obtain ⟨_, givenUp⟩ := ListenerPhase.eq_overflow_of_closing (.ok ()) ended
    cases givenUp
  | @obey line =>
    cases obeyed : (transmitter.obey line session.station).1 with
    | none =>
      rw [obeyed] at ended
      cases ended
    | some result =>
      rw [obeyed] at ended
      obtain ⟨rfl, rfl⟩ := ListenerPhase.eq_overflow_of_closing result ended
      rw [if_pos rfl]
      exact Transmitter.beyond_of_obey_overflow obeyed
  | read | heed => cases ended
  | @fail told failing =>
    cases ended
    rw [if_neg told.2]
    rfl

/-- In no order of steps a listener ends with an error while the flag is not set, unless it is given
up. -/
theorem Session.Confesses.interleave (transmitter : Transmitter) (moves : List Move)
    {session : Session} (confesses : session.Confesses transmitter) :
    (transmitter.interleave moves session).2.Confesses transmitter := by
  induction moves generalizing session with
  | nil => exact confesses
  | cons next moves ih => exact ih (confesses.of_steps (transmitter.steps_move session next))

end Confession

/-- What an activity has left to do once the flag is set. -/
structure Allowance where
  /-- How many sends or commands. -/
  deeds : Nat
  /-- How many steps until it has ended. -/
  moves : Nat

namespace Allowance

/-- So many deeds and steps bring one allowance down to another. -/
structure Covers (before : Allowance) (deeds moves : Nat) (after : Allowance) : Prop where
  /-- The deeds were left before. -/
  deeds : deeds + after.deeds ≤ before.deeds
  /-- The steps are no longer left. -/
  moves : after.moves ≤ before.moves - moves

/-- Doing nothing is always covered. -/
theorem Covers.refl (allowance : Allowance) : allowance.Covers 0 0 allowance :=
  ⟨Nat.le_of_eq (Nat.zero_add _), Nat.le_refl _⟩

/-- What is covered first and what is covered then are covered together. -/
theorem Covers.trans {before middle after : Allowance} {deeds moves moreDeeds moreMoves : Nat}
    (front : before.Covers deeds moves middle) (back : middle.Covers moreDeeds moreMoves after) :
    before.Covers (deeds + moreDeeds) (moves + moreMoves) after := by
  obtain ⟨frontDeeds, frontMoves⟩ := front
  obtain ⟨backDeeds, backMoves⟩ := back
  exact ⟨by omega, by omega⟩

end Allowance

namespace TimerPhase

/-- The sends and steps that a timer has left once the flag is set. -/
def left : TimerPhase → Allowance
  | .sending => { deeds := 1, moves := 2 }
  | .waiting => { deeds := 0, moves := 1 }
  | .ended _ => { deeds := 0, moves := 0 }

/-- A timer has at most one send and two steps left. -/
theorem left_le (phase : TimerPhase) : phase.left.deeds ≤ 1 ∧ phase.left.moves ≤ 2 := by
  cases phase <;> simp [left]

/-- The last send is behind a timer that has sent. -/
theorem covers_behind (progress : Transmitter.Progress) :
    sending.left.Covers 1 1 (behind progress).left := by
  cases progress with
  | none => exact ⟨Nat.le_refl 1, Nat.le_refl 1⟩
  | some result => exact ⟨Nat.le_refl 1, Nat.zero_le 1⟩

/-- A timer without steps left has ended. -/
theorem exists_ended {phase : TimerPhase} (none_left : phase.left.moves = 0) :
    ∃ result, phase = ended result := by
  cases phase with
  | sending | waiting => contradiction
  | ended result => exact ⟨result, rfl⟩

end TimerPhase

namespace ListenerPhase

/-- The commands and steps that a listener has left once the flag is set. -/
def left : ListenerPhase → Allowance
  | .obeying _ => { deeds := 1, moves := 3 }
  | .reading => { deeds := 0, moves := 2 }
  | .holding _ | .failing _ => { deeds := 0, moves := 1 }
  | .ended _ => { deeds := 0, moves := 0 }

/-- A listener has at most one command and three steps left. -/
theorem left_le (phase : ListenerPhase) : phase.left.deeds ≤ 1 ∧ phase.left.moves ≤ 3 := by
  cases phase <;> simp [left]

/-- A listener that is about to end has at most one step and no command left. -/
theorem left_closing (result : Except Error Unit) :
    (closing result).left.deeds = 0 ∧ (closing result).left.moves ≤ 1 := by
  cases result with
  | ok => exact ⟨rfl, Nat.zero_le 1⟩
  | error error =>
    unfold closing
    dsimp only
    split
    · exact ⟨rfl, Nat.le_refl 1⟩
    · exact ⟨rfl, Nat.zero_le 1⟩

/-- A listener that cannot read a line is about to end. -/
theorem covers_closing (result : Except Error Unit) :
    reading.left.Covers 0 1 (closing result).left := by
  obtain ⟨deeds, moves⟩ := left_closing result
  exact ⟨Nat.le_of_eq ((Nat.zero_add _).trans deeds), moves⟩

/-- The last command is behind a listener that has acted on a line. -/
theorem covers_behind (line : String) {commands : Nat} (most : commands ≤ 1)
    (progress : Transmitter.Progress) :
    (obeying line).left.Covers commands 1 (behind progress).left := by
  cases progress with
  | none => exact ⟨most, Nat.le_refl 2⟩
  | some result =>
    obtain ⟨deeds, moves⟩ := left_closing result
    have spent : commands + (closing result).left.deeds ≤ 1 := by omega
    exact ⟨spent, Nat.le_succ_of_le moves⟩

/-- A listener without steps left has ended. -/
theorem exists_ended {phase : ListenerPhase} (none_left : phase.left.moves = 0) :
    ∃ result, phase = ended result := by
  cases phase with
  | reading | holding | obeying | failing => contradiction
  | ended result => exact ⟨result, rfl⟩

end ListenerPhase

/-- The listener carries out a command. -/
def Event.isCommand : Event → Bool
  | .obeyed _ => true
  | .sent => false

/-- The step is one of the timer. -/
def Move.isTimer : Move → Bool
  | .timer _ => true
  | .listener | .stop => false

namespace Session

/-- A session whose flag is set uses up what its phases have left. -/
structure Dwindles (session : Session) (moves : List Move) (events : List Event)
    (after : Session) : Prop where
  /-- The flag is still set. -/
  stopped : after.station.stopped = true
  /-- The timer uses up its sends and its steps. -/
  timer : session.timer.left.Covers (events.count .sent) (moves.countP Move.isTimer)
    after.timer.left
  /-- The listener uses up its commands and its steps. -/
  listener : session.listener.left.Covers (events.countP Event.isCommand) (moves.count .listener)
    after.listener.left

/-- A step of a session whose flag is set uses up what it is. -/
theorem Dwindles.of_steps {transmitter : Transmitter} {session after : Session} {next : Move}
    {events : List Event} (stopped : session.station.stopped = true)
    (step : session.Steps transmitter next events after) :
    session.Dwindles [next] events after := by
  have kept := (transmitter.hands_of_steps step).stopped stopped
  have timer := Allowance.Covers.refl session.timer.left
  have listener := Allowance.Covers.refl session.listener.left
  cases step with
  | send sending due =>
    refine ⟨kept, ?_, listener⟩
    rw [sending]
    exact TimerPhase.covers_behind _
  | leave waiting _ due =>
    refine ⟨kept, ?_, listener⟩
    rw [waiting]
    exact ⟨Nat.le_refl 0, Nat.le_refl 0⟩
  | wait waiting running due =>
    rw [stopped] at running
    contradiction
  | silence ended due =>
    refine ⟨kept, ?_, listener⟩
    rw [ended]
    exact ⟨Nat.le_refl 0, Nat.le_refl 0⟩
  | close reading source result =>
    refine ⟨kept, timer, ?_⟩
    rw [reading]
    exact ListenerPhase.covers_closing _
  | read reading source line =>
    refine ⟨kept, timer, ?_⟩
    rw [reading]
    exact ⟨Nat.le_refl 0, Nat.le_refl 1⟩
  | drop holding _ =>
    refine ⟨kept, timer, ?_⟩
    rw [holding]
    exact ⟨Nat.le_refl 0, Nat.le_refl 0⟩
  | heed holding running =>
    rw [stopped] at running
    contradiction
  | @obey line obeying =>
    refine ⟨kept, ?_, ?_⟩
    · have unsent : ((Command.parse line).toList.map Event.obeyed).count .sent = 0 := by
        cases Command.parse line <;> rfl
      rw [unsent]
      exact timer
    · have most : ((Command.parse line).toList.map Event.obeyed).countP Event.isCommand ≤ 1 := by
        cases Command.parse line with
        | none => exact Nat.zero_le 1
        | some command => exact Nat.le_refl 1
      rw [obeying]
      exact ListenerPhase.covers_behind line most _
  | fail failing =>
    refine ⟨kept, timer, ?_⟩
    rw [failing]
    exact ⟨Nat.le_refl 0, Nat.le_refl 0⟩
  | quiet ended =>
    refine ⟨kept, timer, ?_⟩
    rw [ended]
    exact ⟨Nat.le_refl 0, Nat.le_refl 0⟩
  | stop => exact ⟨kept, timer, listener⟩

/-- Steps in any order use up what they are, once the flag is set. -/
theorem dwindles_interleave (transmitter : Transmitter) (moves : List Move) {session : Session}
    (stopped : session.station.stopped = true) :
    session.Dwindles moves (transmitter.interleave moves session).1
      (transmitter.interleave moves session).2 := by
  induction moves generalizing session with
  | nil => exact ⟨stopped, .refl session.timer.left, .refl session.listener.left⟩
  | cons next moves ih =>
    have first := Dwindles.of_steps stopped (transmitter.steps_move session next)
    have later := ih first.stopped
    have events : (transmitter.interleave (next :: moves) session).1 =
        (transmitter.move session next).1 ++
          (transmitter.interleave moves (transmitter.move session next).2).1 := rfl
    have timed : (next :: moves).countP Move.isTimer =
        [next].countP Move.isTimer + moves.countP Move.isTimer := by
      rw [← List.countP_append, List.singleton_append]
    have listened : (next :: moves).count .listener =
        [next].count .listener + moves.count .listener := by
      rw [← List.count_append, List.singleton_append]
    refine ⟨later.stopped, ?_, ?_⟩
    · rw [events, timed, List.count_append]
      exact first.timer.trans later.timer
    · rw [events, listened, List.countP_append]
      exact first.listener.trans later.listener

end Session

namespace Transmitter

/-- However the steps of a timer and a listener and settings of the flag are interleaved, and
whatever the link makes of the writes, it is handed the whole frame once for every send of the
timer and every executed command to send, if the frame is admitted, and nothing else. A listener
that has ended with an error has set the flag; only one that is given up does not, which happens
only if the length of the longest frame is no machine word. Once the flag is set, whatever the order
of the later steps, the timer sends at most once more and the listener carries out at most one
command more, and they have ended after at most two and three steps of their own. These are the
timer that runs and the listener that attends to it: left alone, each does just that. -/
theorem interleave_hands_frames (transmitter : Transmitter) (station : Station) (source : Source)
    (moves : List Move) :
    let (events, session) := transmitter.interleave moves { station, source }
    session.station.outbound.handed =
        station.outbound.handed ++
          List.replicate
            (if transmitter.Admits transmitter.frame.bytes then
              events.count .sent + events.count (.obeyed .sendNow)
            else 0)
            transmitter.frame.bytes ∧
      (∀ error, session.listener = .ended (.error error) →
        if error = .overflow then UInt64.size ≤ 14 + transmitter.payloadLimit.toNat
        else session.station.stopped = true) ∧
      (session.station.stopped = true → ∀ later : List Move,
        let (more, final) := transmitter.interleave later session
        more.count .sent ≤ 1 ∧ more.countP Event.isCommand ≤ 1 ∧
          (2 ≤ later.countP Move.isTimer → ∃ result, final.timer = .ended result) ∧
          (3 ≤ later.count .listener → ∃ result, final.listener = .ended result)) ∧
      (∀ ticks,
        (transmitter.interleave (List.replicate (2 * ticks) (.timer true)) { station, source }).2 =
          { station := (transmitter.run ticks station).2, source
            timer := (transmitter.run ticks station).1.elim .sending .ended }) ∧
      ∃ count left,
        (transmitter.interleave (List.replicate count .listener) { station, source }).2 =
          { station := (transmitter.attend source station).2, source := left
            listener := .ended (transmitter.attend source station).1 } := by
  have handed := (transmitter.hands_interleave moves { station, source }).handed
  have fresh : Session.Confesses transmitter { station, source } := fun _ ended => nomatch ended
  have confesses := fresh.interleave transmitter moves
  rw [flatMap_handed] at handed
  have runs (ticks : Nat) := @interleave_run transmitter { station, source } ticks rfl
  have attends := transmitter.exists_interleave_attend source station .sending
  rcases run : transmitter.interleave moves { station, source } with ⟨events, session⟩
  rw [run] at handed confesses
  refine ⟨handed, confesses, fun stopped later => ?_, runs, attends⟩
  rcases run : transmitter.interleave later session with ⟨more, final⟩
  have dwindles : session.Dwindles later more final := by
    have whole := Session.dwindles_interleave transmitter later stopped
    rwa [run] at whole
  obtain ⟨sends, timerMoves⟩ := dwindles.timer
  obtain ⟨commands, listenerMoves⟩ := dwindles.listener
  obtain ⟨mostSends, mostTimer⟩ := session.timer.left_le
  obtain ⟨mostCommands, mostListener⟩ := session.listener.left_le
  refine ⟨by omega, by omega, fun enough => ?_, fun enough => ?_⟩
  · exact TimerPhase.exists_ended (by omega)
  · exact ListenerPhase.exists_ended (by omega)

/-- Between two sends of the timer the listener obeys a command to send and then fails to read on,
which sets the flag: the link is handed three whole frames, though it takes only a part of the
first, and the timer, which was about to send, ends behind that send. -/
theorem interleave_hands_frames_failing :
    let transmitter : Transmitter := {
      interface := "eth0", payloadLimit := 4
      frame := { destination := .broadcast, source := .zero, protocolType := .bench
                 payload := [1, 2] } }
    let station : Station := { outbound := { outcomes := [.reported 3] } }
    let source : Source :=
      { pieces := [[0x30, 0x0a]], failure := some (.custom .other "lost") }
    let front : List Move :=
      [.listener, .timer true, .listener, .listener, .timer true, .listener, .listener]
    let session := (transmitter.interleave front { station, source }).2
    let back : List Move := [.timer true, .timer true, .timer true]
    let whole := transmitter.interleave (front ++ back) { station, source }
    session.station.stopped = true ∧ (transmitter.interleave back session).1.count .sent ≤ 1 ∧
      whole.1 = [.sent, .obeyed .sendNow, .sent] ∧
      whole.2.station.outbound.handed = List.replicate 3 transmitter.frame.bytes ∧
      ∃ result, (transmitter.interleave back session).2.timer = .ended result := by
  intro transmitter station source front session back whole
  obtain ⟨_, confesses, later, _⟩ := interleave_hands_frames transmitter station source front
  obtain ⟨handed, _, _, _⟩ := interleave_hands_frames transmitter station source (front ++ back)
  have stopped : session.station.stopped = true := confesses (.io (.custom .other "lost")) rfl
  obtain ⟨sends, _, ended, _⟩ := later stopped back
  exact ⟨stopped, sends, by decide, handed, ended (by decide)⟩

end Transmitter

end PcmLink
