import PcmLink.Transmitter

/-!
# Sessions of a timer and a listener

A running timer and a listener that attends to it share a station. Each of them is taken apart into
its steps: the timer sends, and then looks at the flag until the next tick is due; the listener
reads a line, looks at the flag, acts on the line, and sets the flag if it fails. A send is a single
step, since a link takes one write at a time. A session takes the steps of both, and settings of the
flag from outside, in any order. Left to itself, each of the two does what it does as a loop, so
that what is proved of sessions is proved of the loops.
-/

namespace PcmLink

/-- Where a running timer is. -/
inductive TimerPhase where
  /-- It is about to send. -/
  | sending
  /-- It waits for the next tick and is about to look at the flag. -/
  | waiting
  /-- It has ended. -/
  | ended (result : Except Error Unit)

/-- Where a listener is. -/
inductive ListenerPhase where
  /-- It is about to read a line. -/
  | reading
  /-- It has read a line and is about to look at the flag. -/
  | holding (line : String)
  /-- It has not seen the flag set and is about to act on the line. -/
  | obeying (line : String)
  /-- It has failed and is about to set the flag. -/
  | failing (error : Error.Told)
  /-- It has ended. -/
  | ended (result : Except Error Unit)

/-- Where a timer is behind a send. -/
def TimerPhase.behind : Transmitter.Progress → TimerPhase
  | none => .waiting
  | some result => .ended result

/-- A listener that is about to end with a result: it sets the flag first if it failed, but not if
it is given up. -/
def ListenerPhase.closing : Except Error Unit → ListenerPhase
  | .ok () => .ended (.ok ())
  | .error error =>
    if told : error ≠ .overflow then .failing ⟨error, told⟩ else .ended (.error .overflow)

/-- A listener that failed is about to set the flag. -/
theorem ListenerPhase.closing_of_ne {error : Error} (told : error ≠ .overflow) :
    closing (.error error) = .failing ⟨error, told⟩ :=
  dif_pos told

/-- Where a listener is behind a line. -/
def ListenerPhase.behind : Transmitter.Progress → ListenerPhase
  | none => .reading
  | some result => .closing result

/-- A timer and a listener that share a station. -/
structure Session where
  /-- What they share. -/
  station : Station
  /-- The lines still to be read. -/
  source : Source
  /-- Where the timer is. -/
  timer : TimerPhase := .sending
  /-- Where the listener is. -/
  listener : ListenerPhase := .reading

/-- Whose step it is. -/
inductive Move where
  /-- The timer's; while it waits, the next tick may be due. -/
  | timer (due : Bool)
  /-- The listener's. -/
  | listener
  /-- The flag is set from outside. -/
  | stop
  deriving DecidableEq, Repr

/-- What a step does beyond reading and looking. -/
inductive Event where
  /-- The timer sends. -/
  | sent
  /-- The listener carries out a command. -/
  | obeyed (command : Command)
  deriving DecidableEq, Repr

namespace Transmitter

/-- Send the frame as the timer does. -/
def sendTimed (transmitter : Transmitter) (station : Station) : Progress × Station :=
  let (result, station) := transmitter.sendNow station
  survive .failedSend result station

/-- The timer takes a step. -/
def moveTimer (transmitter : Transmitter) (due : Bool) (session : Session) :
    List Event × Session :=
  match session.timer with
  | .sending =>
    let (progress, station) := transmitter.sendTimed session.station
    ([.sent], { session with station, timer := .behind progress })
  | .waiting =>
    if session.station.stopped then ([], { session with timer := .ended (.ok ()) })
    else ([], { session with timer := if due then .sending else .waiting })
  | .ended _ => ([], session)

/-- The listener takes a step. -/
def moveListener (transmitter : Transmitter) (session : Session) : List Event × Session :=
  match session.listener with
  | .reading =>
    match session.source.nextLine with
    | .finished => ([], { session with listener := .closing (.ok ()) })
    | .failed failure => ([], { session with listener := .closing (.error (.io failure)) })
    | .bytes line rest =>
      let source := { session.source with pieces := rest }
      match lineText? line with
      | none => ([], { session with source, listener := .closing (.error (.io .notText)) })
      | some text => ([], { session with source, listener := .holding text })
  | .holding line =>
    if session.station.stopped then ([], { session with listener := .closing (.ok ()) })
    else ([], { session with listener := .obeying line })
  | .obeying line =>
    let (progress, station) := transmitter.obey line session.station
    ((Command.parse line).toList.map .obeyed,
      { session with station, listener := .behind progress })
  | .failing error =>
    ([], { session with station := session.station.stop, listener := .ended (.error error) })
  | .ended _ => ([], session)

/-- A session takes a step. -/
def move (transmitter : Transmitter) (session : Session) : Move → List Event × Session
  | .timer due => transmitter.moveTimer due session
  | .listener => transmitter.moveListener session
  | .stop => ([], { session with station := session.station.stop })

end Transmitter

/-- What the steps of a session are, phase by phase. -/
inductive Session.Steps (transmitter : Transmitter) (session : Session) :
    Move → List Event → Session → Prop where
  /-- The timer sends. -/
  | send (sending : session.timer = .sending) (due : Bool) :
    Steps transmitter session (.timer due) [.sent]
      { session with
        station := (transmitter.sendTimed session.station).2
        timer := .behind (transmitter.sendTimed session.station).1 }
  /-- The timer sees the flag and ends. -/
  | leave (waiting : session.timer = .waiting) (stopped : session.station.stopped = true)
    (due : Bool) :
    Steps transmitter session (.timer due) [] { session with timer := .ended (.ok ()) }
  /-- The timer goes on. -/
  | wait (waiting : session.timer = .waiting) (running : session.station.stopped = false)
    (due : Bool) :
    Steps transmitter session (.timer due) []
      { session with timer := if due then .sending else .waiting }
  /-- The timer has ended. -/
  | silence {result : Except Error Unit} (ended : session.timer = .ended result) (due : Bool) :
    Steps transmitter session (.timer due) [] session
  /-- The listener cannot read a line. -/
  | close (reading : session.listener = .reading) (source : Source)
      (result : Except IoError Unit) :
    Steps transmitter session .listener []
      { session with source, listener := .closing (result.mapError .io) }
  /-- The listener reads a line. -/
  | read (reading : session.listener = .reading) (source : Source) (line : String) :
    Steps transmitter session .listener [] { session with source, listener := .holding line }
  /-- The listener sees the flag and ends. -/
  | drop {line : String} (holding : session.listener = .holding line)
    (stopped : session.station.stopped = true) :
    Steps transmitter session .listener [] { session with listener := .closing (.ok ()) }
  /-- The listener goes on to act on its line. -/
  | heed {line : String} (holding : session.listener = .holding line)
    (running : session.station.stopped = false) :
    Steps transmitter session .listener [] { session with listener := .obeying line }
  /-- The listener acts on its line. -/
  | obey {line : String} (obeying : session.listener = .obeying line) :
    Steps transmitter session .listener ((Command.parse line).toList.map .obeyed)
      { session with
        station := (transmitter.obey line session.station).2
        listener := .behind (transmitter.obey line session.station).1 }
  /-- The listener sets the flag, since it failed. -/
  | fail {error : Error.Told} (failing : session.listener = .failing error) :
    Steps transmitter session .listener []
      { session with station := session.station.stop, listener := .ended (.error error) }
  /-- The listener has ended. -/
  | quiet {result : Except Error Unit} (ended : session.listener = .ended result) :
    Steps transmitter session .listener [] session
  /-- The flag is set from outside. -/
  | stop : Steps transmitter session .stop [] { session with station := session.station.stop }

namespace Transmitter

/-- The timer takes one of its steps. -/
theorem steps_moveTimer (transmitter : Transmitter) (due : Bool) (session : Session) :
    session.Steps transmitter (.timer due) (transmitter.moveTimer due session).1
      (transmitter.moveTimer due session).2 := by
  unfold moveTimer
  cases phase : session.timer with
  | sending => exact .send phase due
  | waiting =>
    cases stopped : session.station.stopped with
    | true => exact .leave phase stopped due
    | false => exact .wait phase stopped due
  | ended result => exact .silence phase due

/-- The listener takes one of its steps. -/
theorem steps_moveListener (transmitter : Transmitter) (session : Session) :
    session.Steps transmitter .listener (transmitter.moveListener session).1
      (transmitter.moveListener session).2 := by
  unfold moveListener
  cases phase : session.listener with
  | reading =>
    dsimp only
    split
    · exact .close phase session.source (.ok ())
    · rename_i failure _
      exact .close phase session.source (.error failure)
    · split
      · exact .close phase _ (.error .notText)
      · exact .read phase _ _
  | holding line =>
    cases stopped : session.station.stopped with
    | true => exact .drop phase stopped
    | false => exact .heed phase stopped
  | obeying line => exact .obey phase
  | failing error => exact .fail phase
  | ended result => exact .quiet phase

/-- A session takes one of its steps. -/
theorem steps_move (transmitter : Transmitter) (session : Session) (next : Move) :
    session.Steps transmitter next (transmitter.move session next).1
      (transmitter.move session next).2 := by
  cases next with
  | timer due => exact transmitter.steps_moveTimer due session
  | listener => exact transmitter.steps_moveListener session
  | stop => exact .stop

/-- A session takes steps in an order. -/
def interleave (transmitter : Transmitter) : List Move → Session → List Event × Session
  | [], session => ([], session)
  | next :: moves, session =>
    let (events, session) := transmitter.move session next
    let (more, session) := transmitter.interleave moves session
    (events ++ more, session)

/-- Steps in an order are the first of them and then the others. -/
theorem interleave_append (transmitter : Transmitter) (front back : List Move)
    (session : Session) :
    transmitter.interleave (front ++ back) session =
      let (events, middle) := transmitter.interleave front session
      let (more, final) := transmitter.interleave back middle
      (events ++ more, final) := by
  induction front generalizing session with
  | nil => rfl
  | cons next front ih =>
    simp only [List.cons_append, interleave, ih, List.append_assoc]

section Alone

variable (transmitter : Transmitter) {session : Session}

/-- An ended timer takes no further step. -/
theorem interleave_timer_of_ended {result : Except Error Unit}
    (ended : session.timer = .ended result) (due : Bool) (count : Nat) :
    transmitter.interleave (List.replicate count (.timer due)) session = ([], session) := by
  induction count with
  | zero => rfl
  | succ count ih =>
    rw [List.replicate_succ, interleave, move, moveTimer, ended]
    dsimp only
    rw [ih, List.append_nil]

/-- A tick ends the timer where its send does or where the flag is set behind it. -/
theorem tick_eq (station : Station) :
    transmitter.tick station =
      let sent := transmitter.sendTimed station
      (sent.1.or (if sent.2.stopped then some (.ok ()) else none), sent.2) := by
  rcases sent : transmitter.sendNow station with ⟨result, after⟩
  unfold tick sendTimed
  rw [sent]
  dsimp only
  rcases survive .failedSend result after with ⟨progress, final⟩
  cases progress with
  | some ended => rfl
  | none => rfl

/-- Sending and looking at the flag when the next tick is due is one tick of the timer. -/
theorem interleave_tick (sending : session.timer = .sending) :
    (transmitter.interleave [.timer true, .timer true] session).2 =
      { session with
        station := (transmitter.tick session.station).2
        timer := (transmitter.tick session.station).1.elim .sending .ended } := by
  have first : transmitter.moveTimer true session =
      ([.sent],
        { session with
          station := (transmitter.sendTimed session.station).2
          timer := .behind (transmitter.sendTimed session.station).1 }) := by
    rw [moveTimer, sending]
  rw [tick_eq]
  simp only [interleave, move, first]
  rcases transmitter.sendTimed session.station with ⟨progress, station⟩
  cases progress with
  | some result => rfl
  | none =>
    cases stopped : station.stopped with
    | true => simp [TimerPhase.behind, moveTimer, stopped]
    | false => simp [TimerPhase.behind, moveTimer, stopped]

/-- A timer that is left alone for some ticks runs for them. -/
theorem interleave_run (ticks : Nat) (sending : session.timer = .sending) :
    (transmitter.interleave (List.replicate (2 * ticks) (.timer true)) session).2 =
      { session with
        station := (transmitter.run ticks session.station).2
        timer := (transmitter.run ticks session.station).1.elim .sending .ended } := by
  induction ticks generalizing session with
  | zero =>
    rw [Nat.mul_zero, List.replicate_zero, interleave, run, Option.elim_none, ← sending]
  | succ ticks ih =>
    have moves : List.replicate (2 * (ticks + 1)) (Move.timer true) =
        [.timer true, .timer true] ++ List.replicate (2 * ticks) (.timer true) := rfl
    have first := transmitter.interleave_tick sending
    rw [moves, interleave_append, run]
    dsimp only
    rw [first]
    rcases transmitter.tick session.station with ⟨progress, station⟩
    cases progress with
    | some result => rw [transmitter.interleave_timer_of_ended rfl]
    | none => rw [ih rfl]

/-- A listener that is left alone comes to where listening ends. -/
theorem exists_interleave_listen (source : Source) (station : Station) (timer : TimerPhase) :
    ∃ count left,
      (transmitter.interleave (List.replicate count .listener)
        { station, source, timer, listener := .reading }).2 =
        { station := (transmitter.listen source station).2, source := left, timer
          listener := .closing (transmitter.listen source station).1 } := by
  fun_induction transmitter.listen source station with
  | case1 source station finished =>
    refine ⟨1, source, ?_⟩
    simp only [List.replicate, interleave, move, moveListener, finished]
  | case2 source station failure failed =>
    refine ⟨1, source, ?_⟩
    simp only [List.replicate, interleave, move, moveListener, failed]
  | case3 source station line rest read garbled =>
    refine ⟨1, { source with pieces := rest }, ?_⟩
    simp only [List.replicate, interleave, move, moveListener, read, garbled]
  | case4 source station line rest read text readable stopped =>
    refine ⟨2, { source with pieces := rest }, ?_⟩
    simp only [List.replicate, interleave, move, moveListener, read, readable, if_pos stopped]
  | case5 source station line rest read text readable unstopped result after obeyed =>
    refine ⟨3, { source with pieces := rest }, ?_⟩
    simp only [List.replicate, interleave, move, moveListener, read, readable, if_neg unstopped,
      obeyed, ListenerPhase.behind]
  | case6 source station line rest read text readable unstopped after obeyed ih =>
    obtain ⟨count, left, listened⟩ := ih
    refine ⟨3 + count, left, ?_⟩
    rw [← List.replicate_append_replicate, interleave_append]
    simp only [List.replicate, interleave, move, moveListener, read, readable, if_neg unstopped,
      obeyed, ListenerPhase.behind]
    exact listened

/-- A listener that is left alone attends to the lines of its source. -/
theorem exists_interleave_attend (source : Source) (station : Station) (timer : TimerPhase) :
    ∃ count left,
      (transmitter.interleave (List.replicate count .listener)
        { station, source, timer, listener := .reading }).2 =
        { station := (transmitter.attend source station).2, source := left, timer
          listener := .ended (transmitter.attend source station).1 } := by
  obtain ⟨count, left, listened⟩ := transmitter.exists_interleave_listen source station timer
  rcases ended : transmitter.listen source station with ⟨result, after⟩
  rw [ended] at listened
  cases result with
  | ok =>
    refine ⟨count, left, ?_⟩
    simp only [listened, attend, ended, ListenerPhase.closing]
  | error error =>
    by_cases givenUp : error = .overflow
    · refine ⟨count, left, ?_⟩
      rw [givenUp] at listened ended
      simp only [listened, attend, ended]
      rfl
    · -- One step more sets the flag.
      refine ⟨count + 1, left, ?_⟩
      rw [List.replicate_succ', interleave_append]
      simp only [listened, attend, ended, interleave, move, moveListener,
        ListenerPhase.closing_of_ne givenUp]

end Alone

end Transmitter

end PcmLink
