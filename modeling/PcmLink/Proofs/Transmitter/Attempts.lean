import PcmLink.Proofs.Link.Answers
import PcmLink.Proofs.Transmitter.Sending
import PcmLink.Proofs.Transmitter.Session

/-!
# Attempts to send

However a transmitter comes to send, by itself, on a command, at a tick of its timer or for a line
of its listener, it is the same attempt: the whole frame is handed to the link once, if it is
admitted, and the result says what the link answered. So the results along any history are the
answers of the link in their order, and the link is past as many writes as there were attempts.
-/

namespace PcmLink

namespace Transmitter

/-- What an attempt comes to that a number of others have gone before. -/
def reply (transmitter : Transmitter) (outbound : Outbound) (index : Nat) : Except Error Nat :=
  if transmitter.Admits transmitter.frame.bytes then
    match outbound.answer transmitter.frame.bytes.length index with
    | .error failure => .error (.ofSocket failure transmitter.interface)
    | .ok sent =>
      if sent = transmitter.frame.bytes.length then .ok sent
      else .error (.truncated sent transmitter.frame.bytes.length)
  else .error (transmitter.refusal transmitter.frame.bytes)

/-- The link behind a number of attempts. -/
def past (transmitter : Transmitter) (outbound : Outbound) (count : Nat) : Outbound :=
  if transmitter.Admits transmitter.frame.bytes then outbound.past transmitter.frame.bytes count
  else outbound

section Past

variable (transmitter : Transmitter) (outbound : Outbound)

/-- Behind no attempt the link is as it was. -/
theorem past_zero : transmitter.past outbound 0 = outbound := by
  unfold past
  split
  · exact outbound.past_zero _
  · rfl

/-- Attempts behind attempts are all of them. -/
theorem past_past (front back : Nat) :
    transmitter.past (transmitter.past outbound front) back =
      transmitter.past outbound (front + back) := by
  unfold past
  split
  · exact outbound.past_past _ front back
  · rfl

/-- What attempts come to behind others is what the later ones come to. -/
theorem reply_past (count index : Nat) :
    transmitter.reply (transmitter.past outbound count) index =
      transmitter.reply outbound (count + index) := by
  by_cases admitted : transmitter.Admits transmitter.frame.bytes
  · simp only [reply, past, if_pos admitted, Outbound.answer_past]
  · simp only [reply, if_neg admitted]

end Past

end Transmitter

/-- From one station to another attempts to send came to these results. -/
structure Station.Tries (before : Station) (transmitter : Transmitter)
    (results : List (Except Error Nat)) (after : Station) : Prop where
  /-- Each result is what its attempt comes to. -/
  replies : results = (List.range results.length).map (transmitter.reply before.outbound)
  /-- The link is behind as many attempts. -/
  outbound : after.outbound = transmitter.past before.outbound results.length

namespace Station

variable {before middle after : Station} {transmitter : Transmitter}
  {first second : List (Except Error Nat)}

/-- Without an attempt the link stays as it is. -/
theorem Tries.of_eq (same : after.outbound = before.outbound) : before.Tries transmitter [] after :=
  ⟨rfl, same.trans (transmitter.past_zero _).symm⟩

/-- Attempts follow attempts. -/
theorem Tries.trans (front : before.Tries transmitter first middle)
    (back : middle.Tries transmitter second after) :
    before.Tries transmitter (first ++ second) after where
  replies := by
    have later : second =
        (List.range second.length).map fun index =>
          transmitter.reply before.outbound (first.length + index) := by
      have replies := back.replies
      rw [front.outbound] at replies
      rwa [funext (transmitter.reply_past before.outbound first.length)] at replies
    rw [List.length_append, List.range_add, List.map_append, List.map_map, ← front.replies]
    exact congrArg (first ++ ·) later
  outbound := by
    rw [back.outbound, front.outbound, transmitter.past_past, List.length_append]

/-- Forcing a speed asks the control for the speed that the option names, if it names one. -/
theorem setSpeed_snd (station : Station) (interface option : String) :
    (station.setSpeed interface option).2 =
      { station with
        requests := station.requests ++
          (LinkSpeed.parse option).toOption.toList.map fun speed => (interface, speed)
        control := station.control.drop (LinkSpeed.parse option).toOption.toList.length } := by
  unfold setSpeed request
  cases LinkSpeed.parse option with
  | error error => simp [Except.toOption]
  | ok speed =>
    cases station.control with
    | nil => simp [Except.toOption]
    | cons result rest => cases result <;> rfl

/-- Forcing a speed only asks the control. -/
theorem exists_setSpeed (station : Station) (interface option : String) :
    ∃ control requests,
      (station.setSpeed interface option).2 = { station with control, requests } :=
  ⟨_, _, station.setSpeed_snd interface option⟩

end Station

namespace Transmitter

section Attempts

variable (transmitter : Transmitter)

/-- An attempt to send a frame that is admitted comes to what the link answers. -/
theorem sendNow_of_admits (admitted : transmitter.Admits transmitter.frame.bytes)
    (station : Station) :
    transmitter.sendNow station =
      (transmitter.reply station.outbound 0,
        { station.countWrite with
          outbound := transmitter.past station.outbound 1 }) := by
  have written := station.outbound.write_eq transmitter.frame.bytes
  simp only [sendNow, send_of_admits admitted, Station.write, station.outbound_countWrite, written,
    reply, past, if_pos admitted]
  cases station.outbound.answer transmitter.frame.bytes.length 0 with
  | error failure => rfl
  | ok sent =>
    dsimp only
    split <;> rfl

/-- An attempt to send leaves the control and the warnings alone. -/
theorem exists_sendNow (station : Station) :
    ∃ outbound stopped stopIn,
      (transmitter.sendNow station).2 = { station with outbound, stopped, stopIn } := by
  have counted : ∃ stopped stopIn, station.countWrite = { station with stopped, stopIn } := by
    unfold Station.countWrite
    split
    · split
      · exact ⟨_, _, rfl⟩
      · exact ⟨_, _, rfl⟩
    · exact ⟨_, _, rfl⟩
  obtain ⟨stopped, stopIn, counted⟩ := counted
  by_cases admitted : transmitter.Admits transmitter.frame.bytes
  · rw [transmitter.sendNow_of_admits admitted, counted]
    exact ⟨_, _, _, rfl⟩
  · have refused : transmitter.sendNow station = _ := send_of_not_admits admitted
    rw [refused]
    exact ⟨_, _, _, rfl⟩

/-- An attempt to send is one. -/
theorem tries_sendNow (station : Station) :
    station.Tries transmitter [(transmitter.sendNow station).1]
      (transmitter.sendNow station).2 := by
  by_cases admitted : transmitter.Admits transmitter.frame.bytes
  · rw [transmitter.sendNow_of_admits admitted]
    exact { replies := rfl, outbound := rfl }
  · have refused : transmitter.sendNow station = _ := send_of_not_admits admitted
    rw [refused]
    exact {
      replies := by
        simp only [List.length_singleton, List.range_one, List.map_singleton, reply,
          if_neg admitted]
      outbound := by rw [past, if_neg admitted] }

/-- Surviving an error leaves the link alone. -/
theorem outbound_survive {α : Type} (warning : Error → Warning) (result : Except Error α)
    (station : Station) : (survive warning result station).2.outbound = station.outbound := by
  unfold survive
  split
  · rfl
  · split <;> rfl

/-- The attempts of a command. -/
def handleAttempts (command : Command) (station : Station) : List (Except Error Nat) :=
  match command with
  | .sendNow => [(transmitter.sendNow station).1]
  | .setSpeed _ => []

/-- The attempts of a timer that runs for at most the given number of ticks. -/
def runAttempts : Nat → Station → List (Except Error Nat)
  | 0, _ => []
  | ticks + 1, station =>
    (transmitter.sendNow station).1 ::
      match transmitter.tick station with
      | (some _, _) => []
      | (none, station) => runAttempts ticks station

/-- The attempts for a line that is acted on. -/
def obeyAttempts (line : String) (station : Station) : List (Except Error Nat) :=
  match Command.parse line with
  | none => []
  | some command => transmitter.handleAttempts command station

/-- The attempts of a listener. -/
def listenAttempts (source : Source) (station : Station) : List (Except Error Nat) :=
  match _ : source.nextLine with
  | .finished | .failed _ => []
  | .bytes line rest =>
    match lineText? line with
    | none => []
    | some text =>
      if station.stopped then []
      else
        transmitter.obeyAttempts text station ++
          match transmitter.obey text station with
          | (some _, _) => []
          | (none, station) => listenAttempts { source with pieces := rest } station
termination_by source.bytes.length
decreasing_by exact Source.length_nextLine ‹_›

/-- The attempts of a command are those on its way. -/
theorem tries_handle (command : Command) (station : Station) :
    station.Tries transmitter (transmitter.handleAttempts command station)
      (transmitter.handle command station).2 := by
  cases command with
  | sendNow => exact transmitter.tries_sendNow station
  | setSpeed option =>
    obtain ⟨control, requests, asked⟩ := station.exists_setSpeed transmitter.interface option
    apply Station.Tries.of_eq
    show (station.setSpeed transmitter.interface option).2.outbound = station.outbound
    rw [asked]

/-- A tick is one attempt. -/
theorem tries_tick (station : Station) :
    station.Tries transmitter [(transmitter.sendNow station).1] (transmitter.tick station).2 := by
  have sent := transmitter.tries_sendNow station
  have survived : (transmitter.tick station).2.outbound =
      (transmitter.sendNow station).2.outbound := by
    rw [transmitter.tick_eq]
    exact outbound_survive .failedSend (transmitter.sendNow station).1 _
  exact sent.trans (.of_eq survived)

/-- The attempts of a timer are those of its ticks. -/
theorem tries_run (ticks : Nat) (station : Station) :
    station.Tries transmitter (transmitter.runAttempts ticks station)
      (transmitter.run ticks station).2 := by
  induction ticks generalizing station with
  | zero => exact .of_eq rfl
  | succ ticks ih =>
    have ticked := transmitter.tries_tick station
    rw [runAttempts, run]
    rcases made : transmitter.tick station with ⟨progress, after⟩
    rw [made] at ticked
    cases progress with
    | some result => exact ticked
    | none => exact ticked.trans (ih after)

/-- The attempts for a line are those of its command. -/
theorem tries_obey (line : String) (station : Station) :
    station.Tries transmitter (transmitter.obeyAttempts line station)
      (transmitter.obey line station).2 := by
  unfold obeyAttempts obey
  cases Command.parse line with
  | none => exact .of_eq rfl
  | some command =>
    have handled := transmitter.tries_handle command station
    have survived := outbound_survive .failedCommand (transmitter.handle command station).1
      (transmitter.handle command station).2
    have whole := handled.trans (.of_eq survived)
    rwa [List.append_nil] at whole

/-- The attempts of a listener are those for its lines. -/
theorem tries_listen (source : Source) (station : Station) :
    station.Tries transmitter (transmitter.listenAttempts source station)
      (transmitter.listen source station).2 := by
  fun_induction transmitter.listen source station with
  | case1 | case2 | case3 | case4 =>
    rw [listenAttempts]
    split <;> simp_all [Station.Tries.of_eq]
  | case5 source station line rest read text readable unstopped result after obeyed =>
    have acted := transmitter.tries_obey text station
    rw [obeyed] at acted
    have last : transmitter.listenAttempts source station =
        transmitter.obeyAttempts text station := by
      rw [listenAttempts]
      split <;> simp_all
    rw [last]
    exact acted
  | case6 source station line rest read text readable unstopped after obeyed ih =>
    have acted := transmitter.tries_obey text station
    rw [obeyed] at acted
    have more : transmitter.listenAttempts source station =
        transmitter.obeyAttempts text station ++
          transmitter.listenAttempts { source with pieces := rest } after := by
      rw [listenAttempts]
      split <;> simp_all
    rw [more]
    exact acted.trans ih

/-- What a transmitter is asked to do. -/
inductive Operation where
  /-- Send the frame. -/
  | sendNow
  /-- Carry out a command. -/
  | handle (command : Command)
  /-- Run the timer, for at most the given number of ticks. -/
  | run (ticks : Nat)
  /-- Listen to a source. -/
  | listen (source : Source)
  /-- Look at another flag from now on, which is set, or is set with a further write, or not. -/
  | renew (stopped : Bool) (stopIn : Option Nat)

/-- Carry out an operation: the results of the attempts to send, and the station. -/
def perform (operation : Operation) (station : Station) : List (Except Error Nat) × Station :=
  match operation with
  | .sendNow =>
    let (result, after) := transmitter.sendNow station
    ([result], after)
  | .handle command =>
    (transmitter.handleAttempts command station, (transmitter.handle command station).2)
  | .run ticks => (transmitter.runAttempts ticks station, (transmitter.run ticks station).2)
  | .listen source =>
    (transmitter.listenAttempts source station, (transmitter.listen source station).2)
  | .renew stopped stopIn => ([], { station with stopped, stopIn })

/-- Carry out operations one after the other. -/
def performAll : List Operation → Station → List (Except Error Nat) × Station
  | [], station => ([], station)
  | operation :: operations, station =>
    let (results, station) := transmitter.perform operation station
    let (more, station) := performAll operations station
    (results ++ more, station)

/-- The attempts of an operation are those on its way. -/
theorem tries_perform (operation : Operation) (station : Station) :
    station.Tries transmitter (transmitter.perform operation station).1
      (transmitter.perform operation station).2 := by
  cases operation with
  | sendNow => exact transmitter.tries_sendNow station
  | handle command => exact transmitter.tries_handle command station
  | run ticks => exact transmitter.tries_run ticks station
  | listen source => exact transmitter.tries_listen source station
  | renew stopped stopIn => exact .of_eq rfl

/-- The attempts of operations are those of each, in their order. -/
theorem tries_performAll (operations : List Operation) (station : Station) :
    station.Tries transmitter (transmitter.performAll operations station).1
      (transmitter.performAll operations station).2 := by
  induction operations generalizing station with
  | nil => exact .of_eq rfl
  | cons operation operations ih =>
    exact (transmitter.tries_perform operation station).trans (ih _)

/-- Whatever a transmitter is asked to do in whatever order, each attempt to send comes to what the
link answers. A frame that is too long is refused each time, and the link is not touched. Any other
is handed to the link in a whole, once for each attempt, and uses up one of its outcomes; the result
is the length of the frame exactly if the link took that many bytes, and on the wire are the first
bytes of the frame for each write that did not fail, as many as the link took. -/
theorem attempts_match_link (operations : List Operation) (station : Station)
    (inRange : 14 + transmitter.payloadLimit.toNat < UInt64.size) :
    let bytes := transmitter.frame.bytes
    let limit := 14 + transmitter.payloadLimit.toNat
    let (results, final) := transmitter.performAll operations station
    let before := station.outbound
    let after := final.outbound
    (limit < bytes.length →
      after = before ∧
        results = List.replicate results.length (.error (.frameTooLong bytes.length limit))) ∧
    (bytes.length ≤ limit →
      after.handed = before.handed ++ List.replicate results.length bytes ∧
        after.outcomes = before.outcomes.drop results.length ∧
        results = (List.range results.length).map (fun index =>
          match before.answer bytes.length index with
          | .error failure => .error (.ofSocket failure transmitter.interface)
          | .ok sent =>
            if sent = bytes.length then .ok sent else .error (.truncated sent bytes.length)) ∧
        after.wire = before.wire ++ (List.range results.length).filterMap fun index =>
          (before.answer bytes.length index).toOption.map fun sent => bytes.take sent) := by
  have tries := transmitter.tries_performAll operations station
  rcases performed : transmitter.performAll operations station with ⟨results, final⟩
  rw [performed] at tries
  have replies := tries.replies
  have outbound := tries.outbound
  refine ⟨fun long => ?_, fun short => ?_⟩
  · have barred : ¬ transmitter.Admits transmitter.frame.bytes :=
      fun admitted => Nat.not_le.mpr long admitted.2
    have refused : transmitter.reply station.outbound = fun _ =>
        .error (.frameTooLong transmitter.frame.bytes.length
          (14 + transmitter.payloadLimit.toNat)) := by
      funext index
      rw [reply, if_neg barred, refusal, if_pos inRange]
    rw [past, if_neg barred] at outbound
    rw [refused, List.map_const', List.length_range] at replies
    exact ⟨outbound, replies⟩
  · have admitted : transmitter.Admits transmitter.frame.bytes := ⟨inRange, short⟩
    have answered : transmitter.reply station.outbound = fun index =>
        match station.outbound.answer transmitter.frame.bytes.length index with
        | .error failure => .error (.ofSocket failure transmitter.interface)
        | .ok sent =>
          if sent = transmitter.frame.bytes.length then .ok sent
          else .error (.truncated sent transmitter.frame.bytes.length) := by
      funext index
      rw [reply, if_pos admitted]
    rw [past, if_pos admitted] at outbound
    rw [answered] at replies
    rw [outbound]
    exact ⟨rfl, rfl, replies, rfl⟩

/-- A failing write, one that takes three bytes, one that takes all bytes, and one of a link that
takes no more than five, by a send, two ticks and a line: what is on the wire is what the results
say. -/
theorem attempts_match_link_mixed :
    let transmitter : Transmitter := {
      interface := "eth0", payloadLimit := 4
      frame := { destination := .broadcast, source := .zero, protocolType := .bench
                 payload := [1, 2] } }
    let bytes := transmitter.frame.bytes
    let lost : IoError := .os Errno.noDevice
    let station : Station := {
      outbound := { outcomes := [.reported 3, .reported 16, .failed lost], longest := some 5 } }
    let operations : List Operation :=
      [.sendNow, .run 1, .listen { pieces := [[0x30, 0x0a]] }, .handle .sendNow]
    let (results, final) := transmitter.performAll operations station
    14 + transmitter.payloadLimit.toNat < UInt64.size ∧
      results = [.error (.truncated 3 16), .ok 16, .error (.interfaceNotFound "eth0"),
        .error (.truncated 5 16)] ∧
      final.outbound.wire = [bytes.take 3, bytes, bytes.take 5] ∧
      final.outbound.handed = List.replicate 4 bytes := by
  intro transmitter bytes lost station operations
  have inRange : 14 + transmitter.payloadLimit.toNat < UInt64.size := by decide
  have matched := transmitter.attempts_match_link operations station inRange
  have count : (transmitter.performAll operations station).1.length = 4 := by decide +kernel
  rcases performed : transmitter.performAll operations station with ⟨results, final⟩
  rw [performed] at matched count
  obtain ⟨handed, _, replies, wire⟩ := matched.2 (by decide)
  rw [count] at handed replies wire
  refine ⟨inRange, ?_, ?_, handed⟩
  · rw [replies]
    rfl
  · rw [wire]
    decide

end Attempts

end Transmitter

end PcmLink
