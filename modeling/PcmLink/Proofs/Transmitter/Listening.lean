import PcmLink.Proofs.Transmitter.Lines
import PcmLink.Proofs.Transmitter.Turns

/-!
# A listener as an interpreter

A listener takes the lines of its source in order and carries out what each asks for, until the
source ends, a line cannot be read, the flag is set behind a line, or a command fails for good. This
is told of the lines alone, of what they ask for by their text, and of a flag that may be set from
outside before any step of the listener; the steps of a session are then shown to follow it.
-/

namespace PcmLink

namespace Station

/-- The station when the flag may have been set from outside. -/
def disturb (station : Station) (set : Bool) : Station := if set then station.stop else station

/-- Nothing but the flag changes. -/
theorem disturb_eq (station : Station) (set : Bool) :
    station.disturb set = { station with stopped := station.stopped || set } := by
  unfold disturb
  cases set with
  | true =>
    rw [if_pos rfl, Bool.or_true]
    rfl
  | false => rw [if_neg Bool.false_ne_true, Bool.or_false]

end Station

namespace Transmitter

/-- What listening to lines comes to, where the flag is set from outside before the steps that are
told. A line takes three steps: it is read, the flag is looked at, and the line is acted on. -/
inductive Listens (transmitter : Transmitter) (sets : Nat → Bool) :
    Nat → List (Except IoError String) → Station → List Turn → Except Error Unit → Station →
      Prop where
  /-- The lines are used up. -/
  | finished (step : Nat) (station : Station) :
    Listens transmitter sets step [] station [] (.ok ()) (station.disturb (sets step))
  /-- A line cannot be read, whether or not the flag is set. -/
  | unreadable (step : Nat) (failure : IoError) (rest : List (Except IoError String))
    (station : Station) :
    Listens transmitter sets step (.error failure :: rest) station [] (.error (.io failure))
      (station.disturb (sets step))
  /-- The flag is set behind a line that was read, and the line is not acted on. -/
  | stopped {step : Nat} {station seen : Station} (line : String)
    (rest : List (Except IoError String))
    (looked : seen = (station.disturb (sets step)).disturb (sets (step + 1)))
    (set : seen.stopped = true) :
    Listens transmitter sets step (.ok line :: rest) station [] (.ok ()) seen
  /-- A command fails for good. -/
  | fatal {step : Nat} {station seen after : Station} {line : String}
    (rest : List (Except IoError String)) {error : Error}
    (looked : seen = (station.disturb (sets step)).disturb (sets (step + 1)))
    (unset : seen.stopped = false)
    (does : transmitter.Does line (seen.disturb (sets (step + 2))) (.error error) after)
    (lasting : error.isFatal = true) :
    Listens transmitter sets step (.ok line :: rest) station [⟨line, .error error⟩]
      (.error error) after
  /-- A command fails otherwise, which gives a warning, and the listener goes on. -/
  | warned {step : Nat} {station seen middle after : Station} {line : String}
    {rest : List (Except IoError String)} {error : Error} {turns : List Turn}
    {result : Except Error Unit}
    (looked : seen = (station.disturb (sets step)).disturb (sets (step + 1)))
    (unset : seen.stopped = false)
    (does : transmitter.Does line (seen.disturb (sets (step + 2))) (.error error) middle)
    (passing : error.isFatal = false)
    (later : Listens transmitter sets (step + 3) rest (middle.warn (.failedCommand error)) turns
      result after) :
    Listens transmitter sets step (.ok line :: rest) station (⟨line, .error error⟩ :: turns)
      result after
  /-- A line is acted on without a failure, and the listener goes on. -/
  | done {step : Nat} {station seen middle after : Station} {line : String}
    {rest : List (Except IoError String)} {turns : List Turn} {result : Except Error Unit}
    (looked : seen = (station.disturb (sets step)).disturb (sets (step + 1)))
    (unset : seen.stopped = false)
    (does : transmitter.Does line (seen.disturb (sets (step + 2))) (.ok ()) middle)
    (later : Listens transmitter sets (step + 3) rest middle turns result after) :
    Listens transmitter sets step (.ok line :: rest) station (⟨line, .ok ()⟩ :: turns) result after

end Transmitter

/-- Setting the flag needs no account. -/
theorem Station.tally_disturb (station : Station) (transmitter : Transmitter) (set : Bool) :
    station.Tally transmitter [] (station.disturb set) := by
  rw [disturb_eq]
  exact {
    outbound := (transmitter.past_zero _).symm
    requests := (List.append_nil _).symm
    control := rfl
    warnings := (List.append_nil _).symm }

namespace Transmitter

variable {transmitter : Transmitter} {line : String} {before after : Station}
  {result : Except Error Unit}

section Listening

variable {sets : Nat → Bool} {step : Nat} {script : List (Except IoError String)}
  {station : Station} {turns : List Turn}

/-- The lines that are acted on are the first lines, in order. -/
theorem Listens.prefix_script
    (listens : transmitter.Listens sets step script station turns result after) :
    turns.map (fun turn => .ok turn.line) <+: script := by
  induction listens with
  | finished | unreadable | stopped => exact List.nil_prefix
  | fatal rest => exact List.cons_prefix_cons.mpr ⟨rfl, List.nil_prefix⟩
  | warned looked unset does passing later ih => exact List.cons_prefix_cons.mpr ⟨rfl, ih⟩
  | done looked unset does later ih => exact List.cons_prefix_cons.mpr ⟨rfl, ih⟩

/-- Looking at the flag needs no account. -/
theorem tally_looked {seen : Station}
    (looked : seen = (station.disturb (sets step)).disturb (sets (step + 1))) :
    station.Tally transmitter [] seen := by
  rw [looked]
  have first := station.tally_disturb transmitter (sets step)
  exact first.trans (Station.tally_disturb _ transmitter _)

/-- A line that is read, looked at and acted on accounts for what it does. -/
theorem Does.tally_looked {seen : Station} {set : Bool}
    (looked : seen = (station.disturb (sets step)).disturb (sets (step + 1)))
    (does : transmitter.Does line (seen.disturb set) result after) :
    station.Tally transmitter [⟨line, result⟩] (survive .failedCommand result after).2 := by
  have held := (Transmitter.tally_looked looked).trans (seen.tally_disturb transmitter set)
  exact held.trans does.tally

/-- The lines that are acted on account for all that changes but the flag. -/
theorem Listens.tally
    (listens : transmitter.Listens sets step script station turns result after) :
    station.Tally transmitter turns after := by
  induction listens with
  | finished step station => exact station.tally_disturb transmitter _
  | unreadable step failure rest station => exact station.tally_disturb transmitter _
  | stopped line rest looked => exact tally_looked looked
  | fatal rest looked unset does lasting =>
    have acted := does.tally_looked looked
    rwa [survive_of_fatal lasting] at acted
  | warned looked unset does passing later ih =>
    have acted := does.tally_looked looked
    rw [survive_of_not_fatal (Bool.not_eq_true _ ▸ passing)] at acted
    exact acted.trans ih
  | done looked unset does later ih =>
    have acted := does.tally_looked looked
    exact acted.trans ih

/-- Listening is given up only if the length of the longest frame is no machine word. -/
theorem Listens.beyond
    (listens : transmitter.Listens sets step script station turns result after)
    (givenUp : result = .error .overflow) : UInt64.size ≤ 14 + transmitter.payloadLimit.toNat := by
  induction listens with
  | finished | unreadable | stopped => cases givenUp
  | fatal rest looked unset does lasting =>
    have obeyed := does.obey_eq
    rw [survive_of_fatal lasting, Except.error.inj givenUp] at obeyed
    exact beyond_of_obey_overflow (congrArg Prod.fst obeyed)
  | warned looked unset does passing later ih => exact ih givenUp
  | done looked unset does later ih => exact ih givenUp

/-- A flag that is never set from outside changes nothing. -/
theorem disturb_never (never : ∀ step, sets step = false) (station : Station) (step : Nat) :
    station.disturb (sets step) = station := by
  rw [never]
  rfl

/-- A flag that is never set from outside is seen as it is. -/
theorem looked_never (never : ∀ step, sets step = false) {seen : Station}
    (looked : seen = (station.disturb (sets step)).disturb (sets (step + 1))) : seen = station := by
  rw [looked, disturb_never never, disturb_never never]

/-- If the flag is not set from outside, lines are listened to one after the other. -/
theorem Listens.listenTo_eq
    (listens : transmitter.Listens sets step script station turns result after)
    (never : ∀ step, sets step = false) :
    transmitter.listenTo script station = (result, after) := by
  induction listens with
  | finished step station => rw [disturb_never never, listenTo]
  | unreadable step failure rest station => rw [disturb_never never, listenTo]
  | stopped line rest looked set =>
    rw [looked_never never looked] at set ⊢
    rw [listenTo, if_pos set]
  | fatal rest looked unset does lasting =>
    rw [disturb_never never, looked_never never looked] at does
    rw [looked_never never looked] at unset
    rw [listenTo, if_neg (Bool.not_eq_true _ ▸ unset), does.obey_eq, survive_of_fatal lasting]
  | warned looked unset does passing later ih =>
    rw [disturb_never never, looked_never never looked] at does
    rw [looked_never never looked] at unset
    rw [listenTo, if_neg (Bool.not_eq_true _ ▸ unset), does.obey_eq,
      survive_of_not_fatal (Bool.not_eq_true _ ▸ passing)]
    exact ih
  | done looked unset does later ih =>
    rw [disturb_never never, looked_never never looked] at does
    rw [looked_never never looked] at unset
    rw [listenTo, if_neg (Bool.not_eq_true _ ▸ unset), does.obey_eq]
    exact ih

end Listening

end Transmitter

/-- So many steps of a listener, before each of which the flag may be set from outside. -/
def Move.amid (sets : Nat → Bool) : Nat → Nat → List Move
  | _, 0 => []
  | step, count + 1 =>
    (if sets step then [.stop, .listener] else [.listener]) ++ Move.amid sets (step + 1) count

namespace Transmitter

variable (transmitter : Transmitter) (sets : Nat → Bool)

/-- The flag may be set, the listener takes a step, and then come the others. -/
theorem interleave_amid_succ (step count : Nat) (session : Session) :
    (transmitter.interleave (Move.amid sets step (count + 1)) session).2 =
      (transmitter.interleave (Move.amid sets (step + 1) count)
        (transmitter.moveListener
          { session with station := session.station.disturb (sets step) }).2).2 := by
  rw [Move.amid, interleave_append]
  cases sets step with
  | true => rfl
  | false => rfl

/-- A line that is read while the flag is set is not acted on. -/
theorem interleave_dropped {source : Source} {line : List UInt8} {pieces : List (List UInt8)}
    {text : String} {station seen : Station} {step : Nat}
    (found : source.nextLine = .bytes line pieces) (readable : lineText? line = some text)
    (looked : seen = (station.disturb (sets step)).disturb (sets (step + 1)))
    (set : seen.stopped = true) (timer : TimerPhase) :
    (transmitter.interleave (Move.amid sets step 2)
        { station, source, timer, listener := .reading }).2 =
      { station := seen, source := { source with pieces }, timer
        listener := .closing (.ok ()) } := by
  rw [looked] at set ⊢
  rw [interleave_amid_succ, interleave_amid_succ]
  simp only [moveListener, found, readable, set, if_true]
  rfl

/-- A line that is read while the flag is not set takes three steps. -/
theorem interleave_heeded {source : Source} {line : List UInt8} {pieces : List (List UInt8)}
    {text : String} {station seen : Station} {step : Nat}
    (found : source.nextLine = .bytes line pieces) (readable : lineText? line = some text)
    (looked : seen = (station.disturb (sets step)).disturb (sets (step + 1)))
    (unset : seen.stopped = false) (timer : TimerPhase) (count : Nat) :
    let obeyed := transmitter.obey text (seen.disturb (sets (step + 2)))
    (transmitter.interleave (Move.amid sets step (count + 3))
        { station, source, timer, listener := .reading }).2 =
      (transmitter.interleave (Move.amid sets (step + 3) count)
        { station := obeyed.2, source := { source with pieces }, timer
          listener := .behind obeyed.1 }).2 := by
  rw [looked] at unset ⊢
  rw [interleave_amid_succ, interleave_amid_succ, interleave_amid_succ]
  simp only [moveListener, found, readable, unset, Bool.false_eq_true, if_false]

/-- The steps of a listener that starts to read lead to where listening to its lines ends. -/
def Follows (source : Source) (station : Station) (timer : TimerPhase) (step : Nat) : Prop :=
  ∃ count left turns result after,
    (transmitter.interleave (Move.amid sets step count)
        { station, source, timer, listener := .reading }).2 =
      { station := after, source := left, timer, listener := .closing result } ∧
    transmitter.Listens sets step source.script station turns result after

variable {transmitter sets} {source : Source} {line : List UInt8} {pieces : List (List UInt8)}

/-- A listener that finds no further line ends there. -/
theorem follows_of_finished (finished : source.nextLine = .finished) (station : Station)
    (timer : TimerPhase) (step : Nat) : transmitter.Follows sets source station timer step := by
  have lines := source.script_eq
  rw [finished] at lines
  refine ⟨1, source, [], .ok (), station.disturb (sets step), ?_, ?_⟩
  · rw [interleave_amid_succ]
    simp only [moveListener, finished]
    rfl
  · rw [lines]
    exact .finished step station

/-- A listener whose source fails ends with the failure. -/
theorem follows_of_failed {failure : IoError} (failed : source.nextLine = .failed failure)
    (station : Station) (timer : TimerPhase) (step : Nat) :
    transmitter.Follows sets source station timer step := by
  have lines := source.script_eq
  rw [failed] at lines
  refine ⟨1, source, [], .error (.io failure), station.disturb (sets step), ?_, ?_⟩
  · rw [interleave_amid_succ]
    simp only [moveListener, failed]
    rfl
  · rw [lines]
    exact .unreadable step failure [] station

/-- A listener ends with a failure at a line that is not text. -/
theorem follows_of_garbled (read : source.nextLine = .bytes line pieces)
    (garbled : lineText? line = none) (station : Station) (timer : TimerPhase) (step : Nat) :
    transmitter.Follows sets source station timer step := by
  have lines := source.script_eq
  simp only [read, garbled] at lines
  refine ⟨1, { source with pieces }, [], .error (.io .notText), station.disturb (sets step), ?_, ?_⟩
  · rw [interleave_amid_succ]
    simp only [moveListener, read, garbled]
    rfl
  · rw [lines]
    exact .unreadable step .notText _ station

/-- A listener looks at the flag behind a line, acts on the line unless the flag is set, and goes on
unless that fails for good. -/
theorem follows_of_text {text : String} (read : source.nextLine = .bytes line pieces)
    (readable : lineText? line = some text) (timer : TimerPhase)
    (later : ∀ station step, transmitter.Follows sets { source with pieces } station timer step)
    (station : Station) (step : Nat) : transmitter.Follows sets source station timer step := by
  have lines := source.script_eq
  simp only [read, readable] at lines
  unfold Follows
  rw [lines]
  let left : Source := { source with pieces }
  let seen := (station.disturb (sets step)).disturb (sets (step + 1))
  cases set : seen.stopped with
  | true =>
    have dropped := transmitter.interleave_dropped sets read readable rfl set timer
    exact ⟨2, left, [], .ok (), seen, dropped, .stopped text _ rfl set⟩
  | false =>
    obtain ⟨outcome, middle, does⟩ :=
      transmitter.exists_does text (seen.disturb (sets (step + 2)))
    have heeded := transmitter.interleave_heeded sets read readable rfl set timer
    rw [does.obey_eq] at heeded
    cases outcome with
    | ok =>
      obtain ⟨count, last, turns, result, after, moved, listens⟩ := later middle (step + 3)
      exact ⟨count + 3, last, _, result, after, (heeded count).trans moved,
        .done rfl set does listens⟩
    | error error =>
      cases lasting : error.isFatal with
      | true =>
        rw [survive_of_fatal lasting] at heeded
        exact ⟨3, left, _, .error error, middle, heeded 0, .fatal _ rfl set does lasting⟩
      | false =>
        rw [survive_of_not_fatal (Bool.not_eq_true _ ▸ lasting)] at heeded
        obtain ⟨count, last, turns, result, after, moved, listens⟩ := later _ (step + 3)
        exact ⟨count + 3, last, _, result, after, (heeded count).trans moved,
          .warned rfl set does lasting listens⟩

/-- The steps of a listener follow what listening to its lines comes to. -/
theorem follows (transmitter : Transmitter) (sets : Nat → Bool) (source : Source)
    (station : Station) (timer : TimerPhase) (step : Nat) :
    transmitter.Follows sets source station timer step := by
  induction length : source.bytes.length using Nat.strongRecOn generalizing source station step with
  | _ length ih =>
    subst length
    cases next : source.nextLine with
    | finished => exact follows_of_finished next station timer step
    | failed failure => exact follows_of_failed next station timer step
    | bytes line pieces =>
      cases readable : lineText? line with
      | none => exact follows_of_garbled next readable station timer step
      | some text =>
        have shorter := Source.length_nextLine next
        exact follows_of_text next readable timer
          (fun station step => ih _ shorter _ station step rfl) station step

/-- Whatever a source delivers and in whatever pieces, whether it fails, whatever the link and the
control answer, and before whichever steps the flag is set from outside: a listener takes the lines
in order and ends as listening to them does. Those it has acted on are the first lines; they account
for one attempt to send or one request for a speed each, as the text between their blanks asks, and
for one warning each that fails but may pass, and what they did is kept. It is given up only if the
length of the longest frame is no machine word. If the flag is not set from outside, this is what
listening comes to. -/
theorem listener_interprets_lines (transmitter : Transmitter) (source : Source) (station : Station)
    (timer : TimerPhase) (sets : Nat → Bool) :
    ∃ count left turns result after,
      (transmitter.interleave (Move.amid sets 0 count)
          { station, source, timer, listener := .reading }).2 =
        { station := after, source := left, timer, listener := .closing result } ∧
      transmitter.Listens sets 0 source.script station turns result after ∧
      turns.map (fun turn => .ok turn.line) <+: source.script ∧
      station.Tally transmitter turns after ∧
      (result = .error .overflow → UInt64.size ≤ 14 + transmitter.payloadLimit.toNat) ∧
      ((∀ step, sets step = false) → transmitter.listen source station = (result, after)) := by
  obtain ⟨count, left, turns, result, after, moved, listens⟩ :=
    transmitter.follows sets source station timer 0
  refine ⟨count, left, turns, result, after, moved, listens, listens.prefix_script, listens.tally,
    listens.beyond, ?_⟩
  intro never
  rw [transmitter.listen_eq, listens.listenTo_eq never]

/-- A zero between blanks that is read in parts, with an interrupted read among them, a line that is
no command and a last line that is not ended: the frame is sent once and the slow speed is asked
for. A line of a byte that is no text ends the listening, and what the line before it did is
kept. -/
theorem listener_interprets_lines_blanks :
    let transmitter : Transmitter := {
      interface := "eth0", payloadLimit := 1500
      frame := { destination := .broadcast, source := .zero, protocolType := .bench
                 payload := [1, 2] } }
    let never : Nat → Bool := fun _ => false
    let ended : Source := {
      pieces := [[0xc2], [], [0xa0, 0x30, 0x09, 0x0d], [0x0a, 0x78, 0x0a, 0x20, 0x32]] }
    let garbled : Source := { pieces := [[0x30, 0x20, 0x0a, 0xff, 0x0a, 0x30, 0x0a]] }
    Asks "\u00a00\t" (some .sendNow) ∧
      ended.script = [.ok "\u00a00\t", .ok "x", .ok " 2"] ∧
      garbled.script = [.ok "0 ", .error .notText, .ok "0"] ∧
      (∃ turns after, transmitter.Listens never 0 ended.script {} turns (.ok ()) after ∧
        after.outbound.wire = [transmitter.frame.bytes] ∧ after.requests = [("eth0", .slow)]) ∧
      ∃ turns after,
        transmitter.Listens never 0 garbled.script {} turns (.error (.io .notText)) after ∧
          after.outbound.wire = [transmitter.frame.bytes] ∧ after.requests = [] := by
  intro transmitter never ended garbled
  have lines : ended.script = [.ok "\u00a00\t", .ok "x", .ok " 2"] := by rfl
  have front : garbled.script = [.ok "0 ", .error .notText, .ok "0"] := by rfl
  obtain ⟨_, _, turns, result, after, _, listens, _, _, _, alone⟩ :=
    transmitter.listener_interprets_lines ended {} .sending never
  obtain ⟨_, _, few, lost, kept, _, fails, _, _, _, apart⟩ :=
    transmitter.listener_interprets_lines garbled {} .sending never
  have listened := alone fun _ => rfl
  have broken := apart fun _ => rfl
  rw [transmitter.listen_eq] at listened broken
  obtain ⟨rfl, rfl⟩ := Prod.mk.inj listened
  obtain ⟨rfl, rfl⟩ := Prod.mk.inj broken
  refine ⟨asks_parse _, lines, front, ⟨turns, _, listens, ?_, ?_⟩, few, _, fails, ?_, ?_⟩
  · decide
  · decide
  · decide
  · decide

end Transmitter

end PcmLink
