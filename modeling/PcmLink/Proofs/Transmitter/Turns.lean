import PcmLink.Proofs.Text.Blank
import PcmLink.Proofs.Transmitter.Endurance

/-!
# Lines that are acted on

What a line asks for is decided by the text that stands in it between blanks. It makes one attempt
to send, or one request for a speed, or it does nothing; a failure that may pass leaves one warning.
So the lines that were acted on account for all that they changed at the link, at the control and in
the warnings.
-/

namespace PcmLink

/-- What a line asks for, by the text that stands in it between blanks. -/
inductive Asks (line : String) : Option Command → Prop where
  /-- Zero sends. -/
  | send (text : Text.Stands "0" line) : Asks line (some .sendNow)
  /-- One asks for the fast speed. -/
  | fast (text : Text.Stands "1" line) : Asks line (some (.setSpeed "100"))
  /-- Two asks for the slow speed. -/
  | slow (text : Text.Stands "2" line) : Asks line (some (.setSpeed "10"))
  /-- A speed is asked for by its option, which stands between blanks as well. -/
  | speed {rest option : String} (text : Text.Stands ("speed " ++ rest) line)
    (value : Text.Stands option rest) : Asks line (some (.setSpeed option))
  /-- Any other text asks for nothing. -/
  | nothing (idle : ∀ text, Text.Stands text line →
      text ∉ ["0", "1", "2"] ∧ ∀ rest, text ≠ "speed " ++ rest) : Asks line none

/-- The command that a line gives is what it asks for. -/
theorem asks_parse (line : String) : Asks line (Command.parse line) := by
  have stands {chars : List Char} (trimmed : Text.trim line.toList = chars) :
      Text.Stands (String.ofList chars) line := by
    rw [Text.stands_iff, trimmed, String.toList_ofList]
  unfold Command.parse
  dsimp only
  by_cases zero : Text.trim line.toList = ['0']
  · rw [if_pos zero]
    exact .send (stands zero)
  rw [if_neg zero]
  by_cases one : Text.trim line.toList = ['1']
  · rw [if_pos one]
    exact .fast (stands one)
  rw [if_neg one]
  by_cases two : Text.trim line.toList = ['2']
  · rw [if_pos two]
    exact .slow (stands two)
  rw [if_neg two]
  cases found : Text.afterPrefix? "speed ".toList (Text.trim line.toList) with
  | some rest =>
    have whole := stands (Text.afterPrefix?_eq_some_iff.mp found)
    rw [String.ofList_append, String.ofList_toList] at whole
    apply Asks.speed whole
    rw [Text.stands_iff, String.toList_ofList, String.toList_ofList]
  | none =>
    apply Asks.nothing
    intro text within
    have trimmed := Text.stands_iff.mp within
    constructor
    · intro digit
      rw [List.mem_cons, List.mem_cons, List.mem_singleton] at digit
      rcases digit with same | same | same
      · exact zero (by rw [trimmed, same]; rfl)
      · exact one (by rw [trimmed, same]; rfl)
      · exact two (by rw [trimmed, same]; rfl)
    · intro rest same
      rw [same, String.toList_append] at trimmed
      cases found.symm.trans (Text.afterPrefix?_eq_some_iff.mpr trimmed)

/-- What a line asks for is the command that it gives. -/
theorem Asks.parse_eq {line : String} {command : Option Command} (asks : Asks line command) :
    Command.parse line = command := by
  cases asks with
  | send text =>
    rw [Command.parse, Text.stands_iff.mp text]
    rfl
  | fast text =>
    rw [Command.parse, Text.stands_iff.mp text]
    rfl
  | slow text =>
    rw [Command.parse, Text.stands_iff.mp text]
    rfl
  | @speed rest option text value =>
    have long (c : Char) : "speed ".toList ++ rest.toList ≠ [c] := by simp
    have found : Text.afterPrefix? "speed ".toList ("speed ".toList ++ rest.toList) =
        some rest.toList := Text.afterPrefix?_eq_some_iff.mpr rfl
    have trimmed := Text.stands_iff.mp text
    rw [String.toList_append] at trimmed
    simp only [Command.parse, trimmed, if_neg (long _), found, Option.map_some,
      Text.stands_iff.mp value, String.ofList_toList]
  | nothing idle =>
    cases parsed : Command.parse line with
    | none => rfl
    | some command =>
      have asks := asks_parse line
      rw [parsed] at asks
      cases asks with
      | send text => exact absurd (by decide) (idle _ text).1
      | fast text => exact absurd (by decide) (idle _ text).1
      | slow text => exact absurd (by decide) (idle _ text).1
      | speed text => exact absurd rfl ((idle _ text).2 _)

/-- A line that was acted on. -/
structure Turn where
  /-- The line. -/
  line : String
  /-- What carrying out its command came to; a line without one is no failure. -/
  result : Except Error Unit

namespace Turn

/-- The line made an attempt to send. -/
def sends (turn : Turn) : Bool := Command.parse turn.line == some .sendNow

/-- The speed that the control was asked for. -/
def speed? (turn : Turn) : Option LinkSpeed :=
  match Command.parse turn.line with
  | some (.setSpeed option) => (LinkSpeed.parse option).toOption
  | _ => none

/-- The warning that the line left, if the listener survived it. -/
def warning? (turn : Turn) : Option Warning :=
  match turn.result with
  | .ok () => none
  | .error error => if error.isFatal then none else some (.failedCommand error)

end Turn

namespace Transmitter

/-- What acting on a line comes to: one attempt to send, one request for a speed, or nothing. -/
inductive Does (transmitter : Transmitter) (line : String) (before : Station) :
    Except Error Unit → Station → Prop where
  /-- A frame is sent. -/
  | send (asks : Asks line (some .sendNow)) {result : Except Error Nat} {after : Station}
    (sent : transmitter.sendNow before = (result, after)) :
    Does transmitter line before (result.map fun _ => ()) after
  /-- A speed is asked for. -/
  | speed {option : String} (asks : Asks line (some (.setSpeed option)))
    {result : Except Error LinkSpeed} {after : Station}
    (asked : before.setSpeed transmitter.interface option = (result, after)) :
    Does transmitter line before (result.map fun _ => ()) after
  /-- Neither the link nor the control is touched. -/
  | nothing (asks : Asks line none) : Does transmitter line before (.ok ()) before

/-- Acting on a line comes to something. -/
theorem exists_does (transmitter : Transmitter) (line : String) (station : Station) :
    ∃ result after, transmitter.Does line station result after := by
  have asks := asks_parse line
  cases parsed : Command.parse line with
  | none =>
    rw [parsed] at asks
    exact ⟨_, _, .nothing asks⟩
  | some command =>
    rw [parsed] at asks
    cases command with
    | sendNow => exact ⟨_, _, .send asks rfl⟩
    | setSpeed option => exact ⟨_, _, .speed asks rfl⟩

/-- What acting on a line comes to is survived if it may pass. -/
theorem Does.obey_eq {transmitter : Transmitter} {line : String} {before after : Station}
    {result : Except Error Unit} (does : transmitter.Does line before result after) :
    transmitter.obey line before = survive .failedCommand result after := by
  cases does with
  | send asks sent => simp only [obey, asks.parse_eq, handle, sent]
  | speed asks asked => simp only [obey, asks.parse_eq, handle, asked]
  | nothing asks =>
    rw [obey, asks.parse_eq]
    rfl

end Transmitter

/-- From one station to another these lines were acted on, and they account for all that changed
at the link, at the control and in the warnings. -/
structure Station.Tally (before : Station) (transmitter : Transmitter) (turns : List Turn)
    (after : Station) : Prop where
  /-- The link is behind one attempt to send for each line that sends. -/
  outbound : after.outbound = transmitter.past before.outbound (turns.countP Turn.sends)
  /-- The control was asked for the speed of each line that names one, in order. -/
  requests : after.requests = before.requests ++
    (turns.filterMap Turn.speed?).map fun speed => (transmitter.interface, speed)
  /-- Each of these requests has used up what it met. -/
  control : after.control = before.control.drop (turns.filterMap Turn.speed?).length
  /-- There is one warning for each failure that may pass, in order. -/
  warnings : after.warnings = before.warnings ++ turns.filterMap Turn.warning?

namespace Station

variable {before middle after : Station} {transmitter : Transmitter} {first second : List Turn}

/-- What is accounted for first and what is accounted for then are accounted for together. -/
theorem Tally.trans (front : before.Tally transmitter first middle)
    (back : middle.Tally transmitter second after) :
    before.Tally transmitter (first ++ second) after where
  outbound := by
    rw [back.outbound, front.outbound, transmitter.past_past, List.countP_append]
  requests := by
    rw [back.requests, front.requests, List.filterMap_append, List.map_append, List.append_assoc]
  control := by
    rw [back.control, front.control, List.drop_drop, List.filterMap_append, List.length_append]
  warnings := by
    rw [back.warnings, front.warnings, List.filterMap_append, List.append_assoc]

end Station

namespace Transmitter

variable {transmitter : Transmitter} {line : String} {before after : Station}
  {result : Except Error Unit}

/-- A line accounts for what it does to the link and to the control, and gives no warning. -/
theorem Does.touches (does : transmitter.Does line before result after) {turn : Turn}
    (about : turn.line = line) :
    after.outbound = transmitter.past before.outbound ([turn].countP Turn.sends) ∧
      after.requests = before.requests ++
        ([turn].filterMap Turn.speed?).map (fun speed => (transmitter.interface, speed)) ∧
      after.control = before.control.drop ([turn].filterMap Turn.speed?).length ∧
      after.warnings = before.warnings := by
  cases does with
  | send asks sent =>
    have tried := (transmitter.tries_sendNow before).outbound
    obtain ⟨outbound, stopped, stopIn, same⟩ := transmitter.exists_sendNow before
    rw [sent] at tried same
    dsimp only at tried same
    have sends : [turn].countP Turn.sends = 1 := by
      simp [Turn.sends, about, asks.parse_eq]
    have speed : [turn].filterMap Turn.speed? = [] := by
      simp [Turn.speed?, about, asks.parse_eq]
    rw [sends, speed]
    refine ⟨tried, ?_, ?_, ?_⟩
    · rw [same, List.map_nil, List.append_nil]
    · rw [same]
      rfl
    · rw [same]
  | @speed option asks result _ asked =>
    have same := before.setSpeed_snd transmitter.interface option
    rw [asked] at same
    dsimp only at same
    have sends : [turn].countP Turn.sends = 0 := by
      simp [Turn.sends, about, asks.parse_eq]
    have speed : [turn].filterMap Turn.speed? = (LinkSpeed.parse option).toOption.toList := by
      cases parsed : LinkSpeed.parse option <;>
        simp [Turn.speed?, about, asks.parse_eq, parsed, Except.toOption]
    rw [sends, speed, transmitter.past_zero, same]
    exact ⟨rfl, rfl, rfl, rfl⟩
  | nothing asks =>
    have sends : [turn].countP Turn.sends = 0 := by
      simp [Turn.sends, about, asks.parse_eq]
    have speed : [turn].filterMap Turn.speed? = [] := by
      simp [Turn.speed?, about, asks.parse_eq]
    rw [sends, speed, transmitter.past_zero, List.map_nil, List.append_nil]
    exact ⟨rfl, rfl, rfl, rfl⟩

/-- A line accounts for what it does, the warning about its failure included. -/
theorem Does.tally (does : transmitter.Does line before result after) :
    before.Tally transmitter [⟨line, result⟩] (survive .failedCommand result after).2 := by
  let turn : Turn := ⟨line, result⟩
  have about : turn.line = line := rfl
  obtain ⟨outbound, requests, control, warnings⟩ := does.touches about
  have silent (same : turn.warning? = none) : before.Tally transmitter [turn] after :=
    { outbound, requests, control
      warnings := by rw [warnings, List.filterMap_cons_none same]; exact (List.append_nil _).symm }
  cases result with
  | ok => exact silent rfl
  | error error =>
    by_cases fatal : error.isFatal
    · rw [survive_of_fatal fatal]
      exact silent (if_pos fatal)
    · rw [survive_of_not_fatal fatal]
      have warned : turn.warning? = some (.failedCommand error) := if_neg fatal
      exact { outbound, requests, control
              warnings := by
                rw [List.filterMap_cons_some warned, Station.warn, warnings]
                rfl }

end Transmitter

end PcmLink
