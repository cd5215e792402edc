import PcmLink.Proofs.Transmitter.Listening

/-!
# Noise on the input of a listener

A listener passes over every line of text that is no command: it does what it would do if only the
commands were there. But a line whose bytes are not text cannot be read, and that ends the listening
as a failure, just as a command does that fails for good. If it attends to a timer, it sets the flag
in both cases unless it is given up, so noise of the second kind stops the timer too.
-/

namespace PcmLink

namespace Source

/-- The only lines of a source that does not fail that cannot be read are those that are no text. -/
theorem eq_notText_of_mem_script {source : Source} (unfailing : source.failure = none)
    {failure : IoError} (found : .error failure ∈ source.script) : failure = .notText := by
  have unread {bytes : List UInt8} (same : .error failure = readText bytes) :
      failure = .notText := by
    unfold readText at same
    split at same
    · exact Except.error.inj same
    · cases same
  rw [script, unfailing] at found
  generalize source.bytes.splitOn lineFeed = parts at found
  induction parts with
  | nil => cases found
  | cons part rest ih =>
    cases rest with
    | nil =>
      by_cases empty : part = []
      · simp [readParts, empty] at found
      · have single : readParts none [part] = [readText part] := if_neg empty
        rw [single] at found
        exact unread (List.mem_singleton.mp found)
    | cons next rest =>
      rcases List.mem_cons.mp found with here | later
      · exact unread here
      · exact ih later

end Source

/-- The line was a command that failed for good. -/
def Turn.Fails (turn : Turn) (error : Error) : Prop :=
  turn.result = .error error ∧ error.isFatal = true

/-- A listener that has acted on lines breaks off with an error: a command among them failed for
good, or the next line cannot be read. -/
def Breaks (turns : List Turn) (script : List (Except IoError String)) (error : Error) : Prop :=
  (∃ turn ∈ turns, turn.Fails error) ∨
    (∀ turn ∈ turns, ∀ other, ¬ turn.Fails other) ∧
      ∃ failure, error = .io failure ∧
        turns.map (fun turn => .ok turn.line) ++ [.error failure] <+: script

/-- A line that did not fail for good is not what a listener breaks off at. -/
theorem breaks_cons {turn : Turn} (survived : ∀ other, ¬ turn.Fails other) (turns : List Turn)
    (rest : List (Except IoError String)) (error : Error) :
    Breaks (turn :: turns) (.ok turn.line :: rest) error ↔ Breaks turns rest error := by
  unfold Breaks
  simp only [List.mem_cons, exists_eq_or_imp, forall_eq_or_imp, survived, false_or,
    List.map_cons, List.cons_append, List.cons_prefix_cons, true_and, not_false_eq_true,
    implies_true]

namespace Transmitter

section Breaking

variable {transmitter : Transmitter} {sets : Nat → Bool} {step : Nat}
  {script : List (Except IoError String)} {station after : Station} {turns : List Turn}
  {result : Except Error Unit}

/-- Listening fails with the errors that it breaks off with. -/
theorem Listens.error_iff
    (listens : transmitter.Listens sets step script station turns result after) (error : Error) :
    result = .error error ↔ Breaks turns script error := by
  induction listens with
  | finished step station => simp [Breaks]
  | stopped line rest looked set => simp [Breaks]
  | unreadable step failure rest station =>
    simp only [Breaks, List.not_mem_nil, false_and, exists_false, false_or, false_implies,
      implies_true, true_and, List.map_nil, List.nil_append, List.cons_prefix_cons,
      Except.error.injEq, List.nil_prefix, and_true]
    constructor
    · rintro rfl
      exact ⟨failure, rfl, rfl⟩
    · rintro ⟨other, rfl, rfl⟩
      rfl
  | @fatal step station seen after line rest failed looked unset does lasting =>
    have fails : Turn.Fails ⟨line, .error failed⟩ failed := ⟨rfl, lasting⟩
    constructor
    · intro same
      obtain rfl := Except.error.inj same
      exact .inl ⟨_, List.mem_singleton_self _, fails⟩
    · rintro (⟨turn, found, same, _⟩ | ⟨survived, _⟩)
      · rwa [List.mem_singleton.mp found] at same
      · exact absurd fails (survived _ (List.mem_singleton_self _) _)
  | warned looked unset does passing later ih =>
    rw [ih]
    apply (breaks_cons _ _ _ _).symm
    rintro other ⟨same, lasting⟩
    obtain rfl := Except.error.inj same
    cases passing.symm.trans lasting
  | done looked unset does later ih =>
    rw [ih]
    apply (breaks_cons _ _ _ _).symm
    rintro other ⟨same, _⟩
    cases same

end Breaking

variable (transmitter : Transmitter)

/-- The line is a command or cannot be read. -/
def matters : Except IoError String → Bool
  | .ok line => (Command.parse line).isSome
  | .error _ => true

/-- Nothing is done with lines that can be read while the flag is set. -/
theorem listenTo_of_stopped {script : List (Except IoError String)} {station : Station}
    (readable : ∀ failure, .error failure ∉ script) (stopped : station.stopped = true) :
    transmitter.listenTo script station = (.ok (), station) := by
  cases script with
  | nil => rfl
  | cons entry rest =>
    cases entry with
    | error failure => exact absurd List.mem_cons_self (readable failure)
    | ok line => rw [listenTo, if_pos stopped]

/-- Lines of text that are no commands make no difference. -/
theorem listenTo_filter {script : List (Except IoError String)}
    (readable : ∀ failure, .error failure ∉ script) (station : Station) :
    transmitter.listenTo (script.filter matters) station =
      transmitter.listenTo script station := by
  induction script generalizing station with
  | nil => rfl
  | cons entry rest ih =>
    have later (failure : IoError) : .error failure ∉ rest :=
      fun found => readable failure (List.mem_cons_of_mem _ found)
    cases entry with
    | error failure => exact absurd List.mem_cons_self (readable failure)
    | ok line =>
      cases parsed : Command.parse line with
      | some command =>
        rw [List.filter_cons_of_pos (by simp [matters, parsed]), listenTo, listenTo]
        simp only [ih later]
      | none =>
        have silent : transmitter.obey line station = (none, station) := by rw [obey, parsed]
        rw [List.filter_cons_of_neg (by simp [matters, parsed]), ih later, listenTo, silent]
        by_cases stopped : station.stopped
        · rw [if_pos stopped, transmitter.listenTo_of_stopped later stopped]
        · rw [if_neg stopped]

/-- Whenever the flag is set from outside, a listener whose source does not fail fails exactly if a
command that it carries out fails for good, or if it comes to a line that is no text; only then,
unless it is given up, does it set the flag itself if it attends to a timer. It passes over lines of
text that are no commands: if all lines are text, it does what it does with the commands alone. -/
theorem listener_fails_iff (source : Source) (station : Station) (timer : TimerPhase)
    (sets : Nat → Bool) (unfailing : source.failure = none) :
    (∃ count left turns result after,
        (transmitter.interleave (Move.amid sets 0 count)
            { station, source, timer, listener := .reading }).2 =
          { station := after, source := left, timer, listener := .closing result } ∧
        transmitter.Listens sets 0 source.script station turns result after ∧
        (∀ error, result = .error error ↔
          (∃ turn ∈ turns, turn.Fails error) ∨
            error = .io .notText ∧ (∀ turn ∈ turns, ∀ other, ¬ turn.Fails other) ∧
              turns.map (fun turn => .ok turn.line) ++ [.error .notText] <+: source.script) ∧
        ((∀ step, sets step = false) →
          transmitter.listen source station = (result, after) ∧
            transmitter.attend source station =
              (result, match result with
                | .ok () | .error .overflow => after
                | .error _ => after.stop))) ∧
      ((∀ failure, .error failure ∉ source.script) →
        ∀ commands : Source, commands.script = source.script.filter matters →
          transmitter.listen commands station = transmitter.listen source station) := by
  constructor
  · obtain ⟨count, left, turns, result, after, moved, listens⟩ :=
      transmitter.follows sets source station timer 0
    refine ⟨count, left, turns, result, after, moved, listens, ?_, ?_⟩
    · intro error
      rw [listens.error_iff, Breaks]
      apply or_congr_right
      constructor
      · rintro ⟨survived, failure, rfl, front⟩
        have found : .error failure ∈ source.script :=
          front.subset (List.mem_append_right _ (List.mem_singleton_self _))
        obtain rfl := Source.eq_notText_of_mem_script unfailing found
        exact ⟨rfl, survived, front⟩
      · rintro ⟨rfl, survived, front⟩
        exact ⟨survived, _, rfl, front⟩
    · intro never
      have listened : transmitter.listen source station = (result, after) := by
        rw [transmitter.listen_eq, listens.listenTo_eq never]
      refine ⟨listened, ?_⟩
      rw [attend, listened]
      cases result with
      | ok => rfl
      | error error => cases error <;> rfl
  · intro readable commands filtered
    rw [transmitter.listen_eq, filtered, transmitter.listenTo_filter readable,
      ← transmitter.listen_eq]

/-- A line of one byte that is no text keeps a listener from the zero behind it and stops the timer;
a line of text that is no command does not. -/
theorem listener_fails_iff_garbled :
    let transmitter : Transmitter := {
      interface := "eth0", payloadLimit := 1500
      frame := { destination := .broadcast, source := .zero, protocolType := .bench
                 payload := [1, 2] } }
    let garbled : Source := { pieces := [[0xff], [0x0a, 0x30, 0x0a]] }
    let other : Source := { pieces := [[0x78, 0x0a, 0x30, 0x0a]] }
    let zero : Source := { pieces := [[0x30]] }
    garbled.failure = none ∧ other.failure = none ∧
      (transmitter.listen garbled {}).1 = .error (.io .notText) ∧
      (transmitter.attend garbled {}).2.stopped = true ∧
      (transmitter.attend garbled {}).2.outbound.wire = [] ∧
      transmitter.listen zero {} = transmitter.listen other {} ∧
      (transmitter.attend other {}).2.stopped = false ∧
      (transmitter.attend other {}).2.outbound.wire = [transmitter.frame.bytes] := by
  intro transmitter garbled other zero
  let never : Nat → Bool := fun _ => false
  have failed : transmitter.listen garbled {} = (.error (.io .notText), {}) := by
    rw [transmitter.listen_eq]
    rfl
  have lines : other.script = [.ok "x", .ok "0"] := by rfl
  have commands : zero.script = other.script.filter matters := by rfl
  have readable : ∀ failure, .error failure ∉ other.script := by
    rw [lines]
    simp
  obtain ⟨⟨_, _, _, result, after, _, _, _, stops⟩, _⟩ :=
    transmitter.listener_fails_iff garbled {} .sending never rfl
  obtain ⟨listened, stops⟩ := stops fun _ => rfl
  obtain ⟨rfl, rfl⟩ := Prod.mk.inj (listened.symm.trans failed)
  obtain ⟨⟨_, _, _, result, after, _, _, _, goes⟩, passes⟩ :=
    transmitter.listener_fails_iff other {} .sending never rfl
  obtain ⟨listened, goes⟩ := goes fun _ => rfl
  have same := passes readable zero commands
  -- The line that is no command is left out before the listener is run.
  rw [← same, transmitter.listen_eq] at listened
  obtain ⟨rfl, rfl⟩ := Prod.mk.inj listened.symm
  refine ⟨rfl, rfl, ?_, ?_, ?_, same, ?_, ?_⟩
  · rw [failed]
  · rw [stops]
    rfl
  · rw [stops]
    rfl
  · rw [goes]
    rfl
  · rw [goes]
    rfl

end Transmitter

end PcmLink
