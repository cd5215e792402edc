import PcmLink.Proofs.Transmitter.Endurance

/-!
# How a running timer ends

A timer sends before it looks at the flag, so the write during which the flag is set is its last
one, unless a write before it, or that write itself, meets a fatal failure. Which of the two comes
first is read off what the writes of the link meet, and with it the number of writes and the result.
A flag that is set already leaves one attempt. Where the length of the longest frame is no machine
word, the timer is given up at its first tick and makes no write.
-/

namespace PcmLink

/-- The fatal error that a write comes to if it meets the outcome. -/
def WriteOutcome.fatal? (interface : String) : WriteOutcome → Option Error
  | .failed failure => Option.guard Error.isFatal (.ofSocket failure interface)
  | .accepted | .reported _ => none

/-- The number, counted from one, of the first write that meets a fatal failure, and its error. -/
def firstFatal? (interface : String) : List WriteOutcome → Option (Nat × Error)
  | [] => none
  | outcome :: later =>
    match outcome.fatal? interface with
    | some error => some (1, error)
    | none => (firstFatal? interface later).map fun (number, error) => (number + 1, error)

section Fatal

variable (interface : String)

/-- Beyond the given outcomes writes succeed, so the first one is always there to look at. -/
theorem firstFatal?_eq (outcomes : List WriteOutcome) :
    firstFatal? interface outcomes =
      match (outcomes.getD 0 .accepted).fatal? interface with
      | some error => some (1, error)
      | none =>
        (firstFatal? interface (outcomes.drop 1)).map
          fun (number, error) => (number + 1, error) := by
  cases outcomes with
  | nil => rfl
  | cons outcome later => rfl

/-- Writes are counted from one. -/
theorem pos_of_firstFatal? {outcomes : List WriteOutcome} {number : Nat} {error : Error}
    (found : firstFatal? interface outcomes = some (number, error)) : 0 < number := by
  rw [firstFatal?_eq] at found
  split at found
  · obtain ⟨rfl, _⟩ := Prod.mk.inj (Option.some.inj found)
    exact Nat.one_pos
  · obtain ⟨⟨before, _⟩, _, same⟩ := Option.map_eq_some_iff.mp found
    obtain ⟨rfl, _⟩ := Prod.mk.inj same
    exact Nat.succ_pos before

end Fatal

namespace Transmitter

/-- The fatal error that a result is, if it is one. -/
def fatal? : Except Error Nat → Option Error
  | .ok _ => none
  | .error error => Option.guard Error.isFatal error

/-- With how many writes a timer ends if the flag is set with one of them. -/
def lastWrite (count : Nat) (fatal : Option (Nat × Error)) : Nat :=
  fatal.elim count fun (number, _) => min count number

/-- What a timer ends with if the flag is set with one of its writes. -/
def lastResult (count : Nat) (fatal : Option (Nat × Error)) : Except Error Unit :=
  fatal.elim (.ok ()) fun (number, error) => if number ≤ count then .error error else .ok ()

section Counts

variable (count : Nat) (interface : String) (outcomes : List WriteOutcome)

/-- A fatal failure of the next write makes it the last one. -/
theorem lastWrite_fatal (error : Error) :
    lastWrite (count + 1) (some (1, error)) = 1 ∧
      lastResult (count + 1) (some (1, error)) = .error error := by
  have first : 1 ≤ count + 1 := Nat.le_add_left 1 count
  refine ⟨Nat.min_eq_right first, ?_⟩
  simp [lastResult]

/-- A write that meets none counts for the flag and for the first fatal failure alike. -/
theorem lastWrite_succ (later : Option (Nat × Error)) :
    let fatal := later.map fun (number, error) => (number + 1, error)
    lastWrite (count + 1) fatal = lastWrite count later + 1 ∧
      lastResult (count + 1) fatal = lastResult count later := by
  cases later with
  | none => exact ⟨rfl, rfl⟩
  | some found =>
    obtain ⟨number, error⟩ := found
    refine ⟨Nat.succ_min_succ count number, ?_⟩
    simp [lastResult]

/-- No fatal failure comes before the first write. -/
theorem lastWrite_zero :
    lastWrite 0 (firstFatal? interface outcomes) = 0 ∧
      lastResult 0 (firstFatal? interface outcomes) = .ok () := by
  cases fatal : firstFatal? interface outcomes with
  | none => exact ⟨rfl, rfl⟩
  | some found =>
    have positive := pos_of_firstFatal? interface fatal
    exact ⟨Nat.zero_min _, if_neg (Nat.not_le.mpr positive)⟩

/-- A timer writes at least once. -/
theorem lastWrite_pos : 0 < lastWrite (count + 1) (firstFatal? interface outcomes) := by
  rw [firstFatal?_eq]
  split
  · rw [(lastWrite_fatal count _).1]
    exact Nat.one_pos
  · rw [(lastWrite_succ count _).1]
    exact Nat.succ_pos _

end Counts

section Ticks

variable (transmitter : Transmitter)

/-- A timed send ends the timer with the fatal error it came to, and otherwise leaves the warning
that its result leaves. -/
theorem survive_eq (result : Except Error Nat) (station : Station) :
    survive .failedSend result station =
      ((fatal? result).map .error,
        { station with warnings := station.warnings ++ [result].filterMap outlasted }) := by
  cases result with
  | ok sent => simp [survive, fatal?, outlasted, List.filterMap_cons]
  | error error =>
    by_cases fatal : error.isFatal
    · simp [survive, fatal?, outlasted, fatal, Option.guard]
    · simp [survive, fatal?, outlasted, fatal, Option.guard, Station.warn]

/-- A tick ends the timer with the fatal error of its attempt, and without one only if the flag is
set behind it. -/
theorem tick_of_sendNow {station after : Station} {result : Except Error Nat}
    (sent : transmitter.sendNow station = (result, after)) :
    transmitter.tick station =
      (((fatal? result).map .error).or (if after.stopped then some (.ok ()) else none),
        { after with warnings := station.warnings ++ [result].filterMap outlasted }) := by
  have silent := transmitter.warnings_sendNow station
  rw [sent] at silent
  have timed : transmitter.sendTimed station = survive .failedSend result after := by
    rw [sendTimed, sent]
  rw [tick_eq, timed, survive_eq, ← silent]

/-- The warnings of a timer are those that the results of its attempts leave. -/
theorem warnings_run (ticks : Nat) (station : Station) :
    (transmitter.run ticks station).2.warnings =
      station.warnings ++ (transmitter.runAttempts ticks station).filterMap outlasted := by
  induction ticks generalizing station with
  | zero => exact (List.append_nil _).symm
  | succ ticks ih =>
    rcases sent : transmitter.sendNow station with ⟨result, after⟩
    have ticked := transmitter.tick_of_sendNow sent
    rcases made : transmitter.tick station with ⟨progress, final⟩
    rw [made] at ticked
    have warned : final.warnings = station.warnings ++ [result].filterMap outlasted := by
      rw [(Prod.mk.inj ticked).2]
    rw [run, runAttempts, sent, made]
    cases progress with
    | some ended => exact warned
    | none =>
      have later := ih final
      rw [warned, List.append_assoc, ← List.filterMap_append] at later
      exact later

/-- A timer whose frame is too long makes no write, and so none of its writes sets the flag. -/
theorem run_of_lt (inRange : 14 + transmitter.payloadLimit.toNat < UInt64.size)
    (long : 14 + transmitter.payloadLimit.toNat < transmitter.frame.bytes.length)
    {station : Station} (unset : station.stopped = false) (ticks : Nat) :
    ∃ warnings, transmitter.run ticks station = (none, { station with warnings }) := by
  induction ticks generalizing station with
  | zero => exact ⟨_, rfl⟩
  | succ ticks ih =>
    have refused : transmitter.sendNow station = _ :=
      send_of_tooLong (tooLong_send_iff.mpr ⟨inRange, long⟩)
    have onward : ∃ warnings, transmitter.tick station = (none, { station with warnings }) := by
      rw [transmitter.tick_of_sendNow refused]
      simp [fatal?, Option.guard, Error.isFatal, unset]
    obtain ⟨warnings, onward⟩ := onward
    rw [run, onward]
    exact ih unset

/-- A timer whose longest frame has no length that is a machine word is given up at once. -/
theorem run_of_overflow (beyond : UInt64.size ≤ 14 + transmitter.payloadLimit.toNat)
    (station : Station) (ticks : Nat) :
    transmitter.run (ticks + 1) station = (some (.error .overflow), station) := by
  have givenUp : transmitter.sendNow station = _ := send_of_overflow beyond
  have fatal : Error.overflow.isFatal = true := rfl
  have ticked : transmitter.tick station = (some (.error .overflow), station) := by
    rw [tick_eq, sendTimed, givenUp]
    dsimp only
    rw [survive_of_fatal fatal]
    rfl
  rw [run, ticked]

/-- A timer whose flag is set when it starts makes one attempt. -/
theorem run_of_stopped {station : Station} (stopped : station.stopped = true) (ticks : Nat) :
    (transmitter.run (ticks + 1) station).1 =
        some (((fatal? (transmitter.sendNow station).1).map .error).getD (.ok ())) ∧
      transmitter.runAttempts (ticks + 1) station = [(transmitter.sendNow station).1] := by
  have kept := (transmitter.hands_sendNow station).stopped stopped
  rcases sent : transmitter.sendNow station with ⟨result, after⟩
  rw [sent] at kept
  have ticked := transmitter.tick_of_sendNow sent
  rw [if_pos kept] at ticked
  rw [run, runAttempts, sent, ticked]
  cases fatal? result <;> exact ⟨rfl, rfl⟩

end Ticks

section Writes

variable {transmitter : Transmitter}

/-- The attempts to send a frame that is admitted come to the fatal errors of what its writes
meet. -/
theorem fatal?_reply (admitted : transmitter.Admits transmitter.frame.bytes) (outbound : Outbound)
    (index : Nat) :
    fatal? (transmitter.reply outbound index) =
      (outbound.outcomes.getD index .accepted).fatal? transmitter.interface := by
  rw [reply, if_pos admitted, Outbound.answer]
  cases outbound.outcomes.getD index .accepted with
  | failed failure => rfl
  | accepted | reported count =>
    dsimp only [WriteOutcome.answer, WriteOutcome.fatal?]
    split <;> rfl

/-- A write during which the flag is not set yet counts down to the one during which it is. -/
theorem countWrite_of_succ {station : Station} {count : Nat}
    (ahead : station.stopIn = some (count + 2)) :
    station.countWrite = { station with stopIn := some (count + 1) } := by
  simp [Station.countWrite, ahead]

/-- The flag is set during the write that is counted last. -/
theorem countWrite_of_one {station : Station} (ahead : station.stopIn = some 1) :
    station.countWrite = { station with stopped := true, stopIn := none } := by
  simp [Station.countWrite, ahead]

/-- The writes ahead of a link are those behind the next one. -/
theorem outcomes_past (admitted : transmitter.Admits transmitter.frame.bytes) (outbound : Outbound)
    (count : Nat) :
    (transmitter.past outbound count).outcomes = outbound.outcomes.drop count := by
  rw [past, if_pos admitted]
  rfl

/-- A timer whose flag is set during one of its writes ends with that write, unless one of its
writes so far meets a fatal failure. -/
theorem run_of_stopIn (admitted : transmitter.Admits transmitter.frame.bytes) {count : Nat}
    {station : Station} (unset : station.stopped = false)
    (ahead : station.stopIn = some (count + 1)) (ticks : Nat) :
    let fatal := firstFatal? transmitter.interface station.outbound.outcomes
    (transmitter.run ticks station).1 =
        (if ticks < lastWrite (count + 1) fatal then none
          else some (lastResult (count + 1) fatal)) ∧
      (transmitter.runAttempts ticks station).length = min ticks (lastWrite (count + 1) fatal) := by
  induction ticks generalizing count station with
  | zero =>
    intro fatal
    have positive : 0 < lastWrite (count + 1) fatal := lastWrite_pos count _ _
    rw [if_pos positive, Nat.zero_min]
    exact ⟨rfl, rfl⟩
  | succ ticks ih =>
    intro fatal
    have first : fatal = _ := firstFatal?_eq transmitter.interface station.outbound.outcomes
    have sent := transmitter.sendNow_of_admits admitted station
    have ticked := transmitter.tick_of_sendNow sent
    rw [fatal?_reply admitted] at ticked
    rw [run, runAttempts, sent, ticked]
    cases met : (station.outbound.outcomes.getD 0 .accepted).fatal? transmitter.interface with
    | some error =>
      rw [met] at first
      rw [first, (lastWrite_fatal count error).1, (lastWrite_fatal count error).2]
      simp
    | none =>
      rw [met] at first
      rw [first, (lastWrite_succ count _).1, (lastWrite_succ count _).2]
      -- Behind this write the flag is set, or as many writes as before but one are ahead.
      cases count with
      | zero =>
        rw [(lastWrite_zero _ _).1, (lastWrite_zero _ _).2, countWrite_of_one ahead]
        simp
      | succ count =>
        rw [countWrite_of_succ ahead]
        dsimp only
        rw [if_neg (Bool.not_eq_true _ ▸ unset)]
        obtain ⟨ended, made⟩ := @ih count {
          station with
          outbound := transmitter.past station.outbound 1
          stopIn := some (count + 1)
          warnings := station.warnings ++
            [transmitter.reply station.outbound 0].filterMap outlasted } unset rfl
        rw [outcomes_past admitted] at ended made
        simp only [Nat.add_lt_add_iff_right, Nat.add_min_add_right]
        exact ⟨ended, congrArg (· + 1) made⟩

end Writes

section Endings

variable (transmitter : Transmitter)

/-- A timer whose flag is set during one of its writes, counted from one, ends with that write or
with the first one that meets a fatal failure, whichever comes first, and in the latter case with
the error of that failure, also if it is the same write. Until then it has made one write for each
tick and has told of each attempt that failed otherwise in a warning. A frame that is longer than
the limit is never written, so no write of it can set the flag; and where the limit is no machine
word, the timer is given up before any write. A timer whose flag is set when it starts makes one
attempt, and ends with its error if that is fatal. -/
theorem timer_ends_at_stop_or_fatal (station : Station) :
    let bytes := transmitter.frame.bytes
    let limit := 14 + transmitter.payloadLimit.toNat
    let outbound := station.outbound
    let fatal := firstFatal? transmitter.interface outbound.outcomes
    (∀ count, transmitter.Admits bytes → 1 ≤ count →
      station.stopped = false → station.stopIn = some count →
      let writes := fatal.elim count fun (number, _) => min count number
      let result := fatal.elim (.ok ()) fun (number, error) =>
        if number ≤ count then .error error else .ok ()
      ∀ ticks,
        let (progress, final) := transmitter.run ticks station
        let results := transmitter.runAttempts ticks station
        progress = (if ticks < writes then none else some result) ∧
          final.outbound.handed = outbound.handed ++ List.replicate (min ticks writes) bytes ∧
          results = (List.range (min ticks writes)).map (transmitter.reply outbound) ∧
          final.warnings = station.warnings ++ results.filterMap outlasted) ∧
    (limit < UInt64.size → limit < bytes.length → station.stopped = false → ∀ ticks,
      let (progress, final) := transmitter.run ticks station
      progress = none ∧ final.outbound = outbound ∧ final.stopped = false) ∧
    (UInt64.size ≤ limit → ∀ ticks, 1 ≤ ticks →
      transmitter.run ticks station = (some (.error .overflow), station)) ∧
    (station.stopped = true → ∀ ticks, 1 ≤ ticks →
      let (progress, final) := transmitter.run ticks station
      let result := (transmitter.sendNow station).1
      transmitter.runAttempts ticks station = [result] ∧
        final.outbound = transmitter.past outbound 1 ∧
        progress = some (((fatal? result).map .error).getD (.ok ())) ∧
        final.warnings = station.warnings ++ [result].filterMap outlasted) := by
  intro bytes limit outbound fatal
  refine ⟨?_, ?_, ?_, ?_⟩
  · intro count admitted positive unset ahead writes result ticks
    obtain ⟨count, rfl⟩ := Nat.exists_eq_add_of_le' positive
    obtain ⟨ended, made⟩ := run_of_stopIn admitted unset ahead ticks
    have tries := transmitter.tries_run ticks station
    have replies := tries.replies
    have link := tries.outbound
    rw [made] at replies link
    refine ⟨ended, ?_, replies, transmitter.warnings_run ticks station⟩
    rw [link, past, if_pos admitted]
    rfl
  · intro inRange long unset ticks
    obtain ⟨warnings, still⟩ := transmitter.run_of_lt inRange long unset ticks
    rw [still]
    exact ⟨rfl, rfl, unset⟩
  · intro beyond ticks positive
    obtain ⟨ticks, rfl⟩ := Nat.exists_eq_add_of_le' positive
    exact transmitter.run_of_overflow beyond station ticks
  · intro stopped ticks positive
    obtain ⟨ticks, rfl⟩ := Nat.exists_eq_add_of_le' positive
    obtain ⟨ended, attempts⟩ := transmitter.run_of_stopped stopped ticks
    have link := (transmitter.tries_run (ticks + 1) station).outbound
    have warned := transmitter.warnings_run (ticks + 1) station
    rw [attempts] at link warned
    exact ⟨attempts, link, ended, warned⟩

/-- A write that takes three bytes of sixteen, one that takes all, and one without privilege: with
the flag set during the second write two are made, with the flag set during the third it is the lack
of privilege that ends the timer, and with the flag set from the start one is made. Under a limit of
one byte for the payload none is, and under the greatest limit the timer is given up. -/
theorem timer_ends_at_stop_or_fatal_together :
    let transmitter : Transmitter := {
      interface := "eth0", payloadLimit := 2
      frame := { destination := .broadcast, source := .zero, protocolType := .bench
                 payload := [1, 2] } }
    let narrow : Transmitter := { transmitter with payloadLimit := 1 }
    let wide : Transmitter := { transmitter with payloadLimit := 18446744073709551615 }
    let bytes := transmitter.frame.bytes
    let outbound : Outbound := {
      outcomes := [.reported 3, .accepted, .failed (.os Errno.notPermitted)] }
    let short : Warning := .failedSend (.truncated 3 16)
    transmitter.Admits bytes ∧
      ((transmitter.run 9 { outbound, stopIn := some 2 }).1 = some (.ok ()) ∧
        (transmitter.run 9 { outbound, stopIn := some 2 }).2.outbound.handed = [bytes, bytes]) ∧
      ((transmitter.run 9 { outbound, stopIn := some 3 }).1 =
          some (.error (.permissionDenied "eth0")) ∧
        (transmitter.run 9 { outbound, stopIn := some 3 }).2.outbound.handed =
          [bytes, bytes, bytes] ∧
        (transmitter.run 9 { outbound, stopIn := some 3 }).2.warnings = [short]) ∧
      (narrow.run 9 { outbound, stopIn := some 1 }).1 = none ∧
      (wide.run 9 { outbound, stopIn := some 1 }).1 = some (.error .overflow) ∧
      transmitter.runAttempts 9 { outbound, stopped := true } = [.error (.truncated 3 16)] := by
  intro transmitter narrow wide bytes outbound short
  have admitted : transmitter.Admits bytes := by decide
  obtain ⟨second, _, _, _⟩ :=
    transmitter.timer_ends_at_stop_or_fatal { outbound, stopIn := some 2 }
  obtain ⟨third, _, _, _⟩ :=
    transmitter.timer_ends_at_stop_or_fatal { outbound, stopIn := some 3 }
  obtain ⟨_, endless, _, _⟩ :=
    narrow.timer_ends_at_stop_or_fatal { outbound, stopIn := some 1 }
  obtain ⟨_, _, givenUp, _⟩ :=
    wide.timer_ends_at_stop_or_fatal { outbound, stopIn := some 1 }
  obtain ⟨_, _, _, stopped⟩ :=
    transmitter.timer_ends_at_stop_or_fatal { outbound, stopped := true }
  obtain ⟨ended, handed, _, _⟩ := second 2 admitted (by decide) rfl rfl 9
  obtain ⟨failed, all, results, warned⟩ := third 3 admitted (by decide) rfl rfl 9
  have told := warned.trans (congrArg (List.filterMap outlasted) results)
  have spared := (endless (by decide) (by decide) rfl 9).1
  have lost := congrArg Prod.fst (givenUp (by decide) 9 (by decide))
  exact ⟨admitted, ⟨ended, handed⟩, ⟨failed, all, told⟩, spared, lost,
    (stopped rfl 9 (by decide)).1⟩

end Endings

end Transmitter

end PcmLink
