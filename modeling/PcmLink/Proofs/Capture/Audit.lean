import PcmLink.Proofs.Capture.Account

/-!
# Audits of accounts

What the account of a script says can be counted from the script: the receptions taken are the
shortest front that ends a capture, and every counter is a count over the verdicts on that front.
With this a drained capture is known from its script alone.
-/

namespace PcmLink

namespace Verdict

/-- The frame is too short. -/
def isShort : Verdict → Bool
  | .short _ => true
  | _ => false

/-- The frame is of another type than the wanted one. -/
def isForeign : Verdict → Bool
  | .foreign => true
  | _ => false

end Verdict

/-- The receptions end a capture: one of them is a failure for good, or enough of them count. -/
def CaptureOptions.endedBy (options : CaptureOptions) (seen : List Reception) : Bool :=
  (seen.any fun reception => (options.verdict reception).fatal?.isSome) ||
    decide (options.count ≤ seen.countP fun reception => (options.verdict reception).counts)

namespace Account

/-- The account says of a script what can be counted from it. -/
structure Audits (options : CaptureOptions) (script : List Reception) (account : Account) :
    Prop where
  /-- Only receptions of the script are taken. -/
  taken_le : account.taken ≤ script.length
  /-- The received frames are those that count. -/
  received : account.received =
    (script.take account.taken).countP fun reception => (options.verdict reception).counts
  /-- The dropped frames are the short ones. -/
  dropped : account.dropped =
    (script.take account.taken).countP fun reception => (options.verdict reception).isShort
  /-- The frames passed over are those of another type. -/
  filtered : account.filtered =
    (script.take account.taken).countP fun reception => (options.verdict reception).isForeign
  /-- The frames yielded are the kept ones, in order. -/
  frames : account.frames =
    (script.take account.taken).filterMap fun reception => (options.verdict reception).kept?
  /-- Every frame yielded is counted. -/
  captured : account.captured = account.frames.length
  /-- The failure is the first one for good. -/
  failure : account.failure =
    (script.take account.taken).findSome? fun reception => (options.verdict reception).fatal?
  /-- No more frames are received than are wanted. -/
  received_le : account.received ≤ options.count
  /-- No shorter front ends a capture. -/
  before : ∀ count < account.taken, options.endedBy (script.take count) = false
  /-- A capture that leaves receptions has been ended by those it took. -/
  behind : account.taken < script.length → options.endedBy (script.take account.taken) = true

/-- An account is closed exactly if the receptions taken end a capture. -/
theorem Audits.isClosed_eq {options : CaptureOptions} {script : List Reception}
    {account : Account} (audits : Audits options script account) :
    account.isClosed options = options.endedBy (script.take account.taken) := by
  rw [isClosed, CaptureOptions.endedBy, audits.failure, audits.received,
    List.isSome_findSome?]

/-- The receptions that count are those kept and those too short. -/
theorem countP_counts (options : CaptureOptions) (seen : List Reception) :
    (seen.countP fun reception => (options.verdict reception).counts) =
      (seen.filterMap fun reception => (options.verdict reception).kept?).length +
        seen.countP fun reception => (options.verdict reception).isShort := by
  induction seen with
  | nil => rfl
  | cons reception seen ih =>
    rw [List.countP_cons, List.countP_cons, List.filterMap_cons, ih]
    cases options.verdict reception <;>
      simp [Verdict.counts, Verdict.kept?, Verdict.isShort] <;> omega

/-- Frames received are yielded or dropped. -/
theorem Audits.received_eq {options : CaptureOptions} {script : List Reception}
    {account : Account} (audits : Audits options script account) :
    account.received = account.captured + account.dropped := by
  rw [audits.captured, audits.frames, audits.dropped, audits.received, countP_counts]

/-- Entering a reception into an open account adds what its verdict says. -/
theorem enter_eq_add {options : CaptureOptions} {account : Account}
    (notClosed : account.isClosed options = false) (reception : Reception) :
    let verdict := options.verdict reception
    account.enter options reception =
      { taken := account.taken + 1
        received := account.received + verdict.counts.toNat
        captured := account.captured + verdict.kept?.toList.length
        dropped := account.dropped + verdict.isShort.toNat
        filtered := account.filtered + verdict.isForeign.toNat
        frames := account.frames ++ verdict.kept?.toList
        failure := verdict.fatal? } := by
  have unfailed : account.failure = none := by
    simp only [isClosed, Bool.or_eq_false_iff, Option.isSome_eq_false_iff,
      Option.isNone_iff_eq_none] at notClosed
    exact notClosed.1
  rw [enter_of_open notClosed]
  cases options.verdict reception <;>
    simp [Verdict.counts, Verdict.kept?, Verdict.isShort, Verdict.isForeign, Verdict.fatal?,
      unfailed]

/-- One more reception adds to a count what the test says of it. -/
theorem countP_concat (test : Reception → Bool) (seen : List Reception) (reception : Reception) :
    (seen ++ [reception]).countP test = seen.countP test + (test reception).toNat := by
  rw [List.countP_append, List.countP_singleton]
  cases test reception <;> rfl

/-- Entering one more reception keeps an account audited. -/
theorem Audits.enter {options : CaptureOptions} {seen : List Reception} {account : Account}
    (audits : Audits options seen account) (reception : Reception) :
    Audits options (seen ++ [reception]) (account.enter options reception) := by
  have short := audits.taken_le
  have front (count : Nat) (within : count ≤ seen.length) :
      (seen ++ [reception]).take count = seen.take count :=
    List.take_append_of_le_length within
  cases closed : account.isClosed options with
  | true =>
    -- Nothing is entered, and what was taken is a front of the longer script as well.
    rw [Account.enter, if_pos closed]
    exact {
      taken_le := by rw [List.length_append]; omega
      received := by rw [front _ short, audits.received]
      dropped := by rw [front _ short, audits.dropped]
      filtered := by rw [front _ short, audits.filtered]
      frames := by rw [front _ short, audits.frames]
      captured := audits.captured
      failure := by rw [front _ short, audits.failure]
      received_le := audits.received_le
      before := fun count less => by rw [front _ (by omega), audits.before count less]
      behind := fun _ => by rw [front _ short, ← audits.isClosed_eq, closed] }
  | false =>
    -- An open account has taken all there was, so it takes the new reception too.
    have all : account.taken = seen.length := by
      apply Nat.le_antisymm short
      apply Nat.le_of_not_lt
      intro some_left
      have ended := audits.behind some_left
      rw [← audits.isClosed_eq, closed] at ended
      contradiction
    have taken : seen.take account.taken = seen := by rw [all, List.take_length]
    have whole : (seen ++ [reception]).take (account.taken + 1) = seen ++ [reception] :=
      List.take_of_length_le (by simp [all])
    have unfailed := audits.failure
    have received := audits.received
    have dropped := audits.dropped
    have filtered := audits.filtered
    have frames := audits.frames
    rw [taken] at unfailed received dropped filtered frames
    have none_failed : account.failure = none := by
      simpa [isClosed] using (Bool.or_eq_false_iff.mp closed).1
    rw [enter_eq_add closed]
    exact {
      taken_le := by simp [all]
      received := by rw [whole, countP_concat, received]
      dropped := by rw [whole, countP_concat, dropped]
      filtered := by rw [whole, countP_concat, filtered]
      frames := by
        rw [whole, List.filterMap_append, frames]
        cases kept : (options.verdict reception).kept? <;> simp [kept]
      captured := by
        rw [List.length_append, audits.captured]
      failure := by
        rw [whole, List.findSome?_append, ← unfailed, none_failed, Option.none_or]
        cases fatal : (options.verdict reception).fatal? <;> simp [fatal]
      received_le := by
        have wanting : account.received < options.count := by
          simpa [isClosed, none_failed] using closed
        have one := Bool.toNat_le (options.verdict reception).counts
        dsimp only
        omega
      before := fun count less => by
        have within : count < account.taken + 1 := less
        rw [front _ (by omega)]
        by_cases last : count = account.taken
        · rw [last, ← audits.isClosed_eq, closed]
        · exact audits.before count (by omega)
      behind := fun less => by
        have within : account.taken + 1 < (seen ++ [reception]).length := less
        rw [List.length_append, List.length_singleton] at within
        omega }

/-- Entering receptions one after the other keeps an account audited. -/
theorem Audits.foldl {options : CaptureOptions} {seen : List Reception} {account : Account}
    (audits : Audits options seen account) (script : List Reception) :
    Audits options (seen ++ script) (script.foldl (Account.enter options) account) := by
  induction script generalizing seen account with
  | nil => rw [List.append_nil]; exact audits
  | cons reception script ih =>
    rw [List.foldl_cons, ← List.singleton_append, ← List.append_assoc]
    exact ih (audits.enter reception)

/-- The account of a script says what can be counted from it. -/
theorem audits_ofScript (options : CaptureOptions) (script : List Reception) :
    Audits options script (ofScript options script) := by
  have start : Audits options [] {} := {
    taken_le := Nat.le_refl _
    received := rfl
    dropped := rfl
    filtered := rfl
    frames := rfl
    captured := rfl
    failure := rfl
    received_le := Nat.zero_le _
    before := fun count less => absurd less (Nat.not_lt_zero count)
    behind := fun less => absurd less (Nat.lt_irrefl 0) }
  exact start.foldl script

end Account

namespace Capture

/-- A finished capture yields nothing more and receives nothing more. -/
theorem next_of_finished {capture : Capture} (finished : capture.finished = true)
    (inbound : Inbound) :
    capture.next inbound = { item := none, capture, inbound, warnings := [] } := by
  have isOver : capture.isOver = true := by rw [Capture.isOver, finished, Bool.true_or]
  rw [next, nextFrom_of_isOver isOver, ← finished]

/-- Draining a capture that is never asked to stop gives what the account of its script says:
frames, payloads, counters, the error, and what is left of the script. The account counts the
shortest front of the script that ends a capture, and after it the capture is silent. -/
theorem drain_follows_account (options : CaptureOptions) (interface : String) (heedsStop : Bool)
    (script : List Reception) (inRange : 14 + options.trailerLength.toNat < UInt64.size) :
    let rest := ({ options, interface, heedsStop } : Capture).drain (.ofReceptions script)
    let account := script.foldl (Account.enter options) {}
    rest.frames.map (·.raw) = account.frames ∧
      rest.frames.map CapturedFrame.payload = account.frames.map options.payloadOf ∧
      rest.capture.Agrees account ∧ rest.error = account.error options interface ∧
      (rest.error = none → rest.capture.received = options.count) ∧
      rest.inbound = .ofReceptions (script.drop account.taken) ∧
      account.Audits options script ∧
      ∀ inbound, rest.capture.next inbound =
        { item := none, capture := rest.capture, inbound, warnings := [] } := by
  intro rest account
  have settles : Settles options interface script {} account rest :=
    settles_ofScript options interface heedsStop script inRange
  have audits : account.Audits options script := Account.audits_ofScript options script
  have frames : rest.frames.map CapturedFrame.parts =
      account.frames.map (·, options.trailerLength) := settles.frames.symm
  refine ⟨CapturedFrame.map_raw frames, CapturedFrame.map_payload frames, settles.counters,
    settles.error, ?_, settles.inbound, audits, next_of_finished settles.finished⟩
  intro ended
  rw [settles.counters.received]
  apply Nat.le_antisymm audits.received_le
  rw [settles.error, Account.error] at ended
  split at ended
  · contradiction
  · split at ended
    · assumption
    · contradiction

/-- Of a wait that runs out, a short frame, a foreign frame, a frame to yield and the loss of the
device, all are taken and the frame behind them is left. The loss is told as a missing interface. -/
theorem drain_follows_account_failing :
    let options : CaptureOptions := { count := 3, wanted := some ProtocolType.bench }
    let foreign : List UInt8 := List.replicate 18 8
    let wanted : List UInt8 := List.replicate 12 0 ++ [0x00, 0x40, 1, 2, 3, 9, 9, 9, 9]
    let lost : IoError := .os Errno.noDevice
    let script : List Reception :=
      [.failure .timedOut, .frame [1, 2, 3], .frame foreign, .frame wanted, .failure lost,
        .frame wanted]
    let rest := ({ options, interface := "eth0" } : Capture).drain (.ofReceptions script)
    14 + options.trailerLength.toNat < UInt64.size ∧
      rest.frames.map CapturedFrame.payload = [[1, 2, 3]] ∧ rest.capture.received = 2 ∧
      rest.capture.dropped = 1 ∧ rest.capture.filtered = 1 ∧
      rest.error = some (.interfaceNotFound "eth0") ∧
      rest.inbound = .ofReceptions [.frame wanted] := by
  intro options foreign wanted lost script rest
  have inRange : 14 + options.trailerLength.toNat < UInt64.size := by decide
  obtain ⟨_, payloads, counters, error, _, inbound, _, _⟩ :=
    drain_follows_account options "eth0" true script inRange
  have account : script.foldl (Account.enter options) {} =
      { taken := 5, received := 2, captured := 1, dropped := 1, filtered := 1
        frames := [wanted], failure := some lost } := by decide
  rw [account] at payloads counters error inbound
  exact ⟨inRange, payloads, counters.received, counters.dropped, counters.filtered, error,
    inbound⟩

end Capture

end PcmLink
