import PcmLink.Proofs.Capture.Audit

/-!
# Captures that are asked to stop

A capture that heeds the flag begins no receive once it is set, so it hears the receptions up to
the one during which the flag was set and no more. Of those it makes what the account of them says,
as if nobody had asked it to stop; only where the account is still open at their end does the
capture end as cancelled. A capture that does not heed the flag hears every reception.
-/

namespace PcmLink

namespace Verdict

/-- A reception makes a capture on an interface yield an item, or nothing. -/
def Makes (options : CaptureOptions) (interface : String) (verdict : Verdict)
    (item : Option Capture.Item) : Prop :=
  match verdict with
  | .kept bytes => ∃ frame, frame.parts = (bytes, options.trailerLength) ∧ item = some (.ok frame)
  | .fatal failure => item = some (.error (.ofSocket failure interface))
  | _ => item = none

/-- What a reception makes a capture warn of that received so many frames before. -/
def warnings (options : CaptureOptions) (received : Nat) : Verdict → List Warning
  | .short length =>
    [.droppedFrame (received + 1) (.tooShort length (14 + options.trailerLength.toNat))]
  | _ => []

end Verdict

namespace Account

/-- The warnings on the way along a script. -/
def warnings (options : CaptureOptions) : Account → List Reception → List Warning
  | _, [] => []
  | account, reception :: script =>
    if account.isClosed options then []
    else
      (options.verdict reception).warnings options account.received ++
        warnings options (account.enter options reception) script

/-- A closed account causes no warnings. -/
theorem warnings_of_isClosed {options : CaptureOptions} {account : Account}
    (closed : account.isClosed options = true) (script : List Reception) :
    account.warnings options script = [] := by
  cases script with
  | nil => rfl
  | cons reception script => rw [warnings, if_pos closed]

/-- An open account has met no failure. -/
theorem failure_of_open {options : CaptureOptions} {account : Account}
    (notClosed : account.isClosed options = false) : account.failure = none := by
  have unfailed := (Bool.or_eq_false_iff.mp notClosed).1
  exact Option.isNone_iff_eq_none.mp (Option.isSome_eq_false_iff.mp unfailed)

/-- An open account wants more frames. -/
theorem wanting_of_open {options : CaptureOptions} {account : Account}
    (notClosed : account.isClosed options = false) : ¬ options.count ≤ account.received :=
  of_decide_eq_false (Bool.or_eq_false_iff.mp notClosed).2

end Account

/-- The receptions that a capture begins to receive as long as it wants more: once it heeds a flag
that is set, there are none. -/
def Arrival.heard (heedsStop : Bool) : Bool → List Arrival → List Reception
  | _, [] => []
  | stopped, arrival :: rest =>
    if heedsStop && stopped then []
    else arrival.reception :: heard heedsStop (stopped || arrival.stops) rest

namespace Arrival

/-- A capture that heeds a set flag hears nothing. -/
theorem heard_of_stopped {heedsStop stopped : Bool} (heeded : (heedsStop && stopped) = true)
    (arrivals : List Arrival) : heard heedsStop stopped arrivals = [] := by
  cases arrivals with
  | nil => rfl
  | cons arrival rest => rw [heard, if_pos heeded]

/-- A capture that heeds no set flag hears the next arrival. -/
theorem heard_cons {heedsStop stopped : Bool} (unheeded : (heedsStop && stopped) = false)
    (arrival : Arrival) (rest : List Arrival) :
    heard heedsStop stopped (arrival :: rest) =
      arrival.reception :: heard heedsStop (stopped || arrival.stops) rest := by
  rw [heard, if_neg (by simp [unheeded])]

/-- A capture that heeds the flag hears the arrivals up to the one at which it is set. -/
theorem heard_of_struck (before : List Reception) (struck : Reception) (after : List Arrival) :
    heard true false (before.map (mk · false) ++ { reception := struck, stops := true } :: after) =
      before ++ [struck] := by
  induction before with
  | nil => rw [List.map_nil, List.nil_append, heard_cons rfl, heard_of_stopped rfl, List.nil_append]
  | cons reception before ih =>
    rw [List.map_cons, List.cons_append, heard_cons rfl, Bool.or_false, ih, List.cons_append]

/-- A capture that does not heed the flag hears every arrival. -/
theorem heard_of_not_heeding (stopped : Bool) (arrivals : List Arrival) :
    heard false stopped arrivals = arrivals.map (·.reception) := by
  induction arrivals generalizing stopped with
  | nil => rfl
  | cons arrival rest ih => rw [heard_cons (Bool.false_and _), ih, List.map_cons]

/-- The flag is set by the arrivals of a front exactly if the one at which it is set is there. -/
theorem any_stops_take (before : List Reception) (struck : Reception) (after : List Arrival)
    {count : Nat} (within : count ≤ before.length + 1) :
    ((before.map (mk · false) ++ { reception := struck, stops := true } :: after).take
      count).any (·.stops) = decide (count = before.length + 1) := by
  induction before generalizing count with
  | nil =>
    cases count with
    | zero => rfl
    | succ count =>
      obtain rfl : count = 0 := by simpa using within
      rfl
  | cons reception before ih =>
    cases count with
    | zero => rfl
    | succ count =>
      have shorter : count ≤ before.length + 1 := by simpa using within
      rw [List.map_cons, List.cons_append, List.take_succ_cons, List.any_cons, Bool.false_or,
        ih shorter, List.length_cons, decide_eq_decide]
      omega

end Arrival

namespace Capture

/-- The capture with the counters of an account; a failure finished it. -/
def counting (capture : Capture) (account : Account) : Capture :=
  { capture with
    received := account.received
    captured := account.captured
    dropped := account.dropped
    filtered := account.filtered
    finished := account.failure.isSome }

/-- The error of a capture that wants more receptions than it hears. -/
def shortfall (capture : Capture) (stopped : Bool) (arrivals : List Arrival) : Error :=
  if capture.heedsStop && (stopped || arrivals.any (·.stops)) then .cancelled
  else .ofSocket Inbound.exhausted capture.interface

/-- What a drained capture leaves behind when the receptions it hears bring an account from one
state to another. -/
structure Concludes (capture : Capture) (stopped : Bool) (arrivals : List Arrival)
    (start final : Account) (rest : Rest) : Prop where
  /-- No reception is given back. -/
  taken : start.taken ≤ final.taken
  /-- The frames yielded are those entered, with the trailer length of the options. -/
  frames : final.frames.map (·, capture.options.trailerLength) =
    start.frames.map (·, capture.options.trailerLength) ++ rest.frames.map CapturedFrame.parts
  /-- The error is the failure for good, none after enough frames, and else the shortfall. -/
  error : rest.error =
    match final.failure with
    | some failure => some (.ofSocket failure capture.interface)
    | none =>
      if capture.options.count ≤ final.received then none
      else some (capture.shortfall stopped arrivals)
  /-- The capture has the counters of the account and has ended for good. -/
  counters : rest.capture = { capture.counting final with finished := true }
  /-- The arrivals that were not taken are left, and the flag is as those taken left it. -/
  inbound : rest.inbound =
    { arrivals := arrivals.drop (final.taken - start.taken)
      stopped := stopped || (arrivals.take (final.taken - start.taken)).any (·.stops) }
  /-- The warnings are those on the way. -/
  warnings : rest.warnings =
    start.warnings capture.options (Arrival.heard capture.heedsStop stopped arrivals)

section Step

variable {capture : Capture} {account : Account}

/-- A reception brings the counters of a capture from one state of an account to the next. -/
theorem receive_counting (inRange : 14 + capture.options.trailerLength.toNat < UInt64.size)
    (notClosed : account.isClosed capture.options = false) (reception : Reception) :
    ∃ item, (capture.options.verdict reception).Makes capture.options capture.interface item ∧
      (capture.counting account).receive reception =
        (item, capture.counting (account.enter capture.options reception),
          (capture.options.verdict reception).warnings capture.options account.received) := by
  have unfailed := Account.failure_of_open notClosed
  have options : (capture.counting account).options = capture.options := rfl
  have received := receive_eq (by rwa [options]) reception
  have entered := Account.enter_of_open notClosed reception
  rw [options] at received
  cases verdict : capture.options.verdict reception with
  | retried | short | foreign | fatal =>
    simp only [verdict] at received entered
    refine ⟨_, rfl, ?_⟩
    rw [received, entered]
    simp only [Verdict.warnings, counting, unfailed, Option.isSome_none,
      Option.isSome_some]
  | kept bytes =>
    simp only [verdict] at received entered
    obtain ⟨frame, made, received⟩ := received
    refine ⟨_, ⟨frame, made, rfl⟩, ?_⟩
    rw [received, entered]
    simp only [Verdict.warnings, counting, unfailed, Option.isSome_none]

/-- A reception that is no failure for good puts its frame, if it has one, before what is drained
later. -/
theorem drain_counting_cons (inRange : 14 + capture.options.trailerLength.toNat < UInt64.size)
    (notClosed : account.isClosed capture.options = false) {stopped : Bool}
    (unheeded : (capture.heedsStop && stopped) = false) {arrival : Arrival}
    (passing : (capture.options.verdict arrival.reception).fatal? = none) (rest : List Arrival) :
    let verdict := capture.options.verdict arrival.reception
    ∃ made, made.map CapturedFrame.parts =
        verdict.kept?.toList.map (·, capture.options.trailerLength) ∧
      (capture.counting account).drain { arrivals := arrival :: rest, stopped } =
        let drained := (capture.counting (account.enter capture.options arrival.reception)).drain
          { arrivals := rest, stopped := stopped || arrival.stops }
        { drained with
          frames := made ++ drained.frames
          warnings := verdict.warnings capture.options account.received ++ drained.warnings } := by
  have isOpen : (capture.counting account).IsOpen stopped := ⟨notClosed, unheeded⟩
  obtain ⟨item, makes, received⟩ := receive_counting inRange notClosed arrival.reception
  cases verdict : capture.options.verdict arrival.reception with
  | retried | short | foreign =>
    rw [verdict] at makes received
    obtain rfl := makes
    exact ⟨[], rfl, drain_cons_of_none isOpen received rest⟩
  | kept bytes =>
    rw [verdict] at makes received
    obtain ⟨frame, made, rfl⟩ := makes
    exact ⟨[frame], congrArg ([·]) made, drain_cons_of_frame isOpen received rest⟩
  | fatal failure =>
    rw [verdict] at passing
    contradiction

end Step

section Conclusion

variable {capture : Capture} {account : Account} {stopped : Bool}

/-- Where nothing more is wanted, a capture concludes with the account it has. -/
theorem concludes_of_isClosed (closed : account.isClosed capture.options = true)
    (unfailed : account.failure = none) (arrivals : List Arrival) :
    Concludes capture stopped arrivals account account
      ((capture.counting account).drain { arrivals, stopped }) := by
  have isOver : (capture.counting account).isOver = true := closed
  have enough : capture.options.count ≤ account.received := by
    simpa [Account.isClosed, unfailed] using closed
  rw [drain_of_isOver isOver]
  exact {
    taken := Nat.le_refl _
    frames := (List.append_nil _).symm
    error := by simp only [unfailed, if_pos enough]
    counters := rfl
    inbound := by rw [Nat.sub_self, List.drop_zero, List.take_zero, List.any_nil, Bool.or_false]
    warnings := (Account.warnings_of_isClosed closed _).symm }

/-- A capture that heeds a set flag concludes as cancelled. -/
theorem concludes_of_stopped (notClosed : account.isClosed capture.options = false)
    (heeded : (capture.heedsStop && stopped) = true) (arrivals : List Arrival) :
    Concludes capture stopped arrivals account account
      ((capture.counting account).drain { arrivals, stopped }) := by
  obtain ⟨heeds, set⟩ := Bool.and_eq_true_iff.mp heeded
  have cancelled : capture.shortfall stopped arrivals = .cancelled := by
    rw [shortfall, heeds, set, Bool.true_or, Bool.and_true, if_pos rfl]
  have unfailed := Account.failure_of_open notClosed
  have wanting := Account.wanting_of_open notClosed
  have notOver : (capture.counting account).isOver = false := notClosed
  rw [drain_of_error (nextFrom_of_stopped notOver heeded arrivals) rfl]
  exact {
    taken := Nat.le_refl _
    frames := (List.append_nil _).symm
    error := by simp only [unfailed, if_neg wanting, cancelled]
    counters := rfl
    inbound := by rw [Nat.sub_self, List.drop_zero, List.take_zero, List.any_nil, Bool.or_false]
    warnings := by rw [Arrival.heard_of_stopped heeded, Account.warnings] }

/-- A capture that is open where the arrivals end concludes with the failure behind them. -/
theorem concludes_nil (notClosed : account.isClosed capture.options = false)
    (unheeded : (capture.heedsStop && stopped) = false) :
    Concludes capture stopped [] account account
      ((capture.counting account).drain { arrivals := [], stopped }) := by
  have exhausted :
      capture.shortfall stopped [] = .ofSocket Inbound.exhausted capture.interface := by
    rw [shortfall, List.any_nil, Bool.or_false, if_neg (by simp [unheeded])]
  have unfailed := Account.failure_of_open notClosed
  have wanting := Account.wanting_of_open notClosed
  have isOpen : (capture.counting account).IsOpen stopped := ⟨notClosed, unheeded⟩
  rw [drain_nil isOpen]
  exact {
    taken := Nat.le_refl _
    frames := (List.append_nil _).symm
    error := by simp only [unfailed, if_neg wanting, exhausted]; rfl
    counters := rfl
    inbound := by rw [List.drop_nil, List.take_nil, List.any_nil, Bool.or_false]
    warnings := rfl }

/-- A failure for good is the last reception that a capture takes. -/
theorem concludes_of_fatal (inRange : 14 + capture.options.trailerLength.toNat < UInt64.size)
    (notClosed : account.isClosed capture.options = false)
    (unheeded : (capture.heedsStop && stopped) = false) {arrival : Arrival} {failure : IoError}
    (fatal : capture.options.verdict arrival.reception = .fatal failure) (rest : List Arrival) :
    Concludes capture stopped (arrival :: rest) account
      (account.enter capture.options arrival.reception)
      ((capture.counting account).drain { arrivals := arrival :: rest, stopped }) := by
  obtain ⟨item, makes, received⟩ := receive_counting inRange notClosed arrival.reception
  have entered := Account.enter_of_open notClosed arrival.reception
  rw [fatal] at makes received entered
  obtain rfl := makes
  have closed : (account.enter capture.options arrival.reception).isClosed capture.options =
      true := by rw [entered]; rfl
  have one : (account.enter capture.options arrival.reception).taken - account.taken = 1 := by
    rw [entered]
    exact Nat.add_sub_cancel_left _ _
  have isOpen : (capture.counting account).IsOpen stopped := ⟨notClosed, unheeded⟩
  rw [drain_cons_of_error isOpen received rest]
  exact {
    taken := by rw [entered]; exact Nat.le_succ _
    frames := by rw [entered]; exact (List.append_nil _).symm
    error := by rw [entered]
    counters := by rw [entered]; rfl
    inbound := by
      rw [one, List.drop_succ_cons, List.drop_zero, List.take_succ_cons, List.take_zero,
        List.any_cons, List.any_nil, Bool.or_false]
    warnings := by
      rw [Arrival.heard_cons unheeded, Account.warnings, if_neg (by simp [notClosed]), fatal,
        Account.warnings_of_isClosed closed, List.append_nil] }

/-- What is concluded behind a reception that is no failure for good is concluded with it. -/
theorem Concludes.cons {final : Account} {arrival : Arrival} {rest : List Arrival} {drained : Rest}
    (concludes : Concludes capture (stopped || arrival.stops) rest
      (account.enter capture.options arrival.reception) final drained)
    (notClosed : account.isClosed capture.options = false)
    (unheeded : (capture.heedsStop && stopped) = false) {made : List CapturedFrame}
    (frames : made.map CapturedFrame.parts =
      (capture.options.verdict arrival.reception).kept?.toList.map
        (·, capture.options.trailerLength)) :
    let verdict := capture.options.verdict arrival.reception
    Concludes capture stopped (arrival :: rest) account final
      { drained with
        frames := made ++ drained.frames
        warnings := verdict.warnings capture.options account.received ++ drained.warnings } := by
  intro verdict
  have entered := Account.enter_eq_add notClosed arrival.reception
  have later := concludes.taken
  have counted : (account.enter capture.options arrival.reception).taken = account.taken + 1 := by
    rw [entered]
  have count : final.taken - account.taken =
      final.taken - (account.enter capture.options arrival.reception).taken + 1 := by omega
  exact {
    taken := by omega
    frames := by
      rw [concludes.frames, entered, List.map_append, List.append_assoc, List.map_append, frames]
    error := by
      rw [concludes.error, shortfall, shortfall, List.any_cons, Bool.or_assoc]
    counters := concludes.counters
    inbound := by
      rw [concludes.inbound, count, List.drop_succ_cons, List.take_succ_cons, List.any_cons,
        Bool.or_assoc]
    warnings := by
      rw [concludes.warnings, Arrival.heard_cons unheeded, Account.warnings,
        if_neg (by simp [notClosed])] }

/-- A drained capture concludes with the account of the receptions it hears. -/
theorem concludes_drain (inRange : 14 + capture.options.trailerLength.toNat < UInt64.size)
    (unfailed : account.failure = none) (stopped : Bool) (arrivals : List Arrival) :
    Concludes capture stopped arrivals account
      ((Arrival.heard capture.heedsStop stopped arrivals).foldl (Account.enter capture.options)
        account)
      ((capture.counting account).drain { arrivals, stopped }) := by
  -- Account and flag move along the arrivals; the capture only counts.
  induction arrivals generalizing account stopped with
  | nil =>
    cases closed : account.isClosed capture.options with
    | true => exact concludes_of_isClosed closed unfailed []
    | false =>
      cases heeded : capture.heedsStop && stopped with
      | true => exact concludes_of_stopped closed heeded []
      | false => exact concludes_nil closed heeded
  | cons arrival rest ih =>
    cases closed : account.isClosed capture.options with
    | true =>
      rw [Account.foldl_enter_of_isClosed closed]
      exact concludes_of_isClosed closed unfailed _
    | false =>
      cases heeded : capture.heedsStop && stopped with
      | true =>
        rw [Arrival.heard_of_stopped heeded, List.foldl_nil]
        exact concludes_of_stopped closed heeded _
      | false =>
        have entered := Account.enter_eq_add closed arrival.reception
        rw [Arrival.heard_cons heeded, List.foldl_cons]
        cases fatal : (capture.options.verdict arrival.reception).fatal? with
        | none =>
          have passed : (account.enter capture.options arrival.reception).failure = none := by
            rw [entered, fatal]
          obtain ⟨made, frames, drained⟩ := drain_counting_cons inRange closed heeded fatal rest
          rw [drained]
          exact (ih passed (stopped || arrival.stops)).cons closed heeded frames
        | some failure =>
          have verdict : capture.options.verdict arrival.reception = .fatal failure := by
            cases given : capture.options.verdict arrival.reception <;>
              simp_all [Verdict.fatal?]
          have ends : (account.enter capture.options arrival.reception).isClosed
              capture.options = true := by
            rw [entered, fatal]
            rfl
          rw [Account.foldl_enter_of_isClosed ends]
          exact concludes_of_fatal inRange closed heeded verdict rest

end Conclusion

/-- Draining a new capture concludes with the account of the receptions it hears. -/
theorem concludes_heard {options : CaptureOptions} (interface : String) (heedsStop : Bool)
    (inRange : 14 + options.trailerLength.toNat < UInt64.size) (inbound : Inbound)
    {script : List Reception}
    (heard : Arrival.heard heedsStop inbound.stopped inbound.arrivals = script) :
    let capture : Capture := { options, interface, heedsStop }
    Concludes capture inbound.stopped inbound.arrivals {} (script.foldl (Account.enter options) {})
      (capture.drain inbound) := by
  intro capture
  subst heard
  have start : (capture.counting {}).drain inbound = capture.drain inbound := rfl
  rw [← start]
  exact concludes_drain inRange rfl inbound.stopped inbound.arrivals

section Concluded

variable {capture : Capture} {stopped : Bool} {arrivals : List Arrival} {final : Account}
  {rest : Rest}

/-- The frames of a new capture are those of the account it concludes with. -/
theorem Concludes.frames_eq (concludes : Concludes capture stopped arrivals {} final rest) :
    rest.frames.map CapturedFrame.parts =
      final.frames.map (·, capture.options.trailerLength) :=
  concludes.frames.symm

/-- A capture that concludes has ended for good. -/
theorem Concludes.next_eq {start : Account}
    (concludes : Concludes capture stopped arrivals start final rest) (inbound : Inbound) :
    rest.capture.next inbound =
      { item := none, capture := rest.capture, inbound, warnings := [] } := by
  apply next_of_finished
  rw [concludes.counters]

/-- The counters of a capture that concludes are those of the account. -/
theorem Concludes.agrees {start : Account}
    (concludes : Concludes capture stopped arrivals start final rest) :
    rest.capture.Agrees final := by
  rw [concludes.counters]
  exact ⟨rfl, rfl, rfl, rfl⟩

/-- A heeding capture is cancelled where the flag is set before it has enough. -/
theorem shortfall_of_set (heeding : capture.heedsStop = true)
    (set : (stopped || arrivals.any (·.stops)) = true) :
    capture.shortfall stopped arrivals = .cancelled := by
  rw [shortfall, heeding, set]
  rfl

/-- Captures that do not heed the flag and conclude with one account for the same receptions did
the same. -/
theorem Concludes.alike {calmly : Bool} {others : List Arrival} {calm : Rest}
    (deaf : capture.heedsStop = false)
    (concludes : Concludes capture stopped arrivals {} final rest)
    (other : Concludes capture calmly others {} final calm)
    (same : arrivals.map (·.reception) = others.map (·.reception)) :
    rest.frames = calm.frames ∧ rest.error = calm.error ∧ rest.capture = calm.capture ∧
      rest.warnings = calm.warnings ∧
      rest.inbound.arrivals.map (·.reception) = calm.inbound.arrivals.map (·.reception) := by
  have unheeded (stopped : Bool) (arrivals : List Arrival) :
      capture.shortfall stopped arrivals = .ofSocket Inbound.exhausted capture.interface := by
    rw [shortfall, deaf, Bool.false_and, if_neg Bool.false_ne_true]
  refine ⟨?_, ?_, ?_, ?_, ?_⟩
  · have frames := concludes.frames_eq.trans other.frames_eq.symm
    exact (List.map_inj_right fun _ _ same => CapturedFrame.parts_injective same).mp frames
  · rw [concludes.error, other.error, unheeded, unheeded]
  · rw [concludes.counters, other.counters]
  · rw [concludes.warnings, other.warnings, deaf, Arrival.heard_of_not_heeding,
      Arrival.heard_of_not_heeding, same]
  · rw [concludes.inbound, other.inbound, List.map_drop, List.map_drop, same]

end Concluded

/-- A capture that is asked to stop while an arrival is delivered takes nothing behind it. What it
makes of the arrivals up to there is what their account says, the last one among them; then a
failure for good is the error, enough frames are none, and anything else is a cancellation. Asked
before it begins, a capture takes nothing at all, and is cancelled unless it is to receive nothing.
A capture that does not heed the flag does what it does where nobody sets it. -/
theorem drain_stops_promptly (options : CaptureOptions) (interface : String)
    (inRange : 14 + options.trailerLength.toNat < UInt64.size) :
    let capture : Capture := { options, interface }
    (∀ (before : List Reception) (struck : Reception) (after : List Arrival),
      let arrivals :=
        before.map (Arrival.mk · false) ++ { reception := struck, stops := true } :: after
      let rest := capture.drain { arrivals }
      let account := (before ++ [struck]).foldl (Account.enter options) {}
      rest.frames.map (·.raw) = account.frames ∧
        rest.frames.map CapturedFrame.payload = account.frames.map options.payloadOf ∧
        rest.capture.Agrees account ∧ account.Audits options (before ++ [struck]) ∧
        rest.inbound =
          { arrivals := arrivals.drop account.taken
            stopped := decide (account.taken = before.length + 1) } ∧
        rest.error =
          (match account.failure with
          | some failure => some (.ofSocket failure interface)
          | none => if options.count ≤ account.received then none else some .cancelled) ∧
        rest.warnings = Account.warnings options {} (before ++ [struck]) ∧
        ∀ inbound, rest.capture.next inbound =
          { item := none, capture := rest.capture, inbound, warnings := [] }) ∧
    (∀ arrivals : List Arrival,
      let rest := capture.drain { arrivals, stopped := true }
      rest.frames = [] ∧ rest.capture.Agrees {} ∧ rest.inbound = { arrivals, stopped := true } ∧
        rest.error = (if options.count = 0 then none else some .cancelled) ∧ rest.warnings = [] ∧
        ∀ inbound, rest.capture.next inbound =
          { item := none, capture := rest.capture, inbound, warnings := [] }) ∧
    ∀ inbound : Inbound,
      let deaf : Capture := { options, interface, heedsStop := false }
      let rest := deaf.drain inbound
      let calm := deaf.drain (.ofReceptions (inbound.arrivals.map (·.reception)))
      rest.frames = calm.frames ∧ rest.error = calm.error ∧ rest.capture = calm.capture ∧
        rest.warnings = calm.warnings ∧
        rest.inbound.arrivals.map (·.reception) = calm.inbound.arrivals.map (·.reception) := by
  intro capture
  refine ⟨fun before struck after => ?_, fun arrivals => ?_, fun inbound => ?_⟩
  · intro arrivals rest account
    have heard : Arrival.heard true false arrivals = before ++ [struck] :=
      Arrival.heard_of_struck before struck after
    have concludes : Concludes capture false arrivals {} account rest :=
      concludes_heard interface true inRange { arrivals } heard
    have audits : account.Audits options (before ++ [struck]) :=
      Account.audits_ofScript options (before ++ [struck])
    have within : account.taken ≤ before.length + 1 := by
      have short := audits.taken_le
      rwa [List.length_append, List.length_singleton] at short
    have set : (false || arrivals.any (·.stops)) = true := by
      rw [List.any_append, List.any_cons, Bool.true_or, Bool.or_true, Bool.or_true]
    refine ⟨CapturedFrame.map_raw concludes.frames_eq,
      CapturedFrame.map_payload concludes.frames_eq, concludes.agrees, audits, ?_, ?_, ?_,
      concludes.next_eq⟩
    · rw [concludes.inbound, Bool.false_or, Nat.sub_zero]
      congr 1
      exact Arrival.any_stops_take before struck after within
    · rw [concludes.error, shortfall_of_set rfl set]
    · rw [concludes.warnings, heard]
  · intro rest
    have heard : Arrival.heard true true arrivals = [] := Arrival.heard_of_stopped rfl arrivals
    have concludes : Concludes capture true arrivals {} {} rest :=
      concludes_heard interface true inRange { arrivals, stopped := true } heard
    refine ⟨List.map_eq_nil_iff.mp concludes.frames_eq, concludes.agrees, concludes.inbound, ?_, ?_,
      concludes.next_eq⟩
    · have error := concludes.error
      rw [shortfall_of_set rfl (Bool.true_or _)] at error
      simpa only [Nat.le_zero] using error
    · rw [concludes.warnings, heard, Account.warnings]
  · intro deaf rest calm
    let script := inbound.arrivals.map (·.reception)
    have receptions : (Inbound.ofReceptions script).arrivals.map (·.reception) = script := by
      rw [Inbound.ofReceptions, List.map_map]
      exact List.map_id _
    have heard : Arrival.heard false inbound.stopped inbound.arrivals = script :=
      Arrival.heard_of_not_heeding _ _
    have quiet : Arrival.heard false false (Inbound.ofReceptions script).arrivals = script := by
      rw [Arrival.heard_of_not_heeding, receptions]
    exact Concludes.alike rfl (concludes_heard interface false inRange inbound heard)
      (concludes_heard interface false inRange (.ofReceptions script) quiet) receptions.symm

/-- Asked to stop during a foreign frame, a capture of two frames that has one is cancelled and
leaves the next; asked during the second frame, it yields it and ends without an error. -/
theorem drain_stops_promptly_between_frames :
    let options : CaptureOptions := { count := 2, wanted := some ProtocolType.bench }
    let capture : Capture := { options, interface := "eth0" }
    let foreign : List UInt8 := List.replicate 18 8
    let frame (value : UInt8) : List UInt8 :=
      List.replicate 12 0 ++ [0x00, 0x40, value, 9, 9, 9, 9]
    let before : List Arrival :=
      [{ reception := .failure .timedOut }, { reception := .frame (frame 1) }]
    let next : Arrival := { reception := .frame (frame 2) }
    let missed := capture.drain
      { arrivals := before ++ [{ reception := .frame foreign, stops := true }, next] }
    let reached := capture.drain
      { arrivals := before ++ [{ reception := .frame (frame 3), stops := true }, next] }
    14 + options.trailerLength.toNat < UInt64.size ∧
      missed.frames.map CapturedFrame.payload = [[1]] ∧ missed.error = some .cancelled ∧
      missed.inbound = { arrivals := [next], stopped := true } ∧
      reached.frames.map CapturedFrame.payload = [[1], [3]] ∧ reached.error = none ∧
      reached.inbound = { arrivals := [next], stopped := true } := by
  intro options capture foreign frame before next missed reached
  have inRange : 14 + options.trailerLength.toNat < UInt64.size := by decide
  obtain ⟨during, _, _⟩ := drain_stops_promptly options "eth0" inRange
  obtain ⟨_, payloads, _, _, inbound, error, _, _⟩ :=
    during [.failure .timedOut, .frame (frame 1)] (.frame foreign) [next]
  obtain ⟨_, allPayloads, _, _, allInbound, noError, _, _⟩ :=
    during [.failure .timedOut, .frame (frame 1)] (.frame (frame 3)) [next]
  exact ⟨inRange, payloads, error, inbound, allPayloads, noError, allInbound⟩

end Capture

end PcmLink
