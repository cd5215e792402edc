import PcmLink.Proofs.Capture.Verdict

/-!
# Accounts of captures

The account of a script of receptions is a fold over it: each reception is entered by its verdict
alone until the account is closed, by a failure for good or by enough frames. Draining a capture
that is never asked to stop gives exactly what the account of its script says: the frames, the
counters, the error, and how many receptions were taken. Entering stops at the first reception
that ends the capture, so nothing behind it is received.
-/

namespace PcmLink

/-- A link that delivers receptions while nobody asks to stop. -/
def Inbound.ofReceptions (script : List Reception) : Inbound :=
  { arrivals := script.map fun reception => { reception } }

/-- The books on what a capture received. -/
structure Account where
  /-- Receptions taken from the link. -/
  taken : Nat := 0
  /-- Frames received, too short ones among them. -/
  received : Nat := 0
  /-- Frames yielded. -/
  captured : Nat := 0
  /-- Frames dropped for being too short. -/
  dropped : Nat := 0
  /-- Frames passed over for their type. -/
  filtered : Nat := 0
  /-- The bytes of the frames yielded, in order. -/
  frames : List (List UInt8) := []
  /-- The failure that ended the capture, if one did. -/
  failure : Option IoError := none
  deriving DecidableEq

namespace Account

/-- Nothing is entered any more. -/
def isClosed (options : CaptureOptions) (account : Account) : Bool :=
  account.failure.isSome || decide (options.count ≤ account.received)

/-- Enter a reception, unless the account is closed. -/
def enter (options : CaptureOptions) (account : Account) (reception : Reception) : Account :=
  if account.isClosed options then account
  else
    let taken := account.taken + 1
    match options.verdict reception with
    | .retried => { account with taken }
    | .short _ =>
      { account with taken, received := account.received + 1, dropped := account.dropped + 1 }
    | .foreign => { account with taken, filtered := account.filtered + 1 }
    | .kept bytes =>
      { account with
        taken, received := account.received + 1, captured := account.captured + 1
        frames := account.frames ++ [bytes] }
    | .fatal failure => { account with taken, failure := some failure }

/-- The account of a script. -/
def ofScript (options : CaptureOptions) (script : List Reception) : Account :=
  script.foldl (enter options) {}

/-- The error that a capture on an interface ends with. A capture that is still open when its
script ends meets the failure behind the script. -/
def error (options : CaptureOptions) (interface : String) (account : Account) : Option Error :=
  match account.failure with
  | some failure => some (.ofSocket failure interface)
  | none =>
    if options.count ≤ account.received then none
    else some (.ofSocket Inbound.exhausted interface)

/-- The verdict on a reception fixes what it does to an open account. -/
theorem enter_of_open {options : CaptureOptions} {account : Account}
    (notClosed : account.isClosed options = false) (reception : Reception) :
    account.enter options reception =
      let taken := account.taken + 1
      match options.verdict reception with
      | .retried => { account with taken }
      | .short _ =>
        { account with taken, received := account.received + 1, dropped := account.dropped + 1 }
      | .foreign => { account with taken, filtered := account.filtered + 1 }
      | .kept bytes =>
        { account with
          taken, received := account.received + 1, captured := account.captured + 1
          frames := account.frames ++ [bytes] }
      | .fatal failure => { account with taken, failure := some failure } := by
  rw [enter, if_neg (by simp [notClosed])]

/-- A closed account stays as it is. -/
theorem foldl_enter_of_isClosed {options : CaptureOptions} {account : Account}
    (closed : account.isClosed options = true) (script : List Reception) :
    script.foldl (enter options) account = account := by
  induction script with
  | nil => rfl
  | cons reception script ih =>
    have same : account.enter options reception = account := by rw [enter, if_pos closed]
    rw [List.foldl_cons, same, ih]

end Account

/-- The counters of a capture are those of an account. -/
structure Capture.Agrees (capture : Capture) (account : Account) : Prop where
  /-- Frames received. -/
  received : capture.received = account.received
  /-- Frames yielded. -/
  captured : capture.captured = account.captured
  /-- Frames dropped. -/
  dropped : capture.dropped = account.dropped
  /-- Frames passed over. -/
  filtered : capture.filtered = account.filtered

/-- What a drained capture leaves behind when its script brings an account from one state to
another. -/
structure Capture.Settles (options : CaptureOptions) (interface : String)
    (script : List Reception) (start final : Account) (rest : Capture.Rest) : Prop where
  /-- The counters are those of the account. -/
  counters : rest.capture.Agrees final
  /-- The frames yielded are those entered, with the trailer length of the options. -/
  frames : final.frames.map (·, options.trailerLength) =
    start.frames.map (·, options.trailerLength) ++ rest.frames.map CapturedFrame.parts
  /-- The receptions that were not taken are left. -/
  inbound : rest.inbound = .ofReceptions (script.drop (final.taken - start.taken))
  /-- No reception is given back. -/
  taken : start.taken ≤ final.taken
  /-- The error is that of the account. -/
  error : rest.error = final.error options interface
  /-- The capture has ended for good. -/
  finished : rest.capture.finished = true

namespace Capture

/-- A capture that is over settles a closed account with every script. -/
theorem settles_of_isOver {capture : Capture} {account : Account} (isOver : capture.isOver = true)
    (closed : account.isClosed capture.options = true) (agrees : capture.Agrees account)
    (unfailed : account.failure = none) (script : List Reception) :
    Settles capture.options capture.interface script account account
      (capture.drain (.ofReceptions script)) := by
  have enough : capture.options.count ≤ account.received := by
    simpa [Account.isClosed, unfailed] using closed
  rw [drain_of_isOver isOver]
  exact {
    counters := ⟨agrees.received, agrees.captured, agrees.dropped, agrees.filtered⟩
    frames := (List.append_nil _).symm
    inbound := by rw [Nat.sub_self, List.drop_zero]
    taken := Nat.le_refl _
    error := by simp only [Account.error, unfailed, if_pos enough]
    finished := rfl }

/-- An open capture settles an open account where the script ends. -/
theorem settles_nil {capture : Capture} {account : Account} (isOpen : capture.IsOpen false)
    (notClosed : account.isClosed capture.options = false) (agrees : capture.Agrees account)
    (unfailed : account.failure = none) :
    Settles capture.options capture.interface [] account account
      (capture.drain (.ofReceptions [])) := by
  have wanting : ¬ capture.options.count ≤ account.received := by
    simpa [Account.isClosed, unfailed] using notClosed
  have drained : capture.drain (.ofReceptions []) = _ := drain_nil isOpen
  rw [drained]
  exact {
    counters := ⟨agrees.received, agrees.captured, agrees.dropped, agrees.filtered⟩
    frames := (List.append_nil _).symm
    inbound := by rw [List.drop_nil]; rfl
    taken := Nat.le_refl _
    error := by simp only [Account.error, unfailed, if_neg wanting]
    finished := rfl }

section Cons

variable {options : CaptureOptions} {interface : String} {reception : Reception}
  {script : List Reception} {start entered final : Account} {rest : Rest}

/-- What was settled behind a reception is settled with it, the frame it made put first. -/
theorem Settles.cons {warnings : List Warning}
    (settles : Settles options interface script entered final rest) (made : List CapturedFrame)
    (taken : entered.taken = start.taken + 1)
    (frames : entered.frames.map (·, options.trailerLength) =
      start.frames.map (·, options.trailerLength) ++ made.map CapturedFrame.parts) :
    Settles options interface (reception :: script) start final
      { rest with frames := made ++ rest.frames, warnings := warnings ++ rest.warnings } where
  counters := settles.counters
  frames := by rw [settles.frames, frames, List.map_append, List.append_assoc]
  inbound := by
    have later := settles.taken
    have count : final.taken - start.taken = final.taken - entered.taken + 1 := by omega
    rw [settles.inbound, count, List.drop_succ_cons]
  taken := by
    have later := settles.taken
    omega
  error := settles.error
  finished := settles.finished

end Cons

/-- Draining a capture settles the account of its script. -/
theorem settles_drain {capture : Capture} {account : Account} (agrees : capture.Agrees account)
    (unfailed : account.failure = none) (unfinished : capture.finished = false)
    (inRange : 14 + capture.options.trailerLength.toNat < UInt64.size)
    (script : List Reception) :
    Settles capture.options capture.interface script account
      (script.foldl (Account.enter capture.options) account)
      (capture.drain (.ofReceptions script)) := by
  -- Capture and account move in step, so both vary along the script.
  induction script generalizing capture account with
  | nil =>
    have over_eq : capture.isOver = account.isClosed capture.options := by
      simp [isOver, Account.isClosed, unfinished, unfailed, agrees.received]
    cases closed : account.isClosed capture.options with
    | true => exact settles_of_isOver (over_eq.trans closed) closed agrees unfailed []
    | false =>
      exact settles_nil ⟨over_eq.trans closed, Bool.and_false _⟩ closed agrees unfailed
  | cons reception script ih =>
    have over_eq : capture.isOver = account.isClosed capture.options := by
      simp [isOver, Account.isClosed, unfinished, unfailed, agrees.received]
    cases closed : account.isClosed capture.options with
    | true =>
      rw [Account.foldl_enter_of_isClosed closed]
      exact settles_of_isOver (over_eq.trans closed) closed agrees unfailed _
    | false =>
      have isOpen : capture.IsOpen false := ⟨over_eq.trans closed, Bool.and_false _⟩
      have received := receive_eq inRange reception
      have entered := Account.enter_of_open closed reception
      rw [List.foldl_cons]
      cases verdict : capture.options.verdict reception with
      | retried =>
        simp only [verdict] at received entered
        have drained : capture.drain (.ofReceptions (reception :: script)) = _ :=
          drain_cons_of_none isOpen received _
        have counters : capture.Agrees { account with taken := account.taken + 1 } :=
          ⟨agrees.received, agrees.captured, agrees.dropped, agrees.filtered⟩
        rw [entered, drained]
        exact (ih counters unfailed unfinished inRange).cons [] rfl (List.append_nil _).symm
      | short length =>
        simp only [verdict] at received entered
        have drained : capture.drain (.ofReceptions (reception :: script)) = _ :=
          drain_cons_of_none isOpen received _
        have counters : ({ capture with
            received := capture.received + 1, dropped := capture.dropped + 1 } : Capture).Agrees
            { account with
              taken := account.taken + 1, received := account.received + 1
              dropped := account.dropped + 1 } :=
          ⟨congrArg (· + 1) agrees.received, agrees.captured, congrArg (· + 1) agrees.dropped,
            agrees.filtered⟩
        rw [entered, drained]
        exact (ih counters unfailed unfinished inRange).cons [] rfl (List.append_nil _).symm
      | foreign =>
        simp only [verdict] at received entered
        have drained : capture.drain (.ofReceptions (reception :: script)) = _ :=
          drain_cons_of_none isOpen received _
        have counters : ({ capture with filtered := capture.filtered + 1 } : Capture).Agrees
            { account with
              taken := account.taken + 1, filtered := account.filtered + 1 } :=
          ⟨agrees.received, agrees.captured, agrees.dropped, congrArg (· + 1) agrees.filtered⟩
        rw [entered, drained]
        exact (ih counters unfailed unfinished inRange).cons [] rfl (List.append_nil _).symm
      | kept bytes =>
        simp only [verdict] at received entered
        obtain ⟨frame, made, received⟩ := received
        have drained : capture.drain (.ofReceptions (reception :: script)) = _ :=
          drain_cons_of_frame isOpen received _
        have counters : ({ capture with
            received := capture.received + 1, captured := capture.captured + 1 } : Capture).Agrees
            { account with
              taken := account.taken + 1, received := account.received + 1
              captured := account.captured + 1, frames := account.frames ++ [bytes] } :=
          ⟨congrArg (· + 1) agrees.received, congrArg (· + 1) agrees.captured, agrees.dropped,
            agrees.filtered⟩
        have one : (account.frames ++ [bytes]).map (·, capture.options.trailerLength) =
            account.frames.map (·, capture.options.trailerLength) ++
              [frame].map CapturedFrame.parts := by
          rw [List.map_append, List.map_singleton, List.map_singleton, made]
        rw [entered, drained]
        exact (ih counters unfailed unfinished inRange).cons [frame] rfl one
      | fatal failure =>
        simp only [verdict] at received entered
        have drained : capture.drain (.ofReceptions (reception :: script)) = _ :=
          drain_cons_of_error isOpen received _
        -- The failure closes the account, so nothing behind it is entered.
        rw [entered, drained, Account.foldl_enter_of_isClosed rfl]
        exact {
          counters := ⟨agrees.received, agrees.captured, agrees.dropped, agrees.filtered⟩
          frames := (List.append_nil _).symm
          inbound := by rw [Nat.add_sub_cancel_left, List.drop_succ_cons, List.drop_zero]; rfl
          taken := Nat.le_succ _
          error := rfl
          finished := rfl }

/-- Draining a new capture settles the account of its script. -/
theorem settles_ofScript (options : CaptureOptions) (interface : String) (heedsStop : Bool)
    (script : List Reception) (inRange : 14 + options.trailerLength.toNat < UInt64.size) :
    Settles options interface script {} (Account.ofScript options script)
      (({ options, interface, heedsStop } : Capture).drain (.ofReceptions script)) := by
  have start : ({ options, interface, heedsStop } : Capture).Agrees {} := ⟨rfl, rfl, rfl, rfl⟩
  exact settles_drain start rfl rfl inRange script

end Capture

end PcmLink
