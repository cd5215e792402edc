import PcmLink.Proofs.Capture.Steps
import PcmLink.Proofs.Capture.Verdict

/-!
# Foreign frames among arrivals

A frame whose header names another type than the wanted one is passed over, unless it is too short
for its trailer. Put among the arrivals of a link, at any places, such frames change nothing of what
a capture yields but the number of frames passed over: item by item, and so for all items until the
capture ends. Nothing is said of the flag, which may be set by any of the other arrivals.
-/

namespace PcmLink

/-- A frame that a capture passes over for its type. -/
structure CaptureOptions.Foreign (options : CaptureOptions) (bytes : List UInt8) : Prop where
  /-- It holds a whole header. -/
  header : 14 ≤ bytes.length
  /-- It is not too short. -/
  long : ∃ frame, CapturedFrame.parse? bytes options.trailerLength = some (.ok frame)
  /-- The type in its header is not the one wanted. -/
  unwanted : ∃ wanted, options.wanted = some wanted ∧ (bytes.drop 12).take 2 ≠ wanted.bytes

/-- Of two lists of arrivals the second is the first with foreign frames put anywhere. -/
inductive Arrival.Interspersed (options : CaptureOptions) : List Arrival → List Arrival → Prop where
  /-- There is no arrival. -/
  | nil : Interspersed options [] []
  /-- Both begin with the same arrival. -/
  | keep (arrival : Arrival) {quiet noisy : List Arrival}
      (rest : Interspersed options quiet noisy) :
      Interspersed options (arrival :: quiet) (arrival :: noisy)
  /-- A foreign frame is put first. -/
  | put {bytes : List UInt8} (foreign : options.Foreign bytes) {quiet noisy : List Arrival}
      (rest : Interspersed options quiet noisy) :
      Interspersed options quiet ({ reception := .frame bytes } :: noisy)

namespace Capture

/-- The capture with so many more frames passed over. -/
def passing (capture : Capture) (passed : Nat) : Capture :=
  { capture with filtered := capture.filtered + passed }

/-- A capture is passing none as it is. -/
theorem passing_zero (capture : Capture) : capture.passing 0 = capture := rfl

section Receive

variable (capture : Capture) (passed : Nat) (reception : Reception)

/-- The frames passed over before do not change what a reception makes. -/
theorem receive_passing :
    (capture.passing passed).receive reception =
      ((capture.receive reception).1, (capture.receive reception).2.1.passing passed,
        (capture.receive reception).2.2) := by
  cases reception with
  | failure failure =>
    by_cases transient : failure.isTransient
    · simp [receive, transient]
    · simp [receive, transient, passing]
  | frame bytes =>
    have options : (capture.passing passed).options = capture.options := rfl
    have foreign (frame : CapturedFrame) :
        (capture.passing passed).isForeign frame = capture.isForeign frame := rfl
    simp only [receive, options, foreign]
    cases CapturedFrame.parse? bytes capture.options.trailerLength with
    | none => rfl
    | some taken =>
      cases taken with
      | error error => rfl
      | ok frame =>
        by_cases other : capture.isForeign frame
        · simp only [if_pos other, passing, Nat.add_right_comm]
        · simp only [if_neg other, passing]

/-- No reception changes what is to be collected. -/
theorem options_receive : (capture.receive reception).2.1.options = capture.options := by
  unfold receive
  split
  · split <;> rfl
  · split
    · rfl
    · rfl
    · split <;> rfl

end Receive

/-- A foreign frame is passed over. -/
theorem receive_of_foreign {capture : Capture} {bytes : List UInt8}
    (foreign : capture.options.Foreign bytes) :
    capture.receive (.frame bytes) = (none, capture.passing 1, []) := by
  obtain ⟨wanted, some_wanted, other⟩ := foreign.unwanted
  obtain ⟨frame, parsed⟩ := foreign.long
  have whole : frame.raw = bytes := congrArg Prod.fst (CapturedFrame.parts_of_parse? parsed)
  have isForeign : capture.isForeign frame = true := by
    rw [isForeign_eq, some_wanted, Option.any_some, whole]
    exact bne_iff_ne.mpr other
  simp only [receive, parsed, if_pos isForeign, passing]

/-- The turn with so many more frames passed over, and other arrivals left. -/
def Turn.among (turn : Turn) (passed : Nat) (left : List Arrival) : Turn :=
  { turn with
    capture := turn.capture.passing passed
    inbound := { turn.inbound with arrivals := left } }

/-- A capture that begins no receive takes none of the arrivals, foreign frames among them or
not. -/
theorem exists_nextFrom_of_not_isOpen {options : CaptureOptions} {quiet noisy : List Arrival}
    (between : Arrival.Interspersed options quiet noisy) {capture : Capture}
    (same : capture.options = options) {stopped : Bool} (isClosed : ¬ capture.IsOpen stopped)
    (passed : Nat) :
    ∃ more left,
      Arrival.Interspersed options (capture.nextFrom stopped quiet).inbound.arrivals left ∧
        (capture.nextFrom stopped quiet).capture.options = options ∧
        (capture.passing passed).nextFrom stopped noisy =
          (capture.nextFrom stopped quiet).among more left := by
  have over_eq : (capture.passing passed).isOver = capture.isOver := rfl
  cases isOver : capture.isOver with
  | true =>
    rw [nextFrom_of_isOver isOver, nextFrom_of_isOver (over_eq.trans isOver)]
    exact ⟨passed, noisy, between, same, rfl⟩
  | false =>
    have heeded : (capture.heedsStop && stopped) = true := by
      apply Bool.of_not_eq_false
      intro unheeded
      exact isClosed ⟨isOver, unheeded⟩
    rw [nextFrom_of_stopped isOver heeded, nextFrom_of_stopped (over_eq.trans isOver) heeded]
    exact ⟨passed, noisy, between, same, rfl⟩

/-- Foreign frames among the arrivals change neither the next item nor the warnings on the way to
it, and of the capture only how many frames were passed over. Only foreign frames are put among the
arrivals that are left. -/
theorem exists_nextFrom_among {options : CaptureOptions} {quiet noisy : List Arrival}
    (between : Arrival.Interspersed options quiet noisy) {capture : Capture}
    (same : capture.options = options) (stopped : Bool) (passed : Nat) :
    ∃ more left,
      Arrival.Interspersed options (capture.nextFrom stopped quiet).inbound.arrivals left ∧
        (capture.nextFrom stopped quiet).capture.options = options ∧
        (capture.passing passed).nextFrom stopped noisy =
          (capture.nextFrom stopped quiet).among more left := by
  induction between generalizing capture stopped passed with
  | nil =>
    by_cases isOpen : capture.IsOpen stopped
    · have passingOpen : (capture.passing passed).IsOpen stopped := isOpen
      rw [nextFrom_nil isOpen, nextFrom_nil passingOpen]
      exact ⟨passed, [], .nil, same, rfl⟩
    · exact exists_nextFrom_of_not_isOpen .nil same isOpen passed
  | @keep arrival quiet noisy rest ih =>
    by_cases isOpen : capture.IsOpen stopped
    · have passingOpen : (capture.passing passed).IsOpen stopped := isOpen
      have received := capture.receive_passing passed arrival.reception
      have kept := (capture.options_receive arrival.reception).trans same
      rcases made : capture.receive arrival.reception with ⟨item, after, warnings⟩
      rw [made] at received kept
      cases item with
      | some item =>
        rw [nextFrom_cons_of_some isOpen made, nextFrom_cons_of_some passingOpen received]
        exact ⟨passed, noisy, rest, kept, rfl⟩
      | none =>
        rw [nextFrom_cons_of_none isOpen made, nextFrom_cons_of_none passingOpen received]
        obtain ⟨more, left, strewn, unchanged, turn⟩ :=
          ih kept (stopped || arrival.stops) passed
        refine ⟨more, left, strewn, unchanged, ?_⟩
        rw [turn]
        rfl
    · exact exists_nextFrom_of_not_isOpen (.keep arrival rest) same isOpen passed
  | @put bytes foreign quiet noisy rest ih =>
    by_cases isOpen : capture.IsOpen stopped
    · -- The frame that was put is received and passed over; the others follow.
      have passingOpen : (capture.passing passed).IsOpen stopped := isOpen
      have received : (capture.passing passed).receive (.frame bytes) =
          (none, (capture.passing passed).passing 1, []) :=
        receive_of_foreign (same ▸ foreign)
      obtain ⟨more, left, strewn, unchanged, turn⟩ := ih same stopped (passed + 1)
      refine ⟨more, left, strewn, unchanged, ?_⟩
      rw [nextFrom_cons_of_none passingOpen received, Bool.or_false]
      exact turn
    · exact exists_nextFrom_of_not_isOpen (.put foreign rest) same isOpen passed

/-- What is drained with so many more frames passed over, and other arrivals left. -/
def Rest.among (rest : Rest) (passed : Nat) (left : List Arrival) : Rest :=
  { rest with
    capture := rest.capture.passing passed
    inbound := { rest.inbound with arrivals := left } }

/-- Foreign frames among the arrivals change nothing of what a capture is drained to but how many
were passed over and which of them are left. -/
theorem exists_drain_among {options : CaptureOptions} {capture : Capture}
    (same : capture.options = options) {quiet : Inbound} {noisy : List Arrival}
    (between : Arrival.Interspersed options quiet.arrivals noisy) (passed : Nat) :
    ∃ more left,
      Arrival.Interspersed options (capture.drain quiet).inbound.arrivals left ∧
        (capture.passing passed).drain { quiet with arrivals := noisy } =
          (capture.drain quiet).among more left := by
  fun_induction capture.drain quiet generalizing passed noisy with
  | case1 capture quiet turn ended =>
    obtain ⟨more, left, strewn, _, next⟩ :=
      exists_nextFrom_among between same quiet.stopped passed
    refine ⟨more, left, strewn, ?_⟩
    rw [drain_of_none next ended]
    rfl
  | case2 capture quiet turn error failed =>
    obtain ⟨more, left, strewn, _, next⟩ :=
      exists_nextFrom_among between same quiet.stopped passed
    refine ⟨more, left, strewn, ?_⟩
    rw [drain_of_error next failed]
    rfl
  | case3 capture quiet turn frame yielded rest =>
    rename_i ih
    obtain ⟨more, left, strewn, kept, next⟩ :=
      exists_nextFrom_among between same quiet.stopped passed
    obtain ⟨total, behind, interspersed, drained⟩ := ih kept strewn more
    refine ⟨total, behind, interspersed, ?_⟩
    have later : (turn.capture.passing more).drain { turn.inbound with arrivals := left } =
        rest.among total behind := drained
    rw [drain_of_frame next yielded]
    exact congrArg (fun rest : Rest =>
      { rest with frames := frame :: rest.frames, warnings := turn.warnings ++ rest.warnings })
      later

end Capture

end PcmLink
