import PcmLink.Proofs.Capture.Audit

/-!
# What a script delivers

A script delivers enough if the frames that count reach the wanted number before the first failure
for good. Then, and only then, the account of the script ends without an error, and its frames are
those kept among the first that count.
-/

namespace PcmLink

namespace CaptureOptions

/-- The receptions before the first failure for good. -/
def beforeFailure (options : CaptureOptions) (script : List Reception) : List Reception :=
  script.takeWhile fun reception => (options.verdict reception).fatal?.isNone

/-- Enough receptions count before the first failure for good. -/
def Delivers (options : CaptureOptions) (script : List Reception) : Prop :=
  options.count ≤
    (options.beforeFailure script).countP fun reception => (options.verdict reception).counts

instance (options : CaptureOptions) (script : List Reception) :
    Decidable (options.Delivers script) :=
  inferInstanceAs (Decidable (_ ≤ _))

/-- The payloads of the frames that are kept among the first that count. -/
def payloads (options : CaptureOptions) (script : List Reception) : List (List UInt8) :=
  let counted := script.filter fun reception => (options.verdict reception).counts
  let kept := (counted.take options.count).filterMap fun reception =>
    (options.verdict reception).kept?
  kept.map options.payloadOf

end CaptureOptions

namespace Account

section Audits

variable {options : CaptureOptions} {script : List Reception} {account : Account}

/-- A closed account has taken no more than any front that ends the capture. -/
theorem Audits.taken_le_of_endedBy (audits : account.Audits options script) {count : Nat}
    (ended : options.endedBy (script.take count) = true) : account.taken ≤ count := by
  apply Nat.le_of_not_lt
  intro less
  rw [audits.before count less] at ended
  contradiction

/-- An account is closed if a front of its script ends the capture. -/
theorem Audits.isClosed_of_endedBy (audits : account.Audits options script) {count : Nat}
    (ended : options.endedBy (script.take count) = true) : account.isClosed options = true := by
  have within := audits.taken_le_of_endedBy ended
  rw [audits.isClosed_eq]
  by_cases left : account.taken < script.length
  · exact audits.behind left
  · have all : script.take account.taken = script.take count := by
      rw [List.take_of_length_le (by omega), List.take_of_length_le (by omega)]
    rw [all, ended]

/-- A script delivers enough exactly if its account is closed without a failure. -/
theorem Audits.delivers_iff (audits : account.Audits options script) :
    options.Delivers script ↔ account.failure = none ∧ options.count ≤ account.received := by
  constructor
  · intro delivers
    unfold CaptureOptions.Delivers at delivers
    -- The front before the first failure ends the capture, so no more than it was taken.
    have front : options.beforeFailure script =
        script.take (options.beforeFailure script).length :=
      List.prefix_iff_eq_take.mp (List.takeWhile_prefix _)
    have ended : options.endedBy (script.take (options.beforeFailure script).length) = true := by
      rw [← front, CaptureOptions.endedBy, decide_eq_true delivers, Bool.or_true]
    have unfailed : account.failure = none := by
      rw [audits.failure, List.findSome?_eq_none_iff]
      intro reception found
      have inFront : reception ∈ options.beforeFailure script := by
        rw [front]
        exact (List.take_prefix_take_left (audits.taken_le_of_endedBy ended)).mem found
      have unfailing : (options.beforeFailure script).all
          (fun reception => (options.verdict reception).fatal?.isNone) = true := List.all_takeWhile
      exact Option.isNone_iff_eq_none.mp (List.all_eq_true.mp unfailing reception inFront)
    have closed := audits.isClosed_of_endedBy ended
    rw [isClosed, unfailed, Option.isSome_none, Bool.false_or] at closed
    exact ⟨unfailed, of_decide_eq_true closed⟩
  · rintro ⟨unfailed, enough⟩
    rw [audits.failure, List.findSome?_eq_none_iff] at unfailed
    -- No failure was taken, so what was taken stands before the first one.
    have front : options.beforeFailure script =
        script.take account.taken ++ options.beforeFailure (script.drop account.taken) := by
      conv => lhs; rw [← List.take_append_drop account.taken script]
      exact List.takeWhile_append_of_pos fun reception found =>
        Option.isNone_iff_eq_none.mpr (unfailed reception found)
    rw [CaptureOptions.Delivers, front, List.countP_append, ← audits.received]
    omega

/-- The frames of an account that has received enough are those kept among the first that
count. -/
theorem Audits.map_payloadOf (audits : account.Audits options script)
    (enough : options.count ≤ account.received) :
    account.frames.map options.payloadOf = options.payloads script := by
  have bounded := audits.received_le
  have exact_count : ((script.take account.taken).filter fun reception =>
      (options.verdict reception).counts).length = options.count := by
    rw [← List.countP_eq_length_filter, ← audits.received]
    omega
  have first : ((script.filter fun reception => (options.verdict reception).counts).take
      options.count) = (script.take account.taken).filter fun reception =>
        (options.verdict reception).counts := by
    conv => lhs; rw [← List.take_append_drop account.taken script]
    rw [List.filter_append, List.take_left' exact_count]
  have kept : (fun reception => if (options.verdict reception).counts then
      (options.verdict reception).kept? else none) = fun reception =>
        (options.verdict reception).kept? := by
    funext reception
    cases options.verdict reception <;> rfl
  rw [CaptureOptions.payloads, first, List.filterMap_filter, kept, audits.frames]

end Audits

/-- The account of a script ends without an error exactly if the script delivers enough. -/
theorem error_eq_none_iff (options : CaptureOptions) (interface : String)
    (script : List Reception) :
    (ofScript options script).error options interface = none ↔ options.Delivers script := by
  rw [(audits_ofScript options script).delivers_iff, error]
  split
  · rename_i failure failed
    simp [failed]
  · rename_i unfailed
    simp [unfailed]

end Account

end PcmLink
