import PcmLink.Proofs.Capture.Audit

/-!
# Captures that are polled

Whoever holds a capture may ask it for an item at any time, also behind its end, and between two
calls the flag may be set from outside. Whatever the link delivers, the counters stay in balance
with what was yielded and never exceed what was asked for. An item other than a frame finishes the
capture, and from then on it answers nothing, receives nothing and counts nothing.
-/

namespace PcmLink.Capture

/-- The call yielded a frame. -/
def isFrame : Option Item → Bool
  | some (.ok _) => true
  | _ => false

/-- The call yielded an error. -/
def isError : Option Item → Bool
  | some (.error _) => true
  | _ => false

/-- What calls for an item come to. -/
structure Polled where
  /-- What each call yielded, in order. -/
  items : List (Option Item)
  /-- The capture afterwards. -/
  capture : Capture
  /-- What the link delivers afterwards. -/
  inbound : Inbound

/-- Ask for an item with each call; a call says whether the flag is set from outside before it. -/
def poll (capture : Capture) (inbound : Inbound) : List Bool → Polled
  | [] => { items := [], capture, inbound }
  | stops :: calls =>
    let turn := capture.next { inbound with stopped := inbound.stopped || stops }
    let rest := poll turn.capture turn.inbound calls
    { rest with items := turn.item :: rest.items }

/-- From one state of a capture to another it yielded so many frames and kept its books. -/
structure Keeps (before : Capture) (yielded : Nat) (after : Capture) : Prop where
  /-- What to collect stays the same. -/
  options : after.options = before.options
  /-- What is received is yielded or dropped. -/
  balanced : before.received = before.captured + before.dropped →
    after.received = after.captured + after.dropped
  /-- No more is received than was asked for. -/
  bounded : before.received ≤ before.options.count → after.received ≤ after.options.count
  /-- Every frame that is yielded is counted. -/
  captured : after.captured = before.captured + yielded

section Books

variable {before middle after : Capture} {first second : Nat}

/-- A capture that counts nothing keeps its books. -/
theorem Keeps.of_counters_eq (options : after.options = before.options)
    (received : after.received = before.received) (captured : after.captured = before.captured)
    (dropped : after.dropped = before.dropped) : before.Keeps 0 after where
  options := options
  balanced := fun balance => by rw [received, captured, dropped, balance]
  bounded := fun within => by rwa [received, options]
  captured := captured

/-- Books that are kept first and kept then are kept throughout. -/
theorem Keeps.trans (front : before.Keeps first middle) (back : middle.Keeps second after) :
    before.Keeps (first + second) after where
  options := back.options.trans front.options
  balanced := fun balance => back.balanced (front.balanced balance)
  bounded := fun within => back.bounded (front.bounded within)
  captured := by rw [back.captured, front.captured, Nat.add_assoc]

end Books

/-- What one reception makes of a capture, case by case. -/
inductive Receives (capture : Capture) : Option Item → Capture → Prop where
  /-- A failure that may pass is tried again. -/
  | retry : Receives capture none capture
  /-- Any other failure finishes the capture, and so does a sum that is no machine word. -/
  | fail (error : Error) : Receives capture (some (.error error)) { capture with finished := true }
  /-- A frame that is too short is counted and dropped. -/
  | drop :
    Receives capture none
      { capture with received := capture.received + 1, dropped := capture.dropped + 1 }
  /-- A frame of another type is passed over. -/
  | pass : Receives capture none { capture with filtered := capture.filtered + 1 }
  /-- Any other frame is counted and yielded. -/
  | yield (frame : CapturedFrame) :
    Receives capture (some (.ok frame))
      { capture with received := capture.received + 1, captured := capture.captured + 1 }

section Turn

variable (capture : Capture)

/-- A reception does one of these things. -/
theorem receives_receive (reception : Reception) :
    capture.Receives (capture.receive reception).1 (capture.receive reception).2.1 := by
  unfold receive
  split
  · split
    · exact .retry
    · exact .fail _
  · split
    · exact .fail .overflow
    · exact .drop
    · split
      · exact .pass
      · exact .yield _

variable {capture}

/-- A reception keeps the books of a capture that wants more. -/
theorem Receives.keeps {item : Option Item} {after : Capture}
    (received : capture.Receives item after)
    (wanting : capture.received < capture.options.count) :
    capture.Keeps ([item].countP isFrame) after := by
  cases received with
  | retry | fail | pass => exact .of_counters_eq rfl rfl rfl rfl
  | drop =>
    exact {
      options := rfl
      balanced := fun balance => by
        show capture.received + 1 = capture.captured + (capture.dropped + 1)
        omega
      bounded := fun _ => wanting
      captured := rfl }
  | yield =>
    exact {
      options := rfl
      balanced := fun balance => by
        show capture.received + 1 = capture.captured + 1 + capture.dropped
        omega
      bounded := fun _ => wanting
      captured := rfl }

/-- A capture that goes on to a receive wants more. -/
theorem IsOpen.wanting {stopped : Bool} (isOpen : capture.IsOpen stopped) :
    capture.received < capture.options.count := by
  have unbounded := (Bool.or_eq_false_iff.mp isOpen.1).2
  exact Nat.not_le.mp (of_decide_eq_false unbounded)

/-- A capture that does not go on to a receive is finished and yields no frame. -/
theorem exists_nextFrom_of_closed {stopped : Bool} (closed : ¬ capture.IsOpen stopped)
    (arrivals : List Arrival) :
    ∃ item, isFrame item = false ∧
      capture.nextFrom stopped arrivals =
        { item, capture := { capture with finished := true }
          inbound := { arrivals, stopped }, warnings := [] } := by
  by_cases isOver : capture.isOver = true
  · exact ⟨none, rfl, nextFrom_of_isOver isOver stopped arrivals⟩
  · have wanting : capture.isOver = false := Bool.eq_false_iff.mpr isOver
    have heeded : (capture.heedsStop && stopped) = true := by
      cases heeds : capture.heedsStop && stopped with
      | true => rfl
      | false => exact absurd ⟨wanting, heeds⟩ closed
    exact ⟨some (.error .cancelled), rfl, nextFrom_of_stopped wanting heeded arrivals⟩

/-- A call keeps the books, and what it yields other than a frame finishes the capture. -/
theorem keeps_nextFrom (capture : Capture) (stopped : Bool) (arrivals : List Arrival) :
    let turn := capture.nextFrom stopped arrivals
    capture.Keeps ([turn.item].countP isFrame) turn.capture ∧
      (isFrame turn.item = false → turn.capture.finished = true) := by
  -- The capture changes from one reception to the next, so it varies along the arrivals.
  induction arrivals generalizing capture stopped with
  | nil =>
    by_cases isOpen : capture.IsOpen stopped
    · rw [nextFrom_nil isOpen]
      exact ⟨.of_counters_eq rfl rfl rfl rfl, fun _ => rfl⟩
    · obtain ⟨item, frameless, turn⟩ := exists_nextFrom_of_closed isOpen []
      rw [turn]
      refine ⟨?_, fun _ => rfl⟩
      rw [List.countP_singleton, frameless]
      exact .of_counters_eq rfl rfl rfl rfl
  | cons arrival rest ih =>
    by_cases isOpen : capture.IsOpen stopped
    · have taken := capture.receives_receive arrival.reception
      rcases received : capture.receive arrival.reception with ⟨item, after, warnings⟩
      rw [received] at taken
      have kept := taken.keeps isOpen.wanting
      cases item with
      | some item =>
        rw [nextFrom_cons_of_some isOpen received]
        refine ⟨kept, fun frameless => ?_⟩
        cases taken with
        | fail => rfl
        | yield => cases frameless
      | none =>
        rw [nextFrom_cons_of_none isOpen received]
        obtain ⟨later, finished⟩ := ih after (stopped || arrival.stops)
        have whole := kept.trans later
        refine ⟨?_, finished⟩
        have silent : [(none : Option Item)].countP isFrame = 0 := rfl
        rwa [silent, Nat.zero_add] at whole
    · obtain ⟨item, frameless, turn⟩ := exists_nextFrom_of_closed isOpen (arrival :: rest)
      rw [turn]
      refine ⟨?_, fun _ => rfl⟩
      rw [List.countP_singleton, frameless]
      exact .of_counters_eq rfl rfl rfl rfl

end Turn

section Poll

variable (capture : Capture) (inbound : Inbound) (calls : List Bool)

/-- Calls keep the books. -/
theorem keeps_poll :
    capture.Keeps ((capture.poll inbound calls).items.countP isFrame)
      (capture.poll inbound calls).capture := by
  induction calls generalizing capture inbound with
  | nil => exact .of_counters_eq rfl rfl rfl rfl
  | cons stops calls ih =>
    have asked := (capture.keeps_nextFrom (inbound.stopped || stops) inbound.arrivals).1
    rw [poll]
    dsimp only [next]
    rw [← List.singleton_append, List.countP_append]
    exact asked.trans (ih _ _)

/-- A finished capture answers every call with nothing and is left as it is, and so is what the link
would deliver. -/
theorem poll_of_finished (finished : capture.finished = true) :
    capture.poll inbound calls =
      { items := List.replicate calls.length none, capture
        inbound := { inbound with stopped := inbound.stopped || calls.any id } } := by
  induction calls generalizing inbound with
  | nil => simp [poll]
  | cons stops calls ih =>
    rw [poll, next_of_finished finished]
    dsimp only
    rw [ih]
    simp [List.replicate_succ, Bool.or_assoc]

/-- A capture that has yielded anything but frames is finished. -/
theorem finished_of_poll {item : Option Item}
    (among : item ∈ (capture.poll inbound calls).items) (frameless : isFrame item = false) :
    (capture.poll inbound calls).capture.finished = true := by
  induction calls generalizing capture inbound with
  | nil => cases among
  | cons stops calls ih =>
    have finishes := (capture.keeps_nextFrom (inbound.stopped || stops) inbound.arrivals).2
    rw [poll] at among ⊢
    dsimp only [next] at among ⊢
    rcases List.mem_cons.mp among with rfl | later
    · rw [poll_of_finished _ _ _ (finishes frameless)]
      exact finishes frameless
    · exact ih _ _ later

/-- Of all calls at most one yields an error. -/
theorem countP_isError_poll : (capture.poll inbound calls).items.countP isError ≤ 1 := by
  induction calls generalizing capture inbound with
  | nil => exact Nat.zero_le 1
  | cons stops calls ih =>
    have finishes := (capture.keeps_nextFrom (inbound.stopped || stops) inbound.arrivals).2
    rw [poll]
    dsimp only [next]
    by_cases failed : isError (capture.nextFrom (inbound.stopped || stops) inbound.arrivals).item
    · -- The error finishes the capture, so every later call yields nothing.
      have frameless :
          isFrame (capture.nextFrom (inbound.stopped || stops) inbound.arrivals).item = false := by
        unfold isError at failed
        split at failed
        · rename_i found
          rw [found]
          rfl
        · contradiction
      rw [poll_of_finished _ _ _ (finishes frameless), List.countP_cons_of_pos failed,
        List.countP_replicate]
      exact Nat.le_refl 1
    · rw [List.countP_cons_of_neg failed]
      exact ih _ _

end Poll

/-- However often a capture is asked, whatever the link delivers and whenever the flag is set: what
it received was yielded or dropped and is no more than it was asked for, the frames it counts are
those it yielded, and it yielded at most one error. Once it has yielded an error or nothing, every
further call yields nothing and leaves its counters and the link as they are, whatever the link
would deliver. -/
theorem polled_capture_keeps_books (options : CaptureOptions) (interface : String)
    (heedsStop : Bool) (inbound : Inbound) (calls : List Bool) :
    let polled := ({ options, interface, heedsStop } : Capture).poll inbound calls
    let capture := polled.capture
    capture.received = capture.captured + capture.dropped ∧
      capture.received ≤ options.count ∧
      capture.captured = polled.items.countP isFrame ∧
      polled.items.countP isError ≤ 1 ∧
      ∀ item ∈ polled.items, isFrame item = false →
        ∀ (left : Inbound) (later : List Bool),
          capture.poll left later =
            { items := List.replicate later.length none, capture
              inbound := { left with stopped := left.stopped || later.any id } } := by
  intro polled capture
  have kept := keeps_poll { options, interface, heedsStop } inbound calls
  have sameOptions : capture.options = options := kept.options
  refine ⟨kept.balanced rfl, ?_, ?_, countP_isError_poll _ inbound calls, ?_⟩
  · rw [← sameOptions]
    exact kept.bounded (Nat.zero_le _)
  · have captured := kept.captured
    rwa [Nat.zero_add] at captured
  · intro item among frameless left later
    exact poll_of_finished capture left later (finished_of_poll _ _ _ among frameless)

/-- A capture that is asked six times yields a frame behind one that is too short, then the failure
of the link, and then nothing, although another frame is there and the flag is set: only two frames
are received. -/
theorem polled_capture_keeps_books_failing :
    let frame : List UInt8 :=
      [0xde, 0xad, 0xbe, 0xef, 0, 0, 0xd8, 0xbb, 0xc1, 0x57, 0xaa, 0x16, 0x00, 0x40] ++
        List.replicate 4 0xfc
    let capture : Capture := { interface := "eth0" }
    let inbound : Inbound := { arrivals := [
      { reception := .frame [1, 2, 3] }, { reception := .frame frame },
      { reception := .failure (.os Errno.noDevice) }, { reception := .frame frame }] }
    let polled := capture.poll inbound [false, false]
    some (.error (.interfaceNotFound "eth0")) ∈ polled.items ∧
      polled.capture.received = polled.capture.captured + polled.capture.dropped ∧
      polled.capture.received = 2 ∧
      polled.capture.poll polled.inbound [false, true, false, false] =
        { items := [none, none, none, none], capture := polled.capture
          inbound := { arrivals := [{ reception := .frame frame }], stopped := true } } := by
  intro frame capture inbound polled
  obtain ⟨balanced, _, _, _, silent⟩ :=
    polled_capture_keeps_books {} "eth0" true inbound [false, false]
  have failed : some (.error (.interfaceNotFound "eth0")) ∈ polled.items :=
    .tail _ (.head _)
  exact ⟨failed, balanced, by decide,
    silent _ failed rfl polled.inbound [false, true, false, false]⟩

end PcmLink.Capture
