import PcmLink.Proofs.Text.Blank
import PcmLink.Proofs.Transmitter.Turns

/-!
# Speeds that options force

An option writes a speed with the digits of the speed and letters of the unit behind them, between
blanks. Just such options reach the control, each with one request for the speed that it writes; any
other is refused as it was given. The letters may be repeated, so the options that reach the control
are those with one letter at most exactly if no letter is repeated.
-/

namespace PcmLink

namespace LinkSpeed

/-- The digits of a speed. -/
def digits : LinkSpeed → List Char
  | .fast => ['1', '0', '0']
  | .slow => ['1', '0']

/-- An option writes a speed with these letters of the unit. -/
structure Writes (option : String) (speed : LinkSpeed) (units : List Char) : Prop where
  /-- They are letters of the unit. -/
  letters : ∀ c ∈ units, c = 'M' ∨ c = 'm'
  /-- The digits of the speed stand before them, and blanks around it all. -/
  around : ∃ front back, (∀ c ∈ front ++ back, Text.isBlank c = true) ∧
    option.toList = front ++ (speed.digits ++ units) ++ back

variable {option : String} {speed other : LinkSpeed} {units others : List Char}

/-- The letters of the unit are the two cases of one letter. -/
theorem isUnit_iff {c : Char} : isUnit c = true ↔ c = 'M' ∨ c = 'm' := by
  simp [isUnit]

/-- The digits of a speed begin with a digit. -/
theorem head?_digits (speed : LinkSpeed) : speed.digits.head? = some '1' := by
  cases speed <;> rfl

/-- The digits of a speed end with a digit. -/
theorem getLast?_digits (speed : LinkSpeed) : speed.digits.getLast? = some '0' := by
  cases speed <;> rfl

/-- What an option writes is left of it without the blanks around it. -/
theorem writes_iff :
    Writes option speed units ↔
      (∀ c ∈ units, isUnit c = true) ∧ Text.trim option.toList = speed.digits ++ units := by
  simp only [isUnit_iff, Text.trim_eq_iff]
  constructor
  · rintro ⟨letters, around⟩
    refine ⟨letters, around, ?_, ?_⟩
    · intro c first
      rw [List.head?_append, head?_digits] at first
      obtain rfl := Option.some.inj first
      rfl
    · intro c last
      rw [List.getLast?_append, getLast?_digits] at last
      cases ending : units.getLast? with
      | none =>
        rw [ending] at last
        obtain rfl := Option.some.inj last
        rfl
      | some unit =>
        rw [ending] at last
        obtain rfl := Option.some.inj last
        rcases letters unit (List.mem_of_getLast? ending) with rfl | rfl <;> rfl
  · rintro ⟨letters, around, _⟩
    exact ⟨letters, around⟩

/-- An option writes a speed exactly if its digits are left without the letters at its end. -/
theorem exists_writes_iff :
    (∃ units, Writes option speed units) ↔
      Text.dropEndWhile isUnit (Text.trim option.toList) = speed.digits := by
  simp only [writes_iff, Text.dropEndWhile_eq_iff, getLast?_digits]
  constructor
  · rintro ⟨units, letters, whole⟩
    refine ⟨⟨units, letters, whole⟩, fun c last => ?_⟩
    obtain rfl := Option.some.inj last
    rfl
  · rintro ⟨written, _⟩
    exact written

/-- Different speeds have different digits. -/
theorem digits_inj (same : speed.digits = other.digits) : speed = other := by
  revert same
  cases speed <;> cases other <;> decide

/-- An option writes one speed in one way. -/
theorem Writes.unique (first : Writes option speed units) (second : Writes option other others) :
    speed = other ∧ units = others := by
  have same : speed = other :=
    digits_inj ((exists_writes_iff.mp ⟨_, first⟩).symm.trans (exists_writes_iff.mp ⟨_, second⟩))
  subst same
  have whole := (writes_iff.mp first).2.symm.trans (writes_iff.mp second).2
  exact ⟨rfl, List.append_cancel_left whole⟩

/-- The speed that an option is read as is the one that it writes. -/
theorem parse_eq_ok_iff : parse option = .ok speed ↔ ∃ units, Writes option speed units := by
  rw [exists_writes_iff]
  unfold parse
  dsimp only
  generalize Text.dropEndWhile isUnit (Text.trim option.toList) = left
  by_cases fast : left = ['1', '0', '0']
  · subst fast
    cases speed <;> simp [digits]
  · rw [if_neg fast]
    by_cases slow : left = ['1', '0']
    · subst slow
      cases speed <;> simp [digits]
    · rw [if_neg slow]
      cases speed <;> simp [digits, fast, slow]

/-- An option that writes no speed is refused as it was given. -/
theorem parse_of_not_writes (idle : ∀ speed units, ¬ Writes option speed units) :
    parse option = .error (.invalidSpeed option) := by
  cases read : parse option with
  | ok speed =>
    obtain ⟨units, writes⟩ := parse_eq_ok_iff.mp read
    exact absurd writes (idle speed units)
  | error error =>
    unfold parse at read
    dsimp only at read
    split at read
    · contradiction
    · split at read
      · contradiction
      · rw [← Except.error.inj read]

end LinkSpeed

/-- Forcing a speed on an interface goes by what an option is written for. -/
structure Station.Forces (before : Station) (written : LinkSpeed → Prop) (interface option : String)
    (result : Except Error LinkSpeed) (after : Station) : Prop where
  /-- The control is asked for a speed, once, exactly if the option is written for it. -/
  asks : ∀ speed, after.requests = before.requests ++ [(interface, speed)] ↔ written speed
  /-- A failure of the control is the result, and the speed if it succeeds. -/
  answers : ∀ speed, written speed →
    result = ((before.control.headD (.ok ())).map fun _ => speed).mapError Subtype.val
  /-- An option that is written for no speed is refused as it was given, and nothing is done. -/
  refuses : (∀ speed, ¬ written speed) → result = .error (.invalidSpeed option) ∧ after = before

namespace Station

variable (station : Station) {interface option : String} {speed : LinkSpeed}

/-- An option that is read as a speed makes one request for it. -/
theorem setSpeed_of_parse (read : LinkSpeed.parse option = .ok speed) :
    (station.setSpeed interface option).1 =
        ((station.control.headD (.ok ())).map fun _ => speed).mapError Subtype.val ∧
      (station.setSpeed interface option).2.requests =
        station.requests ++ [(interface, speed)] := by
  unfold setSpeed request
  rw [read]
  cases station.control with
  | nil => exact ⟨rfl, rfl⟩
  | cons answer rest => cases answer <;> exact ⟨rfl, rfl⟩

/-- Forcing a speed goes by the speed that an option writes, however many letters of the unit it
has. -/
theorem forces_setSpeed (interface option : String) :
    station.Forces (fun speed => ∃ units, LinkSpeed.Writes option speed units) interface option
      (station.setSpeed interface option).1 (station.setSpeed interface option).2 where
  asks speed := by
    rw [← LinkSpeed.parse_eq_ok_iff]
    constructor
    · intro asked
      rw [setSpeed_snd] at asked
      cases read : LinkSpeed.parse option with
      | error error =>
        rw [read] at asked
        cases List.append_cancel_left asked
      | ok other =>
        rw [read] at asked
        cases List.append_cancel_left asked
        rfl
    · exact fun read => (station.setSpeed_of_parse read).2
  answers speed written :=
    (station.setSpeed_of_parse (LinkSpeed.parse_eq_ok_iff.mpr written)).1
  refuses idle := by
    have refused := LinkSpeed.parse_of_not_writes (not_exists.mp <| idle ·)
    rw [setSpeed, refused]
    exact ⟨rfl, rfl⟩

end Station

/-- The speed that a line asked for is the one that the option of its command writes. -/
theorem Turn.speed?_eq_some_iff {turn : Turn} {speed : LinkSpeed} :
    turn.speed? = some speed ↔
      ∃ option units, Command.parse turn.line = some (.setSpeed option) ∧
        LinkSpeed.Writes option speed units := by
  unfold speed?
  split
  · rename_i option parsed
    have read : (LinkSpeed.parse option).toOption = some speed ↔
        LinkSpeed.parse option = .ok speed := by
      cases LinkSpeed.parse option <;> simp [Except.toOption]
    rw [read, LinkSpeed.parse_eq_ok_iff]
    constructor
    · rintro ⟨units, writes⟩
      exact ⟨option, units, parsed, writes⟩
    · rintro ⟨other, units, same, writes⟩
      cases parsed.symm.trans same
      exact ⟨units, writes⟩
  · rename_i idle
    constructor
    · intro read
      contradiction
    · rintro ⟨option, units, parsed, _⟩
      exact absurd parsed (idle option)

namespace Transmitter

/-- A line makes one request at most, for the speed that the option of its command writes. -/
theorem exists_requests_obey (transmitter : Transmitter) (station : Station) (line : String) :
    ∃ asked, (transmitter.obey line station).2.requests = station.requests ++ asked ∧
      asked.length ≤ 1 ∧
      ∀ interface speed, (interface, speed) ∈ asked ↔
        interface = transmitter.interface ∧
          ∃ option units, Command.parse line = some (.setSpeed option) ∧
            LinkSpeed.Writes option speed units := by
  obtain ⟨result, after, does⟩ := transmitter.exists_does line station
  let turn : Turn := ⟨line, result⟩
  have requests := does.tally.requests
  rw [← does.obey_eq] at requests
  refine ⟨_, requests, ?_, fun interface speed => ?_⟩
  · rw [List.length_map]
    exact List.length_filterMap_le _ _
  · rw [← @Turn.speed?_eq_some_iff turn speed]
    simp only [List.mem_map, List.mem_filterMap, List.mem_singleton, Prod.mk.injEq]
    constructor
    · rintro ⟨_, ⟨_, rfl, named⟩, rfl, rfl⟩
      exact ⟨rfl, named⟩
    · rintro ⟨rfl, named⟩
      exact ⟨speed, ⟨turn, rfl, named⟩, rfl, rfl⟩

/-- Forcing a speed goes by the speed that an option writes with any letters of the unit: such an
option makes one request for the speed, whose failure is the result, and any other is refused as it
was given. It goes by the options with one letter at most exactly if the option does not repeat the
letter. A line makes one request at most, on its interface and for the speed that the option of its
command writes. -/
theorem options_force_speeds_iff (transmitter : Transmitter) (station : Station)
    (option line : String) :
    let (result, after) := station.setSpeed transmitter.interface option
    station.Forces (fun speed => ∃ units, LinkSpeed.Writes option speed units)
        transmitter.interface option result after ∧
      (station.Forces (fun speed => ∃ units, units.length ≤ 1 ∧ LinkSpeed.Writes option speed units)
          transmitter.interface option result after ↔
        ∀ speed units, LinkSpeed.Writes option speed units → units.length ≤ 1) ∧
      ∃ asked, (transmitter.obey line station).2.requests = station.requests ++ asked ∧
        asked.length ≤ 1 ∧
        ∀ interface speed, (interface, speed) ∈ asked ↔
          interface = transmitter.interface ∧
            ∃ option units, Command.parse line = some (.setSpeed option) ∧
              LinkSpeed.Writes option speed units := by
  have forces := station.forces_setSpeed transmitter.interface option
  refine ⟨forces, ?_, transmitter.exists_requests_obey station line⟩
  constructor
  · intro short speed units writes
    -- The request that is made tells that the option has a short form, which is its only one.
    have asked := (forces.asks speed).mpr ⟨units, writes⟩
    obtain ⟨others, single, again⟩ := (short.asks speed).mp asked
    rwa [(writes.unique again).2]
  · intro single
    have same : (fun speed => ∃ units, units.length ≤ 1 ∧ LinkSpeed.Writes option speed units) =
        fun speed => ∃ units, LinkSpeed.Writes option speed units := by
      funext speed
      apply propext
      constructor
      · rintro ⟨units, _, writes⟩
        exact ⟨units, writes⟩
      · rintro ⟨units, writes⟩
        exact ⟨units, single speed units writes, writes⟩
    rw [same]
    exact forces

/-- An option that repeats the letter of the unit reaches the control all the same, between blanks
on a line as well. -/
theorem options_force_speeds_iff_repeated :
    let transmitter : Transmitter := {
      interface := "eth0", payloadLimit := 1500
      frame := { destination := .broadcast, source := .zero, protocolType := .bench
                 payload := [1, 2] } }
    let after := (({} : Station).setSpeed "eth0" " 100Mm").2
    LinkSpeed.Writes " 100Mm" .fast ['M', 'm'] ∧
      after.requests = [("eth0", .fast)] ∧
      ¬ Station.Forces {} (fun speed => ∃ units, units.length ≤ 1 ∧
        LinkSpeed.Writes " 100Mm" speed units) "eth0" " 100Mm" (.ok .fast) after ∧
      ∃ asked, (transmitter.obey "speed  10 " {}).2.requests = [] ++ asked ∧ asked.length ≤ 1 ∧
        ("eth0", .slow) ∈ asked := by
  intro transmitter after
  have writes : LinkSpeed.Writes " 100Mm" .fast ['M', 'm'] := {
    letters := List.forall_mem_cons.mpr ⟨.inl rfl, List.forall_mem_singleton.mpr (.inr rfl)⟩
    around := ⟨[' '], [], List.forall_mem_singleton.mpr rfl, by rfl⟩ }
  have slow : LinkSpeed.Writes "10" .slow [] := {
    letters := List.forall_mem_nil _
    around := ⟨[], [], List.forall_mem_nil _, by rfl⟩ }
  obtain ⟨forces, short, asked, made, single, named⟩ :=
    transmitter.options_force_speeds_iff {} " 100Mm" "speed  10 "
  refine ⟨writes, (forces.asks .fast).mpr ⟨_, writes⟩, fun forced => ?_, asked, made, single, ?_⟩
  · exact absurd (short.mp forced .fast _ writes) (by decide)
  · exact (named "eth0" .slow).mpr ⟨rfl, "10", [], by rfl, slow⟩

end Transmitter

end PcmLink
