import PcmLink.Proofs.Disk.Finding
import PcmLink.Proofs.Wave.Reading
import PcmLink.Proofs.Wave.Saving

/-!
# The file that was saved last

Files are saved and loaded in any order, under any paths, and any save can fail at any step. What a
place holds afterwards is the data of the last file that was saved there, or what it held before
when none was. Two paths can lead to one place, so what was saved under one is also loaded under
the other.
-/

namespace PcmLink.Wave

/-- A call for a WAVE file. -/
inductive Call where
  /-- Save samples at a path. -/
  | save (path : String) (samples : List Int16) (sampleRate : UInt32) (mishaps : Mishaps)
  /-- Load the file at a path. -/
  | load (path : String)

/-- A file that was saved. -/
structure Saved where
  /-- The path it was saved at. -/
  path : String
  /-- Its samples. -/
  samples : List Int16
  /-- Its sample rate. -/
  sampleRate : UInt32
  deriving DecidableEq, Repr

/-- The node of a file that was saved. -/
def Saved.node (file : Saved) : Node := .file (data file.samples file.sampleRate)

/-- The file that a call saves, if it does, and the disk afterwards. -/
def Call.perform : Call → Disk → Option Saved × Disk
  | .save path samples sampleRate mishaps, disk =>
    match Wave.save disk path samples sampleRate mishaps with
    | (.ok (), after) => (some { path, samples, sampleRate }, after)
    | (.error _, after) => (none, after)
  | .load _, disk => (none, disk)

/-- The files that calls save, in order, and the disk afterwards. -/
def performAll : List Call → Disk → List Saved × Disk
  | [], disk => ([], disk)
  | call :: later, disk =>
    let (saved, next) := call.perform disk
    let (rest, after) := performAll later next
    (saved.toList ++ rest, after)

/-- A file that was saved has its name at a place. -/
def Saved.isAt (disk : Disk) (place : Location) (file : Saved) : Bool :=
  match disk.destination file.path with
  | .ok found => found == place
  | .error _ => false

/-- A file has its name at the place of its path. -/
@[simp]
theorem Saved.isAt_iff {disk : Disk} {place : Location} {file : Saved} :
    file.isAt disk place ↔ disk.destination file.path = .ok place := by
  unfold isAt
  cases disk.destination file.path <;> simp

/-- The file that was saved last at a place. -/
def lastAt (disk : Disk) (saved : List Saved) (place : Location) : Option Saved :=
  (saved.filter (Saved.isAt disk place)).getLast?

/-- From one disk to another these files were saved, and nothing else has changed. -/
structure Stores (before : Disk) (saved : List Saved) (after : Disk) : Prop where
  /-- The directories are the same. -/
  same : after.SameDirectories before
  /-- No draft is left behind. -/
  drafts : after.drafts = before.drafts
  /-- Every file that was saved has data. -/
  encodable (file : Saved) (found : file ∈ saved) : Encodable file.samples file.sampleRate
  /-- Every file that was saved has a place. -/
  named (file : Saved) (found : file ∈ saved) :
    ∃ place, before.destination file.path = .ok place
  /-- A place holds the file that was saved there last, or what it held before. -/
  node (place : Location) :
    after.node? place = ((lastAt before saved place).map Saved.node).or (before.node? place)

section Stores

variable {before middle after : Disk} {first second saved : List Saved}

/-- Which file was saved last at a place depends on the directories alone. -/
theorem lastAt_of_same (same : after.SameDirectories before) (saved : List Saved)
    (place : Location) : lastAt after saved place = lastAt before saved place := by
  unfold lastAt
  congr 2
  funext file
  rw [Bool.eq_iff_iff, Saved.isAt_iff, Saved.isAt_iff]
  exact Disk.destination_eq_ok_iff_of_same same

/-- Nothing is saved by no call. -/
theorem Stores.refl (disk : Disk) : Stores disk [] disk where
  same := { working := rfl, directory := fun _ => Iff.rfl }
  drafts := rfl
  encodable := by simp
  named := by simp
  node := fun _ => rfl

/-- What is saved first and what is saved then are saved throughout. -/
theorem Stores.trans (front : Stores before first middle) (back : Stores middle second after) :
    Stores before (first ++ second) after where
  same := back.same.trans front.same
  drafts := back.drafts.trans front.drafts
  encodable file found := by
    rcases List.mem_append.mp found with early | late
    · exact front.encodable file early
    · exact back.encodable file late
  named file found := by
    rcases List.mem_append.mp found with early | late
    · exact front.named file early
    · obtain ⟨place, named⟩ := back.named file late
      exact ⟨place, (Disk.destination_eq_ok_iff_of_same front.same).mp named⟩
  node place := by
    have joined : lastAt before (first ++ second) place =
        (lastAt before second place).or (lastAt before first place) := by
      rw [lastAt, List.filter_append, List.getLast?_append]
      rfl
    rw [back.node, front.node, lastAt_of_same front.same, joined]
    cases lastAt before second place <;> rfl

/-- A file that was saved is stored at its place. -/
theorem stores_put {disk : Disk} {file : Saved} {place : Location}
    (named : disk.destination file.path = .ok place)
    (encodable : Encodable file.samples file.sampleRate) :
    Stores disk [file] (disk.put place file.node) where
  same := Disk.sameDirectories_put (Disk.free_of_destination named) _
  drafts := rfl
  encodable other found := by
    obtain rfl := List.mem_singleton.mp found
    exact encodable
  named other found := by
    obtain rfl := List.mem_singleton.mp found
    exact ⟨place, named⟩
  node other := by
    by_cases here : other = place
    · subst here
      have last : lastAt disk [file] other = some file := by
        rw [lastAt, List.filter_cons_of_pos (Saved.isAt_iff.mpr named)]
        rfl
      rw [Disk.node?_put_self (Disk.ne_nil_of_destination named), last]
      rfl
    · have last : lastAt disk [file] other = none := by
        simp [lastAt, named, Ne.symm here]
      rw [Disk.node?_put_of_ne here, last]
      rfl

/-- A call stores the file that it saves, and nothing if it saves none. -/
theorem stores_perform (call : Call) (disk : Disk) :
    Stores disk (call.perform disk).1.toList (call.perform disk).2 := by
  cases call with
  | load path => exact .refl disk
  | save path samples sampleRate mishaps =>
    simp only [Call.perform]
    cases outcome : Wave.save disk path samples sampleRate mishaps with
    | mk result after =>
      cases result with
      | error error =>
        obtain rfl := eq_of_save_error outcome
        exact .refl after
      | ok =>
        obtain ⟨place, bytes, saves, rfl⟩ := save_eq_ok_iff.mp outcome
        obtain ⟨encodable, rfl⟩ := encode_eq_ok_iff.mp saves.encoded
        let file : Saved := { path, samples, sampleRate }
        have named : disk.destination file.path = .ok place := saves.named
        exact stores_put named encodable

/-- Calls store the files that they save. -/
theorem stores_performAll (calls : List Call) (disk : Disk) :
    Stores disk (performAll calls disk).1 (performAll calls disk).2 := by
  induction calls generalizing disk with
  | nil => exact .refl disk
  | cons call later ih => exact (stores_perform call disk).trans (ih _)

/-- A file that was saved is found at its place. -/
theorem Stores.find_eq (stores : Stores before saved after) {file : Saved} {place : Location}
    (found : file ∈ saved) (named : before.destination file.path = .ok place) :
    after.find file.path = .ok place := by
  have listed : file ∈ saved.filter (Saved.isAt before place) :=
    List.mem_filter.mpr ⟨found, Saved.isAt_iff.mpr named⟩
  obtain ⟨latest, last⟩ : ∃ latest, lastAt before saved place = some latest :=
    ⟨_, List.getLast?_eq_some_getLast (List.ne_nil_of_mem listed)⟩
  have held : after.node? place = some latest.node := by
    rw [stores.node, last]
    rfl
  exact Disk.find_of_destination ((Disk.destination_eq_ok_iff_of_same stores.same).mpr named) held

/-- At the place that a path is found at, the file saved last is the last one that was saved under
a path that is found there. -/
theorem Stores.lastAt_eq (stores : Stores before saved after) {path : String} {place : Location}
    (reached : after.find path = .ok place) :
    (saved.filter fun file => after.together file.path path).getLast? =
      lastAt before saved place := by
  unfold lastAt
  congr 1
  apply List.filter_congr
  intro file found
  obtain ⟨elsewhere, named⟩ := stores.named file found
  simp only [Disk.together, stores.find_eq found named, reached, Saved.isAt, named]

/-- A path under which nothing was saved is read as before, if it could be read. -/
theorem Stores.read_eq (stores : Stores before saved after) {path : String} {bytes : List UInt8}
    (unsaved : (saved.filter fun file => after.together file.path path).getLast? = none)
    (readable : before.read path = .ok bytes) : after.read path = .ok bytes := by
  obtain ⟨place, reached, held⟩ := Disk.read_eq_ok_iff.mp readable
  have node := stores.node place
  have there : after.find path = .ok place := by
    apply stores.same.symm.find_eq_of_held reached
    rw [node, held]
    simp
  rw [← stores.lastAt_eq there, unsaved, held] at node
  exact Disk.read_eq_ok_iff.mpr ⟨place, there, node⟩

/-- A path that is read, and under which nothing was saved, could be read before. -/
theorem Stores.read_eq_of_unsaved (stores : Stores before saved after) {path : String}
    {bytes : List UInt8}
    (unsaved : (saved.filter fun file => after.together file.path path).getLast? = none)
    (readable : after.read path = .ok bytes) : before.read path = .ok bytes := by
  obtain ⟨place, reached, held⟩ := Disk.read_eq_ok_iff.mp readable
  have node := stores.node place
  rw [← stores.lastAt_eq reached, unsaved, held] at node
  have there : before.find path = .ok place := by
    apply stores.same.find_eq_of_held reached
    intro _ empty
    rw [empty] at node
    contradiction
  exact Disk.read_eq_ok_iff.mpr ⟨place, there, node.symm⟩

/-- The file that was saved last where a path leads is loaded there. -/
theorem Stores.load_eq (stores : Stores before saved after) {path : String} {last : Saved}
    (latest : (saved.filter fun file => after.together file.path path).getLast? = some last) :
    load after path = .ok (.mono last.sampleRate, last.samples) := by
  obtain ⟨found, together⟩ := List.mem_filter.mp (List.mem_of_getLast? latest)
  obtain ⟨place, _, reached⟩ := Disk.together_iff.mp together
  have held : after.node? place = some last.node := by
    rw [stores.node, ← stores.lastAt_eq reached, latest]
    rfl
  rw [load, Disk.read_eq_ok_iff.mpr ⟨place, reached, held⟩]
  exact read_data (stores.encodable last found)

end Stores

/-- What a save may do to a disk: it changes the file that it saves, as a whole, or nothing. -/
structure Confined (before : Disk) (path : String) (samples : List Int16) (sampleRate : UInt32)
    (outcome : Except Error Unit × Disk) : Prop where
  /-- A save that fails leaves the disk as it was, without a draft. -/
  failed (error : Error) (refused : outcome.1 = .error error) : outcome.2 = before
  /-- A save that succeeds leaves the data at the place of its path, everything else as it was, and
  no draft. -/
  saved (done : outcome.1 = .ok ()) :
    ∃ place, outcome.2.find path = .ok place ∧
      outcome.2.node? place = some (.file (data samples sampleRate)) ∧
      (∀ other ≠ place, outcome.2.node? other = before.node? other) ∧
      outcome.2.working = before.working ∧ outcome.2.drafts = before.drafts
  /-- A path that cannot be that of a file is refused. -/
  unnamed (nowhere : ∀ place, before.destination path ≠ .ok place) :
    ∃ error, outcome.1 = .error error
  /-- Samples that the header words cannot hold the sizes of are refused. -/
  unencodable (large : ¬ Encodable samples sampleRate) : ∃ error, outcome.1 = .error error

/-- A save changes the file that it saves, as a whole, or nothing. -/
theorem confined_save (disk : Disk) (path : String) (samples : List Int16) (sampleRate : UInt32)
    (mishaps : Mishaps) :
    Confined disk path samples sampleRate (save disk path samples sampleRate mishaps) := by
  cases outcome : save disk path samples sampleRate mishaps with
  | mk result after =>
    cases result with
    | error error =>
      exact {
        failed := fun _ _ => eq_of_save_error outcome
        saved := nofun
        unnamed := fun _ => ⟨error, rfl⟩
        unencodable := fun _ => ⟨error, rfl⟩ }
    | ok =>
      obtain ⟨place, bytes, saves, rfl⟩ := save_eq_ok_iff.mp outcome
      obtain ⟨encodable, rfl⟩ := encode_eq_ok_iff.mp saves.encoded
      have named := saves.named
      have held : (disk.put place (.file (data samples sampleRate))).node? place =
          some (.file (data samples sampleRate)) :=
        Disk.node?_put_self (Disk.ne_nil_of_destination named)
      have same := Disk.sameDirectories_put (Disk.free_of_destination named)
        (data samples sampleRate)
      exact {
        failed := nofun
        saved := fun _ =>
          ⟨place, Disk.find_of_destination (Disk.destination_of_same named same.symm) held, held,
            fun _ apart => Disk.node?_put_of_ne apart, rfl, rfl⟩
        unnamed := fun nowhere => absurd named (nowhere place)
        unencodable := fun large => absurd encodable large }

/-- After any saves and loads no draft is left behind, a save changes the file that it saves, as a
whole, or nothing, and what is loaded at a path is the last file that was saved where it leads. If
none was, the path is loaded as it would have been before the first call, and fails if nothing could
be read there. -/
theorem load_follows_last_save (disk : Disk) (calls : List Call) (path : String) :
    let saved := (performAll calls disk).1
    let after := (performAll calls disk).2
    (∀ samples sampleRate mishaps,
        Confined after path samples sampleRate (save after path samples sampleRate mishaps)) ∧
      after.drafts = disk.drafts ∧
      (∀ file ∈ saved, after.together file.path file.path) ∧
      match (saved.filter fun file => after.together file.path path).getLast? with
      | some last => load after path = .ok (.mono last.sampleRate, last.samples)
      | none =>
        match disk.read path with
        | .ok bytes => load after path = read (.ofBytes bytes)
        | .error _ => ∃ failure, load after path = .error (.io failure) := by
  intro saved after
  have stores : Stores disk saved after := stores_performAll calls disk
  refine ⟨confined_save after path, stores.drafts, ?_, ?_⟩
  · intro file found
    obtain ⟨place, named⟩ := stores.named file found
    have reached := stores.find_eq found named
    exact Disk.together_iff.mpr ⟨place, reached, reached⟩
  cases latest : (saved.filter fun file => after.together file.path path).getLast? with
  | some last => exact stores.load_eq latest
  | none =>
    dsimp only
    cases readable : disk.read path with
    | ok bytes => rw [load, stores.read_eq latest readable]
    | error failure =>
      cases outcome : after.read path with
      | ok bytes => cases readable.symm.trans (stores.read_eq_of_unsaved latest outcome)
      | error failure =>
        refine ⟨failure, ?_⟩
        rw [load, outcome]

/-- A file that is saved again under another spelling of its path is loaded as it was saved then,
also after a save that fails, and nothing is loaded where nothing was saved. -/
theorem load_follows_last_save_respelled :
    let calls : List Call :=
      [.save "a.wav" [1, 2] 8000 {}, .save "./a.wav" [3] 48000 {}, .load "a.wav",
        .save "a.wav" [5] 0x80000000 {}]
    let after := (performAll calls {}).2
    load after "a.wav" = .ok (.mono 48000, [3]) ∧
      ∃ failure, load after "b.wav" = .error (.io failure) := by
  intro calls after
  have saved : (performAll calls {}).1 = [⟨"a.wav", [1, 2], 8000⟩, ⟨"./a.wav", [3], 48000⟩] := by
    decide +kernel
  obtain ⟨_, _, _, loaded⟩ := load_follows_last_save {} calls "a.wav"
  obtain ⟨_, _, _, missing⟩ := load_follows_last_save {} calls "b.wav"
  have latest : ((performAll calls {}).1.filter
      fun file => after.together file.path "a.wav").getLast? = some ⟨"./a.wav", [3], 48000⟩ := by
    rw [saved]
    decide +kernel
  have unsaved : ((performAll calls {}).1.filter
      fun file => after.together file.path "b.wav").getLast? = none := by
    rw [saved]
    decide +kernel
  have unreadable : ({} : Disk).read "b.wav" = .error (.os Errno.noEntry) := by rfl
  rw [latest] at loaded
  rw [unsaved, unreadable] at missing
  exact ⟨loaded, missing⟩

end PcmLink.Wave
