import PcmLink.CommandLine.LogDirective

/-!
# Log filters

A filter says what is logged: a list of entries between commas. Of those that cover an event the
one that says most decides, and of two that say as much the later; an event that none covers is
not logged. Programs of the link log outside of any span, so that entries for spans or for values
of fields cover nothing. A filter that cannot be read is as good as none; one that cannot be cut
into its parts stops the program.
-/

namespace PcmLink.LogFilter

/-- The fields of the events that the programs log. -/
def fields : List (List Char) := ["message".toList]

/-- Read a filter from left to right. Empty entries are skipped. -/
def read (text : String) : Except LogDirective.Failure (List LogDirective) :=
  ((Text.split (· == ',') text.toList).filter (· ≠ [])).mapM LogDirective.read

/-- The entry that decides about the events of a target. -/
def deciding? (target : List Char) (filter : List LogDirective) : Option LogDirective :=
  (filter.filter (LogDirective.covers target fields)).foldl
    (fun best entry =>
      match best with
      | none => some entry
      | some other => if entry.saysAsMuchAs other then some entry else best) none

/-- Errors of a target are logged under the filter of the environment, if it has one. -/
def showsErrors (setting : Option String) (target : String) : Bool :=
  match setting.map read with
  | none | some (.error _) | some (.ok []) => true
  | some (.ok filter) =>
    (deciding? target.toList filter).any fun entry => entry.level.showsErrors

/-- The filter of the environment cannot be cut into its parts. -/
def isBroken (setting : Option String) : Bool :=
  match setting.map read with
  | some (.error .cutCharacter) => true
  | _ => false

end PcmLink.LogFilter
