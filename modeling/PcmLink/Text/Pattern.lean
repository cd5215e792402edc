import PcmLink.Text.Alphanumeric
import PcmLink.Text.Numeral

/-!
# Patterns

Which texts are patterns, that is regular expressions: literals, repetitions, alternatives, groups
with names and flags, sets of characters, and escapes. A pattern is read one character at a time;
what is still open is counted. Properties of characters, word boundaries, counted repetitions and
the flag for the case of letters are no part of the patterns here.
-/

namespace PcmLink.Text.Pattern

/-- What an escape stands for the character of. -/
inductive Place where
  /-- An item of the pattern. -/
  | item
  /-- A member of a set. -/
  | member
  /-- The end of a range in a set that begins with a character. -/
  | upTo (low : Char)
  deriving DecidableEq, Repr

/-- How far the reading of a pattern is. -/
inductive Mode where
  /-- At an item; `repeatable` says whether there is one before it to repeat. -/
  | item (repeatable : Bool)
  /-- After an opening parenthesis. -/
  | group
  /-- After the question mark that opens a group of some kind. -/
  | groupKind
  /-- After the letter that announces the name of a group. -/
  | groupLetter
  /-- In the name of a group. -/
  | groupName (name : List Char)
  /-- In the flags of a group, some of which are `given`. -/
  | flags (given : List Char)
  /-- After a backslash. -/
  | escape (place : Place)
  /-- In a character written as a number, with so many digits to come. -/
  | number (place : Place) (digits value : Nat)
  /-- After an opening bracket. -/
  | setOpen
  /-- After an opening bracket and a caret. -/
  | setNegated
  /-- After the hyphens that a set begins with. -/
  | setHyphens
  /-- At a member of a set. -/
  | member
  /-- After a character that twice in a row is an operator on sets. -/
  | setOperator (c : Char)
  /-- After a member that may begin a range. -/
  | rangeStart (low : Char)
  /-- After a member and a hyphen. -/
  | rangeHyphen (low : Char)
  deriving DecidableEq, Repr

/-- What is read so far: the mode, the open groups and sets, and the names of groups. -/
structure State where
  /-- How far the reading is. -/
  mode : Mode := .item false
  /-- The number of open groups. -/
  groups : Nat := 0
  /-- The number of open sets, one within the other. -/
  sets : Nat := 0
  /-- The names given to groups. -/
  names : List (List Char) := []
  deriving DecidableEq, Repr

namespace State

/-- The same state in another mode. -/
def goto (state : State) (mode : Mode) : Option State := some { state with mode }

/-- A character has been read at its place. A range must not run backwards. -/
def take (state : State) (place : Place) (c : Char) : Option State :=
  match place with
  | .item => state.goto (.item true)
  | .member => state.goto (.rangeStart c)
  | .upTo low => if low ≤ c then state.goto .member else none

/-- A set has been closed. -/
def closeSet (state : State) : Option State :=
  if state.sets ≤ 1 then some { state with mode := .item true, sets := 0 }
  else some { state with mode := .member, sets := state.sets - 1 }

/-- Read a character at an item. -/
def item (state : State) (repeatable : Bool) (c : Char) : Option State :=
  match c with
  | '\\' => state.goto (.escape .item)
  | '(' => state.goto .group
  | ')' =>
    if state.groups = 0 then none
    else some { state with mode := .item true, groups := state.groups - 1 }
  | '|' => state.goto (.item false)
  | '[' => some { state with mode := .setOpen, sets := 1 }
  | '*' | '+' | '?' => if repeatable then state.goto (.item true) else none
  | '\x7b' => none
  | _ => state.goto (.item true)

/-- Read a character at a member of a set. -/
def member (state : State) (c : Char) : Option State :=
  match c with
  | '[' => some { state with mode := .setOpen, sets := state.sets + 1 }
  | ']' => state.closeSet
  | '\\' => state.goto (.escape .member)
  | '&' | '-' | '~' => state.goto (.setOperator c)
  | _ => state.goto (.rangeStart c)

/-- Read a character at the begin of a set, where a closing bracket is a member. -/
def firstMember (state : State) (c : Char) : Option State :=
  match c with
  | ']' => state.goto .member
  | '-' => state.goto .setHyphens
  | _ => state.member c

/-- The character that an escape with one character stands for. Punctuation stands for itself. -/
def escaped? (c : Char) : Option Char :=
  match c with
  | 'a' => some '\x07'
  | 'f' => some '\x0c'
  | 't' => some '\t'
  | 'n' => some '\n'
  | 'r' => some '\r'
  | 'v' => some '\x0b'
  | _ => if c.toNat < 0x80 ∧ !c.isAlphanum ∧ c ≠ '<' ∧ c ≠ '>' then some c else none

/-- Read the character after a backslash. -/
def escape (state : State) (place : Place) (c : Char) : Option State :=
  match c with
  | 'x' => state.goto (.number place 2 0)
  | 'u' => state.goto (.number place 4 0)
  | 'U' => state.goto (.number place 8 0)
  | 'A' | 'z' => if place = .item then state.goto (.item true) else none
  | _ => (escaped? c).bind (state.take place)

/-- Read a digit of a character written as a number. -/
def number (state : State) (place : Place) (digits value : Nat) (c : Char) : Option State :=
  match digit? 16 c with
  | none => none
  | some d =>
    if digits ≤ 1 then
      if (value * 16 + d).isValidChar then state.take place (Char.ofNat (value * 16 + d)) else none
    else state.goto (.number place (digits - 1) (value * 16 + d))

/-- Read a character of the flags of a group. No flag is given twice, and a minus sign has flags
after it. -/
def flag (state : State) (given : List Char) (c : Char) : Option State :=
  match c with
  | ':' =>
    if given.head? = some '-' then none
    else some { state with mode := .item false, groups := state.groups + 1 }
  | ')' => if given = [] ∨ given.head? = some '-' then none else state.goto (.item false)
  | _ =>
    if "-msURux".toList.contains c ∧ !given.contains c then state.goto (.flags (c :: given))
    else none

/-- Read a character of the name of a group. No name is given twice. -/
def groupName (state : State) (name : List Char) (c : Char) : Option State :=
  if c = '>' then
    if name = [] ∨ state.names.contains name then none
    else some { state with
      mode := .item false, groups := state.groups + 1, names := name :: state.names }
  else if c = '_' ∨ isAlphanumeric c ∧ (name ≠ [] ∨ !c.isDigit) ∨
      name ≠ [] ∧ (c = '.' ∨ c = '[' ∨ c = ']') then
    state.goto (.groupName (name ++ [c]))
  else none

/-- Read one character of a pattern. -/
def step (state : State) (c : Char) : Option State :=
  match state.mode with
  | .item repeatable => state.item repeatable c
  | .group =>
    if c = '?' then state.goto .groupKind
    else { state with groups := state.groups + 1 }.item false c
  | .groupKind =>
    if c = 'P' then state.goto .groupLetter
    else if c = '<' then state.goto (.groupName [])
    else state.flag [] c
  | .groupLetter => if c = '<' then state.goto (.groupName []) else none
  | .groupName name => state.groupName name c
  | .flags given => state.flag given c
  | .escape place => state.escape place c
  | .number place digits value => state.number place digits value c
  | .setOpen => if c = '^' then state.goto .setNegated else state.firstMember c
  | .setNegated => state.firstMember c
  | .setHyphens => if c = '-' then state.goto .setHyphens else state.member c
  | .member => state.member c
  | .setOperator first => if c = first then state.goto .member else afterMember first c
  | .rangeStart low => afterMember low c
  | .rangeHyphen low =>
    match c with
    | ']' => state.closeSet
    | '-' => state.goto .member
    | '\\' => state.goto (.escape (.upTo low))
    | _ => state.take (.upTo low) c
where
  /-- Read the character after a member. -/
  afterMember (low c : Char) : Option State :=
    if c = '-' then state.goto (.rangeHyphen low) else state.member c

/-- Nothing is left open. -/
def isComplete (state : State) : Bool :=
  state.groups == 0 && state.mode matches .item _

end State

/-- The text is a pattern. -/
def isPattern (text : List Char) : Bool := (text.foldlM State.step {}).any State.isComplete

end PcmLink.Text.Pattern
