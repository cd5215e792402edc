import PcmLink.IoError
import PcmLink.Text.Split

/-!
# Paths

A path is a text whose parts stand between slashes. A leading slash makes it start at the root,
otherwise it starts at the working directory. The part `.` stays where it is and `..` goes up; a
slash at the end demands a directory.
-/

namespace PcmLink.Path

/-- The parts of a path, without the empty ones that slashes in a row enclose. -/
def parts (path : String) : List String :=
  ((Text.split (· == '/') path.toList).filter (· ≠ [])).map String.ofList

/-- The path starts at the root. -/
def isAbsolute (path : String) : Bool := path.toList.head? == some '/'

/-- The path demands a directory. -/
def endsWithSlash (path : String) : Bool := path.toList.getLast? == some '/'

/-- The greatest length of a part in bytes. -/
def longestPart : Nat := 255

/-- The length in bytes from which on no path is taken. -/
def longestPath : Nat := 4096

/-- The path holds the character that ends paths for the system. -/
def hasNul (path : String) : Bool := path.toList.contains '\x00'

/-- The failure of a path that holds the character that ends it. -/
def nulFailure : IoError :=
  .custom .invalidInput "file name contained an unexpected NUL byte"

/-- What a path cannot be, wherever it leads. -/
def check (path : String) : Except IoError Unit :=
  if hasNul path then .error nulFailure
  else if path.isEmpty then .error (.os Errno.noEntry)
  else if longestPath ≤ path.utf8ByteSize then .error (.os Errno.nameTooLong)
  else .ok ()

/-- Parts as written, without those at the end that stay in place. The first one stays: it is the
root, or says that the path starts at the working directory. -/
def withoutRests : List String → List String
  | [] => []
  | [first] => [first]
  | first :: rest => first :: (rest.reverse.dropWhile fun part => part == "" || part == ".").reverse

/-- Where the directory of a path starts and the parts that lead to it. A path of a single part,
or of none, lies in the working directory; parts that stay in place do not count. -/
def directory (path : String) : Bool × List String :=
  match (parts path).filter (· ≠ ".") with
  | [] => (false, [])
  | moving => (isAbsolute path, moving.dropLast)

/-- The text of the directory of a path: what is written before its last part. Parts that stay in
place count where other parts follow them. -/
def directoryText (path : String) : String :=
  let written := (Text.split (· == '/') path.toList).map String.ofList
  match withoutRests (withoutRests written).dropLast with
  | [] => "."
  | [""] => "/"
  | kept => "/".intercalate kept

end PcmLink.Path
