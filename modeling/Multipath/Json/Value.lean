/-!
# JSON values

The values in which everything is stored, without their text.  An object is the list of its
members in the order in which they are written.  The members of a record have distinct names; in a
map a name may be repeated.

A record may be written as an object, whose further members are ignored, or as the array of its
members in their fixed order (`isRecord`, `member`).  A choice is written as the name of its case
or as an object with that name as its only member (`case?`).
-/

namespace Multipath

/-- A JSON value.  Numbers that are not written as integers are kept as they are written. -/
inductive Json where
  | null
  | bool (b : Bool)
  | int (n : Int)
  | real (text : String)
  | str (s : String)
  | arr (items : List Json)
  | obj (members : List (String × Json))

namespace Json

/-- Whether a value can be a record of `n` members. -/
def isRecord (n : Nat) : Json → Bool
  | obj _ => true
  | arr items => items.length == n
  | _ => false

/-- A member of a record, which has a name and a position. -/
def member (position : Nat) (name : String) : Json → Option Json
  | obj members => members.lookup name
  | arr items => items[position]?
  | _ => none

/-- The name of the case that a value is written as, and its content, if any is written. -/
def case? : Json → Option (String × Option Json)
  | str name => some (name, none)
  | obj [(name, content)] => some (name, some content)
  | _ => none

end Json

end Multipath
