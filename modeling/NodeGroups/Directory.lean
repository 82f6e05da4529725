import NodeGroups.Failure

/-!
A working directory with files in it, as a value: what reading a path gives, and whether a file
opens there for more text. A path is followed component by component; empty components and `.` stay
where they are and `..` goes up. Nothing can be reached above the working directory.
-/

set_option autoImplicit false

namespace NodeGroups

/-- A working directory: files by their paths. The directories in it are those that a path names. -/
structure Directory where
  files : List (String × String)
  deriving DecidableEq

namespace Directory

def components (path : String) : List String :=
  go [] path.toList
where
  /-- The components of the rest of a path, the current one being given last character first. -/
  go (part : List Char) : List Char → List String
    | [] => [String.ofList part.reverse]
    | '/' :: cs => String.ofList part.reverse :: go [] cs
    | c :: cs => go (c :: part) cs

/-- The longest name of a file, in bytes. -/
def maxNameBytes : Nat := 255

/-- Why a path cannot be read. -/
inductive Fault
  | absent
  | notADirectory
  | isADirectory
  | nameTooLong
  | badName
  deriving DecidableEq

def Fault.failure : Fault → Failure
  | .absent => .io "No such file or directory (os error 2)"
  | .notADirectory => .io "Not a directory (os error 20)"
  | .isADirectory => .io "Is a directory (os error 21)"
  | .nameTooLong => .io "File name too long (os error 36)"
  | .badName => .io "file name contained an unexpected NUL byte"

def file? (d : Directory) (place : List String) : Option String :=
  (d.files.find? fun f => components f.1 == place).map (·.2)

def hasDirectory (d : Directory) (place : List String) : Bool :=
  place.isEmpty || d.files.any fun f => place.isPrefixOf (components f.1) && components f.1 != place

/-- Follows the components of a path from a directory, which is given by its components. -/
def follow (d : Directory) (place : List String) : List String → Except Fault String
  | [] => .error .isADirectory
  | c :: cs =>
    if c = "" ∨ c = "." then d.follow place cs
    else if c = ".." then
      if place.isEmpty then .error .absent else d.follow place.dropLast cs
    else if c.utf8ByteSize > maxNameBytes then .error .nameTooLong
    else if d.hasDirectory (place ++ [c]) then d.follow (place ++ [c]) cs
    else
      match d.file? (place ++ [c]) with
      | none => .error .absent
      | some text => if cs.isEmpty then .ok text else .error .notADirectory

def read (d : Directory) (path : String) : Except Failure String :=
  let outcome : Except Fault String :=
    if path.toList.contains '\x00' then .error .badName
    else if path = "" then .error .absent
    else if path.front = '/' then
      if (components path).all (· == "") then .error .isADirectory else .error .absent
    else d.follow [] (components path)
  outcome.mapError Fault.failure

/-- The directory that components lead to from a directory. -/
def enter? (d : Directory) (place : List String) : List String → Option (List String)
  | [] => some place
  | c :: cs =>
    if c = "" ∨ c = "." then d.enter? place cs
    else if c = ".." then if place.isEmpty then none else d.enter? place.dropLast cs
    else if d.hasDirectory (place ++ [c]) then d.enter? (place ++ [c]) cs
    else none

/-- Whether text can be appended to the file at a path, which is created if it is not there. -/
def opens (d : Directory) (path : String) : Bool :=
  match (components path).reverse with
  | [] => false
  | name :: above =>
    name != "" && name != "." && name != ".." && name.utf8ByteSize ≤ maxNameBytes &&
      !path.toList.contains '\x00' && path.front != '/' &&
      (d.enter? [] above.reverse).any fun place => !d.hasDirectory (place ++ [name])

def empty : Directory := ⟨[]⟩

end Directory

end NodeGroups
