/-!
# Paths as texts

A path is a text in which slashes separate names.  Its lead is the slash of
an absolute path or the point of a path that starts at the working directory;
the rest is its body.  Empty names, and points behind the lead, do not count.
-/

namespace ReservationLoad.Files

/-- The names between the slashes of a text. -/
def splitSlashes : List Char → List (List Char)
  | [] => [[]]
  | c :: rest =>
    if c = '/' then [] :: splitSlashes rest
    else
      match splitSlashes rest with
      | [] => [[c]]
      | name :: more => (c :: name) :: more

/-- The steps of a path: its names without the empty ones. -/
def steps (path : String) : List String :=
  ((splitSlashes path.toList).filter (· ≠ [])).map String.ofList

/-- Does a path start at the root? -/
def isAbsolute (path : String) : Bool := path.toList.head? = some '/'

/-- Does a path end in a slash, so that it can only be a directory? -/
def wantsDirectory (path : String) : Bool := path.toList.getLast? = some '/'

/-- The steps to what is there already.  A slash at the end steps into the directory
in front of it. -/
def stepsInto (path : String) : List String :=
  steps path ++ if wantsDirectory path then ["."] else []

/-- A path below another one. -/
def join (directory name : String) : String :=
  if directory.isEmpty || wantsDirectory directory then directory ++ name
  else directory ++ "/" ++ name

/-- The lead of a path and its body. -/
def splitLead : List Char → List Char × List Char
  | '/' :: body => (['/'], body)
  | ['.'] => (['.'], [])
  | '.' :: '/' :: body => (['.'], '/' :: body)
  | body => ([], body)

/-- The last name of a body, and the body in front of it and of its slash. -/
def splitLastName (body : List Char) : List Char × List Char :=
  let name := (body.reverse.takeWhile (· ≠ '/')).reverse
  (name, body.take (body.length - name.length - 1))

/-- A body without names at its end that do not count. -/
def trimBody : (fuel : Nat) → List Char → List Char
  | 0, body => body
  | fuel + 1, body =>
    if body.isEmpty then []
    else
      let (name, front) := splitLastName body
      if name.isEmpty || name = ['.'] then trimBody fuel front else body

/-- The path in front of the last name. -/
def parent? (path : String) : Option String :=
  let (lead, body) := splitLead path.toList
  let trimmed := trimBody body.length body
  if trimmed.isEmpty then if lead = ['.'] then some "" else none
  else
    let front := (splitLastName trimmed).2
    some (String.ofList (lead ++ trimBody front.length front))

end ReservationLoad.Files
