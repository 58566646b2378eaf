import ReservationLoad.Binary64.Basic

/-!
# Tables of a TOML document

A document is a table, and a table is a list of keys with what they stand
for, in the order in which they were defined.  Tables come into being in
three ways, and the way decides who may add to them later: a header may only
complete a table that so far was no more than the path to another one, and a
dotted key may not reach into a table that has a header of its own.
-/

namespace ReservationLoad.Toml

/-- A value without parts.  No setting is a date or a time, so nothing more
is kept of a moment than that it is one. -/
inductive Scalar
  | text (value : String)
  | whole (value : Int)
  | fraction (value : Binary64)
  | flag (value : Bool)
  | moment

/-- How a table came into being. -/
inductive Origin
  /-- By its own header. -/
  | header
  /-- On the way to another header. -/
  | path
  /-- On the way of a dotted key. -/
  | dotted
deriving DecidableEq

/-- What a key stands for. -/
inductive Node
  | scalar (value : Scalar)
  | array (items : List Node)
  /-- A table in braces, complete where it is written. -/
  | inline (entries : List (String × Node))
  | table (origin : Origin) (entries : List (String × Node))
  /-- The tables of a repeated header, in order. -/
  | tables (items : List (List (String × Node)))

/-- The keys of a table with what they stand for. -/
abbrev Entries := List (String × Node)

/-- A table that may still grow. -/
structure Table where
  origin : Origin
  entries : Entries

/-- A key that may be dotted: the tables on its way and the last part. -/
structure Key where
  path : List String
  last : String

namespace Table

/-- A new table without entries. -/
def fresh (origin : Origin) : Table := ⟨origin, []⟩

/-- What a key stands for. -/
def get? (t : Table) (key : String) : Option Node := t.entries.lookup key

/-- Adds a key that is not yet there. -/
def append (t : Table) (key : String) (node : Node) : Table :=
  { t with entries := t.entries ++ [(key, node)] }

/-- Changes what a key stands for and leaves the order as it is. -/
def replace (t : Table) (key : String) (node : Node) : Table :=
  { t with entries := t.entries.map fun entry => if entry.1 = key then (key, node) else entry }

/-- Removes a key. -/
def erase (t : Table) (key : String) : Table :=
  { t with entries := t.entries.filter fun entry => entry.1 ≠ key }

/-- The tables of a repeated header without the last one, and the last. -/
def splitLast? : List Entries → Option (List Entries × Entries)
  | [] => none
  | [last] => some ([], last)
  | first :: more => (splitLast? more).map fun (front, last) => (first :: front, last)

/-- Works on the table at the end of a path.  Tables that are missing on the
way are made, and a repeated header leads to its last table. -/
def within {β : Type} (dotted : Bool) (work : Table → Option (Table × β)) :
    List String → Table → Option (Table × β)
  | [], t => work t
  | key :: path, t =>
    match t.get? key with
    | none => do
      let (child, result) ← within dotted work path (.fresh (if dotted then .dotted else .path))
      pure (t.append key (.table child.origin child.entries), result)
    | some (.table origin entries) =>
      if dotted && origin = .header then none
      else do
        let (child, result) ← within dotted work path ⟨origin, entries⟩
        pure (t.replace key (.table child.origin child.entries), result)
    | some (.tables items) => do
      let (front, last) ← splitLast? items
      let (child, result) ← within dotted work path ⟨.header, last⟩
      pure (t.replace key (.tables (front ++ [child.entries])), result)
    | some _ => none

/-- Defines a key.  A plain key belongs to a table with a header, the last
part of a dotted key to a table that dotted keys made. -/
def define (t : Table) (key : Key) (node : Node) : Option Table :=
  let add := fun (parent : Table) =>
    if (parent.origin = .dotted) = (key.path = []) then none
    else if (parent.get? key.last).isSome then none
    else some (parent.append key.last node, ())
  (t.within true add key.path).map Prod.fst

end Table

/-- A table that is written as a list of definitions. -/
def Table.ofDefinitions (definitions : List (Key × Node)) : Option Table :=
  definitions.foldlM (fun t (key, node) => t.define key node) (.fresh .header)

end ReservationLoad.Toml
