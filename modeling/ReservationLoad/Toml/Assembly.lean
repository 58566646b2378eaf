import ReservationLoad.Toml.Reader

/-!
# What statements build

The statements of a document build its table from top to bottom.  The table
under the latest header stands apart while it grows and takes its place when
the next header or the end of the document closes it.
-/

namespace ReservationLoad.Toml

/-- The table that the latest header has opened: the whole document in front
of the first header. -/
inductive Place
  | whole
  | single (key : Key)
  | repeated (key : Key)

/-- A document that is being built. -/
structure Assembly where
  /-- The document without the table that is open. -/
  closed : Table
  /-- The table that is open. -/
  current : Table
  place : Place

namespace Assembly

/-- In front of the first statement. -/
def start : Assembly := ⟨.fresh .header, .fresh .header, .whole⟩

/-- Puts a finished table to its key. -/
def settle (key : Key) (table : Table) (document : Table) : Option Table :=
  let put := fun (parent : Table) =>
    if (parent.get? key.last).isSome then none
    else some (parent.append key.last (.table table.origin table.entries), ())
  (document.within false put key.path).map Prod.fst

/-- Puts a finished table behind those that its header had before. -/
def settleNext (key : Key) (table : Table) (document : Table) : Option Table :=
  let put := fun (parent : Table) =>
    match parent.get? key.last with
    | none => some (parent.append key.last (.tables [table.entries]), ())
    | some (.tables items) =>
      some (parent.replace key.last (.tables (items ++ [table.entries])), ())
    | some _ => none
  (document.within false put key.path).map Prod.fst

/-- The document with the open table in its place. -/
def close (a : Assembly) : Option Table :=
  match a.place with
  | .whole => some a.current
  | .single key => settle key a.current a.closed
  | .repeated key => settleNext key a.current a.closed

/-- Takes out a table that so far was only on the way to others, so that its
own header can complete it. -/
def reopen (key : Key) (document : Table) : Option (Table × Entries) :=
  let take := fun (parent : Table) =>
    match parent.get? key.last with
    | none => some (parent, [])
    | some (.table .path entries) => some (parent.erase key.last, entries)
    | some _ => none
  document.within false take key.path

/-- Carries out one statement. -/
def apply (a : Assembly) : Statement → Option Assembly
  | .define key value => do
    let current ← a.current.define key value
    pure { a with current }
  | .openTable key => do
    let document ← a.close
    let (closed, entries) ← reopen key document
    pure ⟨closed, ⟨.header, entries⟩, .single key⟩
  | .openNext key => do
    let closed ← a.close
    pure ⟨closed, .fresh .header, .repeated key⟩

end Assembly

/-- The table that statements build. -/
def Table.ofStatements (list : List Statement) : Option Table := do
  let assembly ← list.foldlM Assembly.apply Assembly.start
  assembly.close

/-- Reads a document. -/
def Table.read (text : String) : Option Table := do
  Table.ofStatements (← statements text)

end ReservationLoad.Toml
