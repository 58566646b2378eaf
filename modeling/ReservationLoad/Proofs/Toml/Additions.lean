import ReservationLoad.Proofs.Toml.Draft
import ReservationLoad.Proofs.Toml.Members

/-!
# One key more

A document may differ from another one by a single key in one of its tables,
for the sake of which the table may have been added as well.  If what stands
behind the key fits, the two documents fit equally well: what is wrong with one
of them is wrong with the other, and every other member has the same value.
-/

namespace ReservationLoad

namespace Wire

/-- What has gone wrong, if anything. -/
def fault? {ε α : Type} : Except ε α → Option ε
  | .ok _ => none
  | .error fault => some fault

end Wire

namespace Toml

open Wire

/-- Entries with one key more, which is new and may stand anywhere. -/
inductive Adds (key : String) (node : Node) : Entries → Entries → Prop
  | mk {front behind} (fresh : key ∉ (front ++ behind).map Prod.fst) :
      Adds key node (front ++ behind) (front ++ (key, node) :: behind)

/-- Entries of which one table has one key more. -/
inductive AddsIn (table key : String) (node : Node) : Entries → Entries → Prop
  /-- The table itself is new. -/
  | newTable {bare full added} (entries : added.entries? = some [(key, node)])
      (adds : Adds table added bare full) : AddsIn table key node bare full
  | oldTable {front behind before after bare full} (single : table ∉ (front ++ behind).map Prod.fst)
      (bareEntries : before.entries? = some bare) (fullEntries : after.entries? = some full)
      (adds : Adds key node bare full) :
      AddsIn table key node (front ++ (table, before) :: behind) (front ++ (table, after) :: behind)

variable {table key : String} {node : Node} {bare full : Entries}

/-! ## What the keys stand for -/

theorem valueOf?_append (front behind : Entries) (name : String) :
    valueOf? (front ++ behind) name = (valueOf? behind name).or (valueOf? front name) := by
  rw [valueOf?, List.reverse_append, List.lookup_append]
  rfl

theorem valueOf?_eq_none {entries : Entries} {name : String}
    (missing : name ∉ entries.map Prod.fst) : valueOf? entries name = none := by
  rw [valueOf?, List.lookup_eq_none_iff]
  intro entry inside
  apply bne_iff_ne.mpr
  rintro rfl
  exact missing (List.mem_map_of_mem (List.mem_reverse.mp inside))

/-- One entry among others that do not have its key. -/
theorem valueOf?_insert {front behind : Entries}
    (fresh : key ∉ (front ++ behind).map Prod.fst) (name : String) :
    valueOf? (front ++ (key, node) :: behind) name =
      if name = key then some node else valueOf? (front ++ behind) name := by
  rw [List.append_cons, valueOf?_append, valueOf?_append_singleton, valueOf?_append]
  by_cases same : name = key
  · rw [List.map_append, List.mem_append, not_or] at fresh
    rw [if_pos same, if_pos same, same, valueOf?_eq_none fresh.2]
    rfl
  · rw [if_neg same, if_neg same]

theorem Adds.valueOf?_eq (adds : Adds key node bare full) (name : String) :
    valueOf? full name = if name = key then some node else valueOf? bare name := by
  cases adds with
  | mk fresh => exact valueOf?_insert fresh name

theorem Adds.missing (adds : Adds key node bare full) : key ∉ bare.map Prod.fst := by
  cases adds with
  | mk fresh => exact fresh

theorem Node.member?_eq {inner : Node} {entries : Entries} (table : inner.entries? = some entries)
    (names : List String) (name : String) : inner.member? names name = valueOf? entries name := by
  rw [Node.member?, table]

theorem Node.member?_inline (entries : Entries) (names : List String) (name : String) :
    (Node.inline entries).member? names name = valueOf? entries name := rfl

theorem AddsIn.member? (adds : AddsIn table key node bare full) (tables keys : List String)
    (table' key' : String) :
    ((Node.inline full).member? tables table').bind (fun inner => inner.member? keys key') =
      if table' = table ∧ key' = key then some node
      else ((Node.inline bare).member? tables table').bind
        fun inner => inner.member? keys key' := by
  rw [Node.member?_inline, Node.member?_inline]
  cases adds with
  | newTable entries adds =>
      rw [adds.valueOf?_eq]
      by_cases here : table' = table
      · have alone : valueOf? [(key, node)] key' = if key' = key then some node else none :=
          valueOf?_append_singleton [] key node key'
        rw [if_pos here, Option.bind_some, Node.member?_eq entries, alone, here,
          valueOf?_eq_none adds.missing]
        simp only [true_and, Option.bind_none]
      · rw [if_neg here, if_neg fun both => here both.1]
  | oldTable single bareEntries fullEntries adds =>
      rw [valueOf?_insert single, valueOf?_insert single]
      by_cases here : table' = table
      · rw [if_pos here, if_pos here, Option.bind_some, Option.bind_some,
          Node.member?_eq fullEntries, Node.member?_eq bareEntries, adds.valueOf?_eq]
        simp only [here, true_and]
      · rw [if_neg here, if_neg here, if_neg fun both => here both.1]

/-! ## What is wrong -/

/-- The fault of an entry whose key the record knows and whose node does not
fit. -/
def entryFault? (fits : List MemberFit) (entry : String × Node) : Option Mismatch :=
  (fits.find? (·.name == entry.1)).bind fun member => fault? (member.fit entry.2)

theorem entryFault?_eq {fits : List MemberFit} {name : String} {defaulted : Bool}
    {fit : Node → Except Mismatch Datum}
    (known : fits.find? (·.name == key) = some ⟨name, defaulted, fit⟩) (node : Node) :
    entryFault? fits (key, node) = fault? (fit node) := by
  rw [entryFault?, known, Option.bind_some]

/-- Only the first entry that does not fit is reported, whatever the slots hold. -/
theorem fault?_fitEntries (fits : List MemberFit) (slots : Slots) (entries : Entries) :
    fault? (fitEntries fits slots entries) = entries.findSome? (entryFault? fits) := by
  induction entries generalizing slots with
  | nil => rfl
  | cons entry entries ih =>
      obtain ⟨key, node⟩ := entry
      rw [List.findSome?_cons, entryFault?, List.find?_eq_bind_findIdx?_getElem?, fitEntries]
      cases fits.findIdx? (·.name == key) with
      | none => exact ih slots
      | some place =>
          simp only [Option.bind_some]
          cases fits[place]? with
          | none => exact ih slots
          | some member =>
              simp only [Option.bind_some]
              cases member.fit node with
              | error mismatch => rfl
              | ok value => exact ih _

theorem exists_completeRecord : ∀ {members : Members} (slots : Slots),
    members.lenient = true → ∃ values, completeRecord members slots = .ok values
  | .nil, _, _ => ⟨[], rfl⟩
  | .cons _ _ _ rest, slots, lenient => by
      obtain ⟨missing, others⟩ := Bool.and_eq_true_iff.mp lenient
      rcases slots with _ | ⟨_ | value, later⟩
      · obtain ⟨values, completed⟩ := exists_completeRecord [] others
        exact ⟨.absent :: values, by rw [completeRecord, if_pos missing, completed, map_ok]⟩
      · obtain ⟨values, completed⟩ := exists_completeRecord later others
        exact ⟨.absent :: values, by rw [completeRecord, if_pos missing, completed, map_ok]⟩
      · obtain ⟨values, completed⟩ := exists_completeRecord later others
        exact ⟨value :: values, by rw [completeRecord, completed, map_ok]⟩

/-- Where every member may be missing, only the entries can be at fault. -/
theorem fault?_fitShape {record : String} {members : Members} (lenient : members.lenient = true)
    {node : Node} {entries : Entries} (table : node.entries? = some entries) :
    fault? (fitShape (.record record members) node) =
      entries.findSome? (entryFault? (memberFits members)) := by
  rw [fitShape, fitRecord, table, ← fault?_fitEntries _ ((memberFits members).map fun _ => none)]
  simp only
  cases fitEntries (memberFits members) ((memberFits members).map fun _ => none) entries with
  | error mismatch => rfl
  | ok slots =>
      obtain ⟨values, completed⟩ := exists_completeRecord slots lenient
      rw [ok_bind, completed]
      rfl

theorem findSome?_insert {α β : Type} {fault : α → Option β} {a : α} (fine : fault a = none)
    (front behind : List α) :
    (front ++ a :: behind).findSome? fault = (front ++ behind).findSome? fault := by
  rw [List.findSome?_append, List.findSome?_cons, fine, List.findSome?_append]

theorem Adds.fault?_eq {fits : List MemberFit} (adds : Adds key node bare full)
    (fine : entryFault? fits (key, node) = none) :
    full.findSome? (entryFault? fits) = bare.findSome? (entryFault? fits) := by
  cases adds with
  | mk fresh => exact findSome?_insert fine _ _

/-- A key that fits makes no difference to what is wrong with a document. -/
theorem AddsIn.fault?_eq {outer record : String} {tables members : Members} {defaulted : Bool}
    (tablesLenient : tables.lenient = true) (lenient : members.lenient = true)
    (known : (memberFits tables).find? (·.name == table) =
      some ⟨table, defaulted, fitShape (.record record members)⟩)
    (fine : entryFault? (memberFits members) (key, node) = none)
    (adds : AddsIn table key node bare full) :
    fault? (fitShape (.record outer tables) (.inline full)) =
      fault? (fitShape (.record outer tables) (.inline bare)) := by
  have inner : ∀ added : Node, entryFault? (memberFits tables) (table, added) =
      fault? (fitShape (.record record members) added) := entryFault?_eq known
  have whole : ∀ entries : Entries, fault? (fitShape (.record outer tables) (.inline entries)) =
      entries.findSome? (entryFault? (memberFits tables)) :=
    fun entries => fault?_fitShape tablesLenient rfl
  rw [whole, whole]
  cases adds with
  | newTable entries adds =>
      apply adds.fault?_eq
      rw [inner, fault?_fitShape lenient entries, List.findSome?_cons, fine]
      rfl
  | oldTable single bareEntries fullEntries adds =>
      rw [List.findSome?_append, List.findSome?_append, List.findSome?_cons, List.findSome?_cons,
        inner, inner, fault?_fitShape lenient fullEntries, fault?_fitShape lenient bareEntries,
        adds.fault?_eq fine]

/-! ## Drafts with a line more -/

theorem nodup_concat {names : List String} {name : String} (distinct : names.Nodup)
    (fresh : name ∉ names) : (names ++ [name]).Nodup := by
  refine List.nodup_append.mpr ⟨distinct, List.nodup_cons.mpr ⟨List.not_mem_nil, .nil⟩, ?_⟩
  rintro other inside _ single rfl
  exact fresh (List.mem_singleton.mp single ▸ inside)

theorem adds_concat {entries : Entries} (fresh : key ∉ entries.map Prod.fst) (node : Node) :
    Adds key node entries (entries ++ [(key, node)]) := by
  rw [← List.append_nil entries] at fresh
  have adds : Adds key node (entries ++ []) (entries ++ [(key, node)]) := .mk fresh
  rwa [List.append_nil] at adds

/-- A table with a new definition behind the others. -/
def Section.append (s : Section) (definition : Definition)
    (fresh : definition.key ∉ s.definitions.map Definition.key) : Section where
  name := s.name
  definitions := s.definitions ++ [definition]
  distinct := by
    rw [List.map_append]
    exact nodup_concat s.distinct fresh

/-- The lines that open a table behind a draft, so that a new key can be defined
in it. -/
inductive Draft.Opens (d : Draft) (table key : String) : List Line → Prop
  | newTable (fresh : table ∉ d.entries.map Prod.fst) : Opens d table key [.header table]
  /-- The draft ends in the table. -/
  | oldTable {before s} (last : d.sections = before ++ [s]) (named : s.name = table)
      (fresh : key ∉ s.definitions.map Definition.key) : Opens d table key []

theorem Draft.exists_longer_newTable (d : Draft) (definition : Definition)
    (fresh : table ∉ d.entries.map Prod.fst) :
    ∃ longer : Draft,
      longer.lines = d.lines ++ [.header table, .definition definition] ∧
        AddsIn table definition.key definition.node d.entries longer.entries := by
  let added : Section := ⟨table, [definition], List.nodup_cons.mpr ⟨List.not_mem_nil, .nil⟩⟩
  have names : (d.front.map Definition.key ++ (d.sections ++ [added]).map Section.name).Nodup := by
    rw [d.names_entries] at fresh
    rw [List.map_append, ← List.append_assoc]
    exact nodup_concat d.distinct fresh
  refine ⟨⟨d.front, d.sections ++ [added], names⟩, ?_, ?_⟩
  · simp [added, Draft.lines, Section.lines, List.flatMap_append]
  · change AddsIn _ _ _ _ (d.front.map Definition.entry ++ (d.sections ++ [added]).map Section.entry)
    rw [List.map_append, ← List.append_assoc]
    exact .newTable rfl (adds_concat fresh _)

theorem Draft.exists_longer_oldTable {d : Draft} {definition : Definition}
    {before : List Section} {s : Section} (last : d.sections = before ++ [s])
    (fresh : definition.key ∉ s.definitions.map Definition.key) :
    ∃ longer : Draft, longer.lines = d.lines ++ [.definition definition] ∧
      AddsIn s.name definition.key definition.node d.entries longer.entries := by
  obtain ⟨front, sections, distinct⟩ := d
  change sections = _ at last
  subst last
  let grown := s.append definition fresh
  have names : (front.map Definition.key ++ (before ++ [grown]).map Section.name).Nodup := by
    rw [List.map_append] at distinct ⊢
    exact distinct
  have single : s.name ∉
      ((front.map Definition.entry ++ before.map Section.entry) ++ []).map Prod.fst := by
    rw [List.map_append, ← List.append_assoc] at distinct
    rw [List.append_nil, List.map_append, List.map_map, List.map_map]
    intro inside
    exact (List.nodup_append.mp distinct).2.2 _ inside _ List.mem_cons_self rfl
  have adds : Adds definition.key definition.node s.entries grown.entries := by
    have entries : grown.entries = s.entries ++ [definition.entry] := List.map_append
    rw [entries]
    exact adds_concat (s.names_entries ▸ fresh) definition.node
  refine ⟨⟨front, before ++ [grown], names⟩, ?_, ?_⟩
  · simp [grown, Draft.lines, Section.lines, Section.append, List.flatMap_append]
  · rw [Draft.entries, Draft.entries, List.map_append, List.map_append, ← List.append_assoc,
      ← List.append_assoc]
    exact .oldTable single rfl rfl adds

/-- A definition behind a draft that opens its table is one key more. -/
theorem Draft.exists_longer {d : Draft} {definition : Definition} {lines : List Line}
    (opens : d.Opens table definition.key lines) :
    ∃ longer : Draft, longer.lines = d.lines ++ lines ++ [.definition definition] ∧
      AddsIn table definition.key definition.node d.entries longer.entries := by
  cases opens with
  | newTable fresh =>
      rw [List.append_assoc]
      exact d.exists_longer_newTable definition fresh
  | oldTable last named fresh =>
      rw [List.append_nil, ← named]
      exact exists_longer_oldTable last fresh

end Toml

end ReservationLoad
