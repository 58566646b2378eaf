import ReservationLoad.Proofs.Json.AnyLayout

/-!
# Repeated and missing members

A layout of a datum is spoilt when one of its records has a member twice or
lacks one.  Wherever this happens the whole text is refused, and the fault names
the member.
-/

namespace ReservationLoad.Json

open Wire

mutual

/-- The piece is a layout of the datum but for one record in it, where a member
is repeated or missing. -/
inductive Flawed : Mismatch → Shape → Datum → Piece → Prop
  | given {mismatch : Mismatch} {inner : Shape} {values : List Datum} {piece : Piece}
      (flaw : Flawed mismatch inner (.record values) piece) :
      Flawed mismatch (.optional inner) (.record values) piece
  /-- A further entry of a known name, whatever it holds. -/
  | repeated {record name : String} {members : Members} {values : List Datum} {piece again : Piece}
      {front back : List (String × Piece)}
      (braces : piece.IsObject (front ++ (name, again) :: back)) (known : name ∈ members.names)
      (before : name ∈ front.map Prod.fst) (laid : MembersLaidOut members values (front ++ back)) :
      Flawed (.duplicateMember name) (.record record members) (.record values) piece
  /-- A layout of all values but the one of a member that has to be there. -/
  | missing {record name : String} {members : Members} {values : List Datum} {piece : Piece}
      (needed : name ∈ members.required)
      (laid : LaidOut (.record record members) (.record (members.without name values)) piece) :
      Flawed (.missingMember name) (.record record members) (.record values) piece
  | member {mismatch : Mismatch} {record name : String} {members : Members} {values : List Datum}
      {piece good bad : Piece} {front back : List (String × Piece)}
      (braces : piece.IsObject (front ++ (name, bad) :: back))
      (laid : MembersLaidOut members values (front ++ (name, good) :: back))
      (flaw : MemberFlawed mismatch members values name bad) :
      Flawed mismatch (.record record members) (.record values) piece
  | item {mismatch : Mismatch} {record : String} {members : Members} {values : List Datum}
      {piece : Piece} {items : List Piece} (brackets : piece.IsList items)
      (flaw : ItemFlawed mismatch members values items) :
      Flawed mismatch (.record record members) (.record values) piece

/-- The piece is a flawed layout of the value that the member of this name has. -/
inductive MemberFlawed : Mismatch → Members → List Datum → String → Piece → Prop
  | here {mismatch : Mismatch} {name : String} {need : Need} {shape : Shape} {rest : Members}
      {value : Datum} {values : List Datum} {piece : Piece}
      (flaw : Flawed mismatch shape value piece) :
      MemberFlawed mismatch (.cons name need shape rest) (value :: values) name piece
  | later {mismatch : Mismatch} {name other : String} {need : Need} {shape : Shape}
      {rest : Members} {value : Datum} {values : List Datum} {piece : Piece}
      (flaw : MemberFlawed mismatch rest values name piece) :
      MemberFlawed mismatch (.cons other need shape rest) (value :: values) name piece

/-- One of the items is a flawed layout of its value, and those in front of it
are layouts of theirs. -/
inductive ItemFlawed : Mismatch → Members → List Datum → List Piece → Prop
  | here {mismatch : Mismatch} {name : String} {need : Need} {shape : Shape} {rest : Members}
      {value : Datum} {values : List Datum} {piece : Piece} {items : List Piece}
      (flaw : Flawed mismatch shape value piece) :
      ItemFlawed mismatch (.cons name need shape rest) (value :: values) (piece :: items)
  | later {mismatch : Mismatch} {name : String} {need : Need} {shape : Shape} {rest : Members}
      {value : Datum} {values : List Datum} {piece : Piece} {items : List Piece}
      (laid : LaidOut shape value piece) (flaw : ItemFlawed mismatch rest values items) :
      ItemFlawed mismatch (.cons name need shape rest) (value :: values) (piece :: items)

end

theorem Flawed.bracketed : ∀ {mismatch : Mismatch} {shape : Shape} {datum : Datum} {piece : Piece},
    Flawed mismatch shape datum piece → piece.Bracketed
  | _, _, _, _, .given flaw => flaw.bracketed
  | _, _, _, _, .repeated braces _ _ _ => braces.bracketed
  | _, _, _, _, .missing _ laid => laid.bracketed
  | _, _, _, _, .member braces _ _ => braces.bracketed
  | _, _, _, _, .item brackets _ => brackets.bracketed

theorem MembersLaidOut.exists_holds {name : String} {entries : List (String × Piece)} :
    ∀ {members : Members} {values : List Datum}, MembersLaidOut members values entries →
      name ∈ members.names → ∃ found, Holds entries name found
  | _, _, .nil, known => nomatch known
  | _, _, .present holds _ others, known => by
      rcases List.mem_cons.mp known with rfl | later
      · exact ⟨_, holds⟩
      · exact others.exists_holds later
  | _, _, .missing holds others, known => by
      rcases List.mem_cons.mp known with rfl | later
      · exact ⟨none, holds⟩
      · exact others.exists_holds later

/-- The entry of a member is the only one of its name. -/
theorem MembersLaidOut.not_mem_front {members : Members} {values : List Datum} {name : String}
    {piece : Piece} {front back : List (String × Piece)}
    (laid : MembersLaidOut members values (front ++ (name, piece) :: back))
    (known : name ∈ members.names) : name ∉ front.map Prod.fst := by
  obtain ⟨found, holds⟩ := laid.exists_holds known
  have once := count_eq_of_holds holds
  -- An entry in front would make the name come twice.
  intro before
  have twice := List.count_pos_iff.mpr before
  rw [List.map_append, List.count_append, List.map_cons, List.count_cons_self] at once
  have atMost : found.toList.length ≤ 1 := by cases found <;> simp
  omega

/-- The entries in front are read, whatever stands behind them. -/
theorem MembersLaidOut.exists_front_read {members : Members} {values : List Datum}
    {front back : List (String × Piece)} (laid : MembersLaidOut members values (front ++ back))
    (conform : MembersConform members values) : ∃ others, PiecesRead front members others :=
  (laid.piecesRead (membersReadable conform)).sublist (List.sublist_append_left front back)

theorem LaidOut.readShape_missing {record name : String} {members : Members} {values : List Datum}
    {piece : Piece}
    (laid : LaidOut (.record record members) (.record (members.without name values)) piece)
    (conforms : Conforms (.record record members) (.record values))
    (needed : name ∈ members.required) :
    readShape (.record record members) piece.start = .error (.misfit (.missingMember name)) := by
  obtain ⟨distinct, conform⟩ := conforms
  have readable := membersReadable_without name (membersReadable conform)
  have ungiven : name ∉ members.given (members.without name values) :=
    fun given => (Members.mem_given_without.mp given).2 rfl
  -- What has to be there is never null, so only an object can be without it.
  cases laid with
  | plain alone => cases alone
  | object braces laid =>
      rw [braces.readShape_eq distinct (laid.piecesRead readable),
        Members.firstMissing_eq_some needed (laid.not_mem_names needed ungiven)]
      · rfl
      · intro other needed apart
        have given := mem_given_of_conform conform needed
        exact laid.mem_names (Members.mem_given_without.mpr ⟨given, apart⟩)
  | list _ laid => exact absurd (laid.mem_given needed) ungiven

mutual

/-- A flaw is found wherever it is, and reported as what it is. -/
theorem Flawed.readShape_eq : ∀ {mismatch : Mismatch} {shape : Shape} {datum : Datum}
    {piece : Piece}, Flawed mismatch shape datum piece → Conforms shape datum →
      readShape shape piece.start = .error (.misfit mismatch)
  | _, .optional inner, _, _, .given flaw, conforms => by
      rw [flaw.bracketed.readShape_optional inner]
      rcases conforms with absent | conforms
      · cases absent
      · exact flaw.readShape_eq conforms
  | _, _, _, _, .repeated braces known before laid, ⟨distinct, conform⟩ => by
      obtain ⟨others, reads⟩ := laid.exists_front_read conform
      exact braces.readShape_repeated distinct reads known before
  | _, _, _, _, .missing needed laid, conforms => laid.readShape_missing conforms needed
  | _, _, _, _, .member braces laid flaw, ⟨distinct, conform⟩ => by
      obtain ⟨others, reads⟩ := laid.exists_front_read conform
      obtain ⟨place, reader, found, rfl, refused⟩ := flaw.exists_reader conform
      have known : reader.name ∈ _ := List.mem_map_of_mem (List.mem_of_getElem? found)
      rw [names_memberReaders] at known
      exact braces.readShape_refused distinct reads found (laid.not_mem_front known) refused
  | _, _, _, _, .item brackets flaw, ⟨_, conform⟩ => by
      cases brackets with
      | mk inner => exact readShape_list_refused (flaw.readItems_eq conform _ _ 0 inner)

theorem MemberFlawed.exists_reader : ∀ {mismatch : Mismatch} {members : Members}
    {values : List Datum} {name : String} {piece : Piece},
    MemberFlawed mismatch members values name piece → MembersConform members values →
      ∃ (place : Nat) (reader : MemberReader), (memberReaders members)[place]? = some reader ∧
        reader.name = name ∧ reader.read piece.start = .error (.misfit mismatch)
  | _, _, _, _, _, .here flaw, ⟨first, _⟩ => ⟨0, _, rfl, rfl, flaw.readShape_eq first⟩
  | _, _, _, _, _, .later flaw, ⟨_, more⟩ => by
      obtain ⟨place, reader, found, read⟩ := flaw.exists_reader more
      exact ⟨place + 1, reader, found, read⟩

theorem ItemFlawed.readItems_eq : ∀ {mismatch : Mismatch} {members : Members} {values : List Datum}
    {items : List Piece}, ItemFlawed mismatch members values items → MembersConform members values →
      ∀ (record : String) (size place : Nat) {text rest : List Char},
        Items (place == 0) items text rest →
          readItems record size (memberReaders members) place text = .error (.misfit mismatch)
  | _, _, _, _, .here flaw, ⟨first, _⟩, record, size, place, _, _, all => by
      obtain ⟨step, -⟩ := all.readItems_eq
      rw [memberReaders, step]
      simp only [flaw.readShape_eq first]
      rfl
  | _, _, _, _, .later laid flaw, ⟨first, more⟩, record, size, place, _, _, all => by
      obtain ⟨step, behind⟩ := all.readItems_eq
      rw [memberReaders, step]
      simp only [laid.readShape_eq first.readable, ok_bind,
        flaw.readItems_eq more record size (place + 1) behind, map_error]

end

/-! ## Texts -/

theorem Piece.IsText.readDatum_eq_error {piece : Piece} {text : String}
    (isText : piece.IsText text) (shape : Shape) {fault : Fault}
    (read : readShape shape piece.start = .error fault) : readDatum shape text = .error fault := by
  cases isText with
  | mk front back =>
      rw [readDatum, loose_readShape shape front, read]
      rfl

/-- The text is a flawed layout of the datum, with white space around it. -/
def IsFlawed (mismatch : Mismatch) (shape : Shape) (datum : Datum) (text : String) : Prop :=
  ∃ piece : Piece, piece.IsText text ∧ Flawed mismatch shape datum piece

theorem IsFlawed.readDatum_eq {mismatch : Mismatch} {shape : Shape} {datum : Datum}
    {text : String} (flawed : IsFlawed mismatch shape datum text)
    (conforms : Conforms shape datum) : readDatum shape text = .error (.misfit mismatch) := by
  obtain ⟨piece, isText, flaw⟩ := flawed
  exact isText.readDatum_eq_error shape (flaw.readShape_eq conforms)

theorem exists_append_of_spells : ∀ {front back : List (String × Value)}
    {entries : List (String × Piece)}, List.Forall₂ Spells (front ++ back) entries →
      ∃ first second, entries = first ++ second ∧ List.Forall₂ Spells front first ∧
        List.Forall₂ Spells back second
  | [], _, entries, spells => ⟨[], entries, rfl, .nil, spells⟩
  | _ :: _, _, _, .cons here spells => by
      obtain ⟨first, second, rfl, inFront, behind⟩ := exists_append_of_spells spells
      exact ⟨_ :: first, second, rfl, .cons here inFront, behind⟩

/-- An object with the members in any order among members of other names, and one
of the known names again. -/
theorem isFlawed_of_object {record : String} {members : Members} {values : List Datum}
    (conforms : Conforms (.record record members) (.record values)) {name : String}
    (known : name ∈ members.names) {again : Value} {front back others : List (String × Value)}
    (same : (front ++ back).Perm (ofMembers members values ++ others))
    (unknown : ∀ other ∈ others, other.1 ∉ members.names) (before : name ∈ front.map Prod.fst)
    {text : String} (isText : IsText (.object (front ++ (name, again) :: back)) text) :
    IsFlawed (.duplicateMember name) (.record record members) (.record values) text := by
  obtain ⟨distinct, conform⟩ := conforms
  rcases isText with ⟨space, written, last⟩
  obtain ⟨entries, braces, spells⟩ := written.exists_entries
  obtain ⟨first, second, rfl, inFront, behind⟩ := exists_append_of_spells spells
  cases behind with
  | @cons _ entry _ later here behind =>
      rcases entry with ⟨repeated, piece⟩
      obtain ⟨rfl, -⟩ := here
      have pieces := exists_piece_of_perm distinct conform (.refl _) same unknown
        (List.rel_append inFront behind)
      rw [← names_of_spells inFront] at before
      exact ⟨_, .mk space last, .repeated braces known before (membersLaidOut conform pieces)⟩

/-! ## Documents -/

section Documents

variable (α : Type) [Document α]

/-- The members of the record that the documents of a type are. -/
def membersOf : Members :=
  match Document.shape α with
  | .record _ members => members
  | _ => .nil

variable {α}

/-- The values of the members of a document. -/
def valuesOf (document : α) : List Datum :=
  match Document.toDatum document with
  | .record values => values
  | _ => []

/-- The members of a document as they are written, in their fixed order. -/
def ownMembers (document : α) : List (String × Value) :=
  ofMembers (membersOf α) (valuesOf document)

/-- The datum of a document without the member of this name. -/
def datumWithout (name : String) (document : α) : Datum :=
  .record ((membersOf α).without name (valuesOf document))

/-- A document is read from any layout of it.  A repeated member is refused, and
so is a missing one unless it is `free`, in the document as in the records inside
of it. -/
structure ReadsAnyLayout (free : List String) (document : α) : Prop where
  /-- The members in any order among members of other names are a layout. -/
  shuffled : ∀ {given others : List (String × Value)} {text : String},
    given.Perm (ownMembers document ++ others) →
      (∀ other ∈ others, other.1 ∉ (membersOf α).names) → IsText (.object given) text →
        IsLayout (Document.shape α) (Document.toDatum document) text
  /-- The list of the values in the order of the members is a layout. -/
  positional : ∀ {text : String}, IsText (.list ((ownMembers document).map Prod.snd)) text →
    IsLayout (Document.shape α) (Document.toDatum document) text
  reads : ∀ {text : String}, IsLayout (Document.shape α) (Document.toDatum document) text →
    readDocument α text = .ok document
  /-- The members but one are a layout of the document without that one. -/
  fewer : ∀ {name : String} {given others : List (String × Value)} {text : String},
    name ∈ (membersOf α).names →
      given.Perm (((ownMembers document).filter fun member => member.1 != name) ++ others) →
        (∀ other ∈ others, other.1 ∉ (membersOf α).names) → IsText (.object given) text →
          IsLayout (Document.shape α) (datumWithout name document) text
  removed : ∀ {name : String} {text : String}, name ∈ (membersOf α).names → name ∉ free →
    IsLayout (Document.shape α) (datumWithout name document) text →
      readDocument α text = .error (.misfit (.missingMember name))
  /-- The members with one of their names again are a flawed layout. -/
  doubled : ∀ {name : String} {again : Value} {front back others : List (String × Value)}
    {text : String}, name ∈ (membersOf α).names →
      (front ++ back).Perm (ownMembers document ++ others) →
        (∀ other ∈ others, other.1 ∉ (membersOf α).names) → name ∈ front.map Prod.fst →
          IsText (.object (front ++ (name, again) :: back)) text →
            IsFlawed (.duplicateMember name) (Document.shape α) (Document.toDatum document) text
  repeated : ∀ {name : String} {front back : List (String × Piece)} {piece again : Piece}
    {text : String}, MembersLaidOut (membersOf α) (valuesOf document) (front ++ back) →
      name ∈ (membersOf α).names → name ∈ front.map Prod.fst →
        piece.IsObject (front ++ (name, again) :: back) → piece.IsText text →
          readDocument α text = .error (.misfit (.duplicateMember name))
  /-- What is wrong with any record of a layout is wrong with the document. -/
  flawed : ∀ {mismatch : Mismatch} {text : String},
    IsFlawed mismatch (Document.shape α) (Document.toDatum document) text →
      readDocument α text = .error (.misfit mismatch)

variable {document : α}

theorem readDocument_eq_ok {datum : Datum} {text : String}
    (read : readDatum (Document.shape α) text = .ok datum)
    (rebuilt : Document.ofDatum? datum = some document) : readDocument α text = .ok document := by
  rw [readDocument, read, ok_bind, rebuilt]
  rfl

theorem Faithful.readDocument_flawed (faithful : Faithful document) {mismatch : Mismatch}
    {text : String}
    (flawed : IsFlawed mismatch (Document.shape α) (Document.toDatum document) text) :
    readDocument α text = .error (.misfit mismatch) := by
  rw [readDocument, flawed.readDatum_eq faithful.conforms]
  rfl

theorem Faithful.readsAnyLayout (faithful : Faithful document) {record : String}
    {members : Members} {free : List String} (isRecord : Document.shape α = .record record members)
    (strict : ∀ name ∈ members.names, name ∉ free → name ∈ members.required) :
    ReadsAnyLayout free document := by
  have conforms := faithful.conforms
  rw [isRecord] at conforms
  obtain ⟨values, isDatum⟩ : ∃ values, Document.toDatum document = .record values := by
    cases known : Document.toDatum document with
    | record values => exact ⟨values, rfl⟩
    | _ =>
        rw [known] at conforms
        exact conforms.elim
  rw [isDatum] at conforms
  have shape : membersOf α = members := by rw [membersOf, isRecord]
  have held : valuesOf document = values := by rw [valuesOf, isDatum]
  have own : ownMembers document = ofMembers members values := by rw [ownMembers, shape, held]
  refine ⟨?shuffled, ?positional, ?reads, ?fewer, ?removed, ?doubled, ?repeated,
    faithful.readDocument_flawed⟩
  case shuffled =>
    intro given others text same unknown isText
    rw [own] at same
    rw [shape] at unknown
    rw [isRecord, isDatum]
    exact isLayout_of_object conforms same unknown isText
  case positional =>
    intro text isText
    rw [own] at isText
    rw [isRecord, isDatum]
    exact isLayout_of_list conforms isText
  case reads =>
    intro text layout
    exact readDocument_eq_ok (layout.readDatum_eq faithful.conforms.readable) faithful.rebuilt
  case fewer =>
    intro name given others text known same unknown isText
    rw [own] at same
    rw [shape] at known unknown
    rw [datumWithout, shape, held, isRecord]
    exact isLayout_of_object_without conforms known same unknown isText
  case removed =>
    intro name text known bound layout
    rw [shape] at known
    obtain ⟨piece, isText, laid⟩ := layout
    rw [datumWithout, shape, held, isRecord] at laid
    apply faithful.readDocument_flawed
    rw [isRecord, isDatum]
    exact ⟨piece, isText, .missing (strict name known bound) laid⟩
  case doubled =>
    intro name again front back others text known same unknown before isText
    rw [own] at same
    rw [shape] at known unknown
    rw [isRecord, isDatum]
    exact isFlawed_of_object conforms known same unknown before isText
  case repeated =>
    intro name front back piece again text laid known before braces isText
    rw [shape, held] at laid
    rw [shape] at known
    apply faithful.readDocument_flawed
    rw [isRecord, isDatum]
    exact ⟨piece, isText, .repeated braces known before laid⟩

end Documents

end ReservationLoad.Json
