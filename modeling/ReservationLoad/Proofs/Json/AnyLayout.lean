import ReservationLoad.Proofs.Json.Pieces
import ReservationLoad.Proofs.Json.RoundTrip

/-!
# Any layout of a record

A datum has many layouts.  The members of a record may stand in any order, among
members of other names that hold whatever they like, or they stand in a list in
their fixed order; the same holds for the records inside.  All layouts of a datum
read as the datum.  A layout in which a name is repeated or missing reads as
nothing, at whatever depth.
-/

namespace ReservationLoad.Json

open Wire

/-! ## Layouts -/

/-- Is the datum neither a record nor the absence of a value? -/
def isPlain : Datum → Bool
  | .absent | .record _ => false
  | _ => true

mutual

/-- The piece is a layout of the datum. -/
inductive LaidOut : Shape → Datum → Piece → Prop
  | plain {shape : Shape} {datum : Datum} {piece : Piece} (alone : isPlain datum = true)
      (written : Written (ofDatum shape datum) piece.start piece.behind) : LaidOut shape datum piece
  | null {inner : Shape} {piece : Piece} (written : Written .null piece.start piece.behind) :
      LaidOut (.optional inner) .absent piece
  | given {inner : Shape} {values : List Datum} {piece : Piece}
      (laid : LaidOut inner (.record values) piece) :
      LaidOut (.optional inner) (.record values) piece
  | object {record : String} {members : Members} {values : List Datum} {piece : Piece}
      {entries : List (String × Piece)} (braces : piece.IsObject entries)
      (laid : MembersLaidOut members values entries) :
      LaidOut (.record record members) (.record values) piece
  | list {record : String} {members : Members} {values : List Datum} {piece : Piece}
      {items : List Piece} (brackets : piece.IsList items)
      (laid : ItemsLaidOut members values items) :
      LaidOut (.record record members) (.record values) piece

/-- For every member that has a value there is one entry of its name, which is a
layout of the value.  The other entries may be anything. -/
inductive MembersLaidOut : Members → List Datum → List (String × Piece) → Prop
  | nil {entries : List (String × Piece)} : MembersLaidOut .nil [] entries
  | present {name : String} {need : Need} {shape : Shape} {rest : Members} {value : Datum}
      {values : List Datum} {piece : Piece} {entries : List (String × Piece)}
      (holds : Holds entries name (some piece)) (laid : LaidOut shape value piece)
      (others : MembersLaidOut rest values entries) :
      MembersLaidOut (.cons name need shape rest) (value :: values) entries
  | missing {name : String} {need : Need} {shape : Shape} {rest : Members} {values : List Datum}
      {entries : List (String × Piece)} (holds : Holds entries name none)
      (others : MembersLaidOut rest values entries) :
      MembersLaidOut (.cons name need shape rest) (.absent :: values) entries

/-- The items are layouts of the values, in the order of the members. -/
inductive ItemsLaidOut : Members → List Datum → List Piece → Prop
  | nil : ItemsLaidOut .nil [] []
  | cons {name : String} {need : Need} {shape : Shape} {rest : Members} {value : Datum}
      {values : List Datum} {piece : Piece} {items : List Piece} (laid : LaidOut shape value piece)
      (others : ItemsLaidOut rest values items) :
      ItemsLaidOut (.cons name need shape rest) (value :: values) (piece :: items)

end

mutual

/-- The data that come back from their layouts: those that conform to the shape,
and those that lack nothing but members which may be missing. -/
def Readable : Shape → Datum → Prop
  | .optional inner, datum => datum = .absent ∨ Readable inner datum
  | .record _ members, .record values =>
    members.names.Nodup ∧ (∀ name ∈ members.required, name ∈ members.given values) ∧
      MembersReadable members values
  | shape, datum => Conforms shape datum

def MembersReadable : Members → List Datum → Prop
  | .nil, [] => True
  | .cons _ _ shape rest, value :: values =>
    (value = .absent ∨ Readable shape value) ∧ MembersReadable rest values
  | _, _ => False

end

section Readable

variable {shape : Shape} {datum : Datum} {name : String}

/-- Nothing but an optional value is absent. -/
theorem mayBeMissing_of_conforms (conforms : Conforms shape .absent) (need : Need) :
    shape.mayBeMissing need = true := by
  cases shape with
  | optional => rfl
  | _ => exact conforms.elim

theorem mem_given_of_conform : ∀ {members : Members} {values : List Datum},
    MembersConform members values → name ∈ members.required → name ∈ members.given values
  | .nil, [], _, needed => nomatch needed
  | .cons _ need _ _, value :: _, ⟨first, more⟩, needed => by
      rw [Members.mem_given_cons]
      rcases Members.mem_required_cons.mp needed with ⟨strict, rfl⟩ | later
      · refine .inl ⟨?_, rfl⟩
        rintro rfl
        exact strict (mayBeMissing_of_conforms first need)
      · exact .inr (mem_given_of_conform more later)

mutual

theorem Conforms.readable {shape : Shape} {datum : Datum} (conforms : Conforms shape datum) :
    Readable shape datum := by
  match shape with
  | .optional inner =>
      rcases conforms with absent | conforms
      · exact .inl absent
      · exact .inr conforms.readable
  | .record _ members =>
      cases datum with
      | record values =>
          obtain ⟨distinct, conform⟩ := conforms
          exact ⟨distinct, fun _ needed => mem_given_of_conform conform needed,
            membersReadable conform⟩
      | _ => exact conforms
  | .text | .number | .natural _ | .integer | .flag | .date | .choice _ => exact conforms

theorem membersReadable : ∀ {members : Members} {values : List Datum},
    MembersConform members values → MembersReadable members values
  | .nil, [], _ => trivial
  | .cons _ _ _ _, _ :: _, ⟨first, more⟩ => ⟨.inr first.readable, membersReadable more⟩

end

theorem Readable.conforms {shape : Shape} (plain : isPlain datum = true)
    (readable : Readable shape datum) : Conforms shape datum := by
  match shape with
  | .optional inner =>
      rcases readable with rfl | readable
      · cases plain
      · exact .inr (readable.conforms plain)
  | .record _ _ =>
      cases datum with
      | record => cases plain
      | _ => exact readable
  | .text | .number | .natural _ | .integer | .flag | .date | .choice _ => exact readable

theorem membersReadable_without (name : String) : ∀ {members : Members} {values : List Datum},
    MembersReadable members values → MembersReadable members (members.without name values)
  | .nil, [], _ => trivial
  | .cons _ _ _ _, _ :: _, ⟨first, more⟩ => by
      refine ⟨?_, membersReadable_without name more⟩
      split
      · exact .inl rfl
      · exact first

end Readable

/-! ## Which entries there are -/

section Names

variable {name : String}

theorem LaidOut.mayBeMissing {shape : Shape} {piece : Piece} (laid : LaidOut shape .absent piece)
    (need : Need) : shape.mayBeMissing need = true := by
  cases laid with
  | plain alone => cases alone
  | null => rfl

/-- A layout of nothing is null, which is read wherever it may stand. -/
theorem LaidOut.readable {shape : Shape} {value : Datum} {piece : Piece}
    (laid : LaidOut shape value piece) (known : value = .absent ∨ Readable shape value) :
    Readable shape value := by
  rcases known with rfl | readable
  · cases laid with
    | plain alone => cases alone
    | null => exact .inl rfl
  · exact readable

theorem MembersLaidOut.mem_names {entries : List (String × Piece)} :
    ∀ {members : Members} {values : List Datum}, MembersLaidOut members values entries →
      name ∈ members.given values → name ∈ entries.map Prod.fst
  | _, _, .nil, given => nomatch given
  | _, _, .present holds _ others, given => by
      rcases Members.mem_given_cons.mp given with ⟨-, rfl⟩ | later
      · exact List.mem_map_of_mem (f := Prod.fst) ((mem_iff_of_holds holds).mpr rfl)
      · exact others.mem_names later
  | _, _, .missing _ others, given => by
      rcases Members.mem_given_cons.mp given with ⟨there, -⟩ | later
      · exact absurd rfl there
      · exact others.mem_names later

theorem MembersLaidOut.not_mem_names {entries : List (String × Piece)} :
    ∀ {members : Members} {values : List Datum}, MembersLaidOut members values entries →
      name ∈ members.required → name ∉ members.given values → name ∉ entries.map Prod.fst
  | _, _, .nil, needed, _ => nomatch needed
  | .cons _ need _ _, value :: _, .present _ laid others, needed, ungiven => by
      rw [Members.mem_given_cons, not_or] at ungiven
      rcases Members.mem_required_cons.mp needed with ⟨strict, rfl⟩ | later
      · have absent : value = .absent := by
          by_contra there
          exact ungiven.1 ⟨there, rfl⟩
        subst absent
        exact absurd (laid.mayBeMissing need) strict
      · exact others.not_mem_names later ungiven.2
  | _, _, .missing holds others, needed, ungiven => by
      rw [Members.mem_given_cons, not_or] at ungiven
      rcases Members.mem_required_cons.mp needed with ⟨-, rfl⟩ | later
      · rw [← List.count_eq_zero, count_eq_of_holds holds]
        rfl
      · exact others.not_mem_names later ungiven.2

theorem ItemsLaidOut.mem_given : ∀ {members : Members} {values : List Datum} {items : List Piece},
    ItemsLaidOut members values items → name ∈ members.required → name ∈ members.given values
  | _, _, _, .nil, needed => nomatch needed
  | .cons _ need _ _, _, _, .cons laid others, needed => by
      rw [Members.mem_given_cons]
      rcases Members.mem_required_cons.mp needed with ⟨strict, rfl⟩ | later
      · refine .inl ⟨?_, rfl⟩
        rintro rfl
        exact strict (laid.mayBeMissing need)
      · exact .inr (others.mem_given later)

end Names

/-! ## Every layout is read -/

/-- The piece begins with a bracket or a brace. -/
def Piece.Bracketed (piece : Piece) : Prop :=
  ∃ bracket more, piece.start = bracket :: more ∧ (bracket = '{' ∨ bracket = '[')

theorem Piece.IsObject.bracketed {piece : Piece} {entries : List (String × Piece)}
    (object : piece.IsObject entries) : piece.Bracketed := by
  cases object
  exact ⟨'{', _, rfl, .inl rfl⟩

theorem Piece.IsList.bracketed {piece : Piece} {items : List Piece} (list : piece.IsList items) :
    piece.Bracketed := by
  cases list
  exact ⟨'[', _, rfl, .inr rfl⟩

theorem LaidOut.bracketed : ∀ {shape : Shape} {values : List Datum} {piece : Piece},
    LaidOut shape (.record values) piece → piece.Bracketed
  | _, _, _, .given laid => laid.bracketed
  | _, _, _, .object braces _ => braces.bracketed
  | _, _, _, .list brackets _ => brackets.bracketed

/-- What is no null is read as a value that is there. -/
theorem Piece.Bracketed.readShape_optional {piece : Piece} (bracketed : piece.Bracketed)
    (inner : Shape) : readShape (.optional inner) piece.start = readShape inner piece.start := by
  obtain ⟨bracket, more, start, rfl | rfl⟩ := bracketed
  all_goals
    rw [start, readShape, readOptional, skipBlank_cons_of_not rfl]
    rfl

mutual

/-- Every layout of a datum is read as the datum. -/
theorem LaidOut.readShape_eq : ∀ {shape : Shape} {datum : Datum} {piece : Piece},
    LaidOut shape datum piece → Readable shape datum →
      readShape shape piece.start = .ok (datum, piece.behind)
  | shape, _, _, .plain alone written, readable => by
      rw [reads_shape shape .none written, fit_ofDatum (readable.conforms alone)]
      rfl
  | _, _, _, .null written, _ => by
      rw [reads_shape _ .none written]
      rfl
  -- A record is no null, so what is optional is read as what is inside.
  | .optional inner, _, _, .given laid, readable => by
      rw [laid.bracketed.readShape_optional inner]
      rcases readable with absent | readable
      · cases absent
      · exact laid.readShape_eq readable
  | _, _, _, .object braces laid, ⟨distinct, there, readable⟩ => by
      rw [braces.readShape_eq distinct (laid.piecesRead readable), Members.firstMissing_eq_none]
      · rfl
      · exact fun name needed => laid.mem_names (there name needed)
  | _, _, _, .list brackets laid, ⟨_, _, readable⟩ => by
      cases brackets with
      | mk inner =>
          obtain ⟨last, read, gap⟩ := laid.readItems_eq readable _ _ 0 inner
          exact readShape_list read gap

theorem MembersLaidOut.piecesRead {entries : List (String × Piece)} :
    ∀ {members : Members} {values : List Datum}, MembersLaidOut members values entries →
      MembersReadable members values → PiecesRead entries members values
  | _, _, .nil, _ => trivial
  | _, value :: _, .present holds laid others, ⟨first, more⟩ => by
      have read := Piece.read_eq_ok.mpr (laid.readShape_eq (laid.readable first))
      exact ⟨⟨_, holds, some value, .some read, rfl⟩, others.piecesRead more⟩
  | _, _, .missing holds others, ⟨_, more⟩ =>
      ⟨⟨none, holds, none, .none, rfl⟩, others.piecesRead more⟩

theorem ItemsLaidOut.readItems_eq : ∀ {members : Members} {values : List Datum}
    {items : List Piece}, ItemsLaidOut members values items → MembersReadable members values →
      ∀ (record : String) (size place : Nat) {text rest : List Char},
        Items (place == 0) items text rest → ∃ last,
          readItems record size (memberReaders members) place text = .ok (values, last) ∧
            Gap last (']' :: rest)
  | _, _, _, .nil, _, _, _, _, text, _, all => by
      cases all with
      | close gap => exact ⟨text, rfl, gap⟩
  | _, _, _, .cons laid others, ⟨first, more⟩, record, size, place, _, _, all => by
      obtain ⟨step, behind⟩ := all.readItems_eq
      obtain ⟨last, read, gap⟩ := others.readItems_eq more record size (place + 1) behind
      refine ⟨last, ?_, gap⟩
      rw [memberReaders, step]
      simp only [laid.readShape_eq (laid.readable first), ok_bind, read, map_ok]

end

/-! ## Texts of a value as layouts -/

/-- The entry is a text of the member. -/
def Spells (member : String × Value) (entry : String × Piece) : Prop :=
  entry.1 = member.1 ∧ Written member.2 entry.2.start entry.2.behind

theorem MembersBehind.exists_entries : ∀ {members : List (String × Value)} {text rest : List Char},
    MembersBehind members text rest →
      ∃ entries, Entries false entries text rest ∧ List.Forall₂ Spells members entries
  | _, _, _, .close gap => ⟨[], .close gap, .nil⟩
  | _, _, _, .next gapComma (.mk gapName spelled gapColon gapValue written) more => by
      obtain ⟨entries, all, spells⟩ := more.exists_entries
      refine ⟨(_, ⟨_, _⟩) :: entries, .next (.mk (.next gapComma) gapName spelled gapColon gapValue
        written.passable) all, .cons ⟨rfl, written⟩ spells⟩

theorem Written.exists_entries {members : List (String × Value)} {start behind : List Char}
    (written : Written (.object members) start behind) :
    ∃ entries, Piece.IsObject ⟨start, behind⟩ entries ∧ List.Forall₂ Spells members entries := by
  cases written with
  | emptyObject gap => exact ⟨[], .mk (.close gap), .nil⟩
  | object first more =>
      rcases first with ⟨gapName, spelled, gapColon, gapValue, written⟩
      obtain ⟨entries, all, spells⟩ := more.exists_entries
      exact ⟨(_, ⟨_, _⟩) :: entries, .mk (.next (.mk .first gapName spelled gapColon gapValue
        written.passable) all), .cons ⟨rfl, written⟩ spells⟩

theorem ItemsBehind.exists_items : ∀ {items : List Value} {text rest : List Char},
    ItemsBehind items text rest → ∃ pieces, Items false pieces text rest ∧
      List.Forall₂ (fun item piece => Written item piece.start piece.behind) items pieces
  | _, _, _, .close gap => ⟨[], .close gap, .nil⟩
  | _, _, _, .next gapComma gap written more => by
      obtain ⟨pieces, all, spells⟩ := more.exists_items
      exact ⟨⟨_, _⟩ :: pieces, .next (.next gapComma) gap written.passable all,
        .cons written spells⟩

theorem Written.exists_items {items : List Value} {start behind : List Char}
    (written : Written (.list items) start behind) :
    ∃ pieces, Piece.IsList ⟨start, behind⟩ pieces ∧
      List.Forall₂ (fun item piece => Written item piece.start piece.behind) items pieces := by
  cases written with
  | emptyList gap => exact ⟨[], .mk (.close gap), .nil⟩
  | list gap first more =>
      obtain ⟨pieces, all, spells⟩ := more.exists_items
      exact ⟨⟨_, _⟩ :: pieces, .mk (.next .first gap first.passable all), .cons first spells⟩

theorem named_of_spells {given : List (String × Value)} {entries : List (String × Piece)}
    (spells : List.Forall₂ Spells given entries) (name : String) :
    List.Forall₂ (fun value piece => Written value piece.start piece.behind)
      ((given.filter fun member => member.1 == name).map Prod.snd)
      ((entries.filter fun entry => entry.1 == name).map Prod.snd) := by
  induction spells with
  | nil => exact .nil
  | cons first _ ih =>
      obtain ⟨same, written⟩ := first
      rw [List.filter_cons, List.filter_cons, same]
      split
      · exact .cons written ih
      · exact ih

theorem holds_of_spells {given : List (String × Value)} {entries : List (String × Piece)}
    {name : String} {value : Value} (spells : List.Forall₂ Spells given entries)
    (holds : Holds given name (some value)) :
    ∃ piece, Holds entries name (some piece) ∧ Written value piece.start piece.behind := by
  have named := named_of_spells spells name
  rw [holds] at named
  obtain ⟨piece, none, written, rest, found⟩ := List.forall₂_cons_left_iff.mp named
  cases rest
  exact ⟨piece, found, written⟩

theorem names_of_spells {given : List (String × Value)} {entries : List (String × Piece)}
    (spells : List.Forall₂ Spells given entries) :
    entries.map Prod.fst = given.map Prod.fst := by
  induction spells with
  | nil => rfl
  | cons first _ ih => rw [List.map_cons, ih, List.map_cons, first.1]

/-- Among other members, in whatever order, every value has its piece. -/
theorem exists_piece_of_perm {members : Members} {values : List Datum}
    (distinct : members.names.Nodup) (conform : MembersConform members values)
    {own given others : List (String × Value)} {entries : List (String × Piece)}
    (part : own.Sublist (ofMembers members values)) (same : given.Perm (own ++ others))
    (unknown : ∀ other ∈ others, other.1 ∉ members.names)
    (spells : List.Forall₂ Spells given entries) :
    ∀ member ∈ own, ∃ piece, Holds entries member.1 (some piece) ∧
      Written member.2 piece.start piece.behind := by
  have names : (own.map Prod.fst).Sublist members.names := by
    rw [← (fit_ofMembers conform).names]
    exact part.map Prod.fst
  intro member inside
  apply holds_of_spells spells
  refine Holds.perm (Holds.append_left (holds_of_mem (names.nodup distinct) inside) ?_) same.symm
  intro again
  obtain ⟨other, further, named⟩ := List.mem_map.mp again
  refine unknown other further ?_
  rw [named]
  exact names.subset (List.mem_map_of_mem inside)

mutual

/-- A text of the value of a datum is one of its layouts. -/
theorem laidOut_of_written {shape : Shape} {datum : Datum} {piece : Piece}
    (conforms : Conforms shape datum)
    (written : Written (ofDatum shape datum) piece.start piece.behind) :
    LaidOut shape datum piece := by
  cases datum with
  | absent =>
      cases shape with
      | optional inner =>
          rw [ofDatum] at written
          exact .null written
      | _ => exact conforms.elim
  | record values =>
      match shape with
      | .optional inner =>
          rw [ofDatum_optional] at written
          rcases conforms with absent | conforms
          · cases absent
          · exact .given (laidOut_of_written conforms written)
      | .record _ members =>
          obtain ⟨distinct, conform⟩ := conforms
          rw [ofDatum] at written
          obtain ⟨entries, braces, spells⟩ := written.exists_entries
          have same : (ofMembers members values).Perm (ofMembers members values ++ []) := by
            rw [List.append_nil]
          exact .object braces (membersLaidOut conform
            (exists_piece_of_perm distinct conform (.refl _) same (fun _ none => nomatch none)
              spells))
      | .text | .number | .natural _ | .integer | .flag | .date | .choice _ => exact conforms.elim
  | _ => exact .plain rfl written

theorem membersLaidOut {entries : List (String × Piece)} : ∀ {members : Members}
    {values : List Datum}, MembersConform members values →
      (∀ member ∈ ofMembers members values, ∃ piece, Holds entries member.1 (some piece) ∧
        Written member.2 piece.start piece.behind) → MembersLaidOut members values entries
  | .nil, [], _, _ => .nil
  | .cons _ _ _ _, _ :: _, ⟨first, more⟩, pieces => by
      obtain ⟨piece, holds, written⟩ := pieces _ List.mem_cons_self
      exact .present holds (laidOut_of_written first written)
        (membersLaidOut more fun member inside => pieces member (List.mem_cons_of_mem _ inside))

end

/-- The entries of all members but one are a layout without that one. -/
theorem membersLaidOut_without {name : String} {entries : List (String × Piece)} :
    ∀ {members : Members} {values : List Datum}, MembersConform members values →
      (∀ member ∈ ofMembers members values, member.1 ≠ name →
        ∃ piece, Holds entries member.1 (some piece) ∧
          Written member.2 piece.start piece.behind) →
        Holds entries name none → MembersLaidOut members (members.without name values) entries
  | .nil, [], _, _, _ => .nil
  | .cons other _ _ _, _ :: _, ⟨first, more⟩, pieces, missing => by
      have others := membersLaidOut_without more
        (fun member inside => pieces member (List.mem_cons_of_mem _ inside)) missing
      rw [Members.without]
      by_cases same : other = name
      · rw [if_pos same]
        rw [← same] at missing
        exact .missing missing others
      · rw [if_neg same]
        obtain ⟨piece, holds, written⟩ := pieces _ List.mem_cons_self same
        exact .present holds (laidOut_of_written first written) others

theorem itemsLaidOut : ∀ {members : Members} {values : List Datum} {items : List Piece},
    MembersConform members values →
      List.Forall₂ (fun item piece => Written item piece.start piece.behind)
        ((ofMembers members values).map Prod.snd) items → ItemsLaidOut members values items
  | .nil, [], _, _, spells => by
      cases spells
      exact .nil
  | .cons _ _ _ _, _ :: _, _, ⟨first, more⟩, spells => by
      cases spells with
      | cons written others =>
          exact .cons (laidOut_of_written first written) (itemsLaidOut more others)

/-! ## Texts -/

/-- The text holds the piece and nothing else. -/
inductive Piece.IsText : Piece → String → Prop
  | mk {piece : Piece} {text : String} (front : Gap text.toList piece.start)
      (back : Gap piece.behind []) : IsText piece text

theorem Piece.IsText.readDatum_eq {piece : Piece} {text : String} (isText : piece.IsText text)
    (shape : Shape) {datum : Datum}
    (read : readShape shape piece.start = .ok (datum, piece.behind)) :
    readDatum shape text = .ok datum := by
  cases isText with
  | mk front back =>
      rw [readDatum, loose_readShape shape front, read]
      simp only [ok_bind, back.skipBlank_eq]
      rfl

/-- The text is a layout of the datum, with white space around it. -/
def IsLayout (shape : Shape) (datum : Datum) (text : String) : Prop :=
  ∃ piece : Piece, piece.IsText text ∧ LaidOut shape datum piece

theorem IsLayout.readDatum_eq {shape : Shape} {datum : Datum} {text : String}
    (layout : IsLayout shape datum text) (readable : Readable shape datum) :
    readDatum shape text = .ok datum := by
  obtain ⟨piece, isText, laid⟩ := layout
  exact isText.readDatum_eq shape (laid.readShape_eq readable)

section Texts

variable {record : String} {members : Members} {values : List Datum}
  (conforms : Conforms (.record record members) (.record values)) {text : String}

include conforms

/-- An object with the members in any order among members of other names. -/
theorem isLayout_of_object {given others : List (String × Value)}
    (same : given.Perm (ofMembers members values ++ others))
    (unknown : ∀ other ∈ others, other.1 ∉ members.names) (isText : IsText (.object given) text) :
    IsLayout (.record record members) (.record values) text := by
  obtain ⟨distinct, conform⟩ := conforms
  rcases isText with ⟨front, written, back⟩
  obtain ⟨entries, braces, spells⟩ := written.exists_entries
  exact ⟨_, .mk front back, .object braces
    (membersLaidOut conform (exists_piece_of_perm distinct conform (.refl _) same unknown spells))⟩

/-- An object with the members of all other names. -/
theorem isLayout_of_object_without {name : String} (known : name ∈ members.names)
    {given others : List (String × Value)}
    (same : given.Perm
      (((ofMembers members values).filter fun member => member.1 != name) ++ others))
    (unknown : ∀ other ∈ others, other.1 ∉ members.names) (isText : IsText (.object given) text) :
    IsLayout (.record record members) (.record (members.without name values)) text := by
  obtain ⟨distinct, conform⟩ := conforms
  rcases isText with ⟨front, written, back⟩
  obtain ⟨entries, braces, spells⟩ := written.exists_entries
  have pieces := exists_piece_of_perm distinct conform List.filter_sublist same unknown spells
  have missing : name ∉ entries.map Prod.fst := by
    rw [names_of_spells spells, (same.map Prod.fst).mem_iff, List.map_append, List.mem_append]
    rintro (again | again)
    · obtain ⟨member, inside, named⟩ := List.mem_map.mp again
      have apart := bne_iff_ne.mp (List.mem_filter.mp inside).2
      exact apart named
    · obtain ⟨other, further, named⟩ := List.mem_map.mp again
      rw [← named] at known
      exact unknown other further known
  refine ⟨_, .mk front back, .object braces (membersLaidOut_without conform ?_ (holds_none missing))⟩
  intro member inside apart
  exact pieces member (List.mem_filter.mpr ⟨inside, bne_iff_ne.mpr apart⟩)

/-- A list of the values in the order of the members. -/
theorem isLayout_of_list (isText : IsText (.list ((ofMembers members values).map Prod.snd)) text) :
    IsLayout (.record record members) (.record values) text := by
  rcases isText with ⟨front, written, back⟩
  obtain ⟨pieces, brackets, spells⟩ := written.exists_items
  exact ⟨_, .mk front back, .list brackets (itemsLaidOut conforms.2 spells)⟩

end Texts

end ReservationLoad.Json
