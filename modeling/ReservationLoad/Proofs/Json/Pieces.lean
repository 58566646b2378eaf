import ReservationLoad.Proofs.Json.Records
import ReservationLoad.Proofs.Wire.Slots

/-!
# Records from the pieces of a text

A text of a record is cut into pieces: the values of its entries, each under its
name, or the items of a list.  What is read depends on what each piece is read
as and on nothing else.  The pieces under other names may be any values at all.
-/

namespace ReservationLoad.Json

open Wire

/-! ## Pieces -/

/-- A text from the first character of a value on, and what lies behind the
value. -/
structure Piece where
  start : List Char
  behind : List Char

/-- What is read from a piece, if it is read up to its end. -/
def Piece.read (read : List Char → Except Fault (Datum × List Char)) (piece : Piece) :
    Except Fault Datum := do
  let (datum, rest) ← read piece.start
  if rest = piece.behind then pure datum else throw .malformed

theorem Piece.read_eq_ok {read : List Char → Except Fault (Datum × List Char)} {piece : Piece}
    {datum : Datum} :
    piece.read read = .ok datum ↔ read piece.start = .ok (datum, piece.behind) := by
  constructor
  · intro result
    obtain ⟨⟨datum', rest⟩, found, same⟩ := exists_of_bind_eq_ok result
    simp only at same
    split at same
    next whole =>
      cases same
      rw [found, whole]
    next => cases same
  · intro found
    rw [Piece.read, found]
    simp only [ok_bind, if_pos]
    rfl

/-- An entry of an object, with the comma in front of it. -/
inductive Entry : Bool → String → Piece → List Char → Prop
  | mk {first : Bool} {name : String} {piece : Piece}
      {text behindComma inside behindName behindColon : List Char}
      (comma : Comma first text behindComma) (gapName : Gap behindComma ('"' :: inside))
      (spelled : Spelled name.toList inside behindName)
      (gapColon : Gap behindName (':' :: behindColon)) (gapValue : Gap behindColon piece.start)
      (value : Passable piece.start piece.behind) : Entry first name piece text

/-- The entries of an object, from the first one or from a comma on, and the
closing brace. -/
inductive Entries : Bool → List (String × Piece) → List Char → List Char → Prop
  | close {first : Bool} {text rest : List Char} (gap : Gap text ('}' :: rest)) :
      Entries first [] text rest
  | next {first : Bool} {name : String} {piece : Piece} {entries : List (String × Piece)}
      {text rest : List Char} (entry : Entry first name piece text)
      (more : Entries false entries piece.behind rest) :
      Entries first ((name, piece) :: entries) text rest

/-- The items of a list, from the first one or from a comma on, and the closing
bracket. -/
inductive Items : Bool → List Piece → List Char → List Char → Prop
  | close {first : Bool} {text rest : List Char} (gap : Gap text (']' :: rest)) :
      Items first [] text rest
  | next {first : Bool} {piece : Piece} {items : List Piece} {text behindComma rest : List Char}
      (comma : Comma first text behindComma) (gap : Gap behindComma piece.start)
      (item : Passable piece.start piece.behind) (more : Items false items piece.behind rest) :
      Items first (piece :: items) text rest

/-- The piece is an object with these entries. -/
inductive Piece.IsObject : Piece → List (String × Piece) → Prop
  | mk {inside behind : List Char} {entries : List (String × Piece)}
      (inner : Entries true entries inside behind) : IsObject ⟨'{' :: inside, behind⟩ entries

/-- The piece is a list of these items. -/
inductive Piece.IsList : Piece → List Piece → Prop
  | mk {inside behind : List Char} {items : List Piece} (inner : Items true items inside behind) :
      IsList ⟨'[' :: inside, behind⟩ items

theorem Entry.passable {first : Bool} {name : String} {piece : Piece} {text : List Char} :
    Entry first name piece text → Passable piece.start piece.behind
  | .mk _ _ _ _ _ value => value

theorem Entry.length_lt {first : Bool} {name : String} {piece : Piece} {text : List Char}
    (entry : Entry first name piece text) : piece.behind.length < text.length := by
  rcases entry with ⟨comma, gapName, spelled, gapColon, gapValue, value⟩
  have front := comma.length_le
  have member := length_lt_of_member gapName spelled.quoted gapColon gapValue value.length_lt
  omega

/-- There are no more entries than characters. -/
theorem Entries.length_lt {first : Bool} {entries : List (String × Piece)} {text rest : List Char}
    (all : Entries first entries text rest) : entries.length < text.length := by
  induction all with
  | close gap =>
      have front := gap.length_le
      simp only [List.length_cons, List.length_nil] at front ⊢
      omega
  | next entry _ ih =>
      have shorter := entry.length_lt
      simp only [List.length_cons]
      omega

/-! ## White space in front of a value -/

/-- A way of reading that passes over white space first. -/
def Loose (read : List Char → Except Fault (Datum × List Char)) : Prop :=
  ∀ {input start : List Char}, Gap input start → read input = read start

theorem loose_readNumeric (wanted : String) (accept : Number → Except Mismatch Datum) :
    Loose (readNumeric wanted accept) := by
  intro input start gap
  rw [readNumeric, readNumeric, gap.skipBlank_eq]

theorem readString_of_gap (wanted : String) {input start : List Char} (gap : Gap input start) :
    readString wanted input = readString wanted start := by
  rw [readString, readString, gap.skipBlank_eq]

theorem loose_readShape (shape : Shape) : Loose (readShape shape) := by
  intro input start gap
  cases shape with
  | text => simp only [readShape, readString_of_gap _ gap]
  | number => exact loose_readNumeric _ _ gap
  | natural => exact loose_readNumeric _ _ gap
  | integer => exact loose_readNumeric _ _ gap
  | flag => simp only [readShape, readFlag, gap.skipBlank_eq]
  | date => simp only [readShape, readDate, readString_of_gap _ gap]
  | choice => simp only [readShape, readChoice, gap.skipBlank_eq]
  | optional => simp only [readShape, readOptional, gap.skipBlank_eq]
  | record => simp only [readShape, readRecord, gap.skipBlank_eq]

theorem loose_memberReaders : ∀ (members : Members), ∀ reader ∈ memberReaders members,
    Loose reader.read
  | .nil, _, inside => nomatch inside
  | .cons _ _ shape rest, reader, inside => by
      rcases List.mem_cons.mp inside with rfl | later
      · exact loose_readShape shape
      · exact loose_memberReaders rest reader later

theorem tabulates_memberReaders (members : Members) :
    Tabulates MemberReader.name (fun reader => Piece.read reader.read)
      (fun shape => Piece.read (readShape shape)) members (memberReaders members) := by
  cases members with
  | nil => exact .nil
  | cons _ _ _ rest => exact .cons rfl rfl (tabulates_memberReaders rest)

theorem names_memberReaders (members : Members) :
    (memberReaders members).map (·.name) = members.names :=
  (tabulates_memberReaders members).names

/-! ## Entries -/

section Entries

variable {readers : List MemberReader} {slots target : Slots} {first : Bool} {name : String}
  {piece : Piece} {text behindColon rest : List Char} {fuel : Nat}

theorem readEntry_unknown (unknown : name ∉ readers.map (·.name))
    (gap : Gap behindColon piece.start) (value : Passable piece.start piece.behind) :
    readEntry readers slots name behindColon = .ok (slots, piece.behind) := by
  have nowhere : placeOf? name (readers.map (·.name)) = none := by
    cases found : placeOf? name (readers.map (·.name)) with
    | none => rfl
    | some place => exact absurd (List.mem_of_getElem? (getElem?_of_placeOf? found)) unknown
  simp only [readEntry, nowhere, value.skip_eq gap, map_ok]

variable (distinct : (readers.map (·.name)).Nodup) {place : Nat} {reader : MemberReader}
  (found : readers[place]? = some reader)

include distinct found

theorem placeOf?_name : placeOf? reader.name (readers.map (·.name)) = some place := by
  apply placeOf?_of_getElem? distinct
  rw [List.getElem?_map, found]
  rfl

theorem readEntry_filled {value : Datum} (filled : slots[place]? = some (some value)) :
    readEntry readers slots reader.name behindColon =
      .error (.misfit (.duplicateMember reader.name)) := by
  simp only [readEntry, placeOf?_name distinct found, filled]
  rfl

theorem readEntry_empty (empty : slots[place]? = some none) :
    readEntry readers slots reader.name behindColon =
      (reader.read behindColon).map fun (value, rest) =>
        (slots.set place (some value), rest) := by
  simp only [readEntry, placeOf?_name distinct found, empty, found]
  rfl

end Entries

/-! ## Objects -/

section Objects

variable {readers : List MemberReader} {slots target : Slots} {first : Bool} {place : Nat}
  {reader : MemberReader} {piece : Piece} {front back : List (String × Piece)}
  {text rest : List Char} {fuel : Nat}

/-- An entry is read by its name. -/
theorem Entry.readMembers_eq {name : String} (entry : Entry first name piece text)
    (readers : List MemberReader) :
    ∃ behindColon, Gap behindColon piece.start ∧ ∀ (fuel : Nat) (slots : Slots),
      readMembers readers (fuel + 1) first slots text =
        (readEntry readers slots name behindColon >>= fun (slots, rest) =>
          readMembers readers fuel false slots rest) := by
  rcases entry with ⟨comma, gapName, spelled, gapColon, gapValue, value⟩
  exact ⟨_, gapValue, fun fuel slots =>
    readMembers_entry (readMemberName_next comma gapName spelled) gapColon⟩

theorem Entries.readMembers_close (entries : Entries first [] text rest) (enough : 0 < fuel) :
    readMembers readers fuel first slots text = .ok (slots, '}' :: rest) := by
  cases entries with
  | close gap =>
      obtain ⟨fuel, rfl⟩ : ∃ less, fuel = less + 1 := ⟨fuel - 1, by omega⟩
      rw [readMembers, readMemberName_close first gap]
      simp only [ok_bind, gap.skipBlank_eq_cons (c := '}') rfl]
      rfl

variable (distinct : (readers.map (·.name)).Nodup)

include distinct

/-- The second entry of a name is refused, whatever its value. -/
theorem Entries.readMembers_filled {value : Datum} (found : readers[place]? = some reader)
    (filled : slots[place]? = some (some value))
    (entries : Entries first ((reader.name, piece) :: back) text rest) (enough : 0 < fuel) :
    readMembers readers fuel first slots text =
      .error (.misfit (.duplicateMember reader.name)) := by
  cases entries with
  | next entry more =>
      obtain ⟨behindColon, gap, step⟩ := entry.readMembers_eq readers
      obtain ⟨fuel, rfl⟩ : ∃ less, fuel = less + 1 := ⟨fuel - 1, by omega⟩
      rw [step, readEntry_filled distinct found filled]
      rfl

variable (loose : ∀ reader ∈ readers, Loose reader.read)

include loose

/-- A member that is refused by itself is refused in its object. -/
theorem Entries.readMembers_refused {fault : Fault} (found : readers[place]? = some reader)
    (empty : slots[place]? = some none) (refused : reader.read piece.start = .error fault)
    (entries : Entries first ((reader.name, piece) :: back) text rest) (enough : 0 < fuel) :
    readMembers readers fuel first slots text = .error fault := by
  cases entries with
  | next entry more =>
      obtain ⟨behindColon, gap, step⟩ := entry.readMembers_eq readers
      obtain ⟨fuel, rfl⟩ : ∃ less, fuel = less + 1 := ⟨fuel - 1, by omega⟩
      rw [step, readEntry_empty distinct found empty,
        loose reader (List.mem_of_getElem? found) gap, refused]
      rfl

/-- The entries in front fill the slots, and reading goes on behind them. -/
theorem Entries.readMembers_append
    (fills : Fills MemberReader.name (fun reader => Piece.read reader.read) readers front slots
      target)
    (entries : Entries first (front ++ back) text rest) (enough : (front ++ back).length < fuel) :
    ∃ later behind less, Entries later back behind rest ∧ back.length < less ∧
      readMembers readers fuel first slots text = readMembers readers less later target behind := by
  -- Every entry in front takes one step and leaves slots that the others still fill.
  induction front generalizing slots first text fuel with
  | nil => exact ⟨first, text, fuel, entries, enough, by rw [fills.eq_target]⟩
  | cons head front ih =>
      rcases head with ⟨name, piece⟩
      cases entries with
      | next entry more =>
          obtain ⟨behindColon, gap, step⟩ := entry.readMembers_eq readers
          obtain ⟨fuel, rfl⟩ : ∃ less, fuel = less + 1 := ⟨fuel - 1, by omega⟩
          have less : (front ++ back).length < fuel := Nat.lt_of_succ_lt_succ enough
          by_cases known : name ∈ readers.map (·.name)
          · obtain ⟨reader, inside, rfl⟩ := List.mem_map.mp known
            obtain ⟨place, found⟩ := List.getElem?_of_mem inside
            have slot := fills.empty found List.mem_cons_self
            obtain ⟨datum, fitted, -⟩ := fills.fitted found List.mem_cons_self
            have read := (loose reader inside gap).trans (Piece.read_eq_ok.mp fitted)
            rw [step, readEntry_empty distinct found slot, read]
            exact ih (fills.fill distinct found rfl fitted) more less
          · rw [step, readEntry_unknown known gap entry.passable]
            exact ih (fills.skip known) more less

end Objects

/-! ## Lists -/

/-- The next member of a record is read from the next item. -/
theorem Items.readItems_eq {record : String} {size place : Nat} {reader : MemberReader}
    {later : List MemberReader} {piece : Piece} {items : List Piece} {text rest : List Char}
    (all : Items (place == 0) (piece :: items) text rest) :
    readItems record size (reader :: later) place text =
      (reader.read piece.start >>= fun (value, behind) =>
        (readItems record size later (place + 1) behind).map fun (values, rest) =>
          (value :: values, rest)) ∧
      Items false items piece.behind rest := by
  cases all with
  | next comma gap item more =>
      refine ⟨?_, more⟩
      rw [readItems, readItemStart_next comma gap item]
      simp only [ok_bind]
      cases reader.read piece.start with
      | error fault => rfl
      | ok found =>
          simp only [ok_bind]
          cases readItems record size later (place + 1) found.2 <;> rfl

/-! ## Records -/

section Records

variable {record : String} {members : Members} {values : List Datum} {inside behind : List Char}

theorem readShape_list {last : List Char}
    (items : readItems record (memberReaders members).length (memberReaders members) 0 inside =
      .ok (values, last)) (gap : Gap last (']' :: behind)) :
    readShape (.record record members) ('[' :: inside) = .ok (.record values, behind) := by
  have front : skipBlank ('[' :: inside) = '[' :: inside := skipBlank_cons_of_not rfl inside
  simp only [readShape, readRecord, front, items, ok_bind, gap.skipBlank_eq_cons (c := ']') rfl]
  rfl

theorem readShape_list_refused {fault : Fault}
    (items : readItems record (memberReaders members).length (memberReaders members) 0 inside =
      .error fault) : readShape (.record record members) ('[' :: inside) = .error fault := by
  have front : skipBlank ('[' :: inside) = '[' :: inside := skipBlank_cons_of_not rfl inside
  simp only [readShape, readRecord, front, items]
  rfl

variable {piece : Piece} {entries front back : List (String × Piece)} {name : String}

theorem readShape_object {slots : Slots}
    (read : readMembers (memberReaders members) (inside.length + 1) true
      ((memberReaders members).map fun _ => none) inside = .ok (slots, '}' :: behind)) :
    readShape (.record record members) ('{' :: inside) =
      match completeRecord members slots with
      | .ok values => .ok (.record values, behind)
      | .error mismatch => .error (.misfit mismatch) := by
  have start : skipBlank ('{' :: inside) = '{' :: inside := skipBlank_cons_of_not rfl inside
  have brace : skipBlank ('}' :: behind) = '}' :: behind := skipBlank_cons_of_not rfl behind
  simp only [readShape, readRecord, start, read, ok_bind, brace]
  cases completeRecord members slots <;> rfl

theorem readShape_object_refused {fault : Fault}
    (read : readMembers (memberReaders members) (inside.length + 1) true
      ((memberReaders members).map fun _ => none) inside = .error fault) :
    readShape (.record record members) ('{' :: inside) = .error fault := by
  have start : skipBlank ('{' :: inside) = '{' :: inside := skipBlank_cons_of_not rfl inside
  simp only [readShape, readRecord, start, read]
  rfl

/-- What the readers of the members make of the pieces. -/
abbrev PiecesRead (entries : List (String × Piece)) (members : Members) (values : List Datum) :
    Prop :=
  MembersRead (fun shape => Piece.read (readShape shape)) entries members values

variable (distinct : members.names.Nodup)

include distinct

/-- The entries in front of an object fill the slots of the record. -/
theorem PiecesRead.readMembers_eq (reads : PiecesRead front members values)
    (all : Entries true (front ++ back) inside behind) :
    ∃ target later text fuel, Entries later back text behind ∧ back.length < fuel ∧
      Fills MemberReader.name (fun reader => Piece.read reader.read) (memberReaders members) front
        ((memberReaders members).map fun _ => none) target ∧
      completeRecord members target =
        completed (members.firstMissing (front.map Prod.fst)) values ∧
      readMembers (memberReaders members) (inside.length + 1) true
          ((memberReaders members).map fun _ => none) inside =
        readMembers (memberReaders members) fuel later target text := by
  obtain ⟨target, fills, complete⟩ := (tabulates_memberReaders members).exists_target reads
  rw [← names_memberReaders] at distinct
  obtain ⟨later, text, fuel, rest, enough, run⟩ :=
    all.readMembers_append distinct (loose_memberReaders members) fills
      (Nat.lt_succ_of_lt all.length_lt)
  exact ⟨target, later, text, fuel, rest, enough, fills, complete, run⟩

/-- An object is read as the values of its entries, if none is missing. -/
theorem Piece.IsObject.readShape_eq (object : piece.IsObject entries)
    (reads : PiecesRead entries members values) :
    readShape (.record record members) piece.start =
      match completed (members.firstMissing (entries.map Prod.fst)) values with
      | .ok values => .ok (.record values, piece.behind)
      | .error mismatch => .error (.misfit mismatch) := by
  cases object with
  | mk inner =>
      rw [← List.append_nil entries] at inner
      obtain ⟨target, later, text, fuel, rest, enough, -, complete, run⟩ :=
        PiecesRead.readMembers_eq distinct reads inner
      rw [rest.readMembers_close enough] at run
      rw [readShape_object run, complete]

theorem Piece.IsObject.readShape_repeated {again : Piece}
    (object : piece.IsObject (front ++ (name, again) :: back))
    (reads : PiecesRead front members values) (known : name ∈ members.names)
    (before : name ∈ front.map Prod.fst) :
    readShape (.record record members) piece.start = .error (.misfit (.duplicateMember name)) := by
  cases object with
  | mk inner =>
      obtain ⟨target, later, text, fuel, rest, enough, fills, -, run⟩ :=
        PiecesRead.readMembers_eq distinct reads inner
      rw [← names_memberReaders] at distinct known
      obtain ⟨reader, inside, rfl⟩ := List.mem_map.mp known
      obtain ⟨place, found⟩ := List.getElem?_of_mem inside
      obtain ⟨⟨name, first⟩, here, rfl⟩ := List.mem_map.mp before
      obtain ⟨datum, -, filled⟩ := fills.fitted found here
      rw [rest.readMembers_filled distinct found filled (Nat.zero_lt_of_lt enough)] at run
      exact readShape_object_refused run

theorem Piece.IsObject.readShape_refused {bad : Piece} {fault : Fault} {place : Nat}
    {reader : MemberReader} (object : piece.IsObject (front ++ (reader.name, bad) :: back))
    (reads : PiecesRead front members values)
    (found : (memberReaders members)[place]? = some reader)
    (fresh : reader.name ∉ front.map Prod.fst) (refused : reader.read bad.start = .error fault) :
    readShape (.record record members) piece.start = .error fault := by
  cases object with
  | mk inner =>
      obtain ⟨target, later, text, fuel, rest, enough, fills, -, run⟩ :=
        PiecesRead.readMembers_eq distinct reads inner
      rw [← names_memberReaders] at distinct
      have empty : target[place]? = some none := by
        rw [← fills.absent found fresh, List.getElem?_map, found]
        rfl
      rw [rest.readMembers_refused distinct (loose_memberReaders members) found empty refused
        (Nat.zero_lt_of_lt enough)] at run
      exact readShape_object_refused run

end Records

end ReservationLoad.Json
