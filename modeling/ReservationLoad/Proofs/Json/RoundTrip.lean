import Mathlib.Data.List.Nodup
import ReservationLoad.Proofs.Calendar.Date
import ReservationLoad.Proofs.Json.Layout
import ReservationLoad.Proofs.Json.Records
import ReservationLoad.Proofs.Wire.Slots

/-!
# Documents read back

A datum that conforms to a shape is written as a value that fits the shape and
gives the datum back.  Of a fraction this asks that the text of the double reads
as the same double; everything else comes back by itself.
-/

namespace ReservationLoad.Json

open Wire

/-! ## Scalars -/

/-- Writing and reading carry the double back to itself. -/
structure Survives (x : Binary64) : Prop where
  finite : x.isFinite = true
  readBack : readDatum .number x.tokenText = .ok (.number x)

theorem isText_number {token : String} (isNumeral : IsNumeral token.toList) :
    IsText (.number token) token := by
  have written := Written.number isNumeral endsNumeral_nil
  rw [List.append_nil] at written
  exact .mk .none written .none

theorem fit_number {x : Binary64} (survives : Survives x) :
    fitShape .number (.ofBinary64 x) = .ok (.number x) := by
  rw [Value.ofBinary64, if_pos survives.finite, ← survives.readBack]
  exact ((isText_number (isNumeral_tokenText x)).readDatum_eq .number).symm

/-- Does the token of a double read as the double? -/
def survives (x : Binary64) : Bool :=
  x.isFinite &&
    match numeral (tokenChars x) with
    | .ok (.fraction y) => decide (y = x)
    | _ => false

theorem Survives.of_survives {x : Binary64} (check : survives x = true) : Survives x := by
  rw [survives, Bool.and_eq_true] at check
  obtain ⟨finite, same⟩ := check
  refine ⟨finite, ?_⟩
  rw [(isText_number (isNumeral_tokenText x)).readDatum_eq, fitShape, fitNumeric, toList_tokenText]
  split at same
  next y read =>
    rw [read, of_decide_eq_true same]
    rfl
  next => cases same

/-- Null fits no number. -/
theorem isFinite_of_fit_number {x : Binary64} {datum : Datum}
    (fitted : fitShape .number (.ofBinary64 x) = .ok datum) : x.isFinite = true := by
  by_contra infinite
  rw [Value.ofBinary64, if_neg infinite] at fitted
  cases fitted

theorem fit_natural {width : Width} {n : UInt64} (small : n.toNat < width.limit) :
    fitShape (.natural width) (.number (toString n.toNat)) = .ok (.natural n) := by
  have word : UInt64.ofNat n.toNat = n := UInt64.ofNat_toNat
  rw [fitShape, fitNumeric, Decimal.toList_toString, numeral_ofNat n.toNat_lt]
  simp only [ok_bind, word, acceptNatural, if_pos small]

theorem fit_integer (i : Int64) :
    fitShape .integer (.number (toString i.toInt)) = .ok (.integer i) := by
  have low := i.le_toInt
  have high := i.toInt_lt
  rw [fitShape, fitNumeric, Decimal.toList_toString_int]
  split
  next negative =>
    have back : (-(i.toInt.natAbs : Int)) = i.toInt := by omega
    rw [numeral_negative (by omega) (by omega)]
    simp only [ok_bind, acceptInteger, back, Int64.ofInt_toInt]
  next natural =>
    have small : i.toInt.natAbs < 0x8000000000000000 := by omega
    have word : (UInt64.ofNat i.toInt.natAbs).toNat = i.toInt.natAbs :=
      UInt64.toNat_ofNat_of_lt (Nat.lt_trans small (by decide))
    have back : Int64.ofNat i.toInt.natAbs = i := by
      apply Int64.toInt_inj.mp
      rw [Int64.toInt_ofNat_of_lt small]
      omega
    rw [numeral_ofNat (Nat.lt_trans small (by decide))]
    simp only [ok_bind, acceptInteger, word, if_pos small, back]

theorem fit_date (date : Calendar.Date) :
    fitShape .date (.text (toString date)) = .ok (.date date) := by
  have chars : (toString date).toList = date.toChars := String.toList_ofList
  rw [fitShape, fitDate, fitString, ok_bind, chars, date.read_toChars]

/-! ## Members -/

section Members

variable {fits : List MemberFit} (distinct : (fits.map (·.name)).Nodup)
  {value : Value} {members : List (String × Value)} {slots target : Slots}

include distinct in
theorem fitMembers_eq
    (fills : Fills MemberFit.name MemberFit.fit fits members slots target) :
    fitMembers fits slots members = .ok target := by
  induction members generalizing slots with
  | nil => rw [fitMembers, fills.eq_target]
  | cons head members ih =>
      rcases head with ⟨name, value⟩
      rw [fitMembers, fitMember]
      cases known : placeOf? name (fits.map (·.name)) with
      | none => exact ih (fills.skip (not_mem_of_placeOf? known))
      | some place =>
          have named := getElem?_of_placeOf? known
          rw [List.getElem?_map] at named
          obtain ⟨member, found, same⟩ := Option.map_eq_some_iff.mp named
          have slot := fills.empty found (by rw [same]; exact List.mem_cons_self)
          obtain ⟨datum, fitted, -⟩ := fills.fitted found (by rw [same]; exact List.mem_cons_self)
          simp only [slot, found, fitted]
          exact ih (fills.fill distinct found same fitted)

include distinct in
theorem exists_fit_of_fitMember {filled : Slots} {i : Nat} {member : MemberFit}
    (found : fits[i]? = some member) (fitted : fitMember fits slots member.name value = .ok filled) :
    ∃ datum, member.fit value = .ok datum := by
  have place : placeOf? member.name (fits.map (·.name)) = some i := by
    apply placeOf?_of_getElem? distinct
    rw [List.getElem?_map, found]
    rfl
  simp only [fitMember, place, found] at fitted
  split at fitted
  next => cases fitted
  next =>
    obtain ⟨datum, result, -⟩ := exists_of_map_eq_ok fitted
    exact ⟨datum, result⟩

include distinct in
/-- Every known member of an object that fits fits by itself. -/
theorem exists_fit_of_fitMembers {filled : Slots} {i : Nat} {member : MemberFit}
    (found : fits[i]? = some member) (fitted : fitMembers fits slots members = .ok filled)
    (inside : (member.name, value) ∈ members) : ∃ datum, member.fit value = .ok datum := by
  induction members generalizing slots with
  | nil => cases inside
  | cons head members ih =>
      rcases head with ⟨name, first⟩
      obtain ⟨more, step, rest⟩ := exists_of_bind_eq_ok fitted
      rcases List.mem_cons.mp inside with same | later
      · cases same
        exact exists_fit_of_fitMember distinct found step
      · exact ih rest later

end Members

/-! ## Data -/

mutual

/-- The data of a shape that come back from their text. -/
def Conforms : Shape → Datum → Prop
  | .text, .text _ => True
  | .number, .number x => Survives x
  | .natural width, .natural n => n.toNat < width.limit
  | .integer, .integer _ => True
  | .flag, .flag _ => True
  | .date, .date _ => True
  | .choice words, .choice word => word ∈ words
  | .optional inner, datum => datum = .absent ∨ Conforms inner datum
  | .record _ members, .record values => members.names.Nodup ∧ MembersConform members values
  | _, _ => False

def MembersConform : Members → List Datum → Prop
  | .nil, [] => True
  | .cons _ _ shape rest, value :: values => Conforms shape value ∧ MembersConform rest values
  | _, _ => False

end

/-- Null fits nothing but what may be absent. -/
theorem eq_absent_of_fitShape_null {shape : Shape} {datum : Datum}
    (fitted : fitShape shape .null = .ok datum) : datum = .absent := by
  cases shape <;> cases fitted
  rfl

theorem fitOptional_of_fitShape {shape : Shape} {value : Value} {datum : Datum}
    (fitted : fitShape shape value = .ok datum) :
    fitShape (.optional shape) value = .ok datum := by
  rw [fitShape]
  unfold fitOptional
  split
  next => rw [eq_absent_of_fitShape_null fitted]
  next => exact fitted

theorem ofDatum_optional (shape : Shape) (datum : Datum) :
    ofDatum (.optional shape) datum = ofDatum shape datum := by
  cases datum <;> simp only [ofDatum]

theorem tabulates_memberFits (members : Members) :
    Tabulates MemberFit.name MemberFit.fit fitShape members (memberFits members) := by
  cases members with
  | nil => exact .nil
  | cons _ _ _ rest => exact .cons rfl rfl (tabulates_memberFits rest)

theorem names_memberFits (members : Members) : (memberFits members).map (·.name) = members.names :=
  (tabulates_memberFits members).names

theorem exists_fit_of_fitRecord {record : String} {members : Members}
    (distinct : members.names.Nodup) {values : List (String × Value)} {datum : Datum}
    (fitted : fitShape (.record record members) (.object values) = .ok datum) {i : Nat}
    {member : MemberFit} (found : (memberFits members)[i]? = some member) {value : Value}
    (inside : (member.name, value) ∈ values) : ∃ datum, member.fit value = .ok datum := by
  obtain ⟨filled, fitted, -⟩ := exists_of_bind_eq_ok fitted
  rw [← names_memberFits] at distinct
  exact exists_fit_of_fitMembers distinct found fitted inside

theorem completeRecord_some : ∀ {members : Members} {values : List Datum},
    values.length = members.names.length →
      completeRecord members (values.map some) = .ok values
  | .nil, [], _ => rfl
  | .nil, _ :: _, size => nomatch size
  | .cons _ _ _ _, [], size => nomatch size
  | .cons _ _ _ rest, value :: values, size => by
      rw [List.map_cons, completeRecord, completeRecord_some (Nat.succ.inj size), map_ok]

/-- An object whose members may all be missing is read from what it has for each
of them. -/
theorem fitShape_object_eq {record : String} {members : Members} (distinct : members.names.Nodup)
    (lenient : members.lenient = true) {entries : List (String × Value)} {values : List Datum}
    (reads : MembersRead fitShape entries members values) :
    fitShape (.record record members) (.object entries) = .ok (.record values) := by
  obtain ⟨target, fills, complete⟩ := (tabulates_memberFits members).exists_fills lenient reads
  rw [← names_memberFits] at distinct
  rw [fitShape, fitRecord]
  simp only [fitMembers_eq distinct fills, ok_bind, complete]

/-- The members of a record and their values, place by place. -/
structure MembersFit (members : Members) (values : List Datum) : Prop where
  size : values.length = members.names.length
  names : (ofMembers members values).map Prod.fst = members.names
  fitted : ∀ {i : Nat} {member : MemberFit} {entry : String × Value},
    (memberFits members)[i]? = some member → (ofMembers members values)[i]? = some entry →
      ∃ datum, member.fit entry.2 = .ok datum ∧ values[i]? = some datum

theorem MembersFit.fills {members : Members} {values : List Datum} (fit : MembersFit members values)
    (distinct : members.names.Nodup) :
    Fills MemberFit.name MemberFit.fit (memberFits members) (ofMembers members values)
      ((memberFits members).map fun _ => none) (values.map some) where
  size := List.length_map _
  targetSize := by rw [List.length_map, fit.size, ← names_memberFits, List.length_map]
  once member inside := by
    rw [fit.names]
    exact List.nodup_iff_count_le_one.mp distinct _
  absent {i member} found missing := by
    rw [fit.names, ← names_memberFits] at missing
    exact absurd (List.mem_map_of_mem (List.mem_of_getElem? found)) missing
  empty {i member} found inside := by
    rw [List.getElem?_map, found]
    rfl
  fitted {i member value} found inside := by
    obtain ⟨j, here⟩ := List.getElem?_of_mem inside
    have name : members.names[j]? = some member.name := by
      rw [← fit.names, List.getElem?_map, here]
      rfl
    have name' : members.names[i]? = some member.name := by
      rw [← names_memberFits, List.getElem?_map, found]
      rfl
    have same : i = j :=
      (List.getElem?_inj (List.getElem?_eq_some_iff.mp name').1 distinct).mp
        (name'.trans name.symm)
    subst same
    obtain ⟨datum, fitted, slot⟩ := fit.fitted found here
    exact ⟨datum, fitted, by rw [List.getElem?_map, slot]; rfl⟩

mutual

theorem fit_ofDatum {shape : Shape} {datum : Datum} (conforms : Conforms shape datum) :
    fitShape shape (ofDatum shape datum) = .ok datum := by
  match shape with
  | .optional inner =>
      rw [ofDatum_optional]
      rcases conforms with rfl | conforms
      · rw [ofDatum]
        rfl
      · exact fitOptional_of_fitShape (fit_ofDatum conforms)
  | .record name members =>
      cases datum with
      | record values =>
          have fit := fit_ofMembers conforms.2
          have distinct : ((memberFits members).map (·.name)).Nodup := by
            rw [names_memberFits]
            exact conforms.1
          rw [ofDatum, fitShape, fitRecord, fitMembers_eq distinct (fit.fills conforms.1), ok_bind,
            completeRecord_some fit.size]
      | _ => exact conforms.elim
  | .choice words =>
      cases datum with
      | choice word =>
          have known : words.contains word = true := List.contains_iff_mem.mpr conforms
          rw [ofDatum, fitShape, fitChoice, fitWord, if_pos known, map_ok]
      | _ => exact conforms.elim
  | .number =>
      cases datum with
      | number x =>
          rw [ofDatum]
          exact fit_number conforms
      | _ => exact conforms.elim
  | .natural width =>
      cases datum with
      | natural n =>
          rw [ofDatum]
          exact fit_natural conforms
      | _ => exact conforms.elim
  | .integer =>
      cases datum with
      | integer i =>
          rw [ofDatum]
          exact fit_integer i
      | _ => exact conforms.elim
  | .date =>
      cases datum with
      | date date =>
          rw [ofDatum]
          exact fit_date date
      | _ => exact conforms.elim
  | .text =>
      cases datum with
      | text value =>
          rw [ofDatum]
          rfl
      | _ => exact conforms.elim
  | .flag =>
      cases datum with
      | flag value =>
          rw [ofDatum]
          rfl
      | _ => exact conforms.elim

theorem fit_ofMembers : ∀ {members : Members} {values : List Datum},
    MembersConform members values → MembersFit members values
  | .nil, [], _ => ⟨rfl, rfl, fun found _ => nomatch found⟩
  | .cons name need shape rest, value :: values, ⟨first, more⟩ => by
      have others := fit_ofMembers more
      refine ⟨congrArg Nat.succ others.size, ?_, ?_⟩
      · rw [ofMembers, List.map_cons, others.names, Members.names]
      · intro i member entry found here
        rw [ofMembers] at here
        cases i with
        | zero =>
            cases found
            cases here
            exact ⟨value, fit_ofDatum first, rfl⟩
        | succ i => exact others.fitted (i := i) found here

end

/-! ## Documents -/

section Documents

variable {α : Type} [Document α] {document : α}

/-- The datum of the document comes back from its text, and the document from
its datum. -/
structure Faithful (document : α) : Prop where
  conforms : Conforms (Document.shape α) (Document.toDatum document)
  rebuilt : Document.ofDatum? (Document.toDatum document) = some document

/-- Every text of a document reads as the document. -/
theorem Faithful.readDocument_eq (faithful : Faithful document) {text : String}
    (isText : IsText (ofDocument document) text) : readDocument α text = .ok document := by
  rw [readDocument, isText.readDatum_eq, ofDocument, fit_ofDatum faithful.conforms, ok_bind,
    faithful.rebuilt]
  rfl

theorem isText_compact_ofDocument (document : α) :
    IsText (ofDocument document) (ofDocument document).compact :=
  isText_compact (wellFormed_ofDatum _ _)

end Documents

end ReservationLoad.Json
