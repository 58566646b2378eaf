import Mathlib.Data.List.Forall2
import ReservationLoad.Proofs.Json.Fit

/-!
# Reading by shape is fitting the value

The reader of a record meets its members one by one in the text; what it gathers
is what `fitMembers` and `fitItems` gather from the value.  From the agreement
for every kind of value follows the one for whole shapes: `readDatum` of any
text of a value is `fitShape` of the value.
-/

namespace ReservationLoad.Json

open Wire

/-! ## Objects -/

/-- A reader of a member with what its value gives. -/
structure MemberAgrees (reader : MemberReader) (member : MemberFit) : Prop where
  name : reader.name = member.name
  defaulted : reader.defaulted = member.defaulted
  reads : Reads reader.read member.fit

theorem readMemberName_next {first : Bool} {text behindComma inside behind : List Char}
    {name : String} (comma : Comma first text behindComma)
    (gap : Gap behindComma ('"' :: inside)) (spelled : Spelled name.toList inside behind) :
    readMemberName first text = .ok (some (name, behind)) := by
  have quote := gap.skipBlank_eq_cons (c := '"') rfl
  cases comma with
  | first =>
      simp only [readMemberName, quote, spelled.readText_eq, ok_bind, String.ofList_toList]
      rfl
  | next gapComma =>
      simp only [readMemberName, gapComma.skipBlank_eq_cons (c := ',') rfl, quote,
        spelled.readText_eq, ok_bind, String.ofList_toList]
      rfl

theorem readMemberName_close {text rest : List Char} (first : Bool)
    (gap : Gap text ('}' :: rest)) : readMemberName first text = .ok none := by
  simp only [readMemberName, gap.skipBlank_eq_cons (c := '}') rfl]

/-- What the entry of a name puts into the slots, and what lies behind its
value. -/
def readEntry (readers : List MemberReader) (slots : Slots) (name : String) (input : List Char) :
    Except Fault (Slots × List Char) :=
  match placeOf? name (readers.map (·.name)) with
  | none => (skip input).map fun rest => (slots, rest)
  | some place =>
    if (slots[place]?.join).isSome then .error (.misfit (.duplicateMember name))
    else
      match readers[place]? with
      | none => .error .malformed
      | some reader =>
        (reader.read input).map fun (value, rest) => (slots.set place (some value), rest)

/-- An entry is read once its name is known. -/
theorem readMembers_entry {readers : List MemberReader} {first : Bool} {fuel : Nat} {slots : Slots}
    {name : String} {input behindName behindColon : List Char}
    (nameRead : readMemberName first input = .ok (some (name, behindName)))
    (gapColon : Gap behindName (':' :: behindColon)) :
    readMembers readers (fuel + 1) first slots input =
      (readEntry readers slots name behindColon >>= fun (slots, rest) =>
        readMembers readers fuel false slots rest) := by
  rw [readMembers, nameRead, readEntry]
  simp only [ok_bind, readColon_eq gapColon]
  cases placeOf? name (readers.map (·.name)) with
  | none => cases skip behindColon <;> rfl
  | some place =>
      simp only
      cases (slots[place]?.join).isSome with
      | true => rfl
      | false =>
          cases readers[place]? with
          | none => rfl
          | some reader =>
              simp only
              cases reader.read behindColon <;> rfl

/-- The end of a list behind the members that were read from it. -/
def closeItems (values : List Datum) (rest : List Char) :
    Except Fault (List Datum × List Char) :=
  match skipBlank rest with
  | ']' :: rest => .ok (values, rest)
  | [] => .error .ended
  | _ => .error .malformed

theorem closeItems_cons (value : Datum) (run : Except Fault (List Datum × List Char)) :
    ((run >>= fun (values, rest) => pure (value :: values, rest)) >>=
        fun (values, rest) => closeItems values rest) =
      (run >>= fun (values, rest) => closeItems values rest).map
        fun (values, rest) => (value :: values, rest) := by
  cases run with
  | error fault => rfl
  | ok found =>
      rcases found with ⟨values, rest⟩
      simp only [ok_bind, pure_bind, closeItems]
      split <;> rfl

theorem closeItems_record (run : Except Fault (List Datum × List Char)) :
    (do
      let (values, rest) ← run
      match skipBlank rest with
      | ']' :: rest => pure (Datum.record values, rest)
      | [] => throw Fault.ended
      | _ => throw .malformed) =
      (run >>= fun (values, rest) => closeItems values rest).map
        fun (values, rest) => (.record values, rest) := by
  cases run with
  | error fault => rfl
  | ok found =>
      rcases found with ⟨values, rest⟩
      simp only [ok_bind, closeItems]
      split <;> rfl

theorem readItemStart_close {text rest : List Char} (first : Bool) (gap : Gap text (']' :: rest)) :
    readItemStart first text = .ok none := by
  simp only [readItemStart, gap.skipBlank_eq_cons (c := ']') rfl]

theorem readItemStart_next {first : Bool} {text behindComma start rest : List Char}
    (comma : Comma first text behindComma) (gap : Gap behindComma start)
    (item : Passable start rest) : readItemStart first text = .ok (some start) := by
  have nonempty := item.ne_nil
  have another := item.head_ne (c := ']') rfl
  have noComma := item.head_ne (c := ',') rfl
  cases comma with
  | first =>
      simp only [readItemStart, item.skipBlank_eq gap]
      rfl
  | next gapComma =>
      simp only [readItemStart, gapComma.skipBlank_eq_cons (c := ',') rfl, item.skipBlank_eq gap]
      rfl

section Records

variable {readers : List MemberReader} {fits : List MemberFit}
  (agree : List.Forall₂ MemberAgrees readers fits)

include agree

theorem names_eq_of_agree : readers.map (·.name) = fits.map (·.name) := by
  induction agree with
  | nil => rfl
  | cons first _ ih => rw [List.map_cons, List.map_cons, first.name, ih]

theorem getElem?_of_agree (place : Nat) :
    (readers[place]? = none ∧ fits[place]? = none) ∨
      ∃ reader member, readers[place]? = some reader ∧ fits[place]? = some member ∧
        MemberAgrees reader member := by
  induction agree generalizing place with
  | nil => exact .inl ⟨rfl, rfl⟩
  | @cons reader member _ _ first _ ih =>
      cases place with
      | zero => exact .inr ⟨reader, member, rfl, rfl, first⟩
      | succ place => exact ih place

/-- The entry of a member is read as its value fits. -/
theorem readEntry_eq {slots : Slots} {name : String} {value : Value}
    {behindColon start behind : List Char} (gapValue : Gap behindColon start)
    (written : Written value start behind) :
    readEntry readers slots name behindColon =
      (fitMember fits slots name value).map (·, behind) := by
  rw [readEntry, fitMember, names_eq_of_agree agree]
  cases placeOf? name (fits.map (·.name)) with
  | none =>
      simp only [written.skip_eq gapValue]
      rfl
  | some place =>
      simp only
      cases (slots[place]?.join).isSome with
      | true => rfl
      | false =>
          rcases getElem?_of_agree agree place with
            ⟨noReader, noMember⟩ | ⟨reader, member, hereReader, hereMember, agrees⟩
          · rw [noReader, noMember]
            rfl
          · rw [hereReader, hereMember]
            simp only [agrees.reads gapValue written]
            cases member.fit value <;> rfl

/-- A member is read once its name is known. -/
theorem readMembers_succ {first : Bool} {fuel : Nat} {slots : Slots} {name : String}
    {value : Value} {input behindName behindColon start behind : List Char}
    (nameRead : readMemberName first input = .ok (some (name, behindName)))
    (gapColon : Gap behindName (':' :: behindColon)) (gapValue : Gap behindColon start)
    (written : Written value start behind) :
    readMembers readers (fuel + 1) first slots input =
      (fitMember fits slots name value >>= fun slots =>
        readMembers readers fuel false slots behind) := by
  rw [readMembers_entry nameRead gapColon, readEntry_eq agree gapValue written]
  cases fitMember fits slots name value <;> rfl

/-- The members behind a member are read up to the closing brace. -/
theorem readMembers_eq {members : List (String × Value)} {text rest : List Char}
    (more : MembersBehind members text rest) {fuel : Nat} (enough : members.length < fuel)
    (slots : Slots) :
    readMembers readers fuel false slots text =
      (fitMembers fits slots members).map (·, '}' :: rest) := by
  induction members generalizing slots text fuel with
  | nil =>
      cases more with
      | close gap =>
          obtain ⟨fuel, rfl⟩ : ∃ less, fuel = less + 1 := ⟨fuel - 1, by omega⟩
          rw [readMembers, readMemberName_close false gap]
          simp only [ok_bind, gap.skipBlank_eq_cons (c := '}') rfl]
          rfl
  | cons member members ih =>
      cases more with
      | next gapComma member more =>
          rcases member with ⟨gapName, spelled, gapColon, gapValue, written⟩
          obtain ⟨fuel, rfl⟩ : ∃ less, fuel = less + 1 := ⟨fuel - 1, by omega⟩
          rw [readMembers_succ agree (readMemberName_next (.next gapComma) gapName spelled) gapColon
            gapValue written, fitMembers]
          cases fitMember fits slots _ _ with
          | error fault => rfl
          | ok slots => exact ih more (Nat.lt_of_succ_lt_succ enough) slots

theorem readMembers_object {values : List (String × Value)} {inside rest : List Char}
    (written : Written (.object values) ('{' :: inside) rest) (slots : Slots) :
    readMembers readers (inside.length + 1) true slots inside =
      (fitMembers fits slots values).map (·, '}' :: rest) := by
  cases written with
  | emptyObject gap =>
      rw [readMembers, readMemberName_close true gap]
      simp only [ok_bind, gap.skipBlank_eq_cons (c := '}') rfl]
      rfl
  | object member more =>
      have shorter := member.length_lt
      have enough := more.length_members_lt
      rcases member with ⟨gapName, spelled, gapColon, gapValue, written⟩
      rw [readMembers_succ agree (readMemberName_next .first gapName spelled) gapColon gapValue
        written, fitMembers]
      cases fitMember fits slots _ _ with
      | error fault => rfl
      | ok slots => exact readMembers_eq agree more (by omega) slots

/-! ## Lists -/

/-- Behind its first item a list is read as a record up to its end. -/
theorem readItems_behind (record : String) (size : Nat) {place : Nat} (later : place ≠ 0)
    {items : List Value} {text rest : List Char} (more : ItemsBehind items text rest) :
    (readItems record size readers place text >>= fun (values, rest) => closeItems values rest) =
      (fitItems record size fits place items).map (·, rest) := by
  induction agree generalizing place items text with
  | nil =>
      cases more with
      | close gap => 
          simp only [readItems, ok_bind, closeItems, gap.skipBlank_eq_cons (c := ']') rfl]
          rfl
      | next gapComma =>
          simp only [readItems, ok_bind, closeItems, gapComma.skipBlank_eq_cons (c := ',') rfl]
          rfl
  | @cons reader member readers fits agrees _ ih =>
      have notFirst : (place == 0) = false := beq_eq_false_iff_ne.mpr later
      cases more with
      | close gap =>
          rw [readItems, notFirst, readItemStart_close false gap, fitItems, ← agrees.defaulted]
          simp only [ok_bind]
          cases reader.defaulted with
          | false => rfl
          | true =>
              rw [if_pos rfl, if_pos rfl, closeItems_cons, ih (Nat.succ_ne_zero _) (.close gap)]
              cases fitItems record size fits (place + 1) [] <;> rfl
      | @next item items _ _ start behind _ gapComma gap written more =>
          rw [readItems, notFirst, readItemStart_next (.next gapComma) gap written.passable,
            fitItems]
          simp only [ok_bind, agrees.reads .none written]
          cases member.fit item with
          | error fault => rfl
          | ok value =>
              simp only [map_ok, ok_bind]
              rw [closeItems_cons, ih (Nat.succ_ne_zero _) more]
              cases fitItems record size fits (place + 1) items <;> rfl

theorem readItems_list (record : String) (size : Nat) {items : List Value}
    {inside rest : List Char} (written : Written (.list items) ('[' :: inside) rest) :
    (readItems record size readers 0 inside >>= fun (values, rest) => closeItems values rest) =
      (fitItems record size fits 0 items).map (·, rest) := by
  cases agree with
  | nil =>
      cases written with
      | emptyList gap =>
          simp only [readItems, ok_bind, closeItems, gap.skipBlank_eq_cons (c := ']') rfl]
          rfl
      | list gap item =>
          have nonempty := item.ne_nil
          have another := item.head_ne (c := ']') rfl
          simp only [readItems, ok_bind, closeItems, item.skipBlank_eq gap]
          rfl
  | @cons reader member readers fits agrees agree =>
      cases written with
      | emptyList gap =>
          rw [readItems, readItemStart_close _ gap, fitItems, ← agrees.defaulted]
          simp only [ok_bind]
          cases reader.defaulted with
          | false => rfl
          | true =>
              rw [if_pos rfl, if_pos rfl, closeItems_cons,
                readItems_behind agree record size (Nat.succ_ne_zero _) (.close gap)]
              cases fitItems record size fits 1 [] <;> rfl
      | @list item items _ _ _ _ gap written more =>
          rw [readItems, beq_self_eq_true, readItemStart_next .first gap written.passable, fitItems]
          simp only [ok_bind, agrees.reads .none written]
          cases member.fit item with
          | error fault => rfl
          | ok value =>
              simp only [map_ok, ok_bind]
              rw [closeItems_cons,
                readItems_behind agree record size (Nat.succ_ne_zero _) more]
              cases fitItems record size fits 1 items <;> rfl

/-! ## Shapes -/

/-- A record is read from an object or from a list. -/
theorem reads_record (record : String) (members : Members) :
    Reads (readRecord record members readers) (fitRecord record members fits) := by
  intro value input text rest gap written
  have front := written.skipBlank_eq gap
  have refused := error_unwanted_eq Datum ("struct " ++ record) rest written
  have size := agree.length_eq
  rw [readRecord, front]
  cases value with
  | object values =>
      obtain ⟨inside, rfl⟩ : ∃ inside, text = '{' :: inside := by
        cases written <;> exact ⟨_, rfl⟩
      have unfilled : readers.map (fun _ => (none : Option Datum)) = fits.map fun _ => none := by
        rw [List.map_const', List.map_const', size]
      simp only [readMembers_object agree written, unfilled, fitRecord]
      cases fitMembers fits (fits.map fun _ => none) values with
      | error fault => rfl
      | ok slots =>
          simp only [map_ok, ok_bind]
          cases completeRecord members slots <;> rfl
  | list items =>
      obtain ⟨inside, rfl⟩ : ∃ inside, text = '[' :: inside := by
        cases written <;> exact ⟨_, rfl⟩
      have closed := closeItems_record (readItems record fits.length readers 0 inside)
      rw [readItems_list agree record fits.length written] at closed
      simp only [fitRecord, size]
      refine closed.trans ?_
      cases fitItems record fits.length fits 0 items <;> rfl
  | number token =>
      rcases written with _ | _ | _ | ⟨isNumeral, -⟩
      have noObject := isNumeral.head_ne (c := '{') (by decide) rfl rest
      have noList := isNumeral.head_ne (c := '[') (by decide) rfl rest
      simp only
      exact refused
  | _ =>
      cases written
      all_goals exact refused

end Records

theorem reads_text (wanted : String) :
    Reads (fun input => (readString wanted input).map fun (text, rest) => (Datum.text text, rest))
      (fun value => (fitString wanted value).map .text) := by
  intro value input text rest gap written
  simp only [reads_string wanted gap written]
  cases fitString wanted value <;> rfl

mutual

theorem reads_shape : ∀ shape : Shape, Reads (readShape shape) (fitShape shape)
  | .text => reads_text _
  | .number => reads_numeric _ _
  | .natural _ => reads_numeric _ _
  | .integer => reads_numeric _ _
  | .flag => reads_flag _
  | .date => reads_date _
  | .choice words => reads_choice words _
  | .optional inner => reads_optional (reads_shape inner)
  | .record name members => reads_record (agree_members members) name members

theorem agree_members :
    ∀ members : Members, List.Forall₂ MemberAgrees (memberReaders members) (memberFits members)
  | .nil => .nil
  | .cons _ _ shape rest => .cons ⟨rfl, rfl, reads_shape shape⟩ (agree_members rest)

end

/-- A text reads as its value fits: nothing but the value counts. -/
theorem IsText.readDatum_eq {value : Value} {text : String} (isText : IsText value text)
    (shape : Shape) : readDatum shape text = fitShape shape value := by
  rcases isText with ⟨front, written, back⟩
  rw [readDatum, reads_shape shape front written]
  cases fitShape shape value with
  | error fault => rfl
  | ok datum =>
      simp only [map_ok, ok_bind, back.skipBlank_eq]
      rfl

end ReservationLoad.Json
