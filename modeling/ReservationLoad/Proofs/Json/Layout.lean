import ReservationLoad.Proofs.Json.Fraction
import ReservationLoad.Proofs.Json.Text

/-!
# Both layouts are texts of the value

The compact and the pretty layout differ in their white space only: each is a
text of the value in the sense of the grammar, as long as the tokens of its
numbers are numerals.  The value of a document has no other tokens.
-/

namespace ReservationLoad.Json

namespace Value

mutual

/-- Every number of the value has a numeral for its token. -/
def WellFormed : Value → Prop
  | .number token => IsNumeral token.toList
  | .list items => ItemsWellFormed items
  | .object members => MembersWellFormed members
  | .null | .flag _ | .text _ => True

def ItemsWellFormed : List Value → Prop
  | [] => True
  | item :: more => item.WellFormed ∧ ItemsWellFormed more

def MembersWellFormed : List (String × Value) → Prop
  | [] => True
  | (_, value) :: more => value.WellFormed ∧ MembersWellFormed more

end

end Value

/-! ## White space between the tokens -/

theorem gap_of_blanks {blanks : List Char} (all : ∀ c ∈ blanks, isBlank c = true)
    (rest : List Char) : Gap (blanks ++ rest) rest := by
  induction blanks with
  | nil => exact .none
  | cons c blanks ih =>
      exact .blank (all c List.mem_cons_self) (ih fun d member => all d (List.mem_cons_of_mem c member))

theorem Gap.trans {text middle rest : List Char} (first : Gap text middle)
    (second : Gap middle rest) : Gap text rest := by
  induction first with
  | none => exact second
  | blank isBlank _ ih => exact .blank isBlank (ih second)

theorem gap_lineBreak (level : Nat) (rest : List Char) :
    Gap (Value.lineBreak level ++ rest) rest := by
  apply gap_of_blanks
  intro c member
  rcases List.mem_cons.mp member with rfl | blank
  · rfl
  · rw [List.eq_of_mem_replicate blank]
    rfl

theorem written_quote (text : String) (rest : List Char) :
    Written (.text text) (quote text ++ rest) rest := by
  rw [quote, List.cons_append, List.append_assoc]
  exact .text (spelled_quote text.toList rest)

theorem spelled_of_quote (name : String) (rest : List Char) :
    ∃ inside, quote name ++ rest = '"' :: inside ∧ Spelled name.toList inside rest := by
  refine ⟨name.toList.flatMap escapedChar ++ '"' :: rest, ?_, spelled_quote name.toList rest⟩
  rw [quote, List.cons_append, List.append_assoc]
  rfl

/-- A member with its value behind the colon, and white space as it pleases. -/
theorem member_of_quote {name : String} {value : Value} {text behindColon start rest : List Char}
    (gapName : Gap text (quote name ++ ':' :: behindColon)) (gapValue : Gap behindColon start)
    (written : Written value start rest) : Member name value text rest := by
  rcases spelled_of_quote name (':' :: behindColon) with ⟨inside, front, spelled⟩
  rw [front] at gapName
  exact .mk gapName spelled .none gapValue written

/-! ## Items and members up to the closing bracket -/

theorem WrittenItems.gap : ∀ {items : List Value} {text inside rest : List Char},
    WrittenItems items inside rest → Gap text inside → WrittenItems items text rest
  | [], _, _, _, close, gap => gap.trans close
  | _ :: _, _, _, _, ⟨start, behind, front, first, more⟩, gap =>
      ⟨start, behind, gap.trans front, first, more⟩

theorem WrittenMembers.gap : ∀ {members : List (String × Value)} {text inside rest : List Char},
    WrittenMembers members inside rest → Gap text inside → WrittenMembers members text rest
  | [], _, _, _, close, gap => gap.trans close
  | (_, _) :: _, _, _, _, ⟨behind, .mk front spelled colon space written, more⟩, gap =>
      ⟨behind, .mk (gap.trans front) spelled colon space written, more⟩

theorem WrittenItems.behind {item : Value} {items : List Value} {text rest : List Char}
    (written : WrittenItems (item :: items) text rest) :
    ItemsBehind (item :: items) (',' :: text) rest := by
  rcases written with ⟨start, behind, gap, first, more⟩
  exact .next .none gap first more

theorem WrittenMembers.behind {member : String × Value} {members : List (String × Value)}
    {text rest : List Char} (written : WrittenMembers (member :: members) text rest) :
    MembersBehind (member :: members) (',' :: text) rest := by
  rcases written with ⟨behind, first, more⟩
  exact .next .none first more

/-! ## The compact layout -/

open Value

mutual

theorem written_compactChars : ∀ {value : Value}, value.WellFormed → ∀ {rest : List Char},
    EndsNumeral rest → Written value (value.compactChars ++ rest) rest
  | .null, _, _, _ => .null
  | .flag true, _, _, _ => .yes
  | .flag false, _, _, _ => .no
  | .number _, isNumeral, _, ends => .number isNumeral ends
  | .text value, _, rest, _ => written_quote value rest
  | .list items, wellFormed, rest, _ => by
      rw [compactChars, List.cons_append, List.append_assoc]
      exact (writtenItems_compact wellFormed .none).written
  | .object members, wellFormed, rest, _ => by
      rw [compactChars, List.cons_append, List.append_assoc]
      exact (writtenMembers_compact wellFormed .none).written

theorem writtenItems_compact : ∀ {items : List Value}, ItemsWellFormed items →
    ∀ {tail rest : List Char}, Gap tail (']' :: rest) →
      WrittenItems items (compactItems items ++ tail) rest
  | [], _, _, _, gap => gap
  | [_], wellFormed, tail, rest, gap =>
      ⟨_, tail, .none,
        written_compactChars wellFormed.1 (gap.endsNumeral (endsNumeral_cons rfl rest)),
        .close gap⟩
  | item :: next :: more, wellFormed, tail, rest, gap => by
      have others := writtenItems_compact wellFormed.2 gap
      refine ⟨_, ',' :: (compactItems (next :: more) ++ tail), .none, ?_, others.behind⟩
      rw [compactItems, List.append_assoc]
      · exact written_compactChars wellFormed.1 (endsNumeral_cons rfl _)
      · simp

theorem writtenMembers_compact : ∀ {members : List (String × Value)},
    MembersWellFormed members → ∀ {tail rest : List Char}, Gap tail ('}' :: rest) →
      WrittenMembers members (compactMembers members ++ tail) rest
  | [], _, _, _, gap => gap
  | [(name, value)], wellFormed, tail, rest, gap => by
      refine ⟨tail, ?_, .close gap⟩
      rw [compactMembers, List.append_assoc, List.cons_append]
      exact member_of_quote .none .none
        (written_compactChars wellFormed.1 (gap.endsNumeral (endsNumeral_cons rfl rest)))
  | (name, value) :: next :: more, wellFormed, tail, rest, gap => by
      have others := writtenMembers_compact wellFormed.2 gap
      refine ⟨',' :: (compactMembers (next :: more) ++ tail), ?_, others.behind⟩
      rw [compactMembers, List.append_assoc, List.cons_append, List.append_assoc]
      · exact member_of_quote .none .none
          (written_compactChars wellFormed.1 (endsNumeral_cons rfl _))
      · simp

end

/-! ## The pretty layout -/

mutual

theorem written_prettyChars : ∀ {value : Value}, value.WellFormed → ∀ {level : Nat}
    {rest : List Char}, EndsNumeral rest → Written value (value.prettyChars level ++ rest) rest
  | .null, _, _, _, _ => .null
  | .flag true, _, _, _, _ => .yes
  | .flag false, _, _, _, _ => .no
  | .number _, isNumeral, _, _, ends => .number isNumeral ends
  | .text value, _, _, rest, _ => written_quote value rest
  | .list [], _, _, _, _ => .emptyList .none
  | .object [], _, _, _, _ => .emptyObject .none
  | .list (item :: more), wellFormed, level, rest, _ => by
      have inside := writtenItems_pretty wellFormed (level + 1) (gap_lineBreak level (']' :: rest))
      have laid : (Value.list (item :: more)).prettyChars level ++ rest =
          '[' :: (lineBreak (level + 1) ++ (prettyItems (level + 1) (item :: more) ++
            (lineBreak level ++ ']' :: rest))) := by
        simp only [prettyChars, List.cons_append, List.append_assoc, List.nil_append]
      rw [laid]
      exact (inside.gap (gap_lineBreak _ _)).written
  | .object (member :: more), wellFormed, level, rest, _ => by
      have inside := writtenMembers_pretty wellFormed (level + 1) (gap_lineBreak level ('}' :: rest))
      have laid : (Value.object (member :: more)).prettyChars level ++ rest =
          '{' :: (lineBreak (level + 1) ++ (prettyMembers (level + 1) (member :: more) ++
            (lineBreak level ++ '}' :: rest))) := by
        simp only [prettyChars, List.cons_append, List.append_assoc, List.nil_append]
      rw [laid]
      exact (inside.gap (gap_lineBreak _ _)).written

theorem writtenItems_pretty : ∀ {items : List Value}, ItemsWellFormed items →
    ∀ (level : Nat) {tail rest : List Char}, Gap tail (']' :: rest) →
      WrittenItems items (prettyItems level items ++ tail) rest
  | [], _, _, _, _, gap => gap
  | [_], wellFormed, level, tail, rest, gap =>
      ⟨_, tail, .none,
        written_prettyChars wellFormed.1 (gap.endsNumeral (endsNumeral_cons rfl rest)),
        .close gap⟩
  | item :: next :: more, wellFormed, level, tail, rest, gap => by
      have others := writtenItems_pretty wellFormed.2 level gap
      refine ⟨_, ',' :: (lineBreak level ++ (prettyItems level (next :: more) ++ tail)), .none, ?_,
        (others.gap (gap_lineBreak level _)).behind⟩
      rw [prettyItems, List.append_assoc, List.cons_append, List.append_assoc]
      · exact written_prettyChars wellFormed.1 (endsNumeral_cons rfl _)
      · simp

theorem writtenMembers_pretty : ∀ {members : List (String × Value)},
    MembersWellFormed members → ∀ (level : Nat) {tail rest : List Char}, Gap tail ('}' :: rest) →
      WrittenMembers members (prettyMembers level members ++ tail) rest
  | [], _, _, _, _, gap => gap
  | [(name, value)], wellFormed, level, tail, rest, gap => by
      refine ⟨tail, ?_, .close gap⟩
      rw [prettyMembers, List.append_assoc, List.cons_append, List.cons_append]
      exact member_of_quote .none (.blank rfl .none)
        (written_prettyChars wellFormed.1 (gap.endsNumeral (endsNumeral_cons rfl rest)))
  | (name, value) :: next :: more, wellFormed, level, tail, rest, gap => by
      have others := writtenMembers_pretty wellFormed.2 level gap
      refine ⟨',' :: (lineBreak level ++ (prettyMembers level (next :: more) ++ tail)), ?_,
        (others.gap (gap_lineBreak level _)).behind⟩
      rw [prettyMembers, List.append_assoc, List.cons_append, List.cons_append, List.append_assoc,
        List.cons_append, List.append_assoc]
      · exact member_of_quote .none (.blank rfl .none)
          (written_prettyChars wellFormed.1 (endsNumeral_cons rfl _))
      · simp

end

theorem isText_compact {value : Value} (wellFormed : value.WellFormed) :
    IsText value value.compact := by
  refine .mk .none ?_ .none
  rw [compact, String.toList_ofList, ← List.append_nil value.compactChars]
  exact written_compactChars wellFormed endsNumeral_nil

theorem isText_pretty {value : Value} (wellFormed : value.WellFormed) :
    IsText value value.pretty := by
  refine .mk .none ?_ .none
  rw [pretty, String.toList_ofList, ← List.append_nil (value.prettyChars 0)]
  exact written_prettyChars wellFormed endsNumeral_nil

/-! ## The values of documents -/

theorem wellFormed_ofBinary64 (x : Binary64) : (ofBinary64 x).WellFormed := by
  unfold ofBinary64
  split
  · exact isNumeral_tokenText x
  · exact trivial

theorem isNumeral_natural (n : Nat) : IsNumeral (toString n).toList := by
  rw [Decimal.toList_toString]
  exact .positive (isUnsigned_ofNat n)

theorem isNumeral_integer (i : Int) : IsNumeral (toString i).toList := by
  rw [Decimal.toList_toString_int]
  split
  · exact .negative (isUnsigned_ofNat _)
  · exact .positive (isUnsigned_ofNat _)

mutual

theorem wellFormed_ofDatum (shape : Wire.Shape) (datum : Wire.Datum) :
    (ofDatum shape datum).WellFormed := by
  cases datum with
  | number value => 
      rw [ofDatum]
      exact wellFormed_ofBinary64 value
  | natural value => 
      rw [ofDatum]
      exact isNumeral_natural _
  | integer value => 
      rw [ofDatum]
      exact isNumeral_integer _
  | record values =>
      cases shape with
      | record name members => 
          rw [ofDatum]
          exact wellFormed_ofMembers members values
      | optional inner => 
          rw [ofDatum]
          exact wellFormed_ofDatum inner (.record values)
      | _ => 
          rw [ofDatum]
          all_goals simp [WellFormed, MembersWellFormed]
  | _ => 
    rw [ofDatum]
    exact trivial

theorem wellFormed_ofMembers (members : Wire.Members) (values : List Wire.Datum) :
    MembersWellFormed (ofMembers members values) := by
  cases members with
  | nil => 
      rw [ofMembers]
      exact trivial
      simp
  | cons name need shape rest =>
      cases values with
      | nil => 
          rw [ofMembers]
          exact trivial
          simp
      | cons value values =>
          rw [ofMembers]
          exact ⟨wellFormed_ofDatum shape value, wellFormed_ofMembers rest values⟩

end

end ReservationLoad.Json
