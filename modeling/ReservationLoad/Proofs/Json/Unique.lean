import ReservationLoad.Proofs.Json.Skip

/-!
# A text has one value

No text stands for two values, and a value ends in one place only: white space,
strings and numbers each go on as far as they can, and the first character of a
value tells its kind.
-/

namespace ReservationLoad.Json

theorem Gap.unique {text rest rest' : List Char} {c d : Char} (gap : Gap text (c :: rest))
    (gap' : Gap text (d :: rest')) (visible : isBlank c = false) (visible' : isBlank d = false) :
    c = d ∧ rest = rest' := by
  have same := (gap.skipBlank_eq_cons visible).symm.trans (gap'.skipBlank_eq_cons visible')
  exact List.cons.inj same

theorem Spelled.unique {chars chars' text rest rest' : List Char} (spelled : Spelled chars text rest)
    (spelled' : Spelled chars' text rest') : chars = chars' ∧ rest = rest' := by
  have same := spelled.readText_eq.symm.trans spelled'.readText_eq
  cases same
  exact ⟨rfl, rfl⟩

theorem IsNumeral.unique {token token' rest rest' : List Char} (numeral : IsNumeral token)
    (numeral' : IsNumeral token') (ends : EndsNumeral rest) (ends' : EndsNumeral rest')
    (same : token ++ rest = token' ++ rest') : token = token' ∧ rest = rest' := by
  -- Both are passed over, with one result.
  have passed : skip (token ++ rest) = .ok rest := by
    rw [← @String.toList_ofList token] at numeral
    have written := Written.number numeral ends
    rw [String.toList_ofList] at written
    exact written.skip_eq .none
  have passed' : skip (token' ++ rest') = .ok rest' := by
    rw [← @String.toList_ofList token'] at numeral'
    have written := Written.number numeral' ends'
    rw [String.toList_ofList] at written
    exact written.skip_eq .none
  rw [same] at passed
  cases passed.symm.trans passed'
  exact ⟨List.append_cancel_right same, rfl⟩

/-! ## The first character tells the kind -/

section Kinds

variable {value : Value} {text rest more : List Char}

theorem Written.value_of_null (written : Written value text rest) (front : text = 'n' :: more) :
    value = .null ∧ more = 'u' :: 'l' :: 'l' :: rest := by
  cases written with
  | null =>
      cases front
      exact ⟨rfl, rfl⟩
  | number isNumeral => exact absurd front (isNumeral.head_ne (by decide) rfl rest more)
  | _ => cases front

theorem Written.value_of_true (written : Written value text rest) (front : text = 't' :: more) :
    value = .flag true ∧ more = 'r' :: 'u' :: 'e' :: rest := by
  cases written with
  | yes =>
      cases front
      exact ⟨rfl, rfl⟩
  | number isNumeral => exact absurd front (isNumeral.head_ne (by decide) rfl rest more)
  | _ => cases front

theorem Written.value_of_false (written : Written value text rest) (front : text = 'f' :: more) :
    value = .flag false ∧ more = 'a' :: 'l' :: 's' :: 'e' :: rest := by
  cases written with
  | no =>
      cases front
      exact ⟨rfl, rfl⟩
  | number isNumeral => exact absurd front (isNumeral.head_ne (by decide) rfl rest more)
  | _ => cases front

theorem Written.value_of_quote (written : Written value text rest) (front : text = '"' :: more) :
    ∃ chars, value = .text chars ∧ Spelled chars.toList more rest := by
  cases written with
  | text spelled =>
      cases front
      exact ⟨_, rfl, spelled⟩
  | number isNumeral => exact absurd front (isNumeral.head_ne (by decide) rfl rest more)
  | _ => cases front

theorem Written.value_of_bracket (written : Written value text rest) (front : text = '[' :: more) :
    ∃ items, value = .list items ∧ WrittenItems items more rest := by
  cases written with
  | emptyList gap =>
      cases front
      exact ⟨[], rfl, gap⟩
  | list gap first others =>
      cases front
      exact ⟨_, rfl, _, _, gap, first, others⟩
  | number isNumeral => exact absurd front (isNumeral.head_ne (by decide) rfl rest more)
  | _ => cases front

theorem Written.value_of_brace (written : Written value text rest) (front : text = '{' :: more) :
    ∃ members, value = .object members ∧ WrittenMembers members more rest := by
  cases written with
  | emptyObject gap =>
      cases front
      exact ⟨[], rfl, gap⟩
  | object first others =>
      cases front
      exact ⟨_, rfl, _, first, others⟩
  | number isNumeral => exact absurd front (isNumeral.head_ne (by decide) rfl rest more)
  | _ => cases front

theorem Written.value_of_numeral (written : Written value text rest) {token tail : List Char}
    (isNumeral : IsNumeral token) (front : text = token ++ tail) :
    ∃ token', value = .number token' ∧ IsNumeral token'.toList ∧ EndsNumeral rest ∧
      text = token'.toList ++ rest := by
  cases written with
  | number isNumeral' ends => exact ⟨_, rfl, isNumeral', ends, rfl⟩
  | _ => exact absurd front.symm (isNumeral.head_ne (by decide) rfl tail _)

end Kinds

/-! ## Values -/

theorem Written.start_unique {value : Value} {input text rest more : List Char} {c : Char}
    (written : Written value text rest) (gap : Gap input text) (gap' : Gap input (c :: more))
    (visible : isBlank c = false) : text = c :: more :=
  (written.skipBlank_eq gap).symm.trans (gap'.skipBlank_eq_cons visible)

/-- The text begins with this value and with no other. -/
def Alone (value : Value) (text rest : List Char) : Prop :=
  ∀ {value' : Value} {rest' : List Char}, Written value' text rest' → value = value' ∧ rest = rest'

def MemberAlone (name : String) (value : Value) (text rest : List Char) : Prop :=
  ∀ {name' : String} {value' : Value} {rest' : List Char}, Member name' value' text rest' →
    (name, value) = (name', value') ∧ rest = rest'

def ItemsAlone (items : List Value) (text rest : List Char) : Prop :=
  ∀ {items' : List Value} {rest' : List Char}, ItemsBehind items' text rest' →
    items = items' ∧ rest = rest'

def MembersAlone (members : List (String × Value)) (text rest : List Char) : Prop :=
  ∀ {members' : List (String × Value)} {rest' : List Char}, MembersBehind members' text rest' →
    members = members' ∧ rest = rest'

section Constructors

variable {inside start behind rest : List Char}

theorem alone_null : Alone .null ('n' :: 'u' :: 'l' :: 'l' :: rest) rest := by
  intro value' rest' other
  rcases other.value_of_null rfl with ⟨rfl, same⟩
  cases same
  exact ⟨rfl, rfl⟩

theorem alone_yes : Alone (.flag true) ('t' :: 'r' :: 'u' :: 'e' :: rest) rest := by
  intro value' rest' other
  rcases other.value_of_true rfl with ⟨rfl, same⟩
  cases same
  exact ⟨rfl, rfl⟩

theorem alone_no : Alone (.flag false) ('f' :: 'a' :: 'l' :: 's' :: 'e' :: rest) rest := by
  intro value' rest' other
  rcases other.value_of_false rfl with ⟨rfl, same⟩
  cases same
  exact ⟨rfl, rfl⟩

theorem alone_text {text : String} (spelled : Spelled text.toList inside rest) :
    Alone (.text text) ('"' :: inside) rest := by
  intro value' rest' other
  rcases other.value_of_quote rfl with ⟨chars, rfl, spelled'⟩
  rcases spelled.unique spelled' with ⟨same, rfl⟩
  rw [String.toList_inj.mp same]
  exact ⟨rfl, rfl⟩

theorem alone_number {token : String} (isNumeral : IsNumeral token.toList)
    (ends : EndsNumeral rest) : Alone (.number token) (token.toList ++ rest) rest := by
  intro value' rest' other
  rcases other.value_of_numeral isNumeral rfl with ⟨token', rfl, isNumeral', ends', same⟩
  rcases isNumeral.unique isNumeral' ends ends' same with ⟨sameToken, rfl⟩
  rw [String.toList_inj.mp sameToken]
  exact ⟨rfl, rfl⟩

theorem alone_emptyList (gap : Gap inside (']' :: rest)) : Alone (.list []) ('[' :: inside) rest := by
  intro value' rest' other
  rcases other.value_of_bracket rfl with ⟨items, rfl, within⟩
  cases items with
  | nil =>
      rcases gap.unique within rfl rfl with ⟨-, rfl⟩
      exact ⟨rfl, rfl⟩
  | cons item items =>
      rcases within with ⟨start, behind, gap', item', more'⟩
      exact absurd (item'.start_unique gap' gap rfl) (item'.head_ne rfl rest)

theorem alone_list {item : Value} {items : List Value} (gap : Gap inside start)
    (item' : Written item start behind) (first : Alone item start behind)
    (more : ItemsAlone items behind rest) : Alone (.list (item :: items)) ('[' :: inside) rest := by
  intro value' rest' other
  rcases other.value_of_bracket rfl with ⟨others, rfl, within⟩
  cases others with
  | nil => exact absurd (item'.start_unique gap within rfl) (item'.head_ne rfl rest')
  | cons other others =>
      rcases within with ⟨start', behind', gap', written', more'⟩
      cases (item'.skipBlank_eq gap).symm.trans (written'.skipBlank_eq gap')
      rcases first written' with ⟨rfl, rfl⟩
      rcases more more' with ⟨rfl, rfl⟩
      exact ⟨rfl, rfl⟩

theorem alone_emptyObject (gap : Gap inside ('}' :: rest)) :
    Alone (.object []) ('{' :: inside) rest := by
  intro value' rest' other
  rcases other.value_of_brace rfl with ⟨members, rfl, within⟩
  cases members with
  | nil =>
      rcases gap.unique within rfl rfl with ⟨-, rfl⟩
      exact ⟨rfl, rfl⟩
  | cons member members =>
      rcases within with ⟨behind, ⟨gapName⟩, more'⟩
      cases (gap.unique gapName rfl rfl).1

theorem alone_object {name : String} {value : Value} {members : List (String × Value)}
    (member : Member name value inside behind) (first : MemberAlone name value inside behind)
    (more : MembersAlone members behind rest) :
    Alone (.object ((name, value) :: members)) ('{' :: inside) rest := by
  intro value' rest' other
  rcases other.value_of_brace rfl with ⟨others, rfl, within⟩
  cases others with
  | nil =>
      rcases member with ⟨gapName⟩
      cases (gapName.unique within rfl rfl).1
  | cons other others =>
      rcases within with ⟨behind', written', more'⟩
      rcases first written' with ⟨same, rfl⟩
      rcases more more' with ⟨rfl, rfl⟩
      rw [same]
      exact ⟨rfl, rfl⟩

theorem memberAlone_mk {name : String} {value : Value} {text behindName behindColon : List Char}
    (gapName : Gap text ('"' :: inside)) (spelled : Spelled name.toList inside behindName)
    (gapColon : Gap behindName (':' :: behindColon)) (gapValue : Gap behindColon start)
    (written : Written value start rest) (only : Alone value start rest) :
    MemberAlone name value text rest := by
  intro name' value' rest' other
  rcases other with ⟨gapName', spelled', gapColon', gapValue', written'⟩
  rcases gapName.unique gapName' rfl rfl with ⟨-, rfl⟩
  rcases spelled.unique spelled' with ⟨same, rfl⟩
  rcases gapColon.unique gapColon' rfl rfl with ⟨-, rfl⟩
  cases (written.skipBlank_eq gapValue).symm.trans (written'.skipBlank_eq gapValue')
  rcases only written' with ⟨rfl, rfl⟩
  rw [String.toList_inj.mp same]
  exact ⟨rfl, rfl⟩

theorem itemsAlone_close {text : List Char} (gap : Gap text (']' :: rest)) :
    ItemsAlone [] text rest := by
  intro items' rest' other
  cases other with
  | close gap' => exact ⟨rfl, (gap.unique gap' rfl rfl).2⟩
  | next gap' => cases (gap.unique gap' rfl rfl).1

theorem itemsAlone_next {item : Value} {items : List Value} {text behindComma : List Char}
    (gapComma : Gap text (',' :: behindComma)) (gap : Gap behindComma start)
    (item' : Written item start behind) (first : Alone item start behind)
    (more : ItemsAlone items behind rest) : ItemsAlone (item :: items) text rest := by
  intro items' rest' other
  cases other with
  | close gap' => cases (gapComma.unique gap' rfl rfl).1
  | next gapComma' gap' written' more' =>
      rcases gapComma.unique gapComma' rfl rfl with ⟨-, rfl⟩
      cases (item'.skipBlank_eq gap).symm.trans (written'.skipBlank_eq gap')
      rcases first written' with ⟨rfl, rfl⟩
      rcases more more' with ⟨rfl, rfl⟩
      exact ⟨rfl, rfl⟩

theorem membersAlone_close {text : List Char} (gap : Gap text ('}' :: rest)) :
    MembersAlone [] text rest := by
  intro members' rest' other
  cases other with
  | close gap' => exact ⟨rfl, (gap.unique gap' rfl rfl).2⟩
  | next gap' => cases (gap.unique gap' rfl rfl).1

theorem membersAlone_next {name : String} {value : Value} {members : List (String × Value)}
    {text behindComma : List Char} (gapComma : Gap text (',' :: behindComma))
    (first : MemberAlone name value behindComma behind) (more : MembersAlone members behind rest) :
    MembersAlone ((name, value) :: members) text rest := by
  intro members' rest' other
  cases other with
  | close gap' => cases (gapComma.unique gap' rfl rfl).1
  | next gapComma' member' more' =>
      rcases gapComma.unique gapComma' rfl rfl with ⟨-, rfl⟩
      rcases first member' with ⟨same, rfl⟩
      rcases more more' with ⟨rfl, rfl⟩
      rw [same]
      exact ⟨rfl, rfl⟩

end Constructors

mutual

theorem Written.alone {value : Value} {text rest : List Char} :
    Written value text rest → Alone value text rest
  | .null => alone_null
  | .yes => alone_yes
  | .no => alone_no
  | .text spelled => alone_text spelled
  | .number isNumeral ends => alone_number isNumeral ends
  | .emptyList gap => alone_emptyList gap
  | .list gap first more => alone_list gap first first.alone more.alone
  | .emptyObject gap => alone_emptyObject gap
  | .object first more => alone_object first first.alone more.alone

theorem Member.alone {name : String} {value : Value} {text rest : List Char} :
    Member name value text rest → MemberAlone name value text rest
  | .mk gapName spelled gapColon gapValue written =>
    memberAlone_mk gapName spelled gapColon gapValue written written.alone

theorem ItemsBehind.alone {items : List Value} {text rest : List Char} :
    ItemsBehind items text rest → ItemsAlone items text rest
  | .close gap => itemsAlone_close gap
  | .next gapComma gap written more =>
    itemsAlone_next gapComma gap written written.alone more.alone

theorem MembersBehind.alone {members : List (String × Value)} {text rest : List Char} :
    MembersBehind members text rest → MembersAlone members text rest
  | .close gap => membersAlone_close gap
  | .next gapComma member more => membersAlone_next gapComma member.alone more.alone

end

/-- No text stands for two values. -/
theorem IsText.unique {value value' : Value} {text : String} (isText : IsText value text)
    (isText' : IsText value' text) : value = value' := by
  rcases isText with ⟨front, written, -⟩
  rcases isText' with ⟨front', written', -⟩
  cases (written.skipBlank_eq front).symm.trans (written'.skipBlank_eq front')
  exact (written.alone written').1

theorem IsText.iff_eq {value : Value} {text : String} (isText : IsText value text)
    (other : Value) : IsText other text ↔ other = value := by
  constructor
  · exact fun again => again.unique isText
  · rintro rfl
    exact isText

end ReservationLoad.Json
