import ReservationLoad.Json.Reader
import ReservationLoad.Json.Value

/-!
# The grammar of JSON

Which texts stand for a value: any white space may stand between the tokens, a
character of a string may be escaped or stand for itself, and members keep
their order.  `Written value text rest` says that `text` begins with `value` and
that `rest` is what lies behind it.  The relation says nothing about shapes, and
nothing about how a text is read.  `Passable text rest` says the same of some
value or other, where a string may also hold half of a pair of codes, which no
value has.
-/

namespace ReservationLoad.Json

/-! ## White space and numerals -/

/-- The second text lies behind white space of the first. -/
inductive Gap : List Char → List Char → Prop
  | none {rest : List Char} : Gap rest rest
  | blank {c : Char} {text rest : List Char} (isBlank : isBlank c = true) (gap : Gap text rest) :
      Gap (c :: text) rest

/-- One digit or more. -/
def IsDigits (digits : List Char) : Prop := digits ≠ [] ∧ ∀ c ∈ digits, isDigit c = true

/-- The digits in front of a point: a zero stands alone. -/
inductive IsWhole : List Char → Prop
  | zero : IsWhole ['0']
  | digits {first : Char} {more : List Char} (nonzero : first ≠ '0')
      (digit : isDigit first = true) (digits : ∀ c ∈ more, isDigit c = true) :
      IsWhole (first :: more)

inductive IsPlaces : List Char → Prop
  | none : IsPlaces []
  | point {digits : List Char} (places : IsDigits digits) : IsPlaces ('.' :: digits)

inductive IsScale : List Char → Prop
  | none : IsScale []
  | unsigned {mark : Char} {digits : List Char} (isMark : mark = 'e' ∨ mark = 'E')
      (exponent : IsDigits digits) : IsScale (mark :: digits)
  | signed {mark sign : Char} {digits : List Char} (isMark : mark = 'e' ∨ mark = 'E')
      (isSign : sign = '+' ∨ sign = '-') (exponent : IsDigits digits) :
      IsScale (mark :: sign :: digits)

/-- A number without its sign. -/
inductive IsUnsigned : List Char → Prop
  | parts {whole places scale : List Char} (isWhole : IsWhole whole) (isPlaces : IsPlaces places)
      (isScale : IsScale scale) : IsUnsigned (whole ++ (places ++ scale))

inductive IsNumeral : List Char → Prop
  | positive {body : List Char} (unsigned : IsUnsigned body) : IsNumeral body
  | negative {body : List Char} (unsigned : IsUnsigned body) : IsNumeral ('-' :: body)

/-- May a number go on with this character? -/
def continuesNumeral (c : Char) : Bool := isDigit c || c = '.' || c = 'e' || c = 'E'

/-- A number ends in front of this text. -/
def EndsNumeral (rest : List Char) : Prop := ∀ c ∈ rest.head?, continuesNumeral c = false

/-! ## Strings -/

/-- Is this code one of the two halves of a pair? -/
def IsSurrogate (code : Nat) : Prop := 0xD800 ≤ code ∧ code ≤ 0xDFFF

/-- The characters of a string, the text of its inside and of its closing
quote, and what lies behind. -/
inductive Spelled : List Char → List Char → List Char → Prop
  | close {rest : List Char} : Spelled [] ('"' :: rest) rest
  | plain {c : Char} {chars text rest : List Char} (visible : 0x20 ≤ c.toNat)
      (noQuote : c ≠ '"') (noBackslash : c ≠ '\\') (spelled : Spelled chars text rest) :
      Spelled (c :: chars) (c :: text) rest
  | escape {letter c : Char} {chars text rest : List Char} (escapes : simpleEscape? letter = some c)
      (spelled : Spelled chars text rest) : Spelled (c :: chars) ('\\' :: letter :: text) rest
  | code {a b c d : Char} {code : Nat} {chars text rest : List Char}
      (hex : hexQuad? a b c d = some code) (single : ¬ IsSurrogate code)
      (spelled : Spelled chars text rest) :
      Spelled (Char.ofNat code :: chars) ('\\' :: 'u' :: a :: b :: c :: d :: text) rest
  | pair {a b c d e f g h : Char} {high low : Nat} {chars text rest : List Char}
      (hexHigh : hexQuad? a b c d = some high) (hexLow : hexQuad? e f g h = some low)
      (isHigh : 0xD800 ≤ high ∧ high ≤ 0xDBFF) (isLow : 0xDC00 ≤ low ∧ low ≤ 0xDFFF)
      (spelled : Spelled chars text rest) :
      Spelled (surrogatePair high low :: chars)
        ('\\' :: 'u' :: a :: b :: c :: d :: '\\' :: 'u' :: e :: f :: g :: h :: text) rest

/-! ## Texts without regard to their meaning -/

/-- The inside of a string and its closing quote.  A code may be half of a pair
by itself, so not every such text spells characters. -/
inductive Quoted : List Char → List Char → Prop
  | close {rest : List Char} : Quoted ('"' :: rest) rest
  | plain {c : Char} {text rest : List Char} (visible : 0x20 ≤ c.toNat) (noQuote : c ≠ '"')
      (noBackslash : c ≠ '\\') (quoted : Quoted text rest) : Quoted (c :: text) rest
  | escape {letter c : Char} {text rest : List Char} (escapes : simpleEscape? letter = some c)
      (quoted : Quoted text rest) : Quoted ('\\' :: letter :: text) rest
  | code {a b c d : Char} {code : Nat} {text rest : List Char} (hex : hexQuad? a b c d = some code)
      (quoted : Quoted text rest) : Quoted ('\\' :: 'u' :: a :: b :: c :: d :: text) rest

/-- The comma in front of an entry; the first entry has none. -/
inductive Comma : Bool → List Char → List Char → Prop
  | first {text : List Char} : Comma true text text
  | next {text rest : List Char} (gap : Gap text (',' :: rest)) : Comma false text rest

mutual

/-- The text of some value, whatever it is. -/
inductive Passable : List Char → List Char → Prop
  | null {rest : List Char} : Passable ('n' :: 'u' :: 'l' :: 'l' :: rest) rest
  | yes {rest : List Char} : Passable ('t' :: 'r' :: 'u' :: 'e' :: rest) rest
  | no {rest : List Char} : Passable ('f' :: 'a' :: 'l' :: 's' :: 'e' :: rest) rest
  | number {token rest : List Char} (numeral : IsNumeral token) (ends : EndsNumeral rest) :
      Passable (token ++ rest) rest
  | text {inside rest : List Char} (quoted : Quoted inside rest) : Passable ('"' :: inside) rest
  | list {inside rest : List Char} (items : PassableItems true inside rest) :
      Passable ('[' :: inside) rest
  | object {inside rest : List Char} (members : PassableMembers true inside rest) :
      Passable ('{' :: inside) rest

/-- Some items of a list, from the first one or from a comma on, and the closing
bracket. -/
inductive PassableItems : Bool → List Char → List Char → Prop
  | close {first : Bool} {text rest : List Char} (gap : Gap text (']' :: rest)) :
      PassableItems first text rest
  | next {first : Bool} {text behindComma start behind rest : List Char}
      (comma : Comma first text behindComma) (gap : Gap behindComma start)
      (item : Passable start behind) (more : PassableItems false behind rest) :
      PassableItems first text rest

/-- Some members of an object and the closing brace. -/
inductive PassableMembers : Bool → List Char → List Char → Prop
  | close {first : Bool} {text rest : List Char} (gap : Gap text ('}' :: rest)) :
      PassableMembers first text rest
  | next {first : Bool}
      {text behindComma inside behindName behindColon start behind rest : List Char}
      (comma : Comma first text behindComma) (gapName : Gap behindComma ('"' :: inside))
      (quoted : Quoted inside behindName) (gapColon : Gap behindName (':' :: behindColon))
      (gapValue : Gap behindColon start) (value : Passable start behind)
      (more : PassableMembers false behind rest) : PassableMembers first text rest

end

/-! ## Values -/

mutual

/-- The text of a value from its first character on. -/
inductive Written : Value → List Char → List Char → Prop
  | null {rest : List Char} : Written .null ('n' :: 'u' :: 'l' :: 'l' :: rest) rest
  | yes {rest : List Char} : Written (.flag true) ('t' :: 'r' :: 'u' :: 'e' :: rest) rest
  | no {rest : List Char} : Written (.flag false) ('f' :: 'a' :: 'l' :: 's' :: 'e' :: rest) rest
  | number {token : String} {rest : List Char} (numeral : IsNumeral token.toList)
      (ends : EndsNumeral rest) : Written (.number token) (token.toList ++ rest) rest
  | text {value : String} {inside rest : List Char} (spelled : Spelled value.toList inside rest) :
      Written (.text value) ('"' :: inside) rest
  | emptyList {inside rest : List Char} (gap : Gap inside (']' :: rest)) :
      Written (.list []) ('[' :: inside) rest
  | list {item : Value} {items : List Value} {inside start behind rest : List Char}
      (gap : Gap inside start) (first : Written item start behind)
      (more : ItemsBehind items behind rest) : Written (.list (item :: items)) ('[' :: inside) rest
  | emptyObject {inside rest : List Char} (gap : Gap inside ('}' :: rest)) :
      Written (.object []) ('{' :: inside) rest
  | object {name : String} {value : Value} {members : List (String × Value)}
      {inside behind rest : List Char} (first : Member name value inside behind)
      (more : MembersBehind members behind rest) :
      Written (.object ((name, value) :: members)) ('{' :: inside) rest

/-- A member of an object with the white space in front of it. -/
inductive Member : String → Value → List Char → List Char → Prop
  | mk {name : String} {value : Value} {text inside behindName behindColon start rest : List Char}
      (gapName : Gap text ('"' :: inside)) (spelled : Spelled name.toList inside behindName)
      (gapColon : Gap behindName (':' :: behindColon)) (gapValue : Gap behindColon start)
      (written : Written value start rest) : Member name value text rest

/-- The items behind an item of a list, and the closing bracket. -/
inductive ItemsBehind : List Value → List Char → List Char → Prop
  | close {text rest : List Char} (gap : Gap text (']' :: rest)) : ItemsBehind [] text rest
  | next {item : Value} {items : List Value} {text behindComma start behind rest : List Char}
      (gapComma : Gap text (',' :: behindComma)) (gap : Gap behindComma start)
      (written : Written item start behind) (more : ItemsBehind items behind rest) :
      ItemsBehind (item :: items) text rest

/-- The members behind a member of an object, and the closing brace. -/
inductive MembersBehind : List (String × Value) → List Char → List Char → Prop
  | close {text rest : List Char} (gap : Gap text ('}' :: rest)) : MembersBehind [] text rest
  | next {name : String} {value : Value} {members : List (String × Value)}
      {text behindComma behind rest : List Char} (gapComma : Gap text (',' :: behindComma))
      (member : Member name value behindComma behind) (more : MembersBehind members behind rest) :
      MembersBehind ((name, value) :: members) text rest

end

/-- The inside of a list. -/
def WrittenItems : List Value → List Char → List Char → Prop
  | [], text, rest => Gap text (']' :: rest)
  | item :: more, text, rest =>
    ∃ start behind, Gap text start ∧ Written item start behind ∧ ItemsBehind more behind rest

/-- The inside of an object. -/
def WrittenMembers : List (String × Value) → List Char → List Char → Prop
  | [], text, rest => Gap text ('}' :: rest)
  | (name, value) :: more, text, rest =>
    ∃ behind, Member name value text behind ∧ MembersBehind more behind rest

theorem WrittenItems.written : ∀ {items : List Value} {text rest : List Char},
    WrittenItems items text rest → Written (.list items) ('[' :: text) rest
  | [], _, _, gap => .emptyList gap
  | _ :: _, _, _, ⟨_, _, gap, first, more⟩ => .list gap first more

theorem WrittenMembers.written : ∀ {members : List (String × Value)} {text rest : List Char},
    WrittenMembers members text rest → Written (.object members) ('{' :: text) rest
  | [], _, _, gap => .emptyObject gap
  | (_, _) :: _, _, _, ⟨_, first, more⟩ => .object first more

/-- A text that holds one value and nothing else. -/
inductive IsText : Value → String → Prop
  | mk {value : Value} {text : String} {start behind : List Char} (front : Gap text.toList start)
      (written : Written value start behind) (back : Gap behind []) : IsText value text

/-! ## Passing over white space -/

@[simp]
theorem skipBlank_cons_of_not {c : Char} (visible : isBlank c = false) (text : List Char) :
    skipBlank (c :: text) = c :: text := by
  rw [skipBlank, List.dropWhile_cons_of_neg (by simp [visible])]

theorem Gap.skipBlank_eq {text rest : List Char} (gap : Gap text rest) :
    skipBlank text = skipBlank rest := by
  induction gap with
  | none => rfl
  | blank isBlank _ ih => rw [skipBlank, List.dropWhile_cons_of_pos isBlank, ← ih, skipBlank]

/-- White space is passed over up to the next token. -/
theorem Gap.skipBlank_eq_cons {text rest : List Char} {c : Char} (gap : Gap text (c :: rest))
    (visible : isBlank c = false) : skipBlank text = c :: rest := by
  rw [gap.skipBlank_eq, skipBlank_cons_of_not visible]

theorem Gap.length_le {text rest : List Char} (gap : Gap text rest) :
    rest.length ≤ text.length := by
  induction gap with
  | none => exact Nat.le_refl _
  | blank _ _ ih => exact Nat.le_succ_of_le ih

/-- No number goes on with white space or with a token that lies behind it. -/
theorem Gap.endsNumeral {text rest : List Char} (gap : Gap text rest) (ends : EndsNumeral rest) :
    EndsNumeral text := by
  cases gap with
  | none => exact ends
  | @blank c text rest blank gap =>
      rintro _ ⟨⟩
      simp only [isBlank, Bool.or_eq_true, decide_eq_true_eq] at blank
      rcases blank with ((rfl | rfl) | rfl) | rfl <;> decide

theorem endsNumeral_nil : EndsNumeral [] := by
  rintro c ⟨⟩

theorem endsNumeral_cons {c : Char} (other : continuesNumeral c = false) (rest : List Char) :
    EndsNumeral (c :: rest) := by
  rintro _ ⟨⟩
  exact other

theorem Comma.length_le {first : Bool} {text rest : List Char} (comma : Comma first text rest) :
    rest.length ≤ text.length := by
  cases comma with
  | first => exact Nat.le_refl _
  | next gap => exact Nat.le_of_succ_le gap.length_le

theorem Quoted.length_lt {text rest : List Char} (quoted : Quoted text rest) :
    rest.length < text.length := by
  induction quoted with
  | close => exact Nat.lt_succ_self _
  | plain _ _ _ _ ih => exact Nat.lt_succ_of_lt ih
  | escape _ _ ih =>
      simp only [List.length_cons]
      omega
  | code _ _ ih =>
      simp only [List.length_cons]
      omega

theorem IsNumeral.length_pos {token : List Char} (numeral : IsNumeral token) :
    0 < token.length := by
  cases numeral with
  | positive unsigned =>
      rcases unsigned with ⟨whole, _, _⟩
      cases whole <;> simp
  | negative => exact Nat.succ_pos _

/-! ## A value takes at least one character -/

/-- A member takes at least as much as its value. -/
theorem length_lt_of_member {text inside behindName behindColon start behind : List Char}
    (gapName : Gap text ('"' :: inside)) (quoted : Quoted inside behindName)
    (gapColon : Gap behindName (':' :: behindColon)) (gapValue : Gap behindColon start)
    (shorter : behind.length < start.length) : behind.length < text.length := by
  have name := gapName.length_le
  have spelled := quoted.length_lt
  have colon := gapColon.length_le
  have space := gapValue.length_le
  simp only [List.length_cons] at name colon
  omega

mutual

theorem Passable.length_lt {text rest : List Char} :
    Passable text rest → rest.length < text.length
  | .null => by
      simp only [List.length_cons]
      omega
  | .yes => by
      simp only [List.length_cons]
      omega
  | .no => by
      simp only [List.length_cons]
      omega
  | .number numeral _ => by
      have some := numeral.length_pos
      simp only [List.length_append]
      omega
  | .text quoted => Nat.lt_succ_of_lt quoted.length_lt
  | .list items => Nat.lt_succ_of_lt items.length_lt
  | .object members => Nat.lt_succ_of_lt members.length_lt

theorem PassableItems.length_lt {first : Bool} {text rest : List Char} :
    PassableItems first text rest → rest.length < text.length
  | .close gap => by
      have front := gap.length_le
      simp only [List.length_cons] at front
      omega
  | .next comma gap item more => by
      have front := comma.length_le
      have space := gap.length_le
      have first := item.length_lt
      have others := more.length_lt
      omega

theorem PassableMembers.length_lt {first : Bool} {text rest : List Char} :
    PassableMembers first text rest → rest.length < text.length
  | .close gap => by
      have front := gap.length_le
      simp only [List.length_cons] at front
      omega
  | .next comma gapName quoted gapColon gapValue value more => by
      have front := comma.length_le
      have first := length_lt_of_member gapName quoted gapColon gapValue value.length_lt
      have others := more.length_lt
      omega

end

/-! ## A text with a meaning is a text -/

theorem Spelled.quoted {chars text rest : List Char} (spelled : Spelled chars text rest) :
    Quoted text rest := by
  induction spelled with
  | close => exact .close
  | plain visible noQuote noBackslash _ ih => exact .plain visible noQuote noBackslash ih
  | escape escapes _ ih => exact .escape escapes ih
  | code hex _ _ ih => exact .code hex ih
  | pair hexHigh hexLow _ _ _ ih => exact .code hexHigh (.code hexLow ih)

mutual

theorem Written.passable {value : Value} {text rest : List Char} :
    Written value text rest → Passable text rest
  | .null => .null
  | .yes => .yes
  | .no => .no
  | .number numeral ends => .number numeral ends
  | .text spelled => .text spelled.quoted
  | .emptyList gap => .list (.close gap)
  | .list gap first more => .list (.next .first gap first.passable more.passable)
  | .emptyObject gap => .object (.close gap)
  | .object (.mk gapName spelled gapColon gapValue written) more =>
    .object (.next .first gapName spelled.quoted gapColon gapValue written.passable more.passable)

theorem ItemsBehind.passable {items : List Value} {text rest : List Char} :
    ItemsBehind items text rest → PassableItems false text rest
  | .close gap => .close gap
  | .next gapComma gap written more => .next (.next gapComma) gap written.passable more.passable

theorem MembersBehind.passable {members : List (String × Value)} {text rest : List Char} :
    MembersBehind members text rest → PassableMembers false text rest
  | .close gap => .close gap
  | .next gapComma (.mk gapName spelled gapColon gapValue written) more =>
    .next (.next gapComma) gapName spelled.quoted gapColon gapValue written.passable more.passable

end

theorem Member.length_lt {name : String} {value : Value} {text rest : List Char}
    (member : Member name value text rest) : rest.length < text.length := by
  rcases member with ⟨gapName, spelled, gapColon, gapValue, written⟩
  exact length_lt_of_member gapName spelled.quoted gapColon gapValue written.passable.length_lt

/-- There are no more members than characters. -/
theorem MembersBehind.length_members_lt {members : List (String × Value)}
    {text rest : List Char} (more : MembersBehind members text rest) :
    members.length < text.length := by
  induction members generalizing text with
  | nil =>
      have front := more.passable.length_lt
      exact Nat.lt_of_le_of_lt (Nat.zero_le _) front
  | cons member members ih =>
      cases more with
      | next gapComma member more =>
          have comma := gapComma.length_le
          have first := member.length_lt
          have others := ih more
          simp only [List.length_cons] at comma ⊢
          omega

end ReservationLoad.Json
