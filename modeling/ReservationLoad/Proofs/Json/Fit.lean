import ReservationLoad.Proofs.Json.Skip

/-!
# Fitting a value to a shape

Reading a text against a shape gives what the value of the text gives: layout,
escapes and the spelling of numbers do not matter.  `fitShape` says what a
value gives, without any text; faults included.
-/

namespace ReservationLoad.Json

open Wire

/-! ## What a value gives -/

/-- The fault of a value where something else was wanted. -/
def refusal (wanted : String) : Value → Fault
  | .null => .misfit (.wrongType .null wanted)
  | .flag value => .misfit (.wrongType (.flag value) wanted)
  | .number token =>
    match numeral token.toList with
    | .error fault => fault
    | .ok (.natural value) => .misfit (.wrongType (.whole value.toNat) wanted)
    | .ok (.negative value) => .misfit (.wrongType (.whole value) wanted)
    | .ok (.fraction value) => .misfit (.wrongType (.fraction value) wanted)
  | .text value => .misfit (.wrongType (.text value) wanted)
  | .list _ => .misfit (.wrongType .sequence wanted)
  | .object _ => .misfit (.wrongType .mapping wanted)

def fitString (wanted : String) : Value → Except Fault String
  | .text value => .ok value
  | value => .error (refusal wanted value)

def fitNumeric (wanted : String) (accept : Number → Except Mismatch Datum) :
    Value → Except Fault Datum
  | .number token => do
    let number ← numeral token.toList
    match accept number with
    | .ok datum => .ok datum
    | .error mismatch => .error (.misfit mismatch)
  | value => .error (refusal wanted value)

def fitFlag (wanted : String) : Value → Except Fault Datum
  | .flag value => .ok (.flag value)
  | value => .error (refusal wanted value)

def fitDate (wanted : String) (value : Value) : Except Fault Datum := do
  let text ← fitString wanted value
  match Calendar.Date.read text.toList with
  | .ok date => .ok (.date date)
  | .error fault => .error (.misfit (.badDate fault))

def fitWord (words : List String) (word : String) : Except Fault String :=
  if words.contains word then .ok word else .error (.misfit (.unknownWord word words))

def fitChosenWord (words : List String) (wanted : String) (value : Value) :
    Except Fault String := do
  let word ← fitString wanted value
  fitWord words word

/-- A choice is its word, or the word as the only name with null behind it. -/
def fitChoice (words : List String) : Value → Except Fault Datum
  | .text word => (fitWord words word).map .choice
  | .object ((word, value) :: more) => do
    let word ← fitWord words word
    match value, more with
    | .null, [] => .ok (.choice word)
    | .null, _ :: _ => .error .malformed
    | value, _ => .error (refusal "unit" value)
  | _ => .error .malformed

/-- A member of a record with what its value gives. -/
structure MemberFit where
  name : String
  defaulted : Bool
  fit : Value → Except Fault Datum

/-- One member of an object: other names are passed over. -/
def fitMember (fits : List MemberFit) (slots : Slots) (name : String) (value : Value) :
    Except Fault Slots :=
  match placeOf? name (fits.map (·.name)) with
  | none => .ok slots
  | some place =>
    if (slots[place]?.join).isSome then .error (.misfit (.duplicateMember name))
    else
      match fits[place]? with
      | none => .error .malformed
      | some member => (member.fit value).map fun datum => slots.set place (some datum)

def fitMembers (fits : List MemberFit) (slots : Slots) :
    List (String × Value) → Except Fault Slots
  | [] => .ok slots
  | (name, value) :: more => do
    let slots ← fitMember fits slots name value
    fitMembers fits slots more

/-- The items of a list as the members of a record from a place on. -/
def fitItems (record : String) (size : Nat) :
    List MemberFit → Nat → List Value → Except Fault (List Datum)
  | [], _, [] => .ok []
  | [], _, _ :: _ => .error .malformed
  | member :: later, place, item :: items => do
    let value ← member.fit item
    let values ← fitItems record size later (place + 1) items
    .ok (value :: values)
  | member :: later, place, [] =>
    if member.defaulted then
      (fitItems record size later (place + 1) []).map (.absent :: ·)
    else .error (.misfit (.tooShort place record size))

def fitRecord (record : String) (members : Members) (fits : List MemberFit) :
    Value → Except Fault Datum
  | .object values => do
    let slots ← fitMembers fits (fits.map fun _ => none) values
    match completeRecord members slots with
    | .ok values => .ok (.record values)
    | .error mismatch => .error (.misfit mismatch)
  | .list items => (fitItems record fits.length fits 0 items).map .record
  | value => .error (refusal ("struct " ++ record) value)

def fitOptional (fit : Value → Except Fault Datum) : Value → Except Fault Datum
  | .null => .ok .absent
  | value => fit value

mutual

/-- What a value gives when a shape is wanted. -/
def fitShape : Shape → Value → Except Fault Datum
  | .text => fun value => (fitString Shape.text.wanted value).map .text
  | .number => fitNumeric Shape.number.wanted acceptNumber
  | .natural width => fitNumeric width.name (acceptNatural width)
  | .integer => fitNumeric Shape.integer.wanted (acceptInteger Shape.integer.wanted)
  | .flag => fitFlag Shape.flag.wanted
  | .date => fitDate Shape.date.wanted
  | .choice words => fitChoice words
  | .optional inner => fitOptional (fitShape inner)
  | .record name members => fitRecord name members (memberFits members)

def memberFits : Members → List MemberFit
  | .nil => []
  | .cons name need shape rest =>
    ⟨name, need == .defaulted, fitShape shape⟩ :: memberFits rest

end

/-! ## Single values -/

/-- Reading gives what the value of the text gives. -/
def Reads {α : Type} (read : List Char → Except Fault (α × List Char))
    (fit : Value → Except Fault α) : Prop :=
  ∀ {value : Value} {input text rest : List Char}, Gap input text → Written value text rest →
    read input = (fit value).map (·, rest)

theorem unwanted_eq (wanted : String) {value : Value} {text rest : List Char}
    (written : Written value text rest) : unwanted wanted text = refusal wanted value := by
  cases written with
  | null => rfl
  | yes => rfl
  | no => rfl
  | @number token rest isNumeral ends =>
      have noNull := isNumeral.head_ne (c := 'n') (by decide) rfl rest
      have noTrue := isNumeral.head_ne (c := 't') (by decide) rfl rest
      have noFalse := isNumeral.head_ne (c := 'f') (by decide) rfl rest
      have noList := isNumeral.head_ne (c := '[') (by decide) rfl rest
      have noObject := isNumeral.head_ne (c := '{') (by decide) rfl rest
      have noText := isNumeral.head_ne (c := '"') (by decide) rfl rest
      have nonempty := isNumeral.append_ne_nil rest
      simp only [unwanted, readNumber?_append isNumeral ends, refusal]
      cases numeral token.toList with
      | error fault => rfl
      | ok number => cases number <;> rfl
  | text spelled => simp only [unwanted, spelled.readText_eq, refusal, String.ofList_toList]
  | emptyList => rfl
  | list => rfl
  | emptyObject => rfl
  | object => rfl

theorem error_unwanted_eq (α : Type) (wanted : String) (after : List Char) {value : Value}
    {text rest : List Char} (written : Written value text rest) :
    (.error (unwanted wanted text) : Except Fault (α × List Char)) =
      (Except.error (refusal wanted value)).map (·, after) := by
  rw [unwanted_eq wanted written, map_error]

theorem reads_string (wanted : String) : Reads (readString wanted) (fitString wanted) := by
  intro value input text rest gap written
  have refused := error_unwanted_eq String wanted rest written
  rw [readString, written.skipBlank_eq gap]
  cases written with
  | text spelled =>
      simp only [spelled.readText_eq, ok_bind, fitString, map_ok, String.ofList_toList]
      rfl
  | number isNumeral =>
      have noText := isNumeral.head_ne (c := '"') (by decide) rfl rest
      simp only
      exact refused
  | _ => exact refused

theorem reads_numeric (wanted : String) (accept : Number → Except Mismatch Datum) :
    Reads (readNumeric wanted accept) (fitNumeric wanted accept) := by
  intro value input text rest gap written
  have refused := error_unwanted_eq Datum wanted rest written
  rw [readNumeric, written.skipBlank_eq gap]
  cases written with
  | @number token _ isNumeral ends =>
      simp only [readNumber?_append isNumeral ends, fitNumeric]
      cases numeral token.toList with
      | error fault => rfl
      | ok number =>
          simp only [map_ok, ok_bind]
          cases accept number <;> rfl
  | _ => exact refused

theorem reads_flag (wanted : String) : Reads (readFlag wanted) (fitFlag wanted) := by
  intro value input text rest gap written
  have refused := error_unwanted_eq Datum wanted rest written
  rw [readFlag, written.skipBlank_eq gap]
  cases written with
  | yes => rfl
  | no => rfl
  | number isNumeral =>
      have noTrue := isNumeral.head_ne (c := 't') (by decide) rfl rest
      have noFalse := isNumeral.head_ne (c := 'f') (by decide) rfl rest
      simp only
      exact refused
  | _ => exact refused

theorem reads_date (wanted : String) : Reads (readDate wanted) (fitDate wanted) := by
  intro value input text rest gap written
  rw [readDate, reads_string wanted gap written, fitDate]
  cases fitString wanted value with
  | error fault => rfl
  | ok word =>
      simp only [map_ok, ok_bind]
      cases Calendar.Date.read word.toList <;> rfl

theorem reads_optional {read : List Char → Except Fault (Datum × List Char)}
    {fit : Value → Except Fault Datum} (reads : Reads read fit) :
    Reads (readOptional read) (fitOptional fit) := by
  intro value input text rest gap written
  rw [readOptional, written.skipBlank_eq gap]
  have inner := reads .none written
  cases written with
  | null => rfl
  | number isNumeral =>
      have noNull := isNumeral.head_ne (c := 'n') (by decide) rfl rest
      simp only
      exact inner
  | _ => exact inner

/-! ## Choices -/

theorem reads_chosenWord (words : List String) (wanted : String) :
    Reads (readChosenWord words wanted) (fitChosenWord words wanted) := by
  intro value input text rest gap written
  rw [readChosenWord, reads_string wanted gap written, fitChosenWord]
  cases fitString wanted value with
  | error fault => rfl
  | ok word =>
      simp only [map_ok, ok_bind, fitWord]
      cases words.contains word <;> rfl

theorem readColon_eq {input rest : List Char} (gap : Gap input (':' :: rest)) :
    readColon input = .ok rest := by
  simp only [readColon, gap.skipBlank_eq_cons (c := ':') rfl]

/-- Behind the word of a choice stands null, and then the end of the object. -/
theorem readChoice_object (words : List String) (wanted : String) {input inside : List Char}
    {name : String} {value : Value} {members : List (String × Value)} {behind rest : List Char}
    (front : skipBlank input = '{' :: inside) (member : Member name value inside behind)
    (more : MembersBehind members behind rest) :
    readChoice words wanted input =
      (fitChoice words (.object ((name, value) :: members))).map (·, rest) := by
  rcases member with ⟨gapName, spelled, gapColon, gapValue, written⟩
  have refused := error_unwanted_eq Datum "unit" rest written
  rw [readChoice, front]
  simp only [reads_chosenWord words wanted gapName (.text spelled), fitChosenWord, fitString,
    ok_bind, fitChoice]
  cases fitWord words name with
  | error fault => rfl
  | ok word =>
      simp only [map_ok, ok_bind, readColon_eq gapColon, written.skipBlank_eq gapValue]
      cases written with
      | null =>
          have ended : readWord "ull".toList ('u' :: 'l' :: 'l' :: behind) = .ok behind := rfl
          simp only [ended, ok_bind]
          cases more with
          | close gap =>
              simp only [gap.skipBlank_eq_cons (c := '}') rfl]
              rfl
          | next gapComma =>
              simp only [gapComma.skipBlank_eq_cons (c := ',') rfl]
              rfl
      | number isNumeral =>
          have noNull := isNumeral.head_ne (c := 'n') (by decide) rfl behind
          simp only
          exact refused
      | _ => exact refused

theorem reads_choice (words : List String) (wanted : String) :
    Reads (readChoice words wanted) (fitChoice words) := by
  intro value input text rest gap written
  have first := written.skipBlank_eq gap
  cases written with
  | text spelled =>
      rw [readChoice, first]
      simp only [reads_chosenWord words wanted .none (.text spelled), fitChosenWord, fitString,
        ok_bind, fitChoice]
      cases fitWord words _ <;> rfl
  | object member more => exact readChoice_object words wanted first member more
  | emptyObject gap =>
      rw [readChoice, first]
      simp only [readChosenWord, readString, gap.skipBlank_eq_cons (c := '}') rfl]
      rfl
  | @number token _ isNumeral =>
      have noText := isNumeral.head_ne (c := '"') (by decide) rfl rest
      have noObject := isNumeral.head_ne (c := '{') (by decide) rfl rest
      have nonempty : token.toList ++ rest ≠ [] := isNumeral.append_ne_nil rest
      rw [readChoice, first]
      simp only [fitChoice, map_error]
  | _ =>
      rw [readChoice, first]
      rfl

end ReservationLoad.Json
