import EntityStore.Json.Reader
import EntityStore.Query.Basic
import EntityStore.Value.Shown

/-!
# Validating queries and result pages

A query given as an object is checked field by field, and all its faults are reported together, in
the order sort, limit, token, fields.  Texts may also be given as UTF-8 bytes and lists as tuples.
A limit may be any number without a fraction, or a numeral: white space around it, a plus sign,
leading zeros, single underscores between digits and a fraction of zeros are allowed.

A result page is checked likewise: each of its items has to be an object.
-/

namespace EntityStore

/-- The ways in which a field of a query or of a result page can be wrong. -/
inductive FaultKind where
  | notModel
  | notList
  | notText
  | notUnicode
  | notInteger
  | notNumeral
  | numeralTooLong
  | fractional
  | notFinite
  | notPositive
  | notObject
deriving DecidableEq, Repr

namespace FaultKind

/-- The name of a kind of fault. -/
def name : FaultKind → String
  | .notModel => "model_type"
  | .notList => "list_type"
  | .notText => "string_type"
  | .notUnicode => "string_unicode"
  | .notInteger => "int_type"
  | .notNumeral => "int_parsing"
  | .numeralTooLong => "int_parsing_size"
  | .fractional => "int_from_float"
  | .notFinite => "finite_number"
  | .notPositive => "greater_than"
  | .notObject => "dict_type"

/-- What a kind of fault says. -/
def description : FaultKind → String
  | .notModel => "Input should be a valid dictionary or instance of Query"
  | .notList => "Input should be a valid list"
  | .notText => "Input should be a valid string"
  | .notUnicode => "Input should be a valid string, unable to parse raw data as a unicode string"
  | .notInteger => "Input should be a valid integer"
  | .notNumeral => "Input should be a valid integer, unable to parse string as an integer"
  | .numeralTooLong => "Unable to parse input string as an integer, exceeded maximum size"
  | .fractional => "Input should be a valid integer, got a number with a fractional part"
  | .notFinite => "Input should be a finite number"
  | .notPositive => "Input should be greater than 0"
  | .notObject => "Input should be a valid dictionary"

end FaultKind

/-- What is checked: a query or a result page. -/
inductive Model where
  | query
  | queryResult
deriving DecidableEq, Repr

/-- The name of a model. -/
def Model.name : Model → String
  | .query => "Query"
  | .queryResult => "QueryResult"

/-- A fault, where it is and what stands there. -/
structure Fault where
  location : String
  kind : FaultKind
  input : Value

namespace Fault

/-- The shown form of a value, its middle left out when it is longer than fifty bytes. -/
def excerpt (v : Value) : String :=
  let text := v.shown
  if text.utf8ByteSize ≤ 50 then text
  else
    let cs := text.toList
    String.ofList (takeBytes 25 cs) ++ "..." ++ String.ofList (takeBytes 24 cs.reverse).reverse
where
  /-- The characters at the start that fit into so many bytes. -/
  takeBytes : Nat → List Char → List Char
    | _, [] => []
    | n, c :: r => if c.utf8Size ≤ n then c :: takeBytes (n - c.utf8Size) r else []

/-- The kind of a value that is not a scalar, or of the scalar that it is. -/
def inputKind : Value → String
  | .scalar s => s.kindName
  | .list _ => "list"
  | .tuple _ => "tuple"
  | .object _ => "dict"
  | .filter (.compare ..) => "ComparisonExpression"
  | .filter (.combine ..) => "LogicalExpression"
  | .filter .bare => "FilterExpression"

/-- A fault in one line: where, and of what kind. -/
def summary (f : Fault) : String := f.location ++ ":" ++ f.kind.name

/-- A fault in two lines: where, and what is wrong with what stands there. -/
def report (f : Fault) : String :=
  (if f.location.isEmpty then "" else f.location ++ "\n") ++ "  " ++ f.kind.description
    ++ " [type=" ++ f.kind.name ++ ", input_value=" ++ excerpt f.input
    ++ ", input_type=" ++ inputKind f.input ++ "]"

/-- Several faults of a model, with a heading. -/
def reportAll (model : Model) (faults : List Fault) : String :=
  let n := faults.length
  "\n".intercalate
    ((toString n ++ " validation error" ++ (if n = 1 then "" else "s") ++ " for " ++ model.name)
      :: faults.map report)

end Fault

namespace Query

/-! ### Texts and lists -/

/-- The text that a value gives. -/
def readText : Value → Except FaultKind String
  | .str s => .ok s
  | .scalar (.bytes b) =>
    match String.fromUTF8? ⟨b.toArray⟩ with
    | some s => .ok s
    | none => .error .notUnicode
  | _ => .error .notText

/-- The texts that a value gives item by item, or its faults. -/
def readTexts (location : String) (v : Value) : Except (List Fault) (List String) :=
  match v with
  | .list items | .tuple items =>
    let read := items.zipIdx.map fun (item, i) => (readText item).mapError fun kind =>
      (⟨location ++ "." ++ toString i, kind, item⟩ : Fault)
    let faults := read.filterMap fun
      | .error f => some f
      | .ok _ => none
    if faults.isEmpty then .ok (read.filterMap Except.toOption) else .error faults
  | v => .error [⟨location, .notList, v⟩]

/-! ### Limits -/

/-- A numeral without any freedom: a minus sign, and digits that do not begin with zero. -/
def readPlainNumeral (s : List Char) : Except FaultKind Int :=
  let (negative, r) := match s with
    | '-' :: r => (true, r)
    | r => (false, r)
  match Json.wholePart? r with
  | some (whole, []) =>
    if maxDigits < whole.length then .error .numeralTooLong
    else
      let n : Int := Text.ofDigits (whole.filterMap Text.asciiDigit?)
      .ok (if negative then -n else n)
  | _ => .error .notNumeral

/-- What is left behind leading zeros, `last` being the character before the rest.  A single
character is kept when nothing but zeros and underscores follows, and the one before a point. -/
def stripZeros (last : Char) : List Char → Option (List Char)
  | [] => some [last]
  | c :: r =>
    if c = '0' ∨ c = '_' then stripZeros c r
    else if c.isDigit then some (c :: r)
    else if c = '.' then some (last :: c :: r)
    else none

/-- A text without a fraction of zeros. -/
def stripFraction (s : List Char) : List Char :=
  match s.dropWhile (· ≠ '.') with
  | '.' :: r => if !r.isEmpty && r.all (· = '0') then s.takeWhile (· ≠ '.') else s
  | _ => s

/-- A text without its underscores, none of which may be first, last or next to another. -/
def stripUnderscores (s : List Char) : Option (List Char) :=
  if s.head? = some '_' ∨ s.getLast? = some '_' ∨ (s.zip (s.drop 1)).contains ('_', '_') then none
  else some (s.filter (· ≠ '_'))

/-- The plain numeral behind a numeral with a plus sign, leading zeros, a fraction of zeros or
underscores. -/
def plainNumeral? (s : List Char) : Option (List Char) := do
  let s ← match s with
    | '+' :: '-' :: _ => none
    | '+' :: r => some r
    | r => some r
  let s ← match s with
    | '0' :: r => stripZeros '0' r
    | c :: r => if c.isDigit ∨ c = '-' then some (c :: r) else none
    | [] => none
  stripUnderscores (stripFraction s)

/-- The whole number that a numeral gives. -/
def readNumeral (text : String) : Except FaultKind Int :=
  let s := Text.trimList Text.isWhiteSpace text.toList
  match readPlainNumeral s, plainNumeral? s with
  | .error .notNumeral, some s => readPlainNumeral s
  | r, _ => r

/-- The whole number that a decimal number is. -/
def readDecimal (d : Decimal) : Except FaultKind Int :=
  match d.toExact?, d.truncate? with
  | some x, some n => if x.twos < 0 ∨ x.fives < 0 then .error .fractional else .ok n
  | _, _ => .error .notFinite

/-- The whole number that a value gives. -/
def readInteger : Value → Except FaultKind Int
  | .bool b => .ok (if b then 1 else 0)
  | .int n => .ok n
  | .float x =>
    match x.truncate?, x.toInt? with
    | some _, some n => .ok n
    | some _, none => .error .fractional
    | none, _ => .error .notFinite
  | .scalar (.decimal d) => readDecimal d
  | .str s => readNumeral s
  | .scalar (.bytes b) =>
    match String.fromUTF8? ⟨b.toArray⟩ with
    | some s => readNumeral s
    | none => .error .notNumeral
  | _ => .error .notInteger

/-- A page size: nothing, or a positive whole number. -/
def readLimit (v : Value) : Except (List Fault) (Option Int) :=
  let fault (kind : FaultKind) : List Fault := [⟨"limit", kind, v⟩]
  if v.isNull then .ok none
  else
    match readInteger v with
    | .error kind => .error (fault kind)
    | .ok n => if 0 < n then .ok (some n) else .error (fault .notPositive)

/-! ### Queries -/

/-- The faults of a reading. -/
def faultsOf {α : Type} : Except (List Fault) α → List Fault
  | .error faults => faults
  | .ok _ => []

/-- The text under a key, or nothing. -/
def readToken (location : String) (v : Value) : Except (List Fault) (Option String) :=
  if v.isNull then .ok none
  else (readText v).map some |>.mapError fun kind => [⟨location, kind, v⟩]

/-- The token of a query stands under either of two keys, the first of which wins. -/
def tokenField (fields : Fields) : String × Value :=
  match fields.get? "continuationToken" with
  | some v => ("continuationToken", v)
  | none => ("continuation_token", (fields.get? "continuation_token").getD .null)

/-- The value under a key, or nothing. -/
def fieldValue (fields : Fields) (key : String) : Value := (fields.get? key).getD .null

/-- The query that the fields of an object give, or all their faults. -/
def ofFields (fields : Fields) : Except (List Fault) Query :=
  let sort := match fields.get? "sort" with
    | some v => readTexts "sort" v
    | none => .ok []
  let limit := readLimit (fieldValue fields "limit")
  let (key, token) := tokenField fields
  let token := readToken key token
  let kept := fieldValue fields "fields"
  let kept := if kept.isNull then .ok none else (readTexts "fields" kept).map some
  match sort, limit, token, kept with
  | .ok sort, .ok limit, .ok token, .ok kept =>
    .ok ⟨fieldValue fields "filter", sort, limit, token, kept⟩
  | sort, limit, token, kept =>
    .error (faultsOf sort ++ faultsOf limit ++ faultsOf token ++ faultsOf kept)

/-- **The query that a value gives**, or all its faults. -/
def ofValue : Value → Except (List Fault) Query
  | .object fields => ofFields fields
  | v => .error [⟨"", .notModel, v⟩]

end Query

namespace QueryResult

/-- **The result page with these items**, each of which has to be an object. -/
def ofItems (items : List Value) (token : Option String) : Except (List Fault) QueryResult :=
  let faults := items.zipIdx.filterMap fun (item, i) =>
    if item.isObject then none else some (⟨"items." ++ toString i, .notObject, item⟩ : Fault)
  if faults.isEmpty then .ok ⟨items.filterMap Value.fields?, token⟩ else .error faults

end QueryResult

end EntityStore
