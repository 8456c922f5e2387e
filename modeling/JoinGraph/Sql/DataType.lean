import JoinGraph.Sql.Name

/-!
# Types

The types of casts and of typed values. A type that is known by its word has one spelling, mostly
in capitals; any other name is a type of its own, and is written as it stands. Some types hold
others.
-/

namespace JoinGraph.Sql.Grammar

open Parse

/-- What follows the word of a known type. -/
inductive TypeForm where
  | plain
  /-- perhaps `UNSIGNED` -/
  | real
  /-- a width, and perhaps `UNSIGNED` -/
  | integer
  /-- a precision and a scale -/
  | decimal
  /-- a precision and a scale, and perhaps `UNSIGNED` -/
  | float
  /-- a number of characters -/
  | characters
  /-- a number of bytes, which may be `MAX` -/
  | bytes
  /-- a length -/
  | sized
  /-- a length that has to be told -/
  | fixed
  /-- a precision, and perhaps a time zone -/
  | time
  /-- a precision and perhaps the name of a time zone, which have to be told -/
  | moment
  /-- the parts of a date that an interval has -/
  | interval
  /-- a list of strings, each perhaps with a number -/
  | labels
  /-- a list of strings -/
  | strings
  deriving DecidableEq, Repr

/-- What a type is good for in front of a value. -/
inductive TypeUse where
  /-- it makes a typed value -/
  | known
  /-- it begins an interval -/
  | interval
  /-- it may be a cast -/
  | binary
  /-- it is only a name -/
  | custom
  deriving DecidableEq, Repr

/-- A type as text. -/
structure DataType where
  text : String
  usage : TypeUse

/-- The words of the types that are known, by what follows them. -/
def typeWords : List (TypeForm × List String) :=
  [(.plain, ["BOOLEAN", "BOOL", "UUID", "DATE", "DATE32", "JSON", "JSONB", "REGCLASS", "TEXT",
      "TINYTEXT", "MEDIUMTEXT", "LONGTEXT", "BYTEA", "TINYBLOB", "MEDIUMBLOB", "LONGBLOB", "FLOAT4",
      "FLOAT8", "FLOAT32", "FLOAT64", "INT16", "INT32", "INT64", "INT128", "INT256", "UINT8",
      "UINT16", "UINT32", "UINT64", "UINT128", "UINT256", "UTINYINT", "USMALLINT", "UBIGINT",
      "HUGEINT", "UHUGEINT", "TRIGGER"]),
    (.real, ["REAL"]),
    (.integer, ["TINYINT", "SMALLINT", "MEDIUMINT", "INT", "INT2", "INT4", "INT8", "INTEGER",
      "BIGINT"]),
    (.decimal, ["NUMERIC", "BIGNUMERIC", "BIGDECIMAL"]),
    (.float, ["FLOAT", "DOUBLE", "DECIMAL", "DEC"]),
    (.characters, ["VARCHAR", "NVARCHAR", "CHARACTER", "CHAR"]),
    (.bytes, ["VARBINARY"]),
    (.sized, ["CLOB", "BINARY", "BLOB", "BYTES", "BIT", "VARBIT", "STRING", "DATETIME",
      "TIMESTAMPTZ", "TIMETZ", "TIMESTAMP_NTZ"]),
    (.fixed, ["FIXEDSTRING"]),
    (.time, ["TIMESTAMP", "TIME"]),
    (.moment, ["DATETIME64"]),
    (.interval, ["INTERVAL"]),
    (.labels, ["ENUM", "ENUM8", "ENUM16"]),
    (.strings, ["SET"])]

/-- The known types that are not written in capitals. -/
def smallTypeNames : List (String × String) :=
  [("INT16", "Int16"), ("INT32", "Int32"), ("INT128", "Int128"), ("INT256", "Int256"),
    ("UINT8", "UInt8"), ("UINT16", "UInt16"), ("UINT32", "UInt32"), ("UINT64", "UInt64"),
    ("UINT128", "UInt128"), ("UINT256", "UInt256"), ("FLOAT32", "Float32"), ("DATE32", "Date32"),
    ("FIXEDSTRING", "FixedString"), ("DATETIME64", "DateTime64"), ("NULLABLE", "Nullable"),
    ("LOWCARDINALITY", "LowCardinality"), ("MAP", "Map"), ("NESTED", "Nested"), ("TUPLE", "Tuple"),
    ("POINT", "point"), ("LINE", "line"), ("LSEG", "lseg"), ("BOX", "box"), ("PATH", "path"),
    ("POLYGON", "polygon"), ("CIRCLE", "circle")]

/-- How a known type is written. -/
def typeName (word : String) : String :=
  ((smallTypeNames.find? fun entry => entry.1 == word).map (·.2)).getD word

/-- The words of the types of geometric values. -/
def geometricWords : List String := ["POINT", "LINE", "LSEG", "BOX", "PATH", "POLYGON", "CIRCLE"]

/-- The words of the types that only some dialects know. -/
def dialectTypeWords (d : Dialect) : List String :=
  (if d.geometricOperators then geometricWords else [])
    ++ (if d == .postgres || d == .generic then ["TSVECTOR", "TSQUERY"] else [])

/-- What follows a word if it is that of a known type. -/
def typeForm? (d : Dialect) (word : String) : Option TypeForm :=
  if (dialectTypeWords d).contains word then some .plain
  else (typeWords.find? fun entry => entry.2.contains word).map (·.1)

/-- The words of the types that hold other types. -/
def nestingWords : List String :=
  ["ARRAY", "STRUCT", "NULLABLE", "LOWCARDINALITY", "MAP", "NESTED", "TUPLE", "UNION", "TABLE",
    "ANY", "SIGNED", "UNSIGNED"]

/-- Reads a natural number below the 64th power of two. -/
def natural : Parse String := do
  match ← peek? with
  | some (.number digits _) =>
    if !digits.isEmpty && digits.toList.all Text.isAsciiDigit
        && Json.digitsValue digits.toList < 18446744073709551616 then
      advance
      return String.ofList (Nat.toDigits 10 (Json.digitsValue digits.toList))
    else complain ("Could not parse '" ++ digits ++ "' as a natural number")
  | _ => expected "literal int"

/-- Reads a number in parentheses, if there is one. -/
def optionalSize : Parse String := do
  if ← isSign "(" then return inParentheses (← parenthesized natural) else return ""

/-- Reads a length in parentheses, if there is one. -/
def optionalLength : Parse String := do
  unless ← isSign "(" do return ""
  parenthesized do
    if ← takeKeyword "MAX" then return "(MAX)"
    let length ← natural
    match ← takeOneOf ["CHARACTERS", "OCTETS"] with
    | some unit => return inParentheses (length ++ " " ++ unit)
    | none => return inParentheses length

/-- Reads a precision and a scale in parentheses, if they are there. -/
def optionalPrecision : Parse String := do
  unless ← isSign "(" do return ""
  parenthesized do
    let precision ← natural
    unless ← takeSign "," do return inParentheses precision
    let isNegative ← takeSign "-"
    unless isNegative do
      let _ ← takeSign "+"
    let scale ← natural
    return inParentheses
      (precision ++ "," ++ (if isNegative && scale != "0" then "-" else "") ++ scale)

/-- Reads a keyword, if it is there, as text behind a blank. -/
def optionalWords (words : List String) : Parse String := do
  if ← takeKeywords words then return " " ++ " ".intercalate words else return ""

/-- Reads a string in single quotes. -/
def singleQuoted : Parse String := do
  match ← peek? with
  | some (.string .single text) =>
    advance
    return quoted '\'' text
  | _ => expected "a string"

/-- Reads a string of an enumeration, and its number. -/
def label : Parse String := do
  let text ← match ← peek? with
    | some (.string .single text) | some (.string .double text) | some (.string .unicode text) =>
      advance
      pure (quoted '\'' text)
    | _ => expected "literal string"
  if ← takeSign "=" then
    let isNegative ← takeSign "-"
    match ← peek? with
    | some (.number digits _) =>
      advance
      return text ++ " = " ++ (if isNegative then "-" else "") ++ digits
    | _ => expected "literal number"
  else return text

/-- Reads a part of a date that begins an interval, and perhaps the one that ends it. -/
def intervalParts : Parse String := do
  match ← takeOneOf ["YEAR", "DAY", "HOUR", "MINUTE", "MONTH", "SECOND"] with
  | none => return ""
  | some first =>
    let ends := match first with
      | "YEAR" => ["MONTH"]
      | "DAY" => ["HOUR", "MINUTE", "SECOND"]
      | "HOUR" => ["MINUTE", "SECOND"]
      | "MINUTE" => ["SECOND"]
      | _ => []
    if ← onlyIf (!ends.isEmpty) (takeKeyword "TO") then
      return " " ++ first ++ " TO " ++ (← expectOneOf ends)
    else return " " ++ first

/-- Reads what follows the word of a type, and yields the whole type. -/
def typeRest (g : Grammar) (word : String) (form : TypeForm) : Parse String := do
  let name := typeName word
  match form with
  | .plain => return name
  | .real => return name ++ (← optionalWords ["UNSIGNED"])
  | .integer =>
    let size ← optionalSize
    let unsigned ← optionalWords ["UNSIGNED"]
    if unsigned.isEmpty && (g.dialect == .mysql || g.dialect == .generic) then
      let _ ← takeKeyword "SIGNED"
    return name ++ size ++ unsigned
  | .decimal => return name ++ (← optionalPrecision)
  | .float =>
    let double ← if word == "DOUBLE" then optionalWords ["PRECISION"] else pure ""
    let precision ← if double.isEmpty then optionalPrecision else pure ""
    return name ++ double ++ precision ++ (← optionalWords ["UNSIGNED"])
  | .characters =>
    let isPlain := word == "CHARACTER" || word == "CHAR"
    if ← onlyIf isPlain (takeKeyword "VARYING") then return name ++ " VARYING" ++ (← optionalLength)
    else if ← onlyIf isPlain (takeKeywords ["LARGE", "OBJECT"]) then
      return name ++ " LARGE OBJECT" ++ (← optionalSize)
    else return name ++ (← optionalLength)
  | .bytes =>
    unless ← isSign "(" do return name
    parenthesized do
      if ← takeKeyword "MAX" then return name ++ "(MAX)"
      else return name ++ inParentheses (← natural)
  | .sized =>
    let varying ← if word == "BIT" then optionalWords ["VARYING"] else pure ""
    return name ++ varying ++ (← optionalSize)
  | .fixed => return name ++ inParentheses (← parenthesized natural)
  | .time =>
    let precision ← optionalSize
    match ← takeOneOf ["WITH", "WITHOUT"] with
    | some side =>
      expectKeywords ["TIME", "ZONE"]
      return name ++ precision ++ " " ++ side ++ " TIME ZONE"
    | none => return name ++ precision
  | .moment => parenthesized do
    let precision ← natural
    if ← takeSign "," then return name ++ inParentheses (precision ++ ", " ++ (← singleQuoted))
    else return name ++ inParentheses precision
  | .interval =>
    if g.dialect == .postgres || g.dialect == .generic then
      let parts ← intervalParts
      return name ++ parts ++ (← optionalSize)
    else return name
  | .labels => return name ++ inParentheses (commaText (← parenthesized (g.list label)))
  | .strings => return name ++ inParentheses (commaText (← parenthesized (g.list singleQuoted)))

/-- Reads the arguments of a type that is only a name. -/
def typeArguments : Parse String := do
  unless ← takeSign "(" do return ""
  let arguments ← repeatFrom [] fun taken => do
    match ← peek? with
    | some (.word text quote?) =>
      advance
      return some ((Ident.mk text quote?).text :: taken)
    | some (.number digits _) =>
      advance
      return some (digits :: taken)
    | some (.string .single text) =>
      advance
      return some (text :: taken)
    | some (.sign ",") =>
      advance
      return some taken
    | some (.sign ")") => return none
    | _ => expected "type modifiers"
  advance
  if arguments.isEmpty then return ""
  else return inParentheses (commaText arguments.reverse)

/-! ## Types that hold types -/

/--
Closes an angle bracket. A sign of two brackets closes the enclosing one as well, which the result
tells.
-/
def closeAngle (isClosed : Bool) : Parse Bool := do
  if isClosed then return false
  else if ← takeSign ">>" then return true
  else
    expectSign ">"
    return false

/-- Reads the brackets that make a type an array. -/
def arrayBrackets (d : Dialect) (type : DataType) : Parse DataType := do
  unless d.bracketArrayTypes do return type
  repeatFrom type fun type => do
    unless ← takeSign "[" do return none
    let size ← maybe natural
    expectSign "]"
    return some ⟨type.text ++ "[" ++ size.getD "" ++ "]", .known⟩

/-- Whether a field of a record type has a name. -/
def fieldIsNamed (tokens : List Lexeme) : Bool :=
  match ahead? 0 tokens, ahead? 1 tokens with
  | some (.word ..), some (.word ..) => true
  | some (.word ..), some (.sign ":") => true
  | _, _ => false

/-- A known type that closes no bracket around it. -/
def wholeType (text : String) : DataType × Bool := (⟨text, .known⟩, false)

/-- Reads a type that closes no bracket around it. -/
def closedType (type : Parse (DataType × Bool)) : Parse String := do
  let (type, closesMore) ← type
  if closesMore then expected "unmatched > after parsing data type" else return type.text

/-- Reads a field of a record type, and tells whether it has also closed the bracket around it. -/
def recordField (type : Parse (DataType × Bool)) : Parse (String × Bool) := do
  let name ← if fieldIsNamed (← get) then do
      let name ← ident
      let _ ← takeSign ":"
      pure (name.text ++ " ")
    else pure ""
  let (inner, isClosed) ← type
  return (name ++ inner.text, isClosed)

/-- Reads fields with names in parentheses. -/
def namedFields (g : Grammar) (type : Parse (DataType × Bool)) : Parse String := do
  let field : Parse String := do
    let name ← ident
    return name.text ++ " " ++ (← closedType type)
  return inParentheses (commaText (← parenthesized (g.list field)))

/-- Reads the fields of a record type in angle brackets. -/
def recordType (type : Parse (DataType × Bool)) : Parse (DataType × Bool) := do
  unless ← takeSign "<" do return wholeType "STRUCT"
  let first ← recordField type
  let (fields, isClosed) ← repeatFrom ([first.1], first.2) fun (fields, isClosed) => do
    if ← eitherOf (return isClosed) noComma then return none
    let (text, isClosed) ← recordField type
    return some (text :: fields, isClosed)
  let closesMore ← closeAngle isClosed
  return (⟨"STRUCT<" ++ commaText fields.reverse ++ ">", .known⟩, closesMore)

/--
The reader of a type that holds other types, if `word` begins one. It is used behind the word;
`type` reads a type inside of it, and tells whether that has also closed the bracket around it.
-/
def nestingType? (g : Grammar) (word : String) (rest : List Lexeme)
    (type : Parse (DataType × Bool)) :
    Option (Parse (DataType × Bool)) :=
  let d := g.dialect
  let inner : Parse (DataType × Bool) := do
    return wholeType (typeName word ++ inParentheses (← parenthesized (closedType type)))
  let fields : Parse (DataType × Bool) := do
    return wholeType (typeName word ++ (← namedFields g type))
  match word with
  | "SIGNED" | "UNSIGNED" => some do
    return wholeType (word ++ (← optionalWords ["INTEGER"]))
  | "ARRAY" => some do
    if d == .snowflake then return wholeType "ARRAY"
    else if d == .clickhouse then
      return wholeType ("Array" ++ inParentheses (← parenthesized (closedType type)))
    else
      expectSign "<"
      let (inner, isClosed) ← type
      let closesMore ← closeAngle isClosed
      return (⟨"ARRAY<" ++ inner.text ++ ">", .known⟩, closesMore)
  | "STRUCT" =>
    if d == .duckdb then some fields else if d.structLiterals then some (recordType type) else none
  | "NULLABLE" | "LOWCARDINALITY" => if d.columnStoreClauses then some inner else none
  | "NESTED" => if d.columnStoreClauses then some fields else none
  | "MAP" =>
    if d.columnStoreClauses then some <| parenthesized do
      let key ← closedType type
      expectSign ","
      return wholeType ("Map" ++ inParentheses (key ++ ", " ++ (← closedType type)))
    else none
  | "TUPLE" =>
    if d.columnStoreClauses then some do
      let entries ← parenthesized (listUntil noComma ((·.1) <$> recordField type))
      return wholeType ("Tuple" ++ inParentheses (commaText entries))
    else none
  | "UNION" => if d == .duckdb || d == .generic then some fields else none
  | "TABLE" => some do
    if ← isSign "(" then fields else return wholeType "TABLE"
  | "ANY" =>
    if keywordAt 0 rest == "TYPE" then some do
      advance
      return wholeType "ANY TYPE"
    else none
  | _ => none

/--
Reads a type that is nested at most `fuel` deep, and tells whether it has also closed the bracket
around it.
-/
def typeWithin (g : Grammar) : (fuel : Nat) → Parse (DataType × Bool)
  | 0 => expected "a data type name"
  | fuel + 1 => do
    let tokens ← get
    let word := keywordAt 0 tokens
    let (type, closesMore) ←
      match typeForm? g.dialect word, nestingType? g word tokens.tail (typeWithin g fuel) with
      | some form, _ =>
        advance
        let text ← typeRest g word form
        pure (⟨text, if form = .interval then TypeUse.interval
          else if word == "BINARY" then .binary else .known⟩, false)
      | none, some nesting =>
        advance
        nesting
      | none, none =>
        match ahead? 0 tokens with
        | some (.word ..) =>
          let name ← objectName g false
          pure (⟨nameText name ++ (← typeArguments), TypeUse.custom⟩, false)
        | _ => expected "a data type name"
    return (← arrayBrackets g.dialect type, closesMore)

/-- Reads a type. -/
def dataType (g : Grammar) : Parse DataType := do
  let (type, closesMore) ← typeWithin g ((← get).length + 1)
  if closesMore then expected "unmatched > after parsing data type" else return type

end JoinGraph.Sql.Grammar
