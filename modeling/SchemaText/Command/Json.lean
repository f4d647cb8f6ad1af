import SchemaText.Schema
/-! Schemas written as JSON. -/

namespace SchemaText.Command

inductive Json where
  | null
  | flag (value : Bool)
  | text (value : String)
  | list (items : List Json)
  | record (fields : List (String × Json))

namespace Json

def hex4 (n : Nat) : List Char :=
  let digits := Nat.toDigits 16 n
  '\\' :: 'u' :: (List.replicate (4 - digits.length) '0' ++ digits)

def escape (c : Char) : List Char :=
  let n := c.toNat
  if c = '"' ∨ c = '\\' then ['\\', c]
  else if c = '\n' then ['\\', 'n']
  else if c = '\r' then ['\\', 'r']
  else if c = '\t' then ['\\', 't']
  else if n = 8 then ['\\', 'b']
  else if n = 12 then ['\\', 'f']
  else if 32 ≤ n ∧ n ≤ 126 then [c]
  else if n < 0x10000 then hex4 n
  else hex4 (0xD800 + (n - 0x10000) / 0x400) ++ hex4 (0xDC00 + (n - 0x10000) % 0x400)

def quote (text : String) : String :=
  String.ofList ('"' :: text.toList.flatMap escape ++ ['"'])

def indentation (depth : Nat) : String :=
  String.ofList ('\n' :: List.replicate (2 * depth) ' ')

def block (opening closing : String) (depth : Nat) (items : List String) : String :=
  if items.isEmpty then opening ++ closing
  else
    opening ++ ",".intercalate (items.map (indentation (depth + 1) ++ ·)) ++ indentation depth ++
      closing

def render (depth : Nat) : Json → String
  | null => "null"
  | flag true => "true"
  | flag false => "false"
  | text value => quote value
  | list items => block "[" "]" depth (items.map fun item => item.render (depth + 1))
  | record fields =>
    block "\x7b" "\x7d" depth
      (fields.map fun field => quote field.1 ++ ": " ++ field.2.render (depth + 1))
termination_by json => json
decreasing_by
  · have := List.sizeOf_lt_of_mem ‹item ∈ items›
    simp only [list.sizeOf_spec]
    omega
  · have := List.sizeOf_lt_of_mem ‹field ∈ fields›
    have : sizeOf field = 1 + sizeOf field.1 + sizeOf field.2 := by cases field; rfl
    simp only [record.sizeOf_spec]
    omega

def ofText? : Option String → Json
  | none => null
  | some value => text value

def ofColumn (c : Column) : Json :=
  record
    [("name", text c.name), ("type", text c.type), ("primary_key", flag c.primaryKey),
      ("not_null", flag c.notNull), ("unique", flag c.unique),
      ("auto_increment", flag c.autoIncrement), ("default", ofText? c.default),
      ("note", ofText? c.note)]

def ofIndex (i : Index) : Json :=
  record
    [("columns", list (i.columns.map text)), ("unique", flag i.unique), ("name", ofText? i.name)]

def ofTable (t : Table) : Json :=
  record
    [("id", text t.id), ("name", text t.name), ("schema", ofText? t.schema),
      ("columns", list (t.columns.map ofColumn)), ("indexes", list (t.indexes.map ofIndex)),
      ("note", ofText? t.note), ("color", ofText? t.color)]

def ofRelationship (r : Relationship) : Json :=
  record
    [("from_table", text r.fromTable), ("from_column", text r.fromColumn),
      ("to_table", text r.toTable), ("to_column", text r.toColumn),
      ("type", text r.cardinality.symbol), ("label", ofText? r.label), ("id", text r.id)]

def ofEnumeration (e : Enumeration) : Json :=
  record [("name", text e.name), ("values", list (e.values.map text))]

def ofSchema (s : Schema) : Json :=
  record
    [("tables", list (s.tables.map ofTable)),
      ("relationships", list (s.relationships.map ofRelationship)),
      ("enums", list (s.enumerations.map ofEnumeration))]

end Json

end SchemaText.Command
