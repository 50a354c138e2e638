import LiquidityClient.Toml.Quoted
import LiquidityClient.Toml.Scalar

/-!
# TOML documents

A document is read in two steps : its lines are statements, that is headers and entries, and the
statements together make a table. `Table.put?` and `Table.define?` refuse what would define a name
twice or reopen a table that is closed; a table is open as long as only longer names have implied
it.
-/

namespace LiquidityClient.Toml

/-! ## Keys and values -/

/-- May the character stand in a bare key? -/
def isBare (c : Char) : Bool :=
  c.isAlphanum || c = '-' || c = '_'

/-- One part of a key, and the rest. -/
def simpleKey? (cs : List Char) : Option (String × List Char) :=
  match cs with
  | [] => none
  | c :: rest =>
    if c = Quoted.basicMark then
      (Quoted.basic? rest).map fun (text, rest) => (String.ofList text, rest)
    else if c = Quoted.literalMark then
      (Quoted.literal? rest).map fun (text, rest) => (String.ofList text, rest)
    else if isBare c then some (String.ofList (cs.takeWhile isBare), cs.dropWhile isBare)
    else none

/-- How many parts a key may have, and how deep arrays and tables may nest in a value. -/
def depthLimit : Nat := 79

/-- A key of at most `count` parts with points between them, and the rest behind it and its
blanks. -/
def key? : Nat → List Char → Option (List String × List Char)
  | 0, _ => none
  | count + 1, cs =>
    match simpleKey? (cs.dropWhile isBlank) with
    | none => none
    | some (part, rest) =>
      match rest.dropWhile isBlank with
      | '.' :: rest => (key? count rest).map fun (parts, rest) => (part :: parts, rest)
      | rest => some ([part], rest)

/-- The rest behind blanks, line ends and comments. -/
def skipTrivia (inComment : Bool) : List Char → Option (List Char)
  | [] => if inComment then none else some []
  | '\n' :: rest => skipTrivia false rest
  | '\r' :: '\n' :: rest => skipTrivia false rest
  | c :: rest =>
    if inComment then (if isPrintable c then skipTrivia true rest else none)
    else if c = '#' then skipTrivia true rest
    else if isBlank c then skipTrivia false rest
    else some (c :: rest)

/-- The items of an array behind its opening bracket, with a reader of items, and the rest. -/
def items? (item? : List Char → Option (Value × List Char)) :
    Nat → List Char → Option (List Value × List Char)
  | 0, _ => none
  | fuel + 1, cs =>
    match skipTrivia false cs with
    | none => none
    | some (']' :: rest) => some ([], rest)
    | some cs =>
      match item? cs with
      | none => none
      | some (value, rest) =>
        match skipTrivia false rest with
        | some (',' :: rest) =>
          (items? item? fuel rest).map fun (values, rest) => (value :: values, rest)
        | some (']' :: rest) => some ([value], rest)
        | _ => none

/-- An entry : a key and its value. -/
abbrev Entry := List String × Value

/-- A key and a value with an equals sign between them, and the rest. -/
def assignment? (value? : List Char → Option (Value × List Char)) (cs : List Char) :
    Option (Entry × List Char) :=
  match key? depthLimit cs with
  | some (key, '=' :: rest) =>
    (value? (rest.dropWhile isBlank)).map fun (value, rest) => ((key, value), rest)
  | _ => none

/-- The entries of a table in braces, and the rest behind the closing brace. -/
def assignments? (value? : List Char → Option (Value × List Char)) :
    Nat → List Char → Option (List Entry × List Char)
  | 0, _ => none
  | fuel + 1, cs =>
    match assignment? value? cs with
    | none => none
    | some (entry, rest) =>
      match rest.dropWhile isBlank with
      | c :: rest =>
        if c = ',' then (assignments? value? fuel rest).map fun (more, rest) =>
          (entry :: more, rest)
        else if c = '\x7d' then some ([entry], rest)
        else none
      | [] => none

/-! ## Tables under construction -/

/-- How a table came about. -/
inductive Origin where
  /-- By its own header; the table is closed. -/
  | header
  /-- By the header of a table inside it. -/
  | implied
  /-- By a key with points. -/
  | dotted
  deriving DecidableEq, Repr

/-- A part of a table under construction. -/
inductive Node where
  | value (value : Value)
  | table (origin : Origin) (entries : List (String × Node))
  | tables (items : List (List (String × Node)))

/-- A table under construction. -/
abbrev Draft := List (String × Node)

namespace Draft

/-- The draft with another node under a name that it has. -/
def replace (draft : Draft) (name : String) (node : Node) : Draft :=
  draft.map fun entry => if entry.1 = name then (name, node) else entry

/-- The draft with a new entry, whose name it must not have, inside the tables on the path. -/
def put? (name : String) (value : Value) : List String → Draft → Option Draft
  | [], draft =>
    match draft.lookup name with
    | none => some (draft ++ [(name, .value value)])
    | some _ => none
  | step :: path, draft =>
    match draft.lookup step with
    | none => (put? name value path []).map fun inner => draft ++ [(step, .table .dotted inner)]
    | some (.value _) => none
    | some (.table origin inner) =>
      if origin = .header ∨ (path = [] ∧ origin ≠ .dotted) then none
      else (put? name value path inner).map fun inner => draft.replace step (.table origin inner)
    | some (.tables items) =>
      if path = [] then none
      else
        (put? name value path (items.getLast?.getD [])).map fun inner =>
          draft.replace step (.tables (items.dropLast ++ [inner]))

/-- The draft with all the entries. -/
def putAll? (draft : Draft) (entries : List Entry) : Option Draft :=
  entries.foldlM (fun draft entry =>
    put? (entry.1.getLast?.getD "") entry.2 entry.1.dropLast draft) draft

/-- The draft in which a header has defined the table `name` inside the tables on the path, with the
entries that follow it; `repeated` tells a header of one more table under the same name. -/
def define? (repeated : Bool) (name : String) (entries : List Entry) :
    List String → Draft → Option Draft
  | [], draft =>
    match repeated, draft.lookup name with
    | false, none =>
      (putAll? [] entries).map fun body => draft ++ [(name, .table .header body)]
    | false, some (.table .implied inner) =>
      (putAll? inner entries).map fun body => draft.replace name (.table .header body)
    | true, none => (putAll? [] entries).map fun body => draft ++ [(name, .tables [body])]
    | true, some (.tables items) =>
      (putAll? [] entries).map fun body => draft.replace name (.tables (items ++ [body]))
    | _, _ => none
  | step :: path, draft =>
    match draft.lookup step with
    | none =>
      (define? repeated name entries path []).map fun inner =>
        draft ++ [(step, .table .implied inner)]
    | some (.value _) => none
    | some (.table origin inner) =>
      (define? repeated name entries path inner).map fun inner =>
        draft.replace step (.table origin inner)
    | some (.tables items) =>
      (define? repeated name entries path (items.getLast?.getD [])).map fun inner =>
        draft.replace step (.tables (items.dropLast ++ [inner]))

end Draft

mutual

/-- The value of a finished node. -/
def Node.finish : Node → Value
  | .value value => value
  | .table _ entries => .table (finishEntries entries)
  | .tables items => .array (finishTables items)

/-- The entries of a finished table. -/
def finishEntries : List (String × Node) → Table
  | [] => []
  | (name, node) :: rest => (name, node.finish) :: finishEntries rest

/-- The tables of a finished array. -/
def finishTables : List (List (String × Node)) → List Value
  | [] => []
  | entries :: rest => .table (finishEntries entries) :: finishTables rest

end

/-- A value in which arrays and tables nest at most `depth` deep, and the rest. -/
def value? : Nat → List Char → Option (Value × List Char)
  | depth, c :: rest =>
    if c = Quoted.basicMark ∨ c = Quoted.literalMark then
      (Quoted.read? (c :: rest)).map fun (text, rest) => (.string (String.ofList text), rest)
    else
      match depth with
      | 0 => scalar? (c :: rest)
      | depth + 1 =>
        if c = '[' then
          (items? (value? depth) (rest.length + 1) rest).map fun (items, rest) =>
            (.array items, rest)
        else if c = '\x7b' then
          match rest.dropWhile isBlank with
          | '\x7d' :: rest => some (.table [], rest)
          | _ =>
            match assignments? (value? depth) (rest.length + 1) rest with
            | none => none
            | some (entries, rest) =>
              (Draft.putAll? [] entries).map fun draft => (.table (finishEntries draft), rest)
        else scalar? (c :: rest)
  | _, [] => none

/-! ## Lines -/

/-- The header of a table. -/
structure Header where
  path : List String
  /-- Does the header add one more table under its name? -/
  repeated : Bool
  deriving Repr

/-- What a line says. -/
inductive Statement where
  | header (header : Header)
  | entry (entry : Entry)
  deriving Repr

/-- The rest behind blanks, a comment and the line end or the end of the text. -/
def endLine? (cs : List Char) : Option (List Char) :=
  let cs := cs.dropWhile isBlank
  let behind :=
    match cs with
    | '#' :: rest => rest.dropWhile isPrintable
    | _ => cs
  match behind with
  | [] => some []
  | _ => newline? behind

/-- A statement, and the rest. -/
def statement? : List Char → Option (Statement × List Char)
  | '[' :: '[' :: rest =>
    match key? depthLimit rest with
    | some (path, ']' :: ']' :: rest) => some (.header ⟨path, true⟩, rest)
    | _ => none
  | '[' :: rest =>
    match key? depthLimit rest with
    | some (path, ']' :: rest) => some (.header ⟨path, false⟩, rest)
    | _ => none
  | cs => (assignment? (value? depthLimit) cs).map fun (entry, rest) => (.entry entry, rest)

/-- The statements of a text, one on a line. -/
def statements? : Nat → List Char → Option (List Statement)
  | 0, _ => none
  | fuel + 1, cs =>
    match cs.dropWhile isBlank with
    | [] => some []
    | cs =>
      match endLine? cs with
      | some rest => statements? fuel rest
      | none =>
        match statement? cs with
        | none => none
        | some (statement, rest) =>
          match endLine? rest with
          | none => none
          | some rest => (statements? fuel rest).map (statement :: ·)

/-- The entries in front of the first header, and each header with the entries behind it. -/
def sections : List Statement → List Entry × List (Header × List Entry)
  | [] => ([], [])
  | .entry entry :: rest =>
    let (entries, more) := sections rest
    (entry :: entries, more)
  | .header header :: rest =>
    let (entries, more) := sections rest
    ([], (header, entries) :: more)

/-- The table that statements make. -/
def assemble? (statements : List Statement) : Option Table := do
  let (entries, more) := sections statements
  let root ← Draft.putAll? [] entries
  let draft ← more.foldlM (fun draft (header, entries) =>
    draft.define? header.repeated (header.path.getLast?.getD "") entries header.path.dropLast) root
  return finishEntries draft

/-- The table of a document. -/
def parse? (text : String) : Option Table :=
  let cs :=
    match text.toList with
    | '\ufeff' :: rest => rest
    | cs => cs
  match statements? (cs.length + 1) cs with
  | some statements => assemble? statements
  | none => none

end LiquidityClient.Toml
