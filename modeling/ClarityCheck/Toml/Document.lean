import ClarityCheck.Toml.Scalar

/-!
# TOML documents

A document becomes the JSON object with the same content. Headers and dotted keys lead through
tables, which they create where they are missing; no key may be given twice, no table may be opened
twice, and what stands between braces or brackets cannot be extended. Tables keep their keys in
order.

Faults come up in three rounds: those in the structure of the lines, those in words and keys from
the beginning to the end, and numbers that are too large in the order of keys.
-/

namespace ClarityCheck.Toml

/-- How a table came about. -/
inductive Origin where
  /-- A header names the table. -/
  | header
  /-- A header or dotted key leads through the table. -/
  | passing (dotted : Bool)
  /-- The table stands between braces. -/
  | braces
  deriving DecidableEq, Repr

/-- What a key stands for. -/
inductive Node where
  | scalar (s : Scalar)
  | array (items : List Node)
  | table (origin : Origin) (entries : List (String × Node))
  /-- An array of tables, in reverse order. -/
  | tables (last : List (String × Node)) (before : List (List (String × Node)))

/-- The keys of a table, in order, with what they stand for. -/
abbrev Entries := List (String × Node)

namespace Node

mutual

/-- The JSON value of a node. -/
def toJson : Node → Checked Json
  | .scalar s => s.toJson
  | .array items => (itemsJson items).map .arr
  | .table _ entries => (entriesJson entries).map .obj
  | .tables last before =>
    match tablesJson before with
    | .error f => .error f
    | .ok vs => (entriesJson last).map fun ms => .arr (vs ++ [.obj ms])

/-- The JSON values of the items of an array. -/
def itemsJson : List Node → Checked (List Json)
  | [] => .ok []
  | n :: ns =>
    match n.toJson with
    | .error f => .error f
    | .ok v => (itemsJson ns).map (v :: ·)

/-- The members for the entries of a table. -/
def entriesJson : Entries → Checked (List (String × Json))
  | [] => .ok []
  | (key, node) :: rest =>
    match node.toJson with
    | .error f => .error f
    | .ok v => (entriesJson rest).map ((key, v) :: ·)

/-- The objects for tables in reverse order. -/
def tablesJson : List Entries → Checked (List Json)
  | [] => .ok []
  | entries :: before =>
    match tablesJson before with
    | .error f => .error f
    | .ok vs => (entriesJson entries).map fun ms => vs ++ [.obj ms]

end

/-- What a value that cannot be extended is called in faults. -/
def kindName : Node → String
  | .scalar s => s.kindName
  | .array _ | .tables .. => "array"
  | .table .. => "inline table"

end Node

namespace Entries

/-- Changes what a key stands for, or adds a key where it belongs. A change to nothing removes it.
-/
def alter (change : Option Node → Checked (Option Node)) (key : String) :
    Entries → Checked Entries
  | [] => (change none).map fun n => (n.map (key, ·)).toList
  | (k, n) :: rest =>
    if k = key then (change (some n)).map fun n => (n.map (key, ·)).toList ++ rest
    else if key < k then (change none).map fun m => (m.map (key, ·)).toList ++ (k, n) :: rest
    else (alter change key rest).map ((k, n) :: ·)

/-- A part of a key with its word. -/
structure Part where
  name : String
  word : Word

/-- The fault of a key that is given twice. -/
def duplicate (p : Part) : Fault := p.word.fault "duplicate key"

/-- Changes the table at the end of a path. Missing tables are created on the way. `change` is told
whether a dotted key has created the table. -/
def descend (dotted : Bool) (change : Bool → Entries → Checked Entries) (origin : Bool) :
    List Part → Entries → Checked Entries
  | [], entries => change origin entries
  | part :: path, entries =>
    let extend : Option Node → Checked Node
      | none => (descend dotted change dotted path []).map (.table (.passing dotted) ·)
      | some (.table o inner) =>
        if o = .braces then .error (part.word.fault
          "cannot extend value of type inline table with a dotted key")
        else if dotted ∧ o = .header then .error (duplicate part)
        else (descend dotted change (o == .passing true) path inner).map (.table o ·)
      | some (.tables last before) =>
        if dotted then .error (duplicate part)
        else (descend dotted change false path last).map (.tables · before)
      | some n => .error (part.word.fault
          ("cannot extend value of type " ++ n.kindName ++ " with a dotted key"))
    alter (fun n => (extend n).map some) part.name entries

/-- Adds a value under a key, which may lead through further tables. -/
def insert (path : List Part) (key : Part) (value : Node) (entries : Entries) : Checked Entries :=
  descend true (fun dotted inner =>
    if dotted = path.isEmpty then .error (duplicate key)
    else alter (fun
      | none => .ok (some value)
      | some _ => .error (duplicate key)) key.name inner) false path entries

end Entries

open Entries

/-! ## Values -/

/-- The parts of a key. -/
def readParts : List Word → Checked (List Part)
  | [] => .ok []
  | w :: ws =>
    match w.name with
    | .error f => .error f
    | .ok name => (readParts ws).map (⟨name, w⟩ :: ·)

/-- The last part of a key and those before it. -/
def cutLast (parts : List Part) : List Part × Part :=
  (parts.dropLast, parts.getLast?.getD ⟨"", .missing 0⟩)

mutual

/-- The value that a literal writes. -/
def Literal.node : Literal → Checked Node
  | .word w => w.scalar.map .scalar
  | .array items => (itemNodes items).map .array
  | .table entries => (entryNodes entries []).map (.table .braces)

/-- The values of the items of an array. -/
def itemNodes : List Literal → Checked (List Node)
  | [] => .ok []
  | v :: vs =>
    match v.node with
    | .error f => .error f
    | .ok v => (itemNodes vs).map (v :: ·)

/-- Adds the entries of a table in braces. -/
def entryNodes : List (List Word × Literal) → Entries → Checked Entries
  | [], entries => .ok entries
  | (key, v) :: rest, entries =>
    match readParts key with
    | .error f => .error f
    | .ok parts =>
      match v.node with
      | .error f => .error f
      | .ok v =>
        match insert (cutLast parts).1 (cutLast parts).2 v entries with
        | .error f => .error f
        | .ok entries => entryNodes rest entries

end

/-! ## Tables -/

/-- A header whose key has been read. -/
structure Header where
  many : Bool
  path : List Part
  key : Part

/-- A document up to some line: the tables that are complete, and the one that the last header has
opened. -/
structure Progress where
  root : Entries
  header : Option Header
  current : Entries

namespace Progress

/-- Nothing has been read yet. -/
def beginning : Progress := ⟨[], none, []⟩

/-- The document with the current table where it belongs. -/
def close (p : Progress) : Checked Entries :=
  match p.header with
  | none => .ok p.current
  | some h => descend false (fun _ inner =>
      alter (fun n =>
        if h.many then
          match n with
          | none => .ok (some (.tables p.current []))
          | some (.tables last before) => .ok (some (.tables p.current (last :: before)))
          | some _ => .error (duplicate h.key)
        else .ok (some (.table .header p.current))) h.key.name inner) false h.path p.root

/-- The table that a path leads to, empty when there is none. -/
def tableAt : List Part → Entries → Entries
  | [], entries => entries
  | part :: path, entries =>
    match entries.lookup part.name with
    | some (.table _ inner) => tableAt path inner
    | some (.tables last _) => tableAt path last
    | _ => []

/-- Takes out what stands under the key of a header. It may only be a table that other headers have
led through; no other table can be opened again. -/
def takeOut (key : Part) : Option Node → Checked (Option Node)
  | none | some (.table (.passing false) _) => .ok none
  | some _ => .error (duplicate key)

/-- Opens the table that a header names. It keeps what headers have put there before. -/
def openTable (h : Header) (root : Entries) : Checked Progress :=
  if h.many then .ok ⟨root, some h, []⟩
  else
    let held := match (tableAt h.path root).lookup h.key.name with
      | some (.table _ entries) => entries
      | _ => []
    (descend false (fun _ inner => alter (takeOut h.key) h.key.name inner) false h.path root).map
      fun root => ⟨root, some h, held⟩

/-- Adds an expression. -/
def add (p : Progress) : Expression → Checked Progress
  | .entry key v =>
    match readParts key with
    | .error f => .error f
    | .ok parts =>
      match v.node with
      | .error f => .error f
      | .ok v => (insert (cutLast parts).1 (cutLast parts).2 v p.current).map
          fun current => { p with current }
  | .header many key =>
    match p.close with
    | .error f => .error f
    | .ok root =>
      match readParts key with
      | .error f => .error f
      | .ok parts => openTable ⟨many, (cutLast parts).1, (cutLast parts).2⟩ root

/-- Adds expressions, and closes the last table. -/
def addAll : List Expression → Progress → Checked Entries
  | [], p => p.close
  | e :: es, p =>
    match p.add e with
    | .error f => .error f
    | .ok p => addAll es p

end Progress

/-! ## Documents -/

/-- The members of the object that the tokens of a document write. -/
def readTokens (ts : List Token) : Checked (List (String × Json)) :=
  match Expression.ofTokens ts with
  | .error f => .error f
  | .ok es =>
    match Progress.addAll es .beginning with
    | .error f => .error f
    | .ok entries => Node.entriesJson entries

/-- The members of the object that a document writes, or the wording of its first fault. -/
def ofString (source : String) : Except String (List (String × Json)) :=
  (readTokens (documentTokens source.toList)).mapError (·.text source.toList)

end ClarityCheck.Toml
