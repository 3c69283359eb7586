import LanguageClient.Json.Basic

/-!
# Tables of TOML

A document grows by headers, which open tables, and by assignments under them. How a table came to
be decides what may still be done to it: each table is opened at most once, what dotted keys have
begun no header opens, and dotted keys add nothing to what a header has opened.
-/

namespace LanguageClient.Toml

/-- How a table came to be. -/
inductive Origin
  /-- It is on the path of a header. -/
  | implied
  /-- It is on the path of a dotted key. -/
  | dotted
  /-- A header opened it. -/
  | opened
  deriving DecidableEq, Repr

/-- What stands at a key of a document that is being read. -/
inductive Node where
  /-- A value, which nothing can be added to. -/
  | value (v : Json)
  | table (origin : Origin) (entries : List (String × Node))
  /-- Tables with a common header; only the last can be added to. -/
  | tables (before : List Json) (last : List (String × Node))

abbrev Entries := Table Node

mutual

def Node.json : Node → Json
  | .value v => v
  | .table _ entries => .obj (fields entries)
  | .tables before last => .arr (before ++ [.obj (fields last)])

/-- The fields of a table as values. -/
def fields : List (String × Node) → List (String × Json)
  | [] => []
  | (key, node) :: rest => (key, node.json) :: fields rest

end

/-- Change the table at the end of a path, making those on the path that are not there yet. A path
of `dotted` keys goes through no table that a header opened. -/
def descend (dotted : Bool) (change : Origin → Entries → Option Entries) :
    List String → Origin → Entries → Option Entries
  | [], origin, entries => change origin entries
  | key :: path, _, entries =>
    match entries.find? key with
    | none => do
      let origin := if dotted then .dotted else .implied
      return entries.insert key (.table origin (← descend dotted change path origin []))
    | some (.table origin inner) => do
      if dotted && origin = .opened then none
      return entries.insert key (.table origin (← descend dotted change path origin inner))
    | some (.tables before last) => do
      return entries.insert key (.tables before (← descend dotted change path .opened last))
    | some (.value _) => none

/-- Open a table. -/
def openTable (path : List String) (key : String) (root : Entries) : Option Entries :=
  let change (_ : Origin) (entries : Entries) : Option Entries :=
    match entries.find? key with
    | none => some (entries.insert key (.table .opened []))
    | some (.table .implied inner) => some (entries.insert key (.table .opened inner))
    | some _ => none
  descend false change path .opened root

/-- Begin one more of the tables with a common header. -/
def openNext (path : List String) (key : String) (root : Entries) : Option Entries :=
  let change (_ : Origin) (entries : Entries) : Option Entries :=
    match entries.find? key with
    | none => some (entries.insert key (.tables [] []))
    | some (.tables before last) =>
      some (entries.insert key (.tables (before ++ [.obj (fields last)]) []))
    | some _ => none
  descend false change path .opened root

/-- Give a value to a key that has none. A dotted key adds to no table that a header opened. -/
def put (dotted : Bool) (key : String) (v : Json) (origin : Origin) (entries : Entries) :
    Option Entries :=
  if (dotted && origin = .opened) || (entries.find? key).isSome then none
  else some (entries.insert key (.value v))

/-- Give a value to a dotted key under a header. -/
def assign (header path : List String) (key : String) (v : Json) (root : Entries) :
    Option Entries :=
  descend false (descend true (put (!path.isEmpty) key v) path) header .opened root

end LanguageClient.Toml
