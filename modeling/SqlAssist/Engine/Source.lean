/-
# Sources of names

A source stands for a connected database. One kind holds a catalog in memory, which can be
changed while it is in use, and answers at once with what it then holds. The other kind follows a
script: each fetch of names takes the next line of it, which says what to answer and which gate
to wait for before.
-/

import SqlAssist.Catalog.Database
import SqlAssist.Error.Metadata

namespace SqlAssist

/-- The answer of a source to a fetch of names or keywords. -/
abbrev Answer := Except MetadataError NameSet

/-- How one fetch goes. -/
structure Fetch where
  /-- The gate that has to open first. -/
  gate : Option String := none
  /-- The answer given then; `none` stands for a fetch that never ends. -/
  answer : Option Answer

/-- The answer of a fetch on its own, whose gate nobody opens, and the milliseconds it took. It is
given up after `limit` milliseconds. -/
def Fetch.alone (fetch : Fetch) (limit : Nat) : Answer × Nat :=
  match fetch.gate, fetch.answer with
  | none, some answer => (answer, 0)
  | _, _ => (.error (.timeout (.ofMilliseconds limit)), limit)

/-- A database as the engine sees it. -/
inductive Source where
  /-- A catalog in memory with a fixed list of advertised keywords. -/
  | catalog (database : Database) (keywords : NameSet)
  /-- Keyword fetches all go the same way, fetches of names go by the script. -/
  | scripted (keywords : Fetch) (names : List Fetch)

namespace Source

/-- How a fetch of keywords goes. -/
def keywordFetch : Source → Fetch
  | catalog _ keywords => { answer := some (.ok keywords) }
  | scripted keywords _ => keywords

/-- How the next fetch of names goes, and the source after it was begun. A script that has run out
answers that the connection is closed. -/
def nameFetch : Source → Fetch × Source
  | catalog database keywords =>
    ({ answer := some (.ok database.objectNames) }, catalog database keywords)
  | scripted keywords [] => ({ answer := some (.error .closed) }, scripted keywords [])
  | scripted keywords (fetch :: rest) => (fetch, scripted keywords rest)

/-- Put a table into a catalog in memory; scripts have no tables. -/
def insertTable (source : Source) (schema : String) (table : Table) : Source :=
  match source with
  | catalog database keywords => catalog (database.insertTable schema table) keywords
  | scripted keywords names => scripted keywords names

/-- Remove a table from a catalog in memory and return it. -/
def dropTable (source : Source) (schema table : String) : Option Table × Source :=
  match source with
  | catalog database keywords =>
    let (dropped, after) := database.dropTable schema table
    (dropped, catalog after keywords)
  | scripted keywords names => (none, scripted keywords names)

end Source

end SqlAssist
