import EvalForge.Adapters.DemoRag

/-! # The demo dataset

The documents of the demo, the corpus of its adapter, and the cases that ask for
one document after the other.
-/

namespace EvalForge

/-- An entry of `BASE_DOCS`. -/
structure BaseDoc where
  docId : String
  text : String
  answer : String
  facts : List String

def baseDocs : List BaseDoc := [
  { docId := "python-venv"
    text := "The venv module creates lightweight Python virtual environments."
    answer := "Python uses the venv module for virtual environments."
    facts := ["venv", "virtual environments"] },
  { docId := "python-json"
    text := "The json module encodes and decodes JSON documents."
    answer := "Python uses the json module for JSON documents."
    facts := ["json", "JSON documents"] },
  { docId := "python-asyncio"
    text := "The asyncio module supports concurrent code with async and await syntax."
    answer := "Python uses asyncio for async concurrency."
    facts := ["asyncio", "async concurrency"] },
  { docId := "python-pathlib"
    text := "The pathlib module represents filesystem paths as objects."
    answer := "Python uses pathlib for object-oriented filesystem paths."
    facts := ["pathlib", "filesystem paths"] },
  { docId := "python-datetime"
    text := "The datetime module supplies classes for manipulating dates and times."
    answer := "Python uses datetime for dates and times."
    facts := ["datetime", "dates and times"] },
  { docId := "python-logging"
    text := "The logging module provides flexible event logging for applications."
    answer := "Python uses logging for application event logs."
    facts := ["logging", "event logs"] },
  { docId := "python-sqlite3"
    text := "The sqlite3 module provides a DB-API interface for SQLite databases."
    answer := "Python uses sqlite3 for SQLite database access."
    facts := ["sqlite3", "SQLite database"] },
  { docId := "python-unittest"
    text := "The unittest module supports test automation and shared setup code."
    answer := "Python uses unittest for test automation."
    facts := ["unittest", "test automation"] },
  { docId := "python-dataclasses"
    text := "The dataclasses module generates special methods for data containers."
    answer := "Python uses dataclasses for structured data containers."
    facts := ["dataclasses", "data containers"] },
  { docId := "python-argparse"
    text := "The argparse module parses command line options and arguments."
    answer := "Python uses argparse for command line argument parsing."
    facts := ["argparse", "command line"] }]

def BaseDoc.corpusItem (doc : BaseDoc) : Json :=
  .dict [("doc_id", .str doc.docId), ("text", .str doc.text), ("answer", .str doc.answer)]

def buildDemoCorpus : List Json := baseDocs.map (·.corpusItem)

/-! ## Cases -/

def questionForDoc (docId : String) : String :=
  let subject := (subjectOf docId).map fun char => if char = '-' then ' ' else char
  s!"Which Python module is used for {subject}?"

def tagForIndex (index : Nat) : String :=
  if index % 10 = 0 then "hallucination_risk"
  else if index % 7 = 0 then "reasoning_required"
  else if index % 5 = 0 then "edge_case"
  else "easy"

def difficultyForTag (tag : String) : String := if tag = "easy" then "easy" else "medium"

def BaseDoc.casePayload (doc : BaseDoc) (tag : String) : Json :=
  .dict [
    ("input", .dict [("question", .str (questionForDoc doc.docId))]),
    ("expected_output", .str doc.answer),
    ("expected_facts", .list (doc.facts.map .str)),
    ("expected_doc_id", .str doc.docId),
    ("forbidden_claims", .list [.str "quantum database", .str "telepathic compiler"]),
    ("tags", .list ((["retrieval_required", tag].dedup.insertionSort (· ≤ ·)).map .str)),
    ("difficulty", .str (difficultyForTag tag))]

structure DemoCase where
  externalId : String
  payload : Json

/-- `f"{value:04d}"`. -/
def fourDigits (value : Nat) : String :=
  let digits := toString value
  String.ofList (List.replicate (4 - digits.length) '0') ++ digits

theorem baseDocs_mod_lt (index : Nat) : index % baseDocs.length < baseDocs.length :=
  Nat.mod_lt _ (by decide)

/-- `BASE_DOCS[index % len(BASE_DOCS)]`. -/
def docForIndex (index : Nat) : BaseDoc :=
  baseDocs.get ⟨index % baseDocs.length, baseDocs_mod_lt index⟩

def buildEvalCases (count : Nat) : List DemoCase :=
  (List.range count).map fun index =>
    { externalId := "demo-" ++ fourDigits (index + 1)
      payload := (docForIndex index).casePayload (tagForIndex index) }

/-! ## Every case asks for a document of the corpus -/

theorem docForIndex_mem (index : Nat) : docForIndex index ∈ baseDocs := List.get_mem _ _

theorem length_buildEvalCases (count : Nat) : (buildEvalCases count).length = count := by
  rw [buildEvalCases, List.length_map, List.length_range]

theorem mem_buildEvalCases {count : Nat} {demoCase : DemoCase}
    (member : demoCase ∈ buildEvalCases count) :
    ∃ doc ∈ baseDocs, ∃ tag, demoCase.payload = doc.casePayload tag := by
  rcases List.mem_map.mp member with ⟨index, -, rfl⟩
  exact ⟨docForIndex index, docForIndex_mem index, tagForIndex index, rfl⟩

end EvalForge
