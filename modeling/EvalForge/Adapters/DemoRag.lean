import EvalForge.Evaluators.Acceptance
import EvalForge.Evaluators.TokenOverlap
import EvalForge.Foundation.OrderStatistics
import EvalForge.Foundation.Rounding
import Mathlib.Algebra.Order.Ring.Rat
import Mathlib.Data.Prod.Lex
import Mathlib.Data.String.Basic

/-! # The retrieval of the demo adapter

The items of a corpus are scored by the words they share with the question,
sorted, and sliced.
-/

namespace EvalForge

open Foundation

/-- `value[key]` on a dictionary. -/
def Json.subscript (value : Json) (key : String) : Except PythonException Json :=
  match value.find? key with
  | none => .error ⟨s!"'{key}'"⟩
  | some held => .ok held

/-- `values[:stop]`. -/
def sliceTo {α : Type} (values : List α) (stop : Int) : List α :=
  if 0 ≤ stop then values.take stop.toNat
  else values.take (values.length - (-stop).toNat)

/-- `doc_id.removeprefix("python-")`. -/
def subjectOf (docId : String) : String :=
  if "python-".toList.isPrefixOf docId.toList then String.ofList (docId.toList.drop 7) else docId

def HasDocIds (corpus : List Json) : Prop :=
  ∀ item ∈ corpus, ∃ docId, item.find? "doc_id" = some docId

/-- A dictionary of the list `scored`. -/
structure DemoChunk where
  docId : String
  chunkText : String
  score : Rat
  answer : String

namespace DemoChunk

def toJson (chunk : DemoChunk) : Json :=
  .dict [("doc_id", .str chunk.docId), ("chunk_text", .str chunk.chunkText),
    ("score", .float chunk.score), ("answer", .str chunk.answer)]

/-- `(-chunk["score"], chunk["doc_id"])`. -/
def sortKey (chunk : DemoChunk) : Rat ×ₗ String := toLex (-chunk.score, chunk.docId)

/-- The one chunk comes before the other: by descending score, then by document id. -/
def Precedes (first second : DemoChunk) : Prop :=
  second.score < first.score ∨ first.score = second.score ∧ first.docId < second.docId

theorem precedes_iff (first second : DemoChunk) :
    first.Precedes second ↔ first.sortKey < second.sortKey := by
  rw [sortKey, sortKey, Prod.Lex.toLex_lt_toLex]
  simp only [neg_lt_neg_iff, neg_inj, Precedes]

end DemoChunk

namespace EvaluatorContext

variable (context : EvaluatorContext)

def retrievalScore (questionTokens : Finset String) (text docId : String) : Rat :=
  let textTokens := (tokenize context.lower text).toFinset
  let subjectTokens := (tokenize context.lower (subjectOf docId)).toFinset
  let overlap := (questionTokens ∩ textTokens).card
  let subjectBoost : Rat := if (subjectTokens ∩ questionTokens).Nonempty then 1 else 0
  overlap / (max questionTokens.card 1 : Nat) + subjectBoost

/-- The body of the loop of `retrieve`. -/
def scoreItem (questionTokens : Finset String) (item : Json) :
    Except PythonException DemoChunk := do
  let text := context.text (← item.getAttribute "text" (.str ""))
  let docId := context.text (← item.subscript "doc_id")
  let score := context.retrievalScore questionTokens text docId
  let answer := context.text (← item.getAttribute "answer" (.str ""))
  return { docId, chunkText := text, score := roundTo 6 score, answer }

def retrieve (question : String) (corpus : List Json) (topK : Int) :
    Except PythonException (List DemoChunk) := do
  let questionTokens := (tokenize context.lower question).toFinset
  let scored ← corpus.mapM (context.scoreItem questionTokens)
  return sliceTo (scored.insertionSort fun left right => left.sortKey ≤ right.sortKey) topK

/-! ## The chunks of a corpus -/

def docIdText (item : Json) : String := context.text (item.get "doc_id" .null)

def chunkOf (question : String) (item : Json) : DemoChunk where
  docId := context.docIdText item
  chunkText := context.text (item.get "text" (.str ""))
  score := roundTo 6 (context.retrievalScore (tokenize context.lower question).toFinset
    (context.text (item.get "text" (.str ""))) (context.docIdText item))
  answer := context.text (item.get "answer" (.str ""))

def rankedItems (question : String) (corpus : List Json) : List Json :=
  corpus.insertionSort fun left right =>
    (context.chunkOf question left).sortKey ≤ (context.chunkOf question right).sortKey

variable {context} {question : String} {corpus permuted : List Json}

theorem isDict_of_find? {item value : Json} {key : String} (held : item.find? key = some value) :
    item.isDict = true := by
  cases item with
  | dict fields => rfl
  | _ => cases held

theorem scoreItem_eq {item docId : Json} (held : item.find? "doc_id" = some docId) :
    context.scoreItem (tokenize context.lower question).toFinset item =
      .ok (context.chunkOf question item) := by
  have isDict := isDict_of_find? held
  have same : item.get "doc_id" .null = docId := by rw [Json.get, held, Option.getD_some]
  simp only [scoreItem, Json.getAttribute, isDict, if_true, Json.subscript, held, chunkOf,
    docIdText, same, bind, Except.bind]
  rfl

theorem rankedItems_perm (question : String) (corpus : List Json) :
    (context.rankedItems question corpus).Perm corpus :=
  List.perm_insertionSort _ _

theorem retrieve_eq (docIds : HasDocIds corpus) (topK : Int) :
    context.retrieve question corpus topK =
      .ok ((sliceTo (context.rankedItems question corpus) topK).map
        (context.chunkOf question)) := by
  have scored : corpus.mapM (context.scoreItem (tokenize context.lower question).toFinset) =
      .ok (corpus.map (context.chunkOf question)) := by
    apply mapM_eq_map
    intro item member
    rcases docIds item member with ⟨docId, held⟩
    exact scoreItem_eq held
  have ranked : (context.rankedItems question corpus).map (context.chunkOf question) =
      (corpus.map (context.chunkOf question)).insertionSort
        fun left right => left.sortKey ≤ right.sortKey :=
    List.map_insertionSort _ _ _ corpus fun _ _ _ _ => Iff.rfl
  simp only [retrieve, scored, bind, Except.bind]
  rw [← ranked, sliceTo, sliceTo]
  simp only [List.length_map, ← List.map_take]
  split <;> rfl

end EvaluatorContext

end EvalForge
