import EvalForge.Adapters.DemoRag

/-! # What the retrieval returns

A slice of the ranked corpus, whatever the order of the corpus, which is as long
as it should be unless the bound is negative. Its document ids are texts, so an
expected id that is a number is never among them.
-/

namespace EvalForge

open Foundation

/-! ## Slices -/

section

variable {α : Type}

def sliceCount (length : Nat) (stop : Int) : Nat :=
  if 0 ≤ stop then stop.toNat else length - (-stop).toNat

theorem sliceTo_eq_take (values : List α) (stop : Int) :
    sliceTo values stop = values.take (sliceCount values.length stop) := by
  unfold sliceTo sliceCount
  split <;> rfl

theorem sliceTo_of_length_le {values : List α} {stop : Int}
    (covers : (values.length : Int) ≤ stop) : sliceTo values stop = values := by
  have nonneg : 0 ≤ stop := (Int.natCast_nonneg _).trans covers
  rw [sliceTo, if_pos nonneg]
  exact List.take_of_length_le (by omega)

theorem length_sliceTo_iff (values : List α) (stop : Int) :
    ((sliceTo values stop).length : Int) = min (max stop 0) values.length ↔
      0 ≤ stop ∨ stop ≤ -values.length := by
  rw [sliceTo_eq_take, List.length_take, sliceCount]
  split
  · next nonneg => omega
  · next negative => omega

end

/-! ## The order of the chunks -/

structure EvaluatorContext.Retrieves (context : EvaluatorContext) (question : String)
    (corpus : List Json) (topK : Int) (chunks : List DemoChunk) : Prop where
  returned : context.retrieve question corpus topK = .ok chunks
  sorted : chunks.Pairwise DemoChunk.Precedes
  ofItems : ∃ chosen left, corpus.Perm (chosen ++ left) ∧
    chunks = chosen.map (context.chunkOf question) ∧
    ∀ chunk ∈ chunks, ∀ item ∈ left, chunk.Precedes (context.chunkOf question item)
  orderIndependent : ∀ permuted, corpus.Perm permuted →
    context.retrieve question permuted topK = .ok chunks

namespace EvaluatorContext

variable {context : EvaluatorContext} {question : String} {corpus permuted : List Json}

theorem sortKeys_nodup (distinct : (corpus.map context.docIdText).Nodup) (question : String) :
    (corpus.map fun item => (context.chunkOf question item).sortKey).Nodup := by
  apply List.Nodup.of_map fun key : Rat ×ₗ String => (ofLex key).2
  rw [List.map_map]
  exact distinct

theorem rankedItems_eq_of_perm (distinct : (corpus.map context.docIdText).Nodup)
    (same : corpus.Perm permuted) (question : String) :
    context.rankedItems question corpus = context.rankedItems question permuted :=
  insertionSort_eq_of_perm same (sortKeys_nodup distinct question)

theorem rankedItems_pairwise (distinct : (corpus.map context.docIdText).Nodup)
    (question : String) :
    ((context.rankedItems question corpus).map (context.chunkOf question)).Pairwise
      DemoChunk.Precedes := by
  apply List.pairwise_map.mpr
  have increasing := pairwise_lt_insertionSort (sortKeys_nodup distinct question)
  exact increasing.imp fun below => (DemoChunk.precedes_iff _ _).mpr below

/-- Whatever the bound, the retrieval is a first part of the ranked corpus. -/
theorem retrieves (docIds : HasDocIds corpus) (distinct : (corpus.map context.docIdText).Nodup)
    (question : String) (topK : Int) :
    context.Retrieves question corpus topK
      ((sliceTo (context.rankedItems question corpus) topK).map (context.chunkOf question)) := by
  have pairwise := rankedItems_pairwise distinct question
  rw [← List.take_append_drop (sliceCount (context.rankedItems question corpus).length topK)
    (context.rankedItems question corpus), List.map_append, List.pairwise_append] at pairwise
  rw [sliceTo_eq_take]
  constructor
  · rw [retrieve_eq docIds, sliceTo_eq_take]
  · exact pairwise.1
  · refine ⟨_, (context.rankedItems question corpus).drop
      (sliceCount (context.rankedItems question corpus).length topK), ?_, rfl, ?_⟩
    · rw [List.take_append_drop]
      exact (rankedItems_perm question corpus).symm
    · intro chunk member item itemMember
      exact pairwise.2.2 chunk member _ (List.mem_map_of_mem itemMember)
  · intro permuted same
    have permutedIds : HasDocIds permuted :=
      fun item member => docIds item (same.mem_iff.mpr member)
    rw [retrieve_eq permutedIds, ← rankedItems_eq_of_perm distinct same, sliceTo_eq_take]

end EvaluatorContext

/-- The retrieval is a sorted, complete and order-independent selection from the
corpus, and as long as it should be exactly if the bound is not negative or the
slice is empty all the same. -/
theorem retrieve_is_top_k_iff (context : EvaluatorContext) (question : String) (corpus : List Json)
    (docIds : HasDocIds corpus) (distinct : (corpus.map context.docIdText).Nodup) (topK : Int) :
    (∃ chunks, context.Retrieves question corpus topK chunks) ∧
      ((∃ chunks, context.Retrieves question corpus topK chunks ∧
          (chunks.length : Int) = min (max topK 0) corpus.length) ↔
        0 ≤ topK ∨ topK ≤ -corpus.length) := by
  have selected := EvaluatorContext.retrieves docIds distinct question topK
  have size : (context.rankedItems question corpus).length = corpus.length :=
    (EvaluatorContext.rankedItems_perm question corpus).length_eq
  have length := length_sliceTo_iff (context.rankedItems question corpus) topK
  rw [size] at length
  refine ⟨⟨_, selected⟩, ?_⟩
  constructor
  · rintro ⟨chunks, other, isLength⟩
    cases selected.returned.symm.trans other.returned
    rw [List.length_map] at isLength
    exact length.mp isLength
  · intro bound
    refine ⟨_, selected, ?_⟩
    rw [List.length_map]
    exact length.mpr bound

namespace Scenario

def corpusItem (docId text : String) : Json :=
  .dict [("doc_id", .str docId), ("text", .str text)]

def smallCorpus : List Json :=
  [corpusItem "python-json" "The json module decodes documents.",
    corpusItem "python-venv" "The venv module creates environments.",
    corpusItem "python-asyncio" "The asyncio module runs tasks."]

theorem smallCorpus_docIds : HasDocIds smallCorpus := by
  intro item member
  simp only [smallCorpus, List.mem_cons, List.not_mem_nil, or_false] at member
  rcases member with rfl | rfl | rfl
  · exact ⟨_, rfl⟩
  · exact ⟨_, rfl⟩
  · exact ⟨_, rfl⟩

end Scenario

theorem retrieve_is_top_k_iff_scenario :
    ∃ chunks, Scenario.plainContext.Retrieves "Which module creates environments?"
      Scenario.smallCorpus 2 chunks ∧ (chunks.length : Int) = min (max 2 0) 3 :=
  (retrieve_is_top_k_iff Scenario.plainContext _ Scenario.smallCorpus Scenario.smallCorpus_docIds
    (by decide) 2).2.mpr (.inl (by decide))

/-- With a bound of -1 two of the three items are retrieved, and none should be. -/
theorem negative_top_k_retrieves_chunks :
    ∃ chunks, Scenario.plainContext.retrieve "Which module creates environments?"
        Scenario.smallCorpus (-1) = .ok chunks ∧ chunks.length = 2 ∧
      (chunks.length : Int) ≠ min (max (-1 : Int) 0) Scenario.smallCorpus.length := by
  refine ⟨_, EvaluatorContext.retrieve_eq Scenario.smallCorpus_docIds (-1), ?_⟩
  have size : ((sliceTo (Scenario.plainContext.rankedItems "Which module creates environments?"
      Scenario.smallCorpus) (-1)).map
        (Scenario.plainContext.chunkOf "Which module creates environments?")).length = 2 := by
    rw [List.length_map, sliceTo_eq_take, List.length_take,
      (EvaluatorContext.rankedItems_perm _ _).length_eq]
    rfl
  rw [size]
  exact ⟨rfl, by decide⟩

/-! ## Hits -/

/-- `str` keeps strings, and a string equals strings only. -/
structure EvaluatorContext.ComparesTexts (context : EvaluatorContext) : Prop where
  text_str : ∀ text, context.text (.str text) = text
  equal_str : ∀ left right, context.equal (.str left) (.str right) = (left == right)
  equal_int : ∀ value text, context.equal (.int value) (.str text) = false
  equal_float : ∀ value text, context.equal (.float value) (.str text) = false

inductive Json.IsIdentifier : Json → Prop
  | str (text : String) : IsIdentifier (.str text)
  | int (value : Int) : IsIdentifier (.int value)
  | float (value : Rat) : IsIdentifier (.float value)

namespace EvaluatorContext

variable (context : EvaluatorContext)

def Expects (corpus : List Json) (expected : Json) : Prop :=
  ∃ item ∈ corpus, context.docIdText item = context.text expected

def ScoresHit (question : String) (corpus : List Json) (topK : Int) (payload spec : Json)
    (output : AdapterOutput) (expected : Json) : Prop :=
  ∃ chunks result, context.retrieve question corpus topK = .ok chunks ∧
    context.retrievalHitRate payload
      { output with retrievedChunks := chunks.map DemoChunk.toJson } spec = .ok result ∧
    result.skipped = false ∧ result.errored = false ∧
    (context.Expects corpus expected → result.score = some 1 ∧ result.passed = some true) ∧
    (¬context.Expects corpus expected → result.score = some 0 ∧ result.passed = some false)

variable {context} {question : String} {corpus : List Json} {topK : Int}

theorem retrieve_all (docIds : HasDocIds corpus) (covers : (corpus.length : Int) ≤ topK) :
    context.retrieve question corpus topK =
      .ok ((context.rankedItems question corpus).map (context.chunkOf question)) := by
  have size : (context.rankedItems question corpus).length = corpus.length :=
    (rankedItems_perm question corpus).length_eq
  rw [retrieve_eq docIds, sliceTo_of_length_le (size ▸ covers)]

variable {payload spec expected : Json} {output : AdapterOutput} {chunks : List DemoChunk}

theorem retrievalResult_of_chunks (identifier : expected.IsIdentifier) :
    context.retrievalResult { output with retrievedChunks := chunks.map DemoChunk.toJson }
        expected =
      .ok (scored "retrieval_hit_rate"
        (if (chunks.map fun chunk => Json.str chunk.docId).any (context.equal expected) then 1
          else 0)
        ((chunks.map fun chunk => Json.str chunk.docId).any (context.equal expected))
        [("expected_id", expected),
          ("retrieved_ids", .list (chunks.map fun chunk => .str chunk.docId)),
          ("matched", .bool ((chunks.map fun chunk => Json.str chunk.docId).any
            (context.equal expected)))]) := by
  have ids : (chunks.map DemoChunk.toJson).mapM (·.getAttribute "doc_id" .null) =
      .ok (chunks.map fun chunk => Json.str chunk.docId) := by
    rw [List.mapM_map]
    exact mapM_eq_map fun chunk _ => rfl
  cases identifier <;> simp only [retrievalResult, ids, bind, Except.bind] <;> rfl

theorem retrievalHitRate_of_docId (noChunkId : payload.get "expected_chunk_id" .null = .null)
    (held : payload.find? "expected_doc_id" = some expected) :
    context.retrievalHitRate payload output spec = context.retrievalResult output expected := by
  have isDict := isDict_of_find? held
  have noChunk : payload.getAttribute "expected_chunk_id" .null = .ok .null := by
    rw [Json.getAttribute, if_pos isDict, noChunkId]
  have docId : payload.getAttribute "expected_doc_id" .null = .ok expected := by
    rw [Json.getAttribute, if_pos isDict, Json.get, held, Option.getD_some]
  simp only [retrievalHitRate, noChunk, docId, bind, Except.bind]
  rfl

/-- The ids that are found are texts, so only a text is found. -/
theorem matched_iff (compares : context.ComparesTexts) (identifier : expected.IsIdentifier)
    (question : String) :
    ((((context.rankedItems question corpus).map (context.chunkOf question)).map
        fun chunk => Json.str chunk.docId).any (context.equal expected)) = true ↔
      (∃ text, expected = .str text) ∧ context.Expects corpus expected := by
  rw [List.map_map, List.any_eq_true]
  constructor
  · rintro ⟨id, member, equal⟩
    rcases List.mem_map.mp member with ⟨item, itemMember, rfl⟩
    cases identifier with
    | int value =>
        rw [Function.comp_apply, compares.equal_int] at equal
        cases equal
    | float value =>
        rw [Function.comp_apply, compares.equal_float] at equal
        cases equal
    | str text =>
        rw [Function.comp_apply, compares.equal_str, beq_iff_eq] at equal
        refine ⟨⟨text, rfl⟩, item, (rankedItems_perm question corpus).mem_iff.mp itemMember, ?_⟩
        rw [compares.text_str]
        exact equal.symm
  · rintro ⟨⟨text, rfl⟩, item, member, same⟩
    refine ⟨_, List.mem_map_of_mem ((rankedItems_perm question corpus).mem_iff.mpr member), ?_⟩
    rw [compares.text_str] at same
    rw [Function.comp_apply, compares.equal_str, beq_iff_eq]
    exact same.symm

end EvaluatorContext

/-- With every chunk retrieved, a hit is scored as such exactly if the expected id
is a string, or no item has it. -/
theorem retrieved_document_hits_iff (context : EvaluatorContext) (compares : context.ComparesTexts)
    (question : String) (corpus : List Json) (docIds : HasDocIds corpus) (topK : Int)
    (covers : (corpus.length : Int) ≤ topK) (payload spec : Json) (output : AdapterOutput)
    (noChunkId : payload.get "expected_chunk_id" .null = .null) (expected : Json)
    (held : payload.find? "expected_doc_id" = some expected)
    (identifier : expected.IsIdentifier) :
    context.ScoresHit question corpus topK payload spec output expected ↔
      (∃ text, expected = .str text) ∨ ¬context.Expects corpus expected := by
  have matched := @EvaluatorContext.matched_iff context corpus expected compares identifier question
  have scored := @EvaluatorContext.retrievalResult_of_chunks context expected output
    ((context.rankedItems question corpus).map (context.chunkOf question)) identifier
  have all := @EvaluatorContext.retrieve_all context question corpus topK docIds covers
  generalize ((context.rankedItems question corpus).map (context.chunkOf question)) = chunks
    at matched scored all
  generalize ((chunks.map fun chunk => Json.str chunk.docId).any (context.equal expected)) = found
    at matched scored
  have ran := (@EvaluatorContext.retrievalHitRate_of_docId context payload spec expected
    { output with retrievedChunks := chunks.map DemoChunk.toJson } noChunkId held).trans scored
  constructor
  · rintro ⟨others, result, returned, evaluated, -, -, hit, -⟩
    cases all.symm.trans returned
    cases ran.symm.trans evaluated
    by_cases expects : context.Expects corpus expected
    · have isFound : some found = some true := (hit expects).2
      exact .inl (matched.mp (Option.some.inj isFound)).1
    · exact .inr expects
  · intro condition
    refine ⟨chunks, _, all, ran, rfl, rfl, ?_, ?_⟩
    · intro expects
      have isText := condition.resolve_right (not_not.mpr expects)
      rw [matched.mpr ⟨isText, expects⟩]
      exact ⟨rfl, rfl⟩
    · intro unexpected
      have notFound : found = false := by
        rw [← Bool.not_eq_true, matched]
        exact fun isFound => unexpected isFound.2
      rw [notFound]
      exact ⟨rfl, rfl⟩

namespace Scenario

theorem plainContext_comparesTexts : plainContext.ComparesTexts where
  text_str _ := rfl
  equal_str _ _ := rfl
  equal_int _ _ := rfl
  equal_float _ _ := rfl

def expectingDoc (docId : Json) : Json := .dict [("expected_doc_id", docId)]

def decimalContext : EvaluatorContext :=
  { plainContext with
    text := fun value =>
      match value with
      | .str text => text
      | .int value => toString value
      | _ => "" }

theorem decimalContext_comparesTexts : decimalContext.ComparesTexts where
  text_str _ := rfl
  equal_str _ _ := rfl
  equal_int _ _ := rfl
  equal_float _ _ := rfl

end Scenario

theorem retrieved_document_hits_iff_scenario :
    Scenario.plainContext.ScoresHit "Which module creates environments?" Scenario.smallCorpus 3
      (Scenario.expectingDoc (.str "python-venv")) (.dict []) Scenario.plainOutput
      (.str "python-venv") :=
  (retrieved_document_hits_iff Scenario.plainContext Scenario.plainContext_comparesTexts _
    Scenario.smallCorpus Scenario.smallCorpus_docIds 3 (by decide) _ _ _ rfl _ rfl
    (.str "python-venv")).mpr (.inl ⟨_, rfl⟩)

/-- The document 7 is retrieved, and expecting the document 7 is a miss. -/
theorem number_expected_is_missed :
    Scenario.decimalContext.ComparesTexts ∧
      Scenario.decimalContext.Expects [.dict [("doc_id", .int 7)]] (.int 7) ∧
      ¬Scenario.decimalContext.ScoresHit "" [.dict [("doc_id", .int 7)]] 1
        (Scenario.expectingDoc (.int 7)) (.dict []) Scenario.plainOutput (.int 7) := by
  have expects : Scenario.decimalContext.Expects [.dict [("doc_id", .int 7)]] (.int 7) :=
    ⟨_, List.mem_singleton.mpr rfl, rfl⟩
  refine ⟨Scenario.decimalContext_comparesTexts, expects, ?_⟩
  rintro ⟨chunks, result, returned, evaluated, -, -, hit, -⟩
  have docIds : HasDocIds [.dict [("doc_id", .int 7)]] := by
    intro item member
    cases List.mem_singleton.mp member
    exact ⟨_, rfl⟩
  cases (EvaluatorContext.retrieve_eq docIds 1).symm.trans returned
  cases evaluated
  have missed := (hit expects).2
  cases missed

end EvalForge
