import EvalForge.Adapters.DemoOutput
import EvalForge.Adapters.Retrieval
import EvalForge.Demo.Dataset
import EvalForge.Foundation.Ascii

/-! # What the demo adapter answers

The best chunk of every question of the demo is its document, so that the
baseline answers what is expected and the candidate hallucinates. The texts are
ASCII, on which every `str.lower` is the same.
-/

namespace EvalForge

open Foundation

/-- Python's conversions on values that have the type already, `str.lower` on ASCII,
and columns that hold every JSON value. -/
structure EvaluatorContext.ReadsPlainValues (context : EvaluatorContext) : Prop
    extends context.ComparesTexts where
  lower_ascii : ∀ text : String, (∀ char ∈ text.toList, char.toNat < 128) →
    context.lower text = String.ofList (PythonText.lower text)
  int_int : ∀ value, context.int (.int value) = .ok value
  float_float : ∀ value, context.float (.float value) = .ok (.finite value)
  equal_null : ∀ text, context.equal .null (.str text) = false
  stores_json : ∀ value, context.storesJson value = true

theorem Scenario.plainContext_readsPlainValues : plainContext.ReadsPlainValues where
  toComparesTexts := plainContext_comparesTexts
  lower_ascii _ _ := rfl
  int_int _ := rfl
  float_float _ := rfl
  equal_null _ := rfl
  stores_json _ := rfl

/-! ## Tokens of ASCII texts -/

def charTokens (chars : List Char) : List (List Char) :=
  runs isTokenChar (chars.map Char.toLower)

theorem lowerChar_of_ascii {char : Char} (ascii : char.toNat < 128) :
    PythonText.lowerChar char = [char.toLower] := by
  have notKelvin : char ≠ Char.ofNat 0x212A := by
    rintro rfl
    exact absurd ascii (by decide)
  have notDotted : char ≠ Char.ofNat 0x130 := by
    rintro rfl
    exact absurd ascii (by decide)
  rw [PythonText.lowerChar, if_neg notKelvin, if_neg notDotted]

section

variable {context : EvaluatorContext} (plain : context.ReadsPlainValues) {text : String}

include plain

theorem toList_lower (ascii : IsAscii text) :
    (context.lower text).toList = text.toList.map Char.toLower := by
  rw [plain.lower_ascii text ascii, String.toList_ofList, PythonText.lower, List.map_eq_flatMap]
  exact List.flatMap_congr fun char member => lowerChar_of_ascii (ascii char member)

theorem tokenize_eq_charTokens (ascii : IsAscii text) :
    tokenize context.lower text = (charTokens text.toList).map String.ofList := by
  rw [tokenize_eq_runs, toList_lower plain ascii, charTokens]

theorem ofList_mem_tokenize (ascii : IsAscii text) {token : List Char} :
    String.ofList token ∈ tokenize context.lower text ↔ token ∈ charTokens text.toList := by
  rw [tokenize_eq_charTokens plain ascii]
  constructor
  · intro member
    rcases List.mem_map.mp member with ⟨other, otherMember, same⟩
    rw [String.ofList_inj] at same
    rw [← same]
    exact otherMember
  · exact fun member => List.mem_map.mpr ⟨token, member, rfl⟩

theorem length_tokenize_le (ascii : IsAscii text) :
    (tokenize context.lower text).length ≤ text.toList.length := by
  rw [tokenize_eq_charTokens plain ascii, List.length_map]
  exact (length_runs_le _ _).trans (List.length_map _).le

end

/-! ## The documents -/

def moduleToken : List Char := ['m', 'o', 'd', 'u', 'l', 'e']

/-- `"Which Python module is used for "`. -/
def questionStart : List Char := [
  'W', 'h', 'i', 'c', 'h', ' ', 'P', 'y', 't', 'h', 'o', 'n', ' ', 'm', 'o', 'd', 'u', 'l', 'e', ' ',
  'i', 's', ' ', 'u', 's', 'e', 'd', ' ', 'f', 'o', 'r', ' ']

/-- `subject.replace("-", " ")` on a character. -/
def spaced (char : Char) : Char := if char = '-' then ' ' else char

def BaseDoc.subjectChars (doc : BaseDoc) : List Char := (asciiChars doc.docId).drop 7

def BaseDoc.questionChars (doc : BaseDoc) : List Char :=
  questionStart ++ doc.subjectChars.map spaced ++ ['?']

def BaseDoc.plainTexts (doc : BaseDoc) : Bool :=
  hasAsciiBytes doc.docId && hasAsciiBytes doc.text && hasAsciiBytes doc.answer &&
    doc.facts.all hasAsciiBytes &&
    decide ((asciiChars doc.docId).length + (asciiChars doc.text).length ≤ 100) &&
    decide ((asciiChars doc.answer).length ≤ 100) &&
    "python-".toList.isPrefixOf (asciiChars doc.docId)

theorem plainTexts_of_mem : ∀ doc ∈ baseDocs, doc.plainTexts = true := by decide +kernel

theorem moduleToken_mem_text :
    ∀ doc ∈ baseDocs, moduleToken ∈ charTokens (asciiChars doc.text) := by decide +kernel

theorem subject_tokens : ∀ asked ∈ baseDocs, ∀ doc ∈ baseDocs,
    (∃ token ∈ charTokens doc.subjectChars, token ∈ charTokens asked.questionChars) ↔
      doc.docId = asked.docId := by
  decide +kernel

theorem moduleToken_mem_question :
    ∀ doc ∈ baseDocs, moduleToken ∈ charTokens doc.questionChars := by decide +kernel

structure BaseDoc.Plain (doc : BaseDoc) : Prop where
  docId : IsAscii doc.docId
  text : IsAscii doc.text
  answer : IsAscii doc.answer
  facts : ∀ fact ∈ doc.facts, IsAscii fact
  docIdChars : doc.docId.toList = asciiChars doc.docId
  textChars : doc.text.toList = asciiChars doc.text
  answerChars : doc.answer.toList = asciiChars doc.answer
  lineLength : doc.docId.toList.length + doc.text.toList.length ≤ 100
  answerLength : doc.answer.toList.length ≤ 100
  subjectChars : (subjectOf doc.docId).toList = doc.subjectChars

theorem plain_of_mem {doc : BaseDoc} (member : doc ∈ baseDocs) : doc.Plain := by
  have checked := plainTexts_of_mem doc member
  simp only [BaseDoc.plainTexts, Bool.and_eq_true, List.all_eq_true, decide_eq_true_eq] at checked
  rcases checked with ⟨⟨⟨⟨⟨⟨docId, text⟩, answer⟩, facts⟩, line⟩, answerLength⟩, start⟩
  have docIdChars := toList_eq_asciiChars docId
  have textChars := toList_eq_asciiChars text
  have answerChars := toList_eq_asciiChars answer
  exact {
    docId := isAscii_of_hasAsciiBytes docId
    text := isAscii_of_hasAsciiBytes text
    answer := isAscii_of_hasAsciiBytes answer
    facts := fun fact factMember => isAscii_of_hasAsciiBytes (facts fact factMember)
    docIdChars
    textChars
    answerChars
    lineLength := by rw [docIdChars, textChars]; exact line
    answerLength := by rw [answerChars]; exact answerLength
    subjectChars := by
      rw [subjectOf, docIdChars, if_pos start, String.toList_ofList]
      rfl }

theorem toList_questionForDoc {doc : BaseDoc} (plain : doc.Plain) :
    (questionForDoc doc.docId).toList = doc.questionChars := by
  have shape : questionForDoc doc.docId = "Which Python module is used for " ++
      (subjectOf doc.docId).map (fun char => if char = '-' then ' ' else char) ++ "?" := rfl
  have start : "Which Python module is used for ".toList = questionStart :=
    @String.toList_ofList questionStart
  have stop : "?".toList = ['?'] := @String.toList_ofList ['?']
  rw [shape, String.toList_append, String.toList_append, String.toList_map, start, stop,
    plain.subjectChars]
  rfl

theorem isAscii_questionForDoc {doc : BaseDoc} (plain : doc.Plain) :
    IsAscii (questionForDoc doc.docId) := by
  intro char member
  rw [toList_questionForDoc plain, BaseDoc.questionChars, List.mem_append, List.mem_append]
    at member
  rcases member with (start | subject) | stop
  · have each : questionStart.all (fun char => decide (char.toNat < 128)) = true := rfl
    exact of_decide_eq_true (List.all_eq_true.mp each char start)
  · rcases List.mem_map.mp subject with ⟨subjectChar, subjectMember, rfl⟩
    have ascii : subjectChar.toNat < 128 := by
      refine plain.docId subjectChar ?_
      rw [plain.docIdChars]
      exact List.mem_of_mem_drop subjectMember
    unfold spaced
    split
    · decide
    · exact ascii
  · rw [List.mem_singleton.mp stop]
    decide

theorem length_questionForDoc_le {doc : BaseDoc} (plain : doc.Plain) :
    (questionForDoc doc.docId).toList.length ≤ 133 := by
  have line := plain.lineLength
  rw [plain.docIdChars] at line
  have start : questionStart.length = 32 := rfl
  rw [toList_questionForDoc plain, BaseDoc.questionChars, BaseDoc.subjectChars]
  simp only [List.length_append, List.length_map, List.length_drop, List.length_singleton, start]
  omega

theorem isAscii_subject {doc : BaseDoc} (plain : doc.Plain) : IsAscii (subjectOf doc.docId) := by
  intro char member
  refine plain.docId char ?_
  rw [plain.docIdChars]
  rw [plain.subjectChars] at member
  exact List.mem_of_mem_drop member

/-! ## The best chunk -/

section

variable {context : EvaluatorContext} (plain : context.ReadsPlainValues) {asked doc : BaseDoc}

include plain

theorem retrievalScore_of_apart (askedMember : asked ∈ baseDocs) (member : doc ∈ baseDocs)
    (apart : doc.docId ≠ asked.docId) :
    context.retrievalScore (tokenize context.lower (questionForDoc asked.docId)).toFinset
      doc.text doc.docId ≤ 1 := by
  have askedPlain := plain_of_mem askedMember
  have docPlain := plain_of_mem member
  have noSubject : ¬((tokenize context.lower (subjectOf doc.docId)).toFinset ∩
      (tokenize context.lower (questionForDoc asked.docId)).toFinset).Nonempty := by
    rintro ⟨token, shared⟩
    rw [Finset.mem_inter, List.mem_toFinset, List.mem_toFinset] at shared
    rw [tokenize_eq_charTokens plain (isAscii_subject docPlain)] at shared
    rcases List.mem_map.mp shared.1 with ⟨chars, subjectToken, rfl⟩
    have asks := (ofList_mem_tokenize plain (isAscii_questionForDoc askedPlain)).mp shared.2
    rw [docPlain.subjectChars] at subjectToken
    rw [toList_questionForDoc askedPlain] at asks
    exact apart ((subject_tokens asked askedMember doc member).mp ⟨chars, subjectToken, asks⟩)
  have shared : ((tokenize context.lower (questionForDoc asked.docId)).toFinset ∩
      (tokenize context.lower doc.text).toFinset).card ≤
        max (tokenize context.lower (questionForDoc asked.docId)).toFinset.card 1 :=
    (Finset.card_le_card Finset.inter_subset_left).trans (le_max_left _ _)
  simp only [EvaluatorContext.retrievalScore, if_neg noSubject, add_zero]
  exact div_le_one_of_le₀ (by exact_mod_cast shared) (by positivity)

theorem le_retrievalScore_asked (member : doc ∈ baseDocs) :
    1001 / 1000 ≤ context.retrievalScore
      (tokenize context.lower (questionForDoc doc.docId)).toFinset doc.text doc.docId := by
  have docPlain := plain_of_mem member
  have asciiQuestion := isAscii_questionForDoc docPlain
  have asked {token : List Char} (held : token ∈ charTokens doc.questionChars) :
      String.ofList token ∈ tokenize context.lower (questionForDoc doc.docId) := by
    rw [ofList_mem_tokenize plain asciiQuestion, toList_questionForDoc docPlain]
    exact held
  have subject : ((tokenize context.lower (subjectOf doc.docId)).toFinset ∩
      (tokenize context.lower (questionForDoc doc.docId)).toFinset).Nonempty := by
    rcases (subject_tokens doc member doc member).mpr rfl with ⟨token, ofSubject, ofQuestion⟩
    refine ⟨String.ofList token, ?_⟩
    rw [Finset.mem_inter, List.mem_toFinset, List.mem_toFinset]
    refine ⟨?_, asked ofQuestion⟩
    rw [ofList_mem_tokenize plain (isAscii_subject docPlain), docPlain.subjectChars]
    exact ofSubject
  have overlap : 0 < ((tokenize context.lower (questionForDoc doc.docId)).toFinset ∩
      (tokenize context.lower doc.text).toFinset).card := by
    refine Finset.card_pos.mpr ⟨String.ofList moduleToken, ?_⟩
    rw [Finset.mem_inter, List.mem_toFinset, List.mem_toFinset]
    refine ⟨asked (moduleToken_mem_question doc member), ?_⟩
    rw [ofList_mem_tokenize plain docPlain.text, docPlain.textChars]
    exact moduleToken_mem_text doc member
  have few : max (tokenize context.lower (questionForDoc doc.docId)).toFinset.card 1 ≤ 133 := by
    refine max_le ?_ (by decide)
    exact (List.toFinset_card_le _).trans ((length_tokenize_le plain asciiQuestion).trans
      (length_questionForDoc_le docPlain))
  have positive : 1 ≤ max (tokenize context.lower (questionForDoc doc.docId)).toFinset.card 1 :=
    le_max_right _ _
  simp only [EvaluatorContext.retrievalScore, if_pos subject]
  generalize max (tokenize context.lower (questionForDoc doc.docId)).toFinset.card 1 = size
    at few positive ⊢
  have ratio : (1 : Rat) / 133 ≤ ((tokenize context.lower (questionForDoc doc.docId)).toFinset ∩
      (tokenize context.lower doc.text).toFinset).card / (size : Rat) := by
    have sizePos : (0 : Rat) < size := by exact_mod_cast positive
    rw [div_le_div_iff₀ (by norm_num) sizePos, one_mul]
    exact_mod_cast few.trans (Nat.le_mul_of_pos_left 133 overlap)
  linarith

theorem chunkOf_corpusItem (question : String) :
    context.chunkOf question doc.corpusItem = {
      docId := doc.docId
      chunkText := doc.text
      score := roundTo 6 (context.retrievalScore (tokenize context.lower question).toFinset
        doc.text doc.docId)
      answer := doc.answer } := by
  have text : doc.corpusItem.get "text" (.str "") = .str doc.text := rfl
  have docId : doc.corpusItem.get "doc_id" .null = .str doc.docId := rfl
  have answer : doc.corpusItem.get "answer" (.str "") = .str doc.answer := rfl
  simp only [EvaluatorContext.chunkOf, EvaluatorContext.docIdText, text, docId, answer,
    plain.text_str]

theorem score_apart (askedMember : asked ∈ baseDocs) (member : doc ∈ baseDocs)
    (apart : doc.docId ≠ asked.docId) :
    (context.chunkOf (questionForDoc asked.docId) doc.corpusItem).score ≤ 1 := by
  rw [chunkOf_corpusItem plain]
  exact roundTo_le_one (retrievalScore_of_apart plain askedMember member apart)

theorem one_lt_score (member : doc ∈ baseDocs) :
    1 < (context.chunkOf (questionForDoc doc.docId) doc.corpusItem).score := by
  have decimal : HasDecimals 6 (1001 / 1000 : Rat) := ⟨1001000, by norm_num⟩
  rw [chunkOf_corpusItem plain]
  calc (1 : Rat) < 1001 / 1000 := by norm_num
    _ = roundTo 6 (1001 / 1000) := decimal.roundTo_eq.symm
    _ ≤ _ := roundTo_monotone (le_retrievalScore_asked plain member)

end

theorem demoCorpus_docIds : HasDocIds buildDemoCorpus := by
  intro item member
  rcases List.mem_map.mp member with ⟨doc, -, rfl⟩
  exact ⟨.str doc.docId, rfl⟩

theorem baseDocs_nodup : (baseDocs.map (·.docId)).Nodup := by decide +kernel

theorem eq_of_docId {doc other : BaseDoc} (member : doc ∈ baseDocs) (otherMember : other ∈ baseDocs)
    (same : doc.docId = other.docId) : doc = other :=
  List.inj_on_of_nodup_map baseDocs_nodup member otherMember same

structure RetrievesDoc (context : EvaluatorContext) (topK : Int) (doc : BaseDoc)
    (chunks : List DemoChunk) : Prop where
  retrieved : context.retrieve (questionForDoc doc.docId) buildDemoCorpus topK = .ok chunks
  best : chunks.head? = some (context.chunkOf (questionForDoc doc.docId) doc.corpusItem)
  few : chunks.length ≤ 10
  ofCorpus : ∀ chunk ∈ chunks, ∃ other ∈ baseDocs,
    chunk = context.chunkOf (questionForDoc doc.docId) other.corpusItem

theorem retrievesDoc {context : EvaluatorContext} (plain : context.ReadsPlainValues) {topK : Int}
    (positive : 1 ≤ topK) {doc : BaseDoc} (member : doc ∈ baseDocs) :
    ∃ chunks, RetrievesDoc context topK doc chunks := by
  have distinct : (buildDemoCorpus.map context.docIdText).Nodup := by
    have texts : buildDemoCorpus.map context.docIdText = baseDocs.map (·.docId) := by
      rw [buildDemoCorpus, List.map_map]
      exact List.map_congr_left fun other _ => plain.text_str other.docId
    rw [texts]
    exact baseDocs_nodup
  have permuted := @EvaluatorContext.rankedItems_perm context (questionForDoc doc.docId)
    buildDemoCorpus
  have ordered := EvaluatorContext.rankedItems_pairwise distinct (questionForDoc doc.docId)
  have own : doc.corpusItem ∈
      context.rankedItems (questionForDoc doc.docId) buildDemoCorpus :=
    permuted.mem_iff.mpr (List.mem_map_of_mem member)
  have retrieved := @EvaluatorContext.retrieve_eq context (questionForDoc doc.docId) _
    demoCorpus_docIds topK
  rw [sliceTo, if_pos (by omega)] at retrieved
  have ofCorpus : ∀ item ∈ context.rankedItems (questionForDoc doc.docId) buildDemoCorpus,
      ∃ other ∈ baseDocs, item = other.corpusItem := by
    intro item itemMember
    rcases List.mem_map.mp (permuted.mem_iff.mp itemMember) with ⟨other, otherMember, rfl⟩
    exact ⟨other, otherMember, rfl⟩
  have size : (context.rankedItems (questionForDoc doc.docId) buildDemoCorpus).length = 10 :=
    permuted.length_eq
  generalize context.rankedItems (questionForDoc doc.docId) buildDemoCorpus = ranked
    at ordered own retrieved ofCorpus size
  refine ⟨_, retrieved, ?_, ?_, ?_⟩
  · -- Any other first item would score below the document that it precedes.
    cases ranked with
    | nil => cases own
    | cons first rest =>
        rcases ofCorpus first List.mem_cons_self with ⟨other, otherMember, rfl⟩
        have stop : topK.toNat = (topK.toNat - 1) + 1 := by omega
        rw [stop, List.take_succ_cons, List.map_cons, List.head?_cons]
        by_cases same : other.docId = doc.docId
        · rw [eq_of_docId otherMember member same]
        · have below := score_apart plain member otherMember same
          have above := one_lt_score plain member
          rcases List.mem_cons.mp own with equal | later
          · rw [equal] at above
            exact absurd above (not_lt.mpr below)
          · rw [List.map_cons, List.pairwise_cons] at ordered
            rcases ordered.1 _ (List.mem_map_of_mem later) with lower | ⟨equal, -⟩
            · exact absurd (above.trans lower) (not_lt.mpr below)
            · exact absurd (equal ▸ above) (not_lt.mpr below)
  · rw [List.length_map, List.length_take, size]
    exact min_le_right _ _
  · intro chunk chunkMember
    rcases List.mem_map.mp chunkMember with ⟨item, itemMember, rfl⟩
    rcases ofCorpus item (List.mem_of_mem_take itemMember) with ⟨other, otherMember, rfl⟩
    exact ⟨other, otherMember, rfl⟩

/-! ## The prompt and its cost -/

theorem length_intercalate_le {α : Type} {separator : α} {words : List (List α)} {bound : Nat}
    (short : ∀ word ∈ words, word.length ≤ bound) :
    ([separator].intercalate words).length ≤ words.length * (bound + 1) := by
  induction words with
  | nil => exact Nat.zero_le _
  | cons word words induction =>
      rcases List.forall_mem_cons.mp short with ⟨first, others⟩
      have rest := induction others
      cases words with
      | nil =>
          rw [List.intercalate_singleton]
          simp only [List.length_cons, List.length_nil]
          omega
      | cons next words =>
          rw [List.intercalate_cons_cons, List.length_append, List.length_append,
            List.length_singleton, List.length_cons, Nat.succ_mul]
          omega

structure ShortText (bound : Nat) (text : String) : Prop where
  ascii : IsAscii text
  length : text.toList.length ≤ bound

theorem ShortText.append {leftBound rightBound : Nat} {left right : String}
    (leftShort : ShortText leftBound left) (rightShort : ShortText rightBound right) :
    ShortText (leftBound + rightBound) (left ++ right) where
  ascii := isAscii_append leftShort.ascii rightShort.ascii
  length := by
    rw [String.toList_append, List.length_append]
    exact Nat.add_le_add leftShort.length rightShort.length

theorem ShortText.weaken {bound other : Nat} {text : String} (short : ShortText bound text)
    (below : bound ≤ other) : ShortText other text :=
  ⟨short.ascii, short.length.trans below⟩

theorem ShortText.lines {bound count : Nat} {lines : List String} (few : lines.length ≤ count)
    (short : ∀ line ∈ lines, ShortText bound line) :
    ShortText (count * (bound + 1)) ("\n".intercalate lines) where
  ascii := isAscii_lines fun line member => (short line member).ascii
  length := by
    have newline : "\n".toList = ['\n'] := @String.toList_ofList ['\n']
    rw [String.toList_intercalate, newline]
    have bounded := @length_intercalate_le _ '\n' (lines.map String.toList) bound
      fun word wordMember => by
        rcases List.mem_map.mp wordMember with ⟨line, member, rfl⟩
        exact (short line member).length
    rw [List.length_map] at bounded
    exact bounded.trans (Nat.mul_le_mul_right _ few)

theorem shortText_of_bytes {bound : Nat} {text : String} (ascii : hasAsciiBytes text = true)
    (length : (asciiChars text).length ≤ bound) : ShortText bound text :=
  ⟨isAscii_of_hasAsciiBytes ascii, by rw [toList_eq_asciiChars ascii]; exact length⟩

theorem shortText_formatPrompt {context : EvaluatorContext} (plain : context.ReadsPlainValues)
    {topK : Int} {doc : BaseDoc} (member : doc ∈ baseDocs) {chunks : List DemoChunk}
    (retrieves : RetrievesDoc context topK doc chunks) :
    ShortText 2000 (formatPrompt (questionForDoc doc.docId) chunks) := by
  have docPlain := plain_of_mem member
  have short : ∀ line ∈ chunks.map (fun chunk => s!"[{chunk.docId}] {chunk.chunkText}"),
      ShortText 103 line := by
    intro line lineMember
    rcases List.mem_map.mp lineMember with ⟨chunk, chunkMember, rfl⟩
    rcases retrieves.ofCorpus chunk chunkMember with ⟨other, otherMember, rfl⟩
    have otherPlain := plain_of_mem otherMember
    have opening : ShortText 1 "[" := shortText_of_bytes rfl (by decide)
    have closing : ShortText 2 "] " := shortText_of_bytes rfl (by decide)
    have docId : ShortText other.docId.toList.length other.docId := ⟨otherPlain.docId, le_rfl⟩
    have text : ShortText other.text.toList.length other.text := ⟨otherPlain.text, le_rfl⟩
    have bound := otherPlain.lineLength
    rw [chunkOf_corpusItem plain]
    exact (((opening.append docId).append closing).append text).weaken (by omega)
  have lines := ShortText.lines (List.length_map _ ▸ retrieves.few) short
  have head : ShortText 60 "Answer only from the retrieved context.\n\nContext:\n" :=
    shortText_of_bytes (by decide +kernel) (by decide +kernel)
  have middle : ShortText 20 "\n\nQuestion: " :=
    shortText_of_bytes (by decide +kernel) (by decide +kernel)
  have question : ShortText 133 (questionForDoc doc.docId) :=
    ⟨isAscii_questionForDoc docPlain, length_questionForDoc_le docPlain⟩
  exact (((head.append lines).append middle).append question).weaken (by decide)

theorem estimateCost_default {context : EvaluatorContext} (plain : context.ReadsPlainValues)
    {prompt answer : String} (promptShort : ShortText 2000 prompt)
    (answerShort : ShortText 100 answer) {versionConfig : Json}
    (isDict : versionConfig.isDict = true)
    (noInputRate : versionConfig.find? "input_cost_per_1k" = none)
    (noOutputRate : versionConfig.find? "output_cost_per_1k" = none) :
    ∃ cost, context.estimateCost prompt answer versionConfig = .ok cost ∧
      0 ≤ cost ∧ cost ≤ 1 / 100 := by
  refine ⟨roundTo 6 (((tokenize context.lower prompt).length * (1 / 10000) +
    (tokenize context.lower answer).length * (2 / 10000)) / 1000), ?_,
    roundTo_nonneg (by positivity), ?_⟩
  · simp only [EvaluatorContext.estimateCost, EvaluatorContext.finiteFloat, Json.getAttribute,
      isDict, if_true, Json.get, noInputRate, noOutputRate, Option.getD_none, plain.float_float,
      bind, Except.bind, pure, Except.pure]
  · have decimal : HasDecimals 6 (1 / 100 : Rat) := ⟨10000, by norm_num⟩
    have promptTokens : ((tokenize context.lower prompt).length : Rat) ≤ 2000 := by
      exact_mod_cast (length_tokenize_le plain promptShort.ascii).trans promptShort.length
    have answerTokens : ((tokenize context.lower answer).length : Rat) ≤ 100 := by
      exact_mod_cast (length_tokenize_le plain answerShort.ascii).trans answerShort.length
    rw [← decimal.roundTo_eq]
    refine roundTo_monotone ?_
    linarith

/-! ## The two versions -/

def baselineConfig (topK : Int) : Json :=
  .dict [("top_k", .int topK), ("corpus", .list buildDemoCorpus), ("latency_ms", .int 120)]

def candidateConfig (topK : Int) : Json :=
  .dict [("top_k", .int topK), ("corpus", .list buildDemoCorpus),
    ("failure_mode", .str "hallucinate"), ("latency_ms", .int 260)]

/-- An output of the demo adapter, by what the evaluators read of it. -/
structure DemoAnswers (context : EvaluatorContext) (topK : Int) (doc : BaseDoc) (answer : String)
    (latencyMs : Int) (output : AdapterOutput) : Prop where
  answer : output.answer = answer
  retrieved : ∃ chunks, RetrievesDoc context topK doc chunks ∧
    output.retrievedChunks = chunks.map (·.toJson)
  latencyMs : output.latencyMs = latencyMs
  estimatedCostUsd : 0 ≤ output.estimatedCostUsd ∧ output.estimatedCostUsd ≤ 1 / 100

theorem answer_ne_empty : ∀ doc ∈ baseDocs, doc.answer ≠ "" := by decide +kernel

theorem shortText_hallucinatedAnswer : ShortText 100 hallucinatedAnswer :=
  shortText_of_bytes (by decide +kernel) (by decide +kernel)

theorem demoRun_answers {context : EvaluatorContext} (plain : context.ReadsPlainValues) {topK : Int}
    (positive : 1 ≤ topK) {doc : BaseDoc} (member : doc ∈ baseDocs) {versionConfig : Json}
    {answer : String} {latencyMs : Int} (answerShort : ShortText 100 answer)
    (isDict : versionConfig.isDict = true)
    (top : versionConfig.find? "top_k" = some (.int topK))
    (corpus : versionConfig.find? "corpus" = some (.list buildDemoCorpus))
    (latency : versionConfig.find? "latency_ms" = some (.int latencyMs))
    (noInputRate : versionConfig.find? "input_cost_per_1k" = none)
    (noOutputRate : versionConfig.find? "output_cost_per_1k" = none)
    (generated : ∀ chunks, RetrievesDoc context topK doc chunks →
      context.generateAnswer versionConfig chunks = .ok answer) :
    ∃ output, context.demoRun (questionForDoc doc.docId) versionConfig = .ok output ∧
      DemoAnswers context topK doc answer latencyMs output := by
  rcases retrievesDoc plain positive member with ⟨chunks, retrieves⟩
  have prompt := shortText_formatPrompt plain member retrieves
  rcases estimateCost_default plain prompt answerShort isDict noInputRate noOutputRate with
    ⟨cost, estimated, cheap⟩
  have ran : context.demoRun (questionForDoc doc.docId) versionConfig = .ok {
      answer
      retrievedChunks := chunks.map (·.toJson)
      promptUsed := formatPrompt (questionForDoc doc.docId) chunks
      modelUsed := context.text (versionConfig.get "model" (.str "deterministic-demo-rag"))
      latencyMs
      estimatedCostUsd := cost
      traceSteps := [
        EvaluatorContext.demoStep "retrieve" 15 [("chunks", .list (chunks.map (·.toJson)))],
        EvaluatorContext.demoStep "format_prompt" 1
          [("prompt", .str (formatPrompt (questionForDoc doc.docId) chunks))],
        EvaluatorContext.demoStep "generate" (max (latencyMs - 16) 1) [("answer", .str answer),
          ("model", versionConfig.get "model" (.str "demo"))]] } := by
    simp only [EvaluatorContext.demoRun, Json.getAttribute, isDict, if_true, Json.get, top, corpus,
      latency, Option.getD_some, Json.iterate, bind, Except.bind, plain.int_int,
      retrieves.retrieved, generated chunks retrieves, estimated]
    rfl
  exact ⟨_, ran, ⟨rfl, ⟨chunks, retrieves, rfl⟩, rfl, cheap⟩⟩

section

variable {context : EvaluatorContext} (plain : context.ReadsPlainValues) {topK : Int}
variable (positive : 1 ≤ topK) {doc : BaseDoc} (member : doc ∈ baseDocs)

include plain positive member

theorem demoRun_baseline :
    ∃ output, context.demoRun (questionForDoc doc.docId) (baselineConfig topK) = .ok output ∧
      DemoAnswers context topK doc doc.answer 120 output := by
  have docPlain := plain_of_mem member
  refine demoRun_answers plain positive member ⟨docPlain.answer, docPlain.answerLength⟩ rfl rfl rfl
    rfl rfl rfl fun chunks retrieves => ?_
  have failureMode : (baselineConfig topK).getAttribute "failure_mode" .null = .ok .null := rfl
  have grounded : groundedAnswer chunks = doc.answer := by
    have best := retrieves.best
    have score := one_lt_score plain member
    cases chunks with
    | nil => cases best
    | cons chunk others =>
        cases best
        have positiveScore : ¬(context.chunkOf (questionForDoc doc.docId) doc.corpusItem).score =
            0 := by
          intro zero
          rw [zero] at score
          norm_num at score
        rw [groundedAnswer, if_neg positiveScore, chunkOf_corpusItem plain]
        exact if_pos (answer_ne_empty doc member)
  simp only [EvaluatorContext.generateAnswer, failureMode, bind, Except.bind, plain.equal_null,
    Bool.false_eq_true, if_false, grounded]
  rfl

theorem demoRun_candidate :
    ∃ output, context.demoRun (questionForDoc doc.docId) (candidateConfig topK) = .ok output ∧
      DemoAnswers context topK doc hallucinatedAnswer 260 output := by
  refine demoRun_answers plain positive member shortText_hallucinatedAnswer rfl rfl rfl
    rfl rfl rfl fun chunks _ => ?_
  have failureMode : (candidateConfig topK).getAttribute "failure_mode" .null =
      .ok (.str "hallucinate") := rfl
  simp only [EvaluatorContext.generateAnswer, failureMode, bind, Except.bind, plain.equal_str,
    beq_self_eq_true, if_true]
  rfl

end

end EvalForge
