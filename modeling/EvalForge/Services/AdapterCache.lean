import EvalForge.Foundation.Json
import EvalForge.Foundation.QuotedText
import EvalForge.Foundation.Rounding
import Mathlib.Data.List.Sort
import Mathlib.Data.String.Basic

/-! # The adapter cache

The key of a case input and a version configuration, and the text of the
configuration that it is made of. The hash function is a parameter, and so is
the text that Python has for a float.
-/

namespace EvalForge

open Foundation

/-! ## `json.dumps` with sorted keys -/

/-- `float.__repr__`, a numeral of digits, a point and an exponent. -/
structure FloatText where
  repr : Rat → String
  numeral : ∀ value, ∀ char ∈ (repr value).toList, char.isDigit = true ∨ char ∈ ['-', '+', '.', 'e']

namespace JsonText

def hexDigit (value : Nat) : Char :=
  "0123456789abcdef".toList.getD value '0'

/-- `\uXXXX`. -/
def unicodeEscape (unit : Nat) : List Char :=
  ['\\', 'u', hexDigit (unit / 4096 % 16), hexDigit (unit / 256 % 16), hexDigit (unit / 16 % 16),
    hexDigit (unit % 16)]

/-- A character in a text, in ASCII. Above the basic plane it is a surrogate pair. -/
def escapeChar (char : Char) : List Char :=
  if char = '"' then ['\\', '"']
  else if char = '\\' then ['\\', '\\']
  else if char = '\n' then ['\\', 'n']
  else if char = '\r' then ['\\', 'r']
  else if char = '\t' then ['\\', 't']
  else if char.toNat = 0x0C then ['\\', 'f']
  else if char.toNat = 0x08 then ['\\', 'b']
  else if 0x20 ≤ char.toNat ∧ char.toNat ≤ 0x7E then [char]
  else if char.toNat < 0x10000 then unicodeEscape char.toNat
  else
    unicodeEscape (0xD800 + (char.toNat - 0x10000) / 0x400) ++
      unicodeEscape (0xDC00 + (char.toNat - 0x10000) % 0x400)

def textOf (text : String) : List Char :=
  '"' :: text.toList.flatMap escapeChar ++ ['"']

/-- The members of an object, in the order of their keys. -/
def sortedMembers (members : List (String × List Char)) : List (String × List Char) :=
  members.insertionSort fun member other => member.1 ≤ other.1

def memberText (member : String × List Char) : List Char :=
  textOf member.1 ++ [':', ' '] ++ member.2

variable (floatText : FloatText)

mutual
/-- `json.dumps(value, sort_keys=True)`. -/
def dumps : Json → List Char
  | .null => ['n', 'u', 'l', 'l']
  | .bool true => ['t', 'r', 'u', 'e']
  | .bool false => ['f', 'a', 'l', 's', 'e']
  | .int value => (toString value).toList
  | .float value => (floatText.repr value).toList
  | .str text => textOf text
  | .list items => '[' :: [',', ' '].intercalate (dumpsItems items) ++ [']']
  | .dict fields =>
      '{' :: [',', ' '].intercalate ((sortedMembers (dumpsFields fields)).map memberText) ++ ['}']

def dumpsItems : List Json → List (List Char)
  | [] => []
  | item :: items => dumps item :: dumpsItems items

def dumpsFields : List (String × Json) → List (String × List Char)
  | [] => []
  | (key, value) :: fields => (key, dumps value) :: dumpsFields fields
end

end JsonText

/-! ## The key -/

/-- The text that is hashed. -/
def cacheKeyText (floatText : FloatText) (caseInput : String) (versionConfig : Json) : String :=
  let configJson := String.ofList (JsonText.dumps floatText versionConfig)
  s!"{caseInput}|||{configJson}"

/-- `sha256` is the hexadecimal digest of the UTF-8 bytes. -/
def computeCacheKey (sha256 : String → String) (floatText : FloatText) (caseInput : String)
    (versionConfig : Json) : String :=
  sha256 (cacheKeyText floatText caseInput versionConfig)

/-! ## Its separator is quoted in the configuration -/

namespace JsonText

open QuoteState

theorem scan_hexDigit (value : Nat) (bound : value < 16) (text : List Char) :
    inside.scan '|' (hexDigit value :: text) = inside.scan '|' text := by
  have plain : ∀ digit : Fin 16, hexDigit digit ≠ '"' ∧ hexDigit digit ≠ '\\' := by decide
  rw [scan, read_inside, if_neg (plain ⟨value, bound⟩).1, if_neg (plain ⟨value, bound⟩).2]
  rfl

theorem scan_unicodeEscape (unit : Nat) :
    inside.scan '|' (unicodeEscape unit) = some inside := by
  have digits : inside.scan '|' [hexDigit (unit / 4096 % 16), hexDigit (unit / 256 % 16),
      hexDigit (unit / 16 % 16), hexDigit (unit % 16)] = some inside := by
    rw [scan_hexDigit _ (by omega), scan_hexDigit _ (by omega), scan_hexDigit _ (by omega),
      scan_hexDigit _ (by omega)]
    rfl
  exact digits

theorem scan_escapeChar (char : Char) : inside.scan '|' (escapeChar char) = some inside := by
  unfold escapeChar
  split_ifs with quote backslash newline carriage tab feed backspace plain basic
  · rfl
  · rfl
  · rfl
  · rfl
  · rfl
  · rfl
  · rfl
  · rw [scan, read_inside, if_neg quote, if_neg backslash]
    rfl
  · exact scan_unicodeEscape _
  · rw [scan_append, scan_unicodeEscape, Option.bind_some, scan_unicodeEscape]

theorem quoted_textOf (text : String) : Quoted '|' (textOf text) := by
  apply Quoted.enclose
  induction text.toList with
  | nil => rfl
  | cons char chars induction =>
      rw [List.flatMap_cons, scan_append, scan_escapeChar]
      exact induction

theorem quoted_memberText {member : String × List Char} (quoted : Quoted '|' member.2) :
    Quoted '|' (memberText member) :=
  ((quoted_textOf member.1).append (by rfl)).append quoted

theorem quoted_of_numeral {text : List Char}
    (numeral : ∀ char ∈ text, char.isDigit = true ∨ char ∈ ['-', '+', '.', 'e']) :
    Quoted '|' text := by
  apply Quoted.of_plain
  intro char member
  rcases numeral char member with digit | sign
  · refine ⟨?_, ?_, ?_⟩ <;> (rintro rfl; revert digit; decide)
  · have plain : ['-', '+', '.', 'e'].all (fun char =>
        decide (char ≠ '"' ∧ char ≠ '\\' ∧ char ≠ '|')) = true := by decide
    simpa using List.all_eq_true.mp plain char sign

theorem isDigit_of_mem_repr {natural : Nat} {char : Char} (member : char ∈ natural.repr.toList) :
    char.isDigit = true := by
  rw [Nat.toList_repr] at member
  exact Nat.isDigit_of_mem_toDigits (by decide) (by decide) member

theorem numeral_toString (value : Int) :
    ∀ char ∈ (toString value).toList, char.isDigit = true ∨ char ∈ ['-', '+', '.', 'e'] := by
  intro char member
  rw [Int.toString_eq_repr, Int.repr_eq_if] at member
  split at member
  · exact .inl (isDigit_of_mem_repr member)
  · rw [String.toList_append, List.mem_append] at member
    rcases member with sign | digit
    · have minus : char = '-' := by simpa using sign
      exact .inr (minus ▸ List.mem_cons_self)
    · exact .inl (isDigit_of_mem_repr digit)

theorem mem_sortedMembers {member : String × List Char} {members : List (String × List Char)}
    (sorted : member ∈ sortedMembers members) : member ∈ members :=
  (List.mem_insertionSort _).mp sorted

variable (floatText : FloatText)

mutual
theorem quoted_dumps : ∀ value : Json, Quoted '|' (dumps floatText value)
  | .null => by rw [dumps]; rfl
  | .bool true => by rw [dumps]; rfl
  | .bool false => by rw [dumps]; rfl
  | .int value => by
      rw [dumps]
      exact quoted_of_numeral (numeral_toString value)
  | .float value => by
      rw [dumps]
      exact quoted_of_numeral (floatText.numeral value)
  | .str text => by
      rw [dumps]
      exact quoted_textOf text
  | .list items => by
      have inner : Quoted '|' ([',', ' '].intercalate (dumpsItems floatText items)) :=
        Quoted.intercalate (by rfl) (quoted_dumpsItems items)
      have opening : Quoted '|' ['['] := by rfl
      rw [dumps]
      exact (opening.append inner).append (by rfl)
  | .dict fields => by
      have inner : Quoted '|' ([',', ' '].intercalate
          ((sortedMembers (dumpsFields floatText fields)).map memberText)) := by
        apply Quoted.intercalate (by rfl)
        rintro _ member
        rcases List.mem_map.mp member with ⟨field, sorted, rfl⟩
        exact quoted_memberText (quoted_dumpsFields fields field (mem_sortedMembers sorted))
      have opening : Quoted '|' ['{'] := by rfl
      rw [dumps]
      exact (opening.append inner).append (by rfl)

theorem quoted_dumpsItems : ∀ items : List Json,
    ∀ text ∈ dumpsItems floatText items, Quoted '|' text
  | [], _, member => by rw [dumpsItems] at member; cases member
  | item :: items, text, member => by
      rw [dumpsItems] at member
      rcases List.mem_cons.mp member with rfl | later
      · exact quoted_dumps item
      · exact quoted_dumpsItems items text later

theorem quoted_dumpsFields : ∀ fields : List (String × Json),
    ∀ member ∈ dumpsFields floatText fields, Quoted '|' member.2
  | [], _, member => by rw [dumpsFields] at member; cases member
  | (key, value) :: fields, field, member => by
      rw [dumpsFields] at member
      rcases List.mem_cons.mp member with rfl | later
      · exact quoted_dumps value
      · exact quoted_dumpsFields fields field later
end

end JsonText

/-- The text that is hashed tells the case input and the text of the
configuration. -/
theorem cache_key_text_injective (floatText : FloatText) (firstInput secondInput : String)
    (firstConfig secondConfig : Json) :
    cacheKeyText floatText firstInput firstConfig =
        cacheKeyText floatText secondInput secondConfig ↔
      firstInput = secondInput ∧
        JsonText.dumps floatText firstConfig = JsonText.dumps floatText secondConfig := by
  have toList : ∀ input config, (cacheKeyText floatText input config).toList =
      input.toList ++ List.replicate 3 '|' ++ JsonText.dumps floatText config := by
    intro input config
    simp [cacheKeyText, toString]
  rw [← String.toList_inj, toList, toList,
    Quoted.append_separators_inj (by decide) 2 (JsonText.quoted_dumps floatText firstConfig)
      (JsonText.quoted_dumps floatText secondConfig), String.toList_inj]

namespace Scenario

/-- `float.__repr__` of a decimal that needs no exponent: the least number of digits
that is enough. -/
def decimalText : FloatText where
  repr value :=
    let digits := (List.range' 1 17).find? fun digits => (value * 10 ^ digits).den = 1
    formatFixed (digits.getD 17) value
  numeral value char member := by
    simp only [formatFixed, String.toList_append, List.mem_append, String.toList_ofList] at member
    rcases member with (((sign | whole) | point) | zeros) | fraction
    · split at sign
      · exact .inr (by simp_all)
      · cases sign
    · exact .inl (JsonText.isDigit_of_mem_repr whole)
    · exact .inr (by simp_all)
    · rw [List.eq_of_mem_replicate zeros]
      exact .inl rfl
    · exact .inl (JsonText.isDigit_of_mem_repr fraction)

def ragConfig : Json := .dict [("top_k", .int 3), ("temperature", .float (1 / 5))]

def reorderedConfig : Json := .dict [("temperature", .float (1 / 5)), ("top_k", .int 3)]

example : String.ofList (JsonText.dumps decimalText ragConfig) =
    "\x7b\"temperature\": 0.2, \"top_k\": 3\x7d" := by decide +kernel

end Scenario

theorem cache_key_text_injective_scenario :
    cacheKeyText Scenario.decimalText "policy|||null" Scenario.ragConfig =
        cacheKeyText Scenario.decimalText "policy|||null" Scenario.reorderedConfig ∧
      cacheKeyText Scenario.decimalText "policy|||null" Scenario.ragConfig ≠
        cacheKeyText Scenario.decimalText "policy" Scenario.ragConfig := by
  constructor
  · exact (cache_key_text_injective _ _ _ _ _).mpr ⟨rfl, by decide +kernel⟩
  · intro same
    exact absurd ((cache_key_text_injective _ _ _ _ _).mp same).1 (by decide)

end EvalForge
