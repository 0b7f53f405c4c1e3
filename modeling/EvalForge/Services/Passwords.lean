import EvalForge.Foundation.Base64
import Mathlib.Algebra.Group.Nat.Defs
import Mathlib.Data.List.TakeWhile

/-! # Password hashes

The stored form of a password and its verification. The key derivation and
Python's `int` on texts are parameters.
-/

namespace EvalForge

open Foundation

/-- `hashlib.scrypt` of a password, a salt, the cost parameters and the length of
the digest. `none` is a `ValueError` for parameters that it refuses. -/
abbrev Scrypt :=
  (password salt : List UInt8) → (n r p : Int) → (length : Nat) → Option (Vector UInt8 length)

/-- `int(text)`, which reads what `str` writes. -/
structure IntText where
  parse : String → Option Int
  parse_toString : ∀ value : Nat, parse (toString value) = some (value : Int)

/-- `text.split(separator, limit)`. -/
def splitMax (separator : Char) : Nat → List Char → List (List Char)
  | 0, text => [text]
  | limit + 1, text =>
      match text.dropWhile (· ≠ separator) with
      | [] => [text]
      | _ :: rest => text.takeWhile (· ≠ separator) :: splitMax separator limit rest

def scryptN : Nat := 2 ^ 14

def scryptR : Nat := 8

def scryptP : Nat := 1

/-- `password.encode()`. -/
def utf8 (password : String) : List UInt8 := password.toUTF8.data.toList

/-- `_encode`. -/
def encodeBytes (value : List UInt8) : List Char := Base64.stripPadding (Base64.encode value)

/-- `_decode`. -/
def decodeText (value : List Char) : Option (List UInt8) := Base64.decode (Base64.pad value)

/-- `hash_password`, when `token_bytes` gives the salt. -/
def hashPassword (scrypt : Scrypt) (salt : List UInt8) (password : String) : Option String :=
  (scrypt (utf8 password) salt scryptN scryptR scryptP 32).map fun digest =>
    String.ofList (['$'].intercalate [
      "scrypt".toList, (toString scryptN).toList, (toString scryptR).toList,
      (toString scryptP).toList, encodeBytes salt, encodeBytes digest.toList])

/-- The digest of a password under the parsed fields is the expected one. `none`
is a `ValueError`. -/
def verifyDigest (scrypt : Scrypt) (ints : IntText) (password : String)
    (n r p salt expected : List Char) : Option Bool := do
  let expectedDigest ← decodeText expected
  let salt ← decodeText salt
  let n ← ints.parse (String.ofList n)
  let r ← ints.parse (String.ofList r)
  let p ← ints.parse (String.ofList p)
  let digest ← scrypt (utf8 password) salt n r p expectedDigest.length
  return digest.toList == expectedDigest

def verifyPassword (scrypt : Scrypt) (ints : IntText) (password : String) :
    Option String → Bool
  | none => false
  | some encoded =>
      match splitMax '$' 5 encoded.toList with
      | [algorithm, n, r, p, salt, expected] =>
          if algorithm = "scrypt".toList then
            (verifyDigest scrypt ints password n r p salt expected).getD false
          else false
      | _ => false

/-! ## Fields -/

section Fields

variable {separator : Char} {field rest text : List Char}

theorem decide_ne_of_not_mem (plain : separator ∉ field) :
    ∀ char ∈ field, decide (char ≠ separator) = true := by
  intro char member
  have different : char ≠ separator := fun equal => plain (equal ▸ member)
  exact decide_eq_true different

theorem takeWhile_append_separator (plain : separator ∉ field) (rest : List Char) :
    (field ++ separator :: rest).takeWhile (· ≠ separator) = field := by
  rw [List.takeWhile_append_of_pos (decide_ne_of_not_mem plain),
    List.takeWhile_cons_of_neg (by simp), List.append_nil]

theorem splitMax_append (plain : separator ∉ field) (limit : Nat) (rest : List Char) :
    splitMax separator (limit + 1) (field ++ separator :: rest) =
      field :: splitMax separator limit rest := by
  have dropped : (field ++ separator :: rest).dropWhile (· ≠ separator) = separator :: rest := by
    rw [List.dropWhile_append_of_pos (decide_ne_of_not_mem plain),
      List.dropWhile_cons_of_neg (by simp)]
  rw [splitMax, dropped, takeWhile_append_separator plain]

theorem splitMax_of_not_mem (plain : separator ∉ text) (limit : Nat) :
    splitMax separator limit text = [text] := by
  cases limit with
  | zero => rfl
  | succ limit =>
      have dropped : text.dropWhile (· ≠ separator) = [] := by
        rw [List.dropWhile_eq_nil_iff]
        exact decide_ne_of_not_mem plain
      rw [splitMax, dropped]

variable (separator) in
theorem length_splitMax (limit : Nat) (text : List Char) :
    (splitMax separator limit text).length = min limit (text.count separator) + 1 := by
  induction limit generalizing text with
  | zero => simp [splitMax]
  | succ limit induction =>
      by_cases member : separator ∈ text
      · rcases List.eq_append_cons_of_mem member with ⟨field, rest, rfl, plain⟩
        rw [splitMax_append plain, List.length_cons, induction, List.count_append,
          List.count_eq_zero.mpr plain, List.count_cons_self]
        omega
      · rw [splitMax_of_not_mem member, List.count_eq_zero.mpr member]
        rfl

variable (separator) in
theorem head?_splitMax (limit : Nat) (text : List Char) :
    (splitMax separator (limit + 1) text).head? = some (text.takeWhile (· ≠ separator)) := by
  by_cases member : separator ∈ text
  · rcases List.eq_append_cons_of_mem member with ⟨field, rest, rfl, plain⟩
    rw [splitMax_append plain, takeWhile_append_separator plain]
    rfl
  · rw [splitMax_of_not_mem member,
      List.takeWhile_eq_self_iff.mpr (decide_ne_of_not_mem member)]
    rfl

end Fields

/-! ## Round trip -/

section RoundTrip

variable {scrypt : Scrypt} {ints : IntText} {salt : List UInt8} {password other encoded : String}

theorem decodeText_encodeBytes (value : List UInt8) :
    decodeText (encodeBytes value) = some value :=
  Base64.decode_pad_stripPadding value

theorem splitMax_stored (n r p salt expected : List Char) (plainN : '$' ∉ n) (plainR : '$' ∉ r)
    (plainP : '$' ∉ p) (plainSalt : '$' ∉ salt) (plainExpected : '$' ∉ expected) :
    splitMax '$' 5 (['$'].intercalate ["scrypt".toList, n, r, p, salt, expected]) =
      ["scrypt".toList, n, r, p, salt, expected] := by
  have plainAlgorithm : '$' ∉ "scrypt".toList := by decide
  simp only [List.intercalate_cons_cons, List.intercalate_singleton, List.append_assoc,
    List.singleton_append]
  rw [splitMax_append plainAlgorithm, splitMax_append plainN, splitMax_append plainR,
    splitMax_append plainP, splitMax_append plainSalt, splitMax_of_not_mem plainExpected]

theorem parse_ofList_toString (ints : IntText) (value : Nat) :
    ints.parse (String.ofList (toString value).toList) = some (value : Int) := by
  rw [String.ofList_toList, ints.parse_toString]

theorem verifyDigest_stored (digest : Vector UInt8 32) :
    verifyDigest scrypt ints other (toString scryptN).toList (toString scryptR).toList
        (toString scryptP).toList (encodeBytes salt) (encodeBytes digest.toList) =
      (scrypt (utf8 other) salt scryptN scryptR scryptP digest.toList.length).map
        fun found => found.toList == digest.toList := by
  simp only [verifyDigest, decodeText_encodeBytes, parse_ofList_toString, Option.bind_eq_bind,
    Option.bind_some, Option.map_eq_bind]
  rfl

theorem digest_eq_iff (digest : Vector UInt8 32) {length : Nat} (same : length = 32)
    (derived : (length : Nat) → Option (Vector UInt8 length)) :
    ((derived length).map fun found => found.toList == digest.toList).getD false = true ↔
      derived 32 = some digest := by
  subst same
  cases derived 32 with
  | none => simp
  | some found => simp

theorem verifyPassword_stored (digest : Vector UInt8 32) :
    verifyPassword scrypt ints other (some (String.ofList (['$'].intercalate [
        "scrypt".toList, (toString scryptN).toList, (toString scryptR).toList,
        (toString scryptP).toList, encodeBytes salt, encodeBytes digest.toList]))) = true ↔
      scrypt (utf8 other) salt scryptN scryptR scryptP 32 = some digest := by
  have split := splitMax_stored (toString scryptN).toList (toString scryptR).toList
    (toString scryptP).toList (encodeBytes salt) (encodeBytes digest.toList) (by decide)
    (by decide) (by decide) (Base64.separator_not_mem_stripPadding salt)
    (Base64.separator_not_mem_stripPadding digest.toList)
  rw [verifyPassword, String.toList_ofList, split]
  simp only [if_true, verifyDigest_stored]
  exact digest_eq_iff digest (by simp) (scrypt (utf8 other) salt scryptN scryptR scryptP)

theorem hashPassword_of_derived {digest : Vector UInt8 32}
    (derived : scrypt (utf8 password) salt scryptN scryptR scryptP 32 = some digest) :
    ∃ encoded, hashPassword scrypt salt password = some encoded := by
  rw [hashPassword, derived]
  exact ⟨_, rfl⟩

theorem verifyPassword_hashPassword (hashed : hashPassword scrypt salt password = some encoded) :
    verifyPassword scrypt ints other (some encoded) = true ↔
      scrypt (utf8 other) salt scryptN scryptR scryptP 32 =
        scrypt (utf8 password) salt scryptN scryptR scryptP 32 := by
  rcases Option.map_eq_some_iff.mp hashed with ⟨digest, derived, rfl⟩
  rw [verifyPassword_stored, derived]

theorem verifyPassword_eq_false (malformed : encoded.toList.count '$' < 5 ∨
      encoded.toList.takeWhile (· ≠ '$') ≠ "scrypt".toList) :
    verifyPassword scrypt ints password (some encoded) = false := by
  have length := length_splitMax '$' 5 encoded.toList
  have head := head?_splitMax '$' 4 encoded.toList
  rw [verifyPassword]
  split
  · next algorithm n r p salt expected fields =>
      rw [fields] at length head
      have enough : ¬encoded.toList.count '$' < 5 := by
        simp only [List.length_cons, List.length_nil] at length
        omega
      have first : algorithm = encoded.toList.takeWhile (· ≠ '$') := Option.some.inj head
      rw [if_neg (first ▸ malformed.resolve_left enough)]
  · rfl

end RoundTrip

structure PasswordsRoundTrip (scrypt : Scrypt) (ints : IntText) : Prop where
  decoded : ∀ value, decodeText (encodeBytes value) = some value
  hashed : ∀ password salt digest,
    scrypt (utf8 password) salt scryptN scryptR scryptP 32 = some digest →
    ∃ encoded, hashPassword scrypt salt password = some encoded
  verified : ∀ password other salt encoded, hashPassword scrypt salt password = some encoded →
    (verifyPassword scrypt ints other (some encoded) = true ↔
      scrypt (utf8 other) salt scryptN scryptR scryptP 32 =
        scrypt (utf8 password) salt scryptN scryptR scryptP 32)
  absent : ∀ password, verifyPassword scrypt ints password none = false
  malformed : ∀ password (encoded : String),
    encoded.toList.count '$' < 5 ∨ encoded.toList.takeWhile (· ≠ '$') ≠ "scrypt".toList →
    verifyPassword scrypt ints password (some encoded) = false

theorem password_hashes_round_trip (scrypt : Scrypt) (ints : IntText) :
    PasswordsRoundTrip scrypt ints where
  decoded := decodeText_encodeBytes
  hashed _ _ _ := hashPassword_of_derived
  verified _ _ _ _ := verifyPassword_hashPassword
  absent _ := rfl
  malformed _ _ := verifyPassword_eq_false

namespace Scenario

/-- `int` on numerals without a sign or blanks. -/
def decimalInts : IntText where
  parse text :=
    if text.toList ≠ [] ∧ text.toList.all Char.isDigit then
      some (Nat.ofDigitChars 10 text.toList 0 : Nat)
    else none
  parse_toString value := by
    have digits : (toString value).toList = Nat.toDigits 10 value := Nat.toList_repr
    have numeral : Nat.toDigits 10 value ≠ [] ∧ (Nat.toDigits 10 value).all Char.isDigit := by
      refine ⟨Nat.toDigits_ne_nil, List.all_eq_true.mpr fun char member => ?_⟩
      exact Nat.isDigit_of_mem_toDigits (by decide) (by decide) member
    rw [digits, if_pos numeral, Nat.ofDigitChars_ten_toDigits]

def summingScrypt : Scrypt := fun password salt _ _ _ length =>
  some (Vector.ofFn fun position : Fin length =>
    UInt8.ofNat ((password ++ salt).foldl (fun total byte => total + byte.toNat) position))

end Scenario

theorem password_hashes_round_trip_scenario :
    ∃ encoded, hashPassword Scenario.summingScrypt [7, 255] "correct horse" = some encoded ∧
      verifyPassword Scenario.summingScrypt Scenario.decimalInts "correct horse"
        (some encoded) = true ∧
      verifyPassword Scenario.summingScrypt Scenario.decimalInts "wrong horse"
        (some encoded) = false := by
  have roundTrip := password_hashes_round_trip Scenario.summingScrypt Scenario.decimalInts
  rcases roundTrip.hashed "correct horse" [7, 255] _ rfl with ⟨encoded, hashed⟩
  refine ⟨encoded, hashed, ?_, ?_⟩
  · exact (roundTrip.verified _ "correct horse" _ _ hashed).mpr rfl
  · rw [← Bool.not_eq_true, roundTrip.verified _ "wrong horse" _ _ hashed]
    decide +kernel

end EvalForge
