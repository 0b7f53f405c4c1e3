import Mathlib.Data.List.Basic

/-! # URL-safe base64

Three bytes are four characters of six bits. The encoder pads the last group;
the decoder skips what it does not know and reads up to the padding.
-/

namespace EvalForge.Foundation.Base64

/-! ## The alphabet -/

def sextetChar (sextet : Nat) : Char :=
  "ABCDEFGHIJKLMNOPQRSTUVWXYZabcdefghijklmnopqrstuvwxyz0123456789-_".toList.getD sextet 'A'

/-- The decoder accepts the standard alphabet too. -/
def sextetOf (char : Char) : Option Nat :=
  if 'A' ≤ char ∧ char ≤ 'Z' then some (char.toNat - 'A'.toNat)
  else if 'a' ≤ char ∧ char ≤ 'z' then some (char.toNat - 'a'.toNat + 26)
  else if '0' ≤ char ∧ char ≤ '9' then some (char.toNat - '0'.toNat + 52)
  else if char = '-' ∨ char = '+' then some 62
  else if char = '_' ∨ char = '/' then some 63
  else none

theorem sextetOf_sextetChar {sextet : Nat} (bound : sextet < 64) :
    sextetOf (sextetChar sextet) = some sextet := by
  have all : ∀ sextet : Fin 64, sextetOf (sextetChar sextet) = some sextet.val := by decide +kernel
  exact all ⟨sextet, bound⟩

theorem sextetChar_plain {sextet : Nat} (bound : sextet < 64) :
    sextetChar sextet ≠ '=' ∧ sextetChar sextet ≠ '$' ∧ (sextetChar sextet).toNat < 128 := by
  have all : ∀ sextet : Fin 64, sextetChar sextet ≠ '=' ∧ sextetChar sextet ≠ '$' ∧
      (sextetChar sextet).toNat < 128 := by decide +kernel
  exact all ⟨sextet, bound⟩

/-! ## Encoding -/

/-- `base64.urlsafe_b64encode`. -/
def encode : List UInt8 → List Char
  | [] => []
  | [a] => [sextetChar (a.toNat / 4), sextetChar (a.toNat % 4 * 16), '=', '=']
  | [a, b] =>
      [sextetChar (a.toNat / 4), sextetChar (a.toNat % 4 * 16 + b.toNat / 16),
        sextetChar (b.toNat % 16 * 4), '=']
  | a :: b :: c :: bytes =>
      sextetChar (a.toNat / 4) :: sextetChar (a.toNat % 4 * 16 + b.toNat / 16) ::
        sextetChar (b.toNat % 16 * 4 + c.toNat / 64) :: sextetChar (c.toNat % 64) :: encode bytes

/-! ## Decoding -/

/-- The loop of `binascii.a2b_base64`: the position in a group of four, the bits
left over from it, and the padding that was seen. A group that is not complete
is refused. -/
def decodeLoop (position leftover pads : Nat) : List Char → Option (List UInt8)
  | [] => if position = 0 then some [] else none
  | char :: text =>
      if char = '=' then
        if 2 ≤ position then
          if 4 ≤ position + (pads + 1) then some []
          else decodeLoop position leftover (pads + 1) text
        else decodeLoop position leftover pads text
      else
        match sextetOf char with
        | none => decodeLoop position leftover pads text
        | some sextet =>
            match position with
            | 0 => decodeLoop 1 sextet 0 text
            | 1 =>
                (decodeLoop 2 (sextet % 16) 0 text).map
                  (UInt8.ofNat (leftover * 4 + sextet / 16) :: ·)
            | 2 =>
                (decodeLoop 3 (sextet % 4) 0 text).map
                  (UInt8.ofNat (leftover * 16 + sextet / 4) :: ·)
            | _ => (decodeLoop 0 0 0 text).map (UInt8.ofNat (leftover * 64 + sextet) :: ·)

/-- `base64.urlsafe_b64decode`. `none` is a `ValueError`. -/
def decode (text : List Char) : Option (List UInt8) :=
  if text.all (·.toNat < 128) then decodeLoop 0 0 0 text else none

/-! ## Round trip -/

section

variable {sextet leftover pads : Nat} {text : List Char}

theorem decodeLoop_first (bound : sextet < 64) :
    decodeLoop 0 leftover pads (sextetChar sextet :: text) = decodeLoop 1 sextet 0 text := by
  rw [decodeLoop, if_neg (sextetChar_plain bound).1, sextetOf_sextetChar bound]
  rfl

theorem decodeLoop_second (bound : sextet < 64) :
    decodeLoop 1 leftover pads (sextetChar sextet :: text) =
      (decodeLoop 2 (sextet % 16) 0 text).map (UInt8.ofNat (leftover * 4 + sextet / 16) :: ·) := by
  rw [decodeLoop, if_neg (sextetChar_plain bound).1, sextetOf_sextetChar bound]
  rfl

theorem decodeLoop_third (bound : sextet < 64) :
    decodeLoop 2 leftover pads (sextetChar sextet :: text) =
      (decodeLoop 3 (sextet % 4) 0 text).map (UInt8.ofNat (leftover * 16 + sextet / 4) :: ·) := by
  rw [decodeLoop, if_neg (sextetChar_plain bound).1, sextetOf_sextetChar bound]
  rfl

theorem decodeLoop_fourth (bound : sextet < 64) :
    decodeLoop 3 leftover pads (sextetChar sextet :: text) =
      (decodeLoop 0 0 0 text).map (UInt8.ofNat (leftover * 64 + sextet) :: ·) := by
  rw [decodeLoop, if_neg (sextetChar_plain bound).1, sextetOf_sextetChar bound]
  rfl

end

theorem ofNat_eq (byte : UInt8) {value : Nat} (equal : value = byte.toNat) :
    UInt8.ofNat value = byte := by
  rw [equal, UInt8.ofNat_toNat]

theorem decodeLoop_encode (bytes : List UInt8) : decodeLoop 0 0 0 (encode bytes) = some bytes := by
  induction bytes using encode.induct with
  | case1 => rfl
  | case2 a =>
      have bound := a.toNat_lt
      rw [encode, decodeLoop_first (by omega), decodeLoop_second (by omega),
        ofNat_eq a (by omega)]
      rfl
  | case3 a b =>
      have boundA := a.toNat_lt
      have boundB := b.toNat_lt
      rw [encode, decodeLoop_first (by omega), decodeLoop_second (by omega),
        decodeLoop_third (by omega), ofNat_eq a (by omega), ofNat_eq b (by omega)]
      rfl
  | case4 a b c bytes induction =>
      have boundA := a.toNat_lt
      have boundB := b.toNat_lt
      have boundC := c.toNat_lt
      rw [encode, decodeLoop_first (by omega), decodeLoop_second (by omega),
        decodeLoop_third (by omega), decodeLoop_fourth (by omega), induction,
        ofNat_eq a (by omega), ofNat_eq b (by omega), ofNat_eq c (by omega)]
      rfl

/-! ## Padding -/

/-- `text.rstrip("=")`. -/
def stripPadding (text : List Char) : List Char :=
  (text.reverse.dropWhile (· = '=')).reverse

/-- `text + "=" * (-len(text) % 4)`. -/
def pad (text : List Char) : List Char :=
  text ++ List.replicate (-(text.length : Int) % 4).toNat '='

/-- The characters of an encoding that hold data. -/
structure Data (data : List Char) : Prop where
  unpadded : ∀ char ∈ data, char ≠ '='
  separated : '$' ∉ data
  ascii : ∀ char ∈ data, char.toNat < 128

theorem Data.nil : Data [] where
  unpadded _ member := by cases member
  separated := List.not_mem_nil
  ascii _ member := by cases member

theorem Data.cons {sextet : Nat} {data : List Char} (bound : sextet < 64) (rest : Data data) :
    Data (sextetChar sextet :: data) where
  unpadded := List.forall_mem_cons.mpr ⟨(sextetChar_plain bound).1, rest.unpadded⟩
  separated := by
    rw [List.mem_cons, not_or]
    exact ⟨(sextetChar_plain bound).2.1.symm, rest.separated⟩
  ascii := List.forall_mem_cons.mpr ⟨(sextetChar_plain bound).2.2, rest.ascii⟩

theorem encode_eq_data_pads (bytes : List UInt8) :
    ∃ data pads, Data data ∧ encode bytes = data ++ List.replicate pads '=' ∧
      (data.length + pads) % 4 = 0 ∧ pads ≤ 2 := by
  induction bytes using encode.induct with
  | case1 => exact ⟨[], 0, .nil, rfl, rfl, by omega⟩
  | case2 a =>
      have bound := a.toNat_lt
      have plain : Data [sextetChar (a.toNat / 4), sextetChar (a.toNat % 4 * 16)] :=
        .cons (by omega) (.cons (by omega) .nil)
      exact ⟨_, 2, plain, rfl, by simp, by omega⟩
  | case3 a b =>
      have boundA := a.toNat_lt
      have boundB := b.toNat_lt
      have plain : Data [sextetChar (a.toNat / 4), sextetChar (a.toNat % 4 * 16 + b.toNat / 16),
          sextetChar (b.toNat % 16 * 4)] :=
        .cons (by omega) (.cons (by omega) (.cons (by omega) .nil))
      exact ⟨_, 1, plain, rfl, by simp, by omega⟩
  | case4 a b c bytes induction =>
      have boundA := a.toNat_lt
      have boundB := b.toNat_lt
      have boundC := c.toNat_lt
      rcases induction with ⟨data, pads, rest, split, whole, few⟩
      have plain : Data (sextetChar (a.toNat / 4) ::
          sextetChar (a.toNat % 4 * 16 + b.toNat / 16) ::
          sextetChar (b.toNat % 16 * 4 + c.toNat / 64) :: sextetChar (c.toNat % 64) :: data) :=
        .cons (by omega) (.cons (by omega) (.cons (by omega) (.cons (by omega) rest)))
      refine ⟨_, pads, plain, ?_, ?_, few⟩
      · rw [encode, split]
        rfl
      · simp only [List.length_cons]
        omega

theorem stripPadding_data {data : List Char} (plain : Data data) (pads : Nat) :
    stripPadding (data ++ List.replicate pads '=') = data := by
  have stripped : (List.replicate pads '=' ++ data.reverse).dropWhile (· = '=') =
      data.reverse := by
    rw [List.dropWhile_append_of_pos (by simp)]
    cases reversed : data.reverse with
    | nil => rfl
    | cons char rest =>
        have member : char ∈ data := by
          rw [← List.mem_reverse, reversed]
          exact List.mem_cons_self
        exact List.dropWhile_cons_of_neg (by simpa using plain.unpadded char member)
  rw [stripPadding, List.reverse_append, List.reverse_replicate, stripped, List.reverse_reverse]

theorem pad_stripPadding_encode (bytes : List UInt8) :
    pad (stripPadding (encode bytes)) = encode bytes := by
  rcases encode_eq_data_pads bytes with ⟨data, pads, plain, split, whole, few⟩
  have missing : (-(data.length : Int) % 4).toNat = pads := by omega
  rw [split, stripPadding_data plain, pad, missing]

theorem separator_not_mem_stripPadding (bytes : List UInt8) :
    '$' ∉ stripPadding (encode bytes) := by
  rcases encode_eq_data_pads bytes with ⟨data, pads, plain, split, -, -⟩
  rw [split, stripPadding_data plain]
  exact plain.separated

theorem decode_encode (bytes : List UInt8) : decode (encode bytes) = some bytes := by
  have ascii : (encode bytes).all (·.toNat < 128) = true := by
    rcases encode_eq_data_pads bytes with ⟨data, pads, plain, split, -, -⟩
    rw [split, List.all_append, Bool.and_eq_true, List.all_eq_true]
    constructor
    · intro char member
      exact decide_eq_true (plain.ascii char member)
    · rw [List.all_eq_true]
      intro char member
      rw [List.eq_of_mem_replicate member]
      decide
  rw [decode, if_pos ascii, decodeLoop_encode]

theorem decode_pad_stripPadding (bytes : List UInt8) :
    decode (pad (stripPadding (encode bytes))) = some bytes := by
  rw [pad_stripPadding_encode, decode_encode]

end EvalForge.Foundation.Base64
