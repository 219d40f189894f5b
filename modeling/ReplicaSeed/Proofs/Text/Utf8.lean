import Mathlib.Data.List.Basic
import ReplicaSeed.Text.Lossy

/-!
# Text that is written is read

The bytes of a text are decoded to that text, whatever characters it has.

## Main statements

* `Text.scalar?_append`: the bytes of a character, in front of any others, are read as it.
* `Text.decode?_encode`: the bytes of a text are read as the text.
* `Text.decode?_concat`: one byte of a character stands for it behind any bytes, also broken ones.
-/

namespace ReplicaSeed.Text

open String (utf8EncodeChar)

/-! ## The bytes of a text -/

theorem toList_loop (bytes : ByteArray) (i : Nat) (before : List UInt8) :
    ByteArray.toList.loop bytes i before = before.reverse ++ bytes.data.toList.drop i := by
  fun_induction ByteArray.toList.loop bytes i before with
  | case1 i before inside ih =>
    have inside' : i < bytes.data.toList.length := by simpa using inside
    have read : bytes.get! i = bytes.data[i]! := by cases bytes; rfl
    rw [ih, List.drop_eq_getElem_cons inside', read, getElem!_pos bytes.data i inside]
    simp
  | case2 i before outside =>
    rw [List.drop_eq_nil_of_le (by simpa using Nat.le_of_not_lt outside)]
    simp

theorem encode_eq (cs : List Char) : encode cs = cs.flatMap utf8EncodeChar := by
  rw [encode, String.toByteArray_ofList, List.utf8Encode, ByteArray.toList, toList_loop,
    List.data_toByteArray]
  rfl

/-! ## Bytes -/

theorem inRange_iff {lo hi b : UInt8} :
    inRange lo hi b = true ↔ lo.toNat ≤ b.toNat ∧ b.toNat ≤ hi.toNat := by
  simp [inRange, UInt8.le_iff_toNat_le]

theorem toNat_ofNat {n : Nat} (small : n < 256) : (UInt8.ofNat n).toNat = n :=
  UInt8.toNat_ofNat_of_lt small

/-- What a lead byte says, by its number. -/
theorem leadByte?_eq (b : UInt8) :
    leadByte? b =
      if 194 ≤ b.toNat ∧ b.toNat ≤ 223 then some (1, 0x80, 0xbf)
      else if b.toNat = 224 then some (2, 0xa0, 0xbf)
      else if 225 ≤ b.toNat ∧ b.toNat ≤ 236 ∨ 238 ≤ b.toNat ∧ b.toNat ≤ 239 then
        some (2, 0x80, 0xbf)
      else if b.toNat = 237 then some (2, 0x80, 0x9f)
      else if b.toNat = 240 then some (3, 0x90, 0xbf)
      else if 241 ≤ b.toNat ∧ b.toNat ≤ 243 then some (3, 0x80, 0xbf)
      else if b.toNat = 244 then some (3, 0x80, 0x8f)
      else none := by
  simp only [leadByte?, Bool.or_eq_true, inRange_iff, ← UInt8.toNat_inj]
  rfl

section

variable {b : UInt8}

theorem leadByte?_two (low : 194 ≤ b.toNat) (high : b.toNat ≤ 223) :
    leadByte? b = some (1, 0x80, 0xbf) := by
  rw [leadByte?_eq, if_pos ⟨low, high⟩]

/-- After the lead byte of three, the first of the others is a continuation byte that makes the
character neither too small nor half of a surrogate pair. -/
theorem leadByte?_three (low : 224 ≤ b.toNat) (high : b.toNat ≤ 239) :
    ∃ lo hi, leadByte? b = some (2, lo, hi) ∧ ∀ x : UInt8, 128 ≤ x.toNat → x.toNat ≤ 191 →
      (b.toNat = 224 → 160 ≤ x.toNat) → (b.toNat = 237 → x.toNat ≤ 159) →
        inRange lo hi x = true := by
  simp only [inRange_iff, leadByte?_eq]
  split_ifs
  all_goals first
    | omega
    | exact ⟨_, _, rfl, fun x _ _ _ _ => by simp; omega⟩

/-- After the lead byte of four, the first of the others is a continuation byte that makes the
character neither too small nor too large. -/
theorem leadByte?_four (low : 240 ≤ b.toNat) (high : b.toNat ≤ 244) :
    ∃ lo hi, leadByte? b = some (3, lo, hi) ∧ ∀ x : UInt8, 128 ≤ x.toNat → x.toNat ≤ 191 →
      (b.toNat = 240 → 144 ≤ x.toNat) → (b.toNat = 244 → x.toNat ≤ 143) →
        inRange lo hi x = true := by
  simp only [inRange_iff, leadByte?_eq]
  split_ifs
  all_goals first
    | omega
    | exact ⟨_, _, rfl, fun x _ _ _ _ => by simp; omega⟩

end

/-! ## Characters -/

/-- A lead byte with all its continuation bytes. -/
theorem scalar?_of_lead {b lo hi : UInt8} {extra : Nat} (tail : List UInt8) {rest : List UInt8}
    (multi : 128 ≤ b.toNat) (lead : leadByte? b = some (extra, lo, hi))
    (enough : tail.length = extra) (continues : continuation lo hi extra (tail ++ rest) = tail) :
    scalar? b (tail ++ rest) =
      (some (Char.ofNat (tail.foldl (fun n c => n * 64 + lowBits c) (leadBits extra b))),
        tail.length + 1) := by
  have long : ¬ b < 0x80 := by simp [UInt8.lt_iff_toNat_lt]; omega
  simp only [scalar?, if_neg long, lead, continues, enough, if_true]

theorem inRange_continuation (n : Nat) :
    inRange 0x80 0xbf (UInt8.ofNat (n % 64 + 128)) = true := by
  rw [inRange_iff, toNat_ofNat (by omega)]
  simp
  omega

theorem lowBits_continuation (n : Nat) : lowBits (UInt8.ofNat (n % 64 + 128)) = n % 64 := by
  rw [lowBits, toNat_ofNat (by omega)]
  omega

section

variable {n : Nat} (rest : List UInt8)

theorem scalar?_one (high : n ≤ 127) :
    scalar? (UInt8.ofNat n) rest = (some (Char.ofNat n), 1) := by
  have value := toNat_ofNat (show n < 256 by omega)
  have short : UInt8.ofNat n < 0x80 := by
    rw [UInt8.lt_iff_toNat_lt, value]
    exact Nat.lt_succ_of_le high
  rw [scalar?, if_pos short, value]

theorem scalar?_two (low : 128 ≤ n) (high : n ≤ 2047) :
    scalar? (UInt8.ofNat (n / 64 % 32 + 192)) (UInt8.ofNat (n % 64 + 128) :: rest) =
      (some (Char.ofNat n), 2) := by
  have value := toNat_ofNat (show n / 64 % 32 + 192 < 256 by omega)
  refine (scalar?_of_lead [UInt8.ofNat (n % 64 + 128)] (by omega)
    (leadByte?_two (by omega) (by omega)) rfl ?_).trans ?_
  · simp only [continuation, List.cons_append, List.nil_append, inRange_continuation, if_true]
  · have whole : leadBits 1 (UInt8.ofNat (n / 64 % 32 + 192)) * 64 + n % 64 = n := by
      rw [leadBits, value]
      simp
      omega
    simp only [List.foldl_cons, List.foldl_nil, lowBits_continuation, whole, List.length_singleton]

theorem scalar?_three (low : 2048 ≤ n) (high : n ≤ 65535) (whole : n < 0xd800 ∨ 0xdfff < n) :
    scalar? (UInt8.ofNat (n / 4096 % 16 + 224))
        (UInt8.ofNat (n / 64 % 64 + 128) :: UInt8.ofNat (n % 64 + 128) :: rest) =
      (some (Char.ofNat n), 3) := by
  have value := toNat_ofNat (show n / 4096 % 16 + 224 < 256 by omega)
  have second := toNat_ofNat (show n / 64 % 64 + 128 < 256 by omega)
  obtain ⟨lo, hi, lead, ranges⟩ := leadByte?_three
    (show 224 ≤ (UInt8.ofNat (n / 4096 % 16 + 224)).toNat by omega) (by omega)
  have inside : inRange lo hi (UInt8.ofNat (n / 64 % 64 + 128)) = true := by
    refine ranges _ ?_ ?_ ?_ ?_ <;> omega
  refine (scalar?_of_lead [_, UInt8.ofNat (n % 64 + 128)] (by omega) lead rfl ?_).trans ?_
  · simp only [continuation, List.cons_append, List.nil_append, inside, inRange_continuation,
      if_true]
  · have whole : (leadBits 2 (UInt8.ofNat (n / 4096 % 16 + 224)) * 64 + n / 64 % 64) * 64 + n % 64 =
        n := by
      rw [leadBits, value]
      simp
      omega
    simp only [List.foldl_cons, List.foldl_nil, lowBits_continuation, whole, List.length_cons,
      List.length_nil]

theorem scalar?_four (low : 65536 ≤ n) (high : n < 0x110000) :
    scalar? (UInt8.ofNat (n / 262144 % 8 + 240))
        (UInt8.ofNat (n / 4096 % 64 + 128) :: UInt8.ofNat (n / 64 % 64 + 128) ::
          UInt8.ofNat (n % 64 + 128) :: rest) =
      (some (Char.ofNat n), 4) := by
  have value := toNat_ofNat (show n / 262144 % 8 + 240 < 256 by omega)
  have second := toNat_ofNat (show n / 4096 % 64 + 128 < 256 by omega)
  obtain ⟨lo, hi, lead, ranges⟩ := leadByte?_four
    (show 240 ≤ (UInt8.ofNat (n / 262144 % 8 + 240)).toNat by omega) (by omega)
  have inside : inRange lo hi (UInt8.ofNat (n / 4096 % 64 + 128)) = true := by
    refine ranges _ ?_ ?_ ?_ ?_ <;> omega
  refine (scalar?_of_lead [_, UInt8.ofNat (n / 64 % 64 + 128),
    UInt8.ofNat (n % 64 + 128)] (by omega) lead rfl ?_).trans ?_
  · simp only [continuation, List.cons_append, List.nil_append, inside, inRange_continuation,
      if_true]
  · have whole : ((leadBits 3 (UInt8.ofNat (n / 262144 % 8 + 240)) * 64 + n / 4096 % 64) * 64 +
        n / 64 % 64) * 64 + n % 64 = n := by
      rw [leadBits, value]
      simp
      omega
    simp only [List.foldl_cons, List.foldl_nil, lowBits_continuation, whole, List.length_cons,
      List.length_nil]

end

/-- The bytes of a character, in front of any others, are read as it. -/
theorem scalar?_append (c : Char) (rest : List UInt8) :
    ∃ b bs, utf8EncodeChar c = b :: bs ∧ scalar? b (bs ++ rest) = (some c, bs.length + 1) := by
  have valid : c.toNat < 0xd800 ∨ 0xdfff < c.toNat ∧ c.toNat < 0x110000 := c.valid
  have same : Char.ofNat c.toNat = c := Char.ofNat_toNat c
  fun_cases utf8EncodeChar c with
  | case1 v one => exact ⟨_, _, rfl, same ▸ scalar?_one rest one⟩
  | case2 v notOne two =>
    exact ⟨_, [_], rfl, same ▸ scalar?_two rest (Nat.lt_of_not_le notOne) two⟩
  | case3 v notOne notTwo three =>
    exact ⟨_, [_, _], rfl, same ▸ scalar?_three rest (Nat.lt_of_not_le notTwo) three
      (valid.imp_right And.left)⟩
  | case4 v notOne notTwo notThree =>
    have high : c.toNat < 0x110000 := by omega
    exact ⟨_, [_, _, _], rfl, same ▸ scalar?_four rest (Nat.lt_of_not_le notThree) high⟩

/-! ## Texts -/

theorem decodeFrom_drop (skip : Nat) (bytes : List UInt8) :
    decodeFrom skip bytes = decodeFrom 0 (bytes.drop skip) := by
  induction bytes generalizing skip with
  | nil => simp [decodeFrom]
  | cons b bs ih =>
    cases skip with
    | zero => rfl
    | succ skip => rw [decodeFrom, ih, List.drop_succ_cons]

theorem decodePieces_append (c : Char) (rest : List UInt8) :
    decodePieces (utf8EncodeChar c ++ rest) = some c :: decodePieces rest := by
  obtain ⟨b, bs, bytes, read⟩ := scalar?_append c rest
  simp only [decodePieces, bytes, List.cons_append, decodeFrom, read, Nat.add_sub_cancel]
  rw [decodeFrom_drop, List.drop_left]

theorem decodePieces_encode (cs : List Char) : decodePieces (encode cs) = cs.map some := by
  rw [encode_eq]
  induction cs with
  | nil => rfl
  | cons c cs ih => rw [List.flatMap_cons, decodePieces_append, ih, List.map_cons]

/-- The bytes of a text are read as the text. -/
theorem decode?_encode (cs : List Char) : decode? (encode cs) = some cs := by
  rw [decode?, decodePieces_encode]
  induction cs with
  | nil => rfl
  | cons c cs ih => simp [List.mapM_cons, ih]

@[simp] theorem encode_append (cs ds : List Char) : encode (cs ++ ds) = encode cs ++ encode ds := by
  simp [encode_eq]

/-! ## Characters of one byte -/

/-- The byte of a character of one byte does not occur in other characters. -/
theorem mem_of_mem_utf8EncodeChar {n : Nat} {c : Char} (small : n < 128)
    (member : UInt8.ofNat n ∈ utf8EncodeChar c) : c.toNat = n := by
  have value := toNat_ofNat (show n < 256 by omega)
  have high (k : Nat) (low : 128 ≤ k) (fits : k < 256) : UInt8.ofNat n ≠ UInt8.ofNat k := by
    intro same
    have numbers := congrArg UInt8.toNat same
    rw [value, toNat_ofNat fits] at numbers
    omega
  revert member
  fun_cases utf8EncodeChar c with
  | case1 v one =>
    intro member
    have numbers := congrArg UInt8.toNat (List.mem_singleton.1 member)
    rw [value, toNat_ofNat (by omega)] at numbers
    exact numbers.symm
  | case2 v notOne two =>
    simp only [List.mem_cons, List.not_mem_nil, or_false]
    rintro (same | same)
    all_goals exact absurd same (high _ (by omega) (by omega))
  | case3 v notOne notTwo three =>
    simp only [List.mem_cons, List.not_mem_nil, or_false]
    rintro (same | same | same)
    all_goals exact absurd same (high _ (by omega) (by omega))
  | case4 v notOne notTwo notThree =>
    simp only [List.mem_cons, List.not_mem_nil, or_false]
    rintro (same | same | same | same)
    all_goals exact absurd same (high _ (by omega) (by omega))

/-- No line feed is written for a text that has none. -/
theorem feed_not_mem_encode {cs : List Char} (free : '\n' ∉ cs) : 10 ∉ encode cs := by
  rw [encode_eq, List.mem_flatMap]
  rintro ⟨c, member, written⟩
  have same : c.toNat = 10 := mem_of_mem_utf8EncodeChar (n := 10) (by decide) written
  have feed : c = '\n' := by rw [← Char.ofNat_toNat c, same]
  exact free (feed ▸ member)

theorem continuation_concat {lo hi b : UInt8} (strange : inRange lo hi b = false)
    (small : b.toNat < 128) (count : Nat) (bs : List UInt8) :
    continuation lo hi count (bs ++ [b]) = continuation lo hi count bs := by
  induction bs generalizing lo hi count with
  | nil => cases count <;> simp [continuation, strange]
  | cons x bs ih =>
    have general : inRange 0x80 0xbf b = false := by
      rw [Bool.eq_false_iff, ne_eq, inRange_iff]
      simp
      omega
    cases count <;> simp [continuation, ih general]

theorem length_continuation_le (lo hi : UInt8) (count : Nat) (bs : List UInt8) :
    (continuation lo hi count bs).length ≤ bs.length := by
  fun_induction continuation lo hi count bs <;> simp_all

theorem leadByte?_range {b lo hi : UInt8} {extra : Nat}
    (lead : leadByte? b = some (extra, lo, hi)) : 128 ≤ lo.toNat := by
  rw [leadByte?_eq] at lead
  split_ifs at lead
  all_goals
    cases lead
    decide

/-- A character is not read differently with the byte of another one behind it. -/
theorem scalar?_concat {b : UInt8} (small : b.toNat < 128) (x : UInt8) (bs : List UInt8) :
    scalar? x (bs ++ [b]) = scalar? x bs := by
  unfold scalar?
  split
  · rfl
  · cases lead : leadByte? x with
    | none => rfl
    | some parts =>
      obtain ⟨extra, lo, hi⟩ := parts
      have low := leadByte?_range lead
      have strange : inRange lo hi b = false := by
        rw [Bool.eq_false_iff, ne_eq, inRange_iff]
        omega
      simp only [continuation_concat strange small]

theorem size_scalar?_le (x : UInt8) (bs : List UInt8) : (scalar? x bs).2 - 1 ≤ bs.length := by
  unfold scalar?
  split
  · simp
  · cases lead : leadByte? x with
    | none => simp
    | some parts =>
      obtain ⟨extra, lo, hi⟩ := parts
      have short := length_continuation_le lo hi extra bs
      simp only
      split <;> simp only <;> omega

theorem decodeFrom_concat {b : UInt8} (small : b.toNat < 128) {bytes : List UInt8} {skip : Nat}
    (short : skip ≤ bytes.length) :
    decodeFrom skip (bytes ++ [b]) = decodeFrom skip bytes ++ [some (Char.ofNat b.toNat)] := by
  induction bytes generalizing skip with
  | nil =>
    obtain rfl : skip = 0 := Nat.le_zero.1 short
    have one : b < 0x80 := by
      rw [UInt8.lt_iff_toNat_lt]
      exact small
    simp [decodeFrom, scalar?, one]
  | cons x bs ih =>
    cases skip with
    | succ skip => exact ih (Nat.le_of_succ_le_succ short)
    | zero =>
      rw [List.cons_append, decodeFrom, decodeFrom, scalar?_concat small]
      simp only [ih (size_scalar?_le x bs), List.cons_append]

/-- A byte that is a character stands for it, behind whatever bytes. -/
theorem decode?_concat {b : UInt8} (small : b.toNat < 128) (bytes : List UInt8) :
    decode? (bytes ++ [b]) = (decode? bytes).map (· ++ [Char.ofNat b.toNat]) := by
  rw [decode?, decodePieces, decodeFrom_concat small (Nat.zero_le _), List.mapM_append, decode?,
    decodePieces]
  cases (decodeFrom 0 bytes).mapM id <;> rfl

end ReplicaSeed.Text
