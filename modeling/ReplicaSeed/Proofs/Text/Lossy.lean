import ReplicaSeed.Proofs.Text.Utf8

/-!
# Text from any bytes

What the bytes are read as that need not be UTF-8: the characters whose bytes they are, and the
replacement character for each piece that is none. Such a piece is as long as the beginning of a
character can be, and one byte where nothing begins a character.

## Main definitions

* `Text.Begins`: bytes that a character can begin with.
* `Text.Broken`: a piece that is no character, for what follows it.
* `Text.ReadsAs`: the text that bytes are read as, said without a reader.

## Main statements

* `Text.scalar?_eq_some`, `Text.broken_of_scalar?`: what is read from the first byte on.
* `Text.decodeLossy_eq_iff`: what is decoded is the text that the bytes are read as.
-/

namespace ReplicaSeed.Text

open String (utf8EncodeChar)

/-! ## What bytes are read as -/

/-- The bytes of some character begin like this. -/
def Begins (bytes : List UInt8) : Prop := ∃ c, bytes <+: utf8EncodeChar c

/-- The piece is no character, and what follows does not make it one. -/
structure Broken (piece rest : List UInt8) : Prop where
  nonempty : piece ≠ []
  begins : piece.length = 1 ∨ Begins piece
  noCharacter : ∀ c, ¬ utf8EncodeChar c <+: piece ++ rest
  longest : ∀ more, more <+: piece ++ rest → Begins more → more.length ≤ piece.length

/-- The text that bytes are read as, with a replacement character for each piece that is none. -/
inductive ReadsAs : List UInt8 → List Char → Prop
  | nil : ReadsAs [] []
  | char {rest : List UInt8} {cs : List Char} (c : Char) (h : ReadsAs rest cs) :
    ReadsAs (utf8EncodeChar c ++ rest) (c :: cs)
  | broken {piece rest : List UInt8} {cs : List Char} (none : Broken piece rest)
    (h : ReadsAs rest cs) : ReadsAs (piece ++ rest) ('\uFFFD' :: cs)

/-! ## Continuation bytes -/

/-- The bytes continue a character: the first one is in its own range. -/
def Continues (lo hi : UInt8) : List UInt8 → Prop
  | [] => True
  | b :: bs => inRange lo hi b = true ∧ ∀ x ∈ bs, inRange 0x80 0xbf x = true

section

variable {lo hi b : UInt8} {count n extra : Nat} {bs more tail : List UInt8} {c : Char}

theorem continues_general_iff :
    Continues 0x80 0xbf bs ↔ ∀ x ∈ bs, inRange 0x80 0xbf x = true := by
  cases bs <;> simp [Continues]

theorem Continues.of_prefix (h : Continues lo hi bs) (part : more <+: bs) :
    Continues lo hi more := by
  cases more with
  | nil => trivial
  | cons x more =>
    obtain ⟨rest, rfl⟩ := part
    exact ⟨h.1, fun y member => h.2 y (List.mem_append_left _ member)⟩

theorem prefix_continuation (lo hi : UInt8) (count : Nat) (bs : List UInt8) :
    continuation lo hi count bs <+: bs := by
  fun_induction continuation lo hi count bs with
  | case3 lo hi count b bs inside ih => exact (List.prefix_cons_inj b).2 ih
  | _ => exact List.nil_prefix

theorem continues_continuation (lo hi : UInt8) (count : Nat) (bs : List UInt8) :
    Continues lo hi (continuation lo hi count bs) := by
  fun_induction continuation lo hi count bs with
  | case3 lo hi count b bs inside ih => exact ⟨inside, continues_general_iff.1 ih⟩
  | _ => trivial

/-- No other beginning of the bytes continues the character further. -/
theorem length_le_continuation (h : Continues lo hi more) (part : more <+: bs)
    (short : more.length ≤ count) : more.length ≤ (continuation lo hi count bs).length := by
  fun_induction continuation lo hi count bs generalizing more with
  | case1 => exact short
  | case2 =>
    obtain rfl := List.prefix_nil.1 part
    exact Nat.zero_le _
  | case3 lo hi count b bs inside ih =>
    cases more with
    | nil => exact Nat.zero_le _
    | cons x more =>
      obtain ⟨rfl, later⟩ := List.cons_prefix_cons.1 part
      exact Nat.succ_le_succ
        (ih (continues_general_iff.2 h.2) later (Nat.le_of_succ_le_succ short))
  | case4 lo hi count b bs outside =>
    cases more with
    | nil => exact Nat.zero_le _
    | cons x more =>
      obtain ⟨rfl, -⟩ := List.cons_prefix_cons.1 part
      exact absurd h.1 outside

theorem length_continuation_le_count (lo hi : UInt8) (count : Nat) (bs : List UInt8) :
    (continuation lo hi count bs).length ≤ count := by
  fun_induction continuation lo hi count bs with
  | case3 lo hi count b bs inside ih => exact Nat.succ_le_succ ih
  | _ => exact Nat.zero_le _

/-! ## Characters from their bytes -/

section

variable {n : Nat}

theorem toNat_val_ofNat (valid : n < 0xd800 ∨ 0xdfff < n ∧ n < 0x110000) :
    (Char.ofNat n).val.toNat = n := by
  rw [Char.ofNat, dif_pos valid]
  rfl

theorem utf8EncodeChar_one (high : n ≤ 127) : utf8EncodeChar (Char.ofNat n) = [UInt8.ofNat n] := by
  have value := toNat_val_ofNat (show n < 0xd800 ∨ _ by omega)
  rw [utf8EncodeChar, value]
  simp only [if_pos high]

theorem utf8EncodeChar_two (low : 128 ≤ n) (high : n ≤ 2047) :
    utf8EncodeChar (Char.ofNat n) =
      [UInt8.ofNat (n / 64 % 32 + 192), UInt8.ofNat (n % 64 + 128)] := by
  have value := toNat_val_ofNat (show n < 0xd800 ∨ _ by omega)
  rw [utf8EncodeChar, value]
  simp only [if_neg (show ¬ n ≤ 127 by omega), if_pos high]

theorem utf8EncodeChar_three (low : 2048 ≤ n) (high : n ≤ 65535)
    (whole : n < 0xd800 ∨ 0xdfff < n) :
    utf8EncodeChar (Char.ofNat n) =
      [UInt8.ofNat (n / 4096 % 16 + 224), UInt8.ofNat (n / 64 % 64 + 128),
        UInt8.ofNat (n % 64 + 128)] := by
  have value := toNat_val_ofNat (whole.imp_right fun above => ⟨above, by omega⟩)
  rw [utf8EncodeChar, value]
  simp only [if_neg (show ¬ n ≤ 127 by omega), if_neg (show ¬ n ≤ 2047 by omega), if_pos high]

theorem utf8EncodeChar_four (low : 65536 ≤ n) (high : n < 0x110000) :
    utf8EncodeChar (Char.ofNat n) =
      [UInt8.ofNat (n / 262144 % 8 + 240), UInt8.ofNat (n / 4096 % 64 + 128),
        UInt8.ofNat (n / 64 % 64 + 128), UInt8.ofNat (n % 64 + 128)] := by
  have value := toNat_val_ofNat (show n < 0xd800 ∨ _ from .inr ⟨by omega, high⟩)
  rw [utf8EncodeChar, value]
  simp only [if_neg (show ¬ n ≤ 127 by omega), if_neg (show ¬ n ≤ 2047 by omega),
    if_neg (show ¬ n ≤ 65535 by omega)]

end

/-- What a lead byte asks of the bytes behind it. -/
theorem leadByte?_eq_some {b lo hi : UInt8} {extra : Nat}
    (lead : leadByte? b = some (extra, lo, hi)) :
    (extra = 1 ∧ 194 ≤ b.toNat ∧ b.toNat ≤ 223 ∧ lo.toNat = 128 ∧ hi.toNat = 191) ∨
    (extra = 2 ∧ 224 ≤ b.toNat ∧ b.toNat ≤ 239 ∧
      lo.toNat = (if b.toNat = 224 then 160 else 128) ∧
      hi.toNat = if b.toNat = 237 then 159 else 191) ∨
    (extra = 3 ∧ 240 ≤ b.toNat ∧ b.toNat ≤ 244 ∧
      lo.toNat = (if b.toNat = 240 then 144 else 128) ∧
      hi.toNat = if b.toNat = 244 then 143 else 191) := by
  rw [leadByte?_eq] at lead
  split_ifs at lead
  all_goals
    cases lead
    simp
    omega

theorem ofNat_eq {n : Nat} {b : UInt8} (same : n = b.toNat) : UInt8.ofNat n = b := by
  rw [same, UInt8.ofNat_toNat]

/-- A lead byte and all that it asks for are the bytes of the character that they are read as. -/
theorem utf8EncodeChar_of_lead {b lo hi : UInt8} {extra : Nat} {tail : List UInt8}
    (lead : leadByte? b = some (extra, lo, hi)) (continues : Continues lo hi tail)
    (all : tail.length = extra) :
    utf8EncodeChar
        (Char.ofNat (tail.foldl (fun n c => n * 64 + lowBits c) (leadBits extra b))) =
      b :: tail := by
  have general {x : UInt8} (inside : inRange 0x80 0xbf x = true) :
      128 ≤ x.toNat ∧ x.toNat ≤ 191 := inRange_iff.1 inside
  obtain ⟨rfl, low, high, hlo, hhi⟩ | ⟨rfl, low, high, hlo, hhi⟩ | ⟨rfl, low, high, hlo, hhi⟩ :=
    leadByte?_eq_some lead
  · obtain ⟨x, rfl⟩ := List.length_eq_one_iff.1 all
    have first := inRange_iff.1 continues.1
    simp only [List.foldl_cons, List.foldl_nil, leadBits, lowBits]
    generalize value : b.toNat % Nat.pow 2 (6 - 1) * 64 + x.toNat % 64 = n
    simp at value
    rw [utf8EncodeChar_two (by omega) (by omega), ofNat_eq (b := b) (by omega),
      ofNat_eq (b := x) (by omega)]
  · obtain ⟨x, y, rfl⟩ := List.length_eq_two.1 all
    have first := inRange_iff.1 continues.1
    have second := general (continues.2 y (by simp))
    simp only [List.foldl_cons, List.foldl_nil, leadBits, lowBits]
    generalize value :
      (b.toNat % Nat.pow 2 (6 - 2) * 64 + x.toNat % 64) * 64 + y.toNat % 64 = n
    simp at value
    split_ifs at hlo hhi <;>
    rw [utf8EncodeChar_three (by omega) (by omega) (by omega), ofNat_eq (b := b) (by omega),
      ofNat_eq (b := x) (by omega), ofNat_eq (b := y) (by omega)]
  · obtain ⟨x, y, z, rfl⟩ := List.length_eq_three.1 all
    have first := inRange_iff.1 continues.1
    have second := general (continues.2 y (by simp))
    have third := general (continues.2 z (by simp))
    simp only [List.foldl_cons, List.foldl_nil, leadBits, lowBits]
    generalize value :
      ((b.toNat % Nat.pow 2 (6 - 3) * 64 + x.toNat % 64) * 64 + y.toNat % 64) * 64 +
        z.toNat % 64 = n
    simp at value
    split_ifs at hlo hhi <;>
    rw [utf8EncodeChar_four (by omega) (by omega), ofNat_eq (b := b) (by omega),
      ofNat_eq (b := x) (by omega), ofNat_eq (b := y) (by omega), ofNat_eq (b := z) (by omega)]

end

/-! ## What is read from the first byte on -/

section

variable {b : UInt8} {bs more piece rest : List UInt8} {c : Char} {n : Nat}

/-- A character that is read has the bytes that it is read from. -/
theorem scalar?_eq_some (read : scalar? b bs = (some c, n)) : utf8EncodeChar c <+: b :: bs := by
  unfold scalar? at read
  split at read
  · rename_i small
    obtain ⟨rfl, -⟩ : Char.ofNat b.toNat = c ∧ 1 = n := by simpa using read
    rw [utf8EncodeChar_one (Nat.le_of_lt_succ (UInt8.lt_iff_toNat_lt.1 small)), UInt8.ofNat_toNat]
    exact (List.prefix_cons_inj b).2 List.nil_prefix
  · cases lead : leadByte? b with
    | none => simp [lead] at read
    | some parts =>
      obtain ⟨extra, lo, hi⟩ := parts
      simp only [lead] at read
      split at read
      · rename_i all
        obtain rfl := Option.some.inj (congrArg Prod.fst read)
        rw [utf8EncodeChar_of_lead lead (continues_continuation lo hi extra bs) all]
        exact (List.prefix_cons_inj b).2 (prefix_continuation lo hi extra bs)
      · simp at read

/-- Where the bytes of a character stand, it is read. -/
theorem scalar?_of_bytes (part : utf8EncodeChar c <+: b :: bs) :
    scalar? b bs = (some c, (utf8EncodeChar c).length) := by
  obtain ⟨rest, split⟩ := part
  obtain ⟨b', bs', bytes, read⟩ := scalar?_append c rest
  rw [bytes, List.cons_append] at split
  obtain ⟨rfl, rfl⟩ := List.cons.inj split
  rw [read, bytes, List.length_cons]

/-- More than one byte begins a character if the first one asks for the others. -/
theorem Begins.lead (begins : Begins (b :: more)) (some : more ≠ []) :
    ∃ extra lo hi, leadByte? b = .some (extra, lo, hi) ∧ Continues lo hi more ∧
      more.length ≤ extra := by
  obtain ⟨c, part⟩ := begins
  obtain ⟨b', tail, bytes, read⟩ := scalar?_append c []
  rw [bytes] at part
  obtain ⟨rfl, later⟩ := List.cons_prefix_cons.1 part
  rw [List.append_nil] at read
  unfold scalar? at read
  split at read
  · obtain ⟨-, rfl⟩ : Char.ofNat b.toNat = c ∧ tail = [] := by simpa using read
    exact absurd (List.prefix_nil.1 later) some
  · cases lead : leadByte? b with
    | none => simp [lead] at read
    | some parts =>
      obtain ⟨extra, lo, hi⟩ := parts
      simp only [lead] at read
      split at read
      · rename_i all
        obtain rfl : extra = tail.length := by simpa using congrArg Prod.snd read
        have whole : continuation lo hi tail.length tail = tail :=
          (prefix_continuation ..).eq_of_length all
        have continues := continues_continuation lo hi tail.length tail
        rw [whole] at continues
        exact ⟨_, lo, hi, rfl, continues.of_prefix later, later.length_le⟩
      · simp at read

/-- A lead byte begins a character with some of the bytes that it asks for. -/
theorem begins_of_continues {extra : Nat} {lo hi : UInt8}
    (lead : leadByte? b = some (extra, lo, hi)) (continues : Continues lo hi more)
    (some : more ≠ []) (short : more.length ≤ extra) : Begins (b :: more) := by
  -- The bytes that are missing can be any continuation bytes.
  let full := more ++ List.replicate (extra - more.length) 0x80
  have continues : Continues lo hi full := by
    obtain ⟨x, more, rfl⟩ := List.exists_cons_of_ne_nil some
    refine ⟨continues.1, fun y member => ?_⟩
    obtain member | member := List.mem_append.1 member
    · exact continues.2 y member
    · rw [List.eq_of_mem_replicate member]
      rfl
  have all : full.length = extra := by
    simp only [full, List.length_append, List.length_replicate]
    omega
  refine ⟨Char.ofNat (full.foldl (fun n c => n * 64 + lowBits c) (leadBits extra b)), ?_⟩
  rw [utf8EncodeChar_of_lead lead continues all]
  exact (List.prefix_cons_inj b).2 (List.prefix_append ..)

/-- What is read as no character is a broken piece. -/
theorem broken_of_scalar? (read : scalar? b bs = (none, n)) :
    ∃ piece rest, b :: bs = piece ++ rest ∧ piece.length = n ∧ Broken piece rest := by
  have noCharacter (c : Char) : ¬ utf8EncodeChar c <+: b :: bs := by
    intro part
    rw [scalar?_of_bytes part] at read
    cases read
  unfold scalar? at read
  split at read
  · cases read
  · cases lead : leadByte? b with
    | none =>
      obtain rfl : 1 = n := by simpa [lead] using read
      refine ⟨[b], bs, rfl, rfl, List.cons_ne_nil _ _, .inl rfl, noCharacter, ?_⟩
      rintro (_ | ⟨x, more⟩) part begins
      · exact Nat.zero_le _
      · obtain ⟨rfl, -⟩ := List.cons_prefix_cons.1 part
        refine Nat.succ_le_succ (Nat.le_of_eq (List.length_eq_zero_iff.2 ?_))
        refine Classical.byContradiction fun some => ?_
        obtain ⟨extra, lo, hi, lead', -⟩ := begins.lead some
        rw [lead] at lead'
        cases lead'
    | some parts =>
      obtain ⟨extra, lo, hi⟩ := parts
      simp only [lead] at read
      split at read
      · cases read
      · obtain rfl : (continuation lo hi extra bs).length + 1 = n := congrArg Prod.snd read
        obtain ⟨rest, split⟩ := prefix_continuation lo hi extra bs
        have whole : b :: bs = b :: continuation lo hi extra bs ++ rest := by
          rw [List.cons_append, split]
        refine ⟨b :: continuation lo hi extra bs, rest, whole, rfl, List.cons_ne_nil _ _, ?_,
          whole ▸ noCharacter, ?_⟩
        · by_cases alone : continuation lo hi extra bs = []
          · exact .inl (by rw [alone]; rfl)
          · exact .inr (begins_of_continues lead (continues_continuation ..) alone
              (length_continuation_le_count ..))
        · rw [← whole]
          rintro (_ | ⟨x, more⟩) part begins
          · exact Nat.zero_le _
          · obtain ⟨rfl, later⟩ := List.cons_prefix_cons.1 part
            by_cases alone : more = []
            · simp [alone]
            · obtain ⟨_, _, _, lead', continues, short⟩ := begins.lead alone
              obtain ⟨rfl, rfl, rfl⟩ : _ ∧ _ ∧ _ := by simpa [lead] using lead'
              exact Nat.succ_le_succ (length_le_continuation continues later short)

/-- The bytes say where a broken piece ends. -/
theorem Broken.unique {piece' rest' : List UInt8} (h : Broken piece rest)
    (h' : Broken piece' rest') (same : piece ++ rest = piece' ++ rest') :
    piece = piece' ∧ rest = rest' := by
  have le {p q r s : List UInt8} (h : Broken p r) (h' : Broken q s) (same : p ++ r = q ++ s) :
      p.length ≤ q.length := by
    obtain one | begins := h.begins
    · rw [one]
      exact List.length_pos_iff.2 h'.nonempty
    · exact h'.longest p (same ▸ List.prefix_append ..) begins
  exact List.append_inj same (Nat.le_antisymm (le h h' same) (le h' h same.symm))

/-! ## Texts -/

/-- Bytes begin with those of a character or with a broken piece. -/
theorem exists_first (b : UInt8) (bs : List UInt8) :
    (∃ c rest, b :: bs = utf8EncodeChar c ++ rest) ∨
      ∃ piece rest, b :: bs = piece ++ rest ∧ Broken piece rest := by
  cases read : scalar? b bs with
  | mk c? n =>
    cases c? with
    | none =>
      obtain ⟨piece, rest, same, -, broken⟩ := broken_of_scalar? read
      exact .inr ⟨piece, rest, same, broken⟩
    | some c =>
      obtain ⟨rest, same⟩ := scalar?_eq_some read
      exact .inl ⟨c, rest, same.symm⟩

theorem decodeLossy_char (c : Char) (rest : List UInt8) :
    decodeLossy (utf8EncodeChar c ++ rest) = c :: decodeLossy rest := by
  rw [decodeLossy, decodePieces_append, List.map_cons]
  rfl

theorem decodeLossy_broken (broken : Broken piece rest) :
    decodeLossy (piece ++ rest) = '\uFFFD' :: decodeLossy rest := by
  obtain ⟨b, tail, rfl⟩ := List.exists_cons_of_ne_nil broken.nonempty
  cases read : scalar? b (tail ++ rest) with
  | mk c? n =>
    cases c? with
    | none =>
      obtain ⟨piece, rest', same, size, broken'⟩ := broken_of_scalar? read
      obtain ⟨rfl, rfl⟩ := broken.unique broken' same
      obtain rfl : tail.length + 1 = n := size
      simp only [decodeLossy, decodePieces, List.cons_append, decodeFrom, read,
        Nat.add_sub_cancel, List.map_cons]
      rw [decodeFrom_drop, List.drop_left]
      rfl
    | some c => exact absurd (scalar?_eq_some read) (broken.noCharacter c)

theorem readsAs_decodeLossy (bytes : List UInt8) : ReadsAs bytes (decodeLossy bytes) := by
  induction size : bytes.length using Nat.strongRecOn generalizing bytes with
  | _ size ih =>
    subst size
    cases bytes with
    | nil => exact .nil
    | cons b bs =>
      obtain ⟨c, rest, same⟩ | ⟨piece, rest, same, broken⟩ := exists_first b bs
      · rw [same, decodeLossy_char]
        exact .char c (ih _ (by simp [same, Char.utf8Size_pos]) rest rfl)
      · have nonempty := List.length_pos_iff.2 broken.nonempty
        rw [same, decodeLossy_broken broken]
        exact .broken broken (ih _ (by simp [same, nonempty]) rest rfl)

/-- What is decoded is the text that the bytes are read as. -/
theorem decodeLossy_eq_iff {bytes : List UInt8} {cs : List Char} :
    decodeLossy bytes = cs ↔ ReadsAs bytes cs := by
  constructor
  · rintro rfl
    exact readsAs_decodeLossy bytes
  · intro reads
    induction reads with
    | nil => rfl
    | char c _ ih => rw [decodeLossy_char, ih]
    | broken none _ ih => rw [decodeLossy_broken none, ih]

/-- What there is of a character that breaks off is one piece. -/
example : decodeLossy [0xe4, 0xb8, 0x41] = ['\uFFFD', 'A'] := by decide

end

end ReplicaSeed.Text
