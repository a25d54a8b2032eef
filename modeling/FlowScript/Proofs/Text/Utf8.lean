import FlowScript.Text.Utf8

/-!
# Encoding and decoding

Decoding gives back what was encoded, whatever bytes follow (`decode_utf8EncodeChar`): the bytes
of a character take the decoder from between characters to between characters, through states
whose bounds they keep. So both readings of the bytes of a text give the text
(`strict?_encode`, `tolerant_encode`).

Texts in ascending order have their bytes in ascending order (`encode_lt_encode`).
-/

namespace FlowScript

namespace Text

namespace Utf8

/-! ### One byte -/

theorem decode_cons (byte : UInt8) (bytes : List UInt8) :
    decode (byte :: bytes) =
      (start byte.toNat).1 ++ decodeFrom (start byte.toNat).2 bytes := rfl

theorem start_of_lt_80 {byte : Nat} (h : byte < 0x80) :
    start byte = ([some (Char.ofNat byte)], .idle) := by
  rw [start, if_pos h]

/-- The first byte of two tells that one more is needed. From here on the three lemmas differ in how
many bytes are needed, and in which values the next byte may have. -/
theorem start_of_lt_e0 {byte : Nat} (hl : 0xc2 ≤ byte) (hu : byte < 0xe0) :
    start byte = ([], ⟨1, 0x80, 0xbf, byte - 0xc0⟩) := by
  rw [start, if_neg (by omega), if_neg (by omega), if_pos hu]

/-- The first byte of three. Behind `e0` a low byte would spell a character that fewer bytes can
spell, and behind `ed` a high one would spell a surrogate. -/
theorem start_of_lt_f0 {byte : Nat} (hl : 0xe0 ≤ byte) (hu : byte < 0xf0) :
    start byte = ([], ⟨2, if byte == 0xe0 then 0xa0 else 0x80,
      if byte == 0xed then 0x9f else 0xbf, byte - 0xe0⟩) := by
  rw [start, if_neg (by omega), if_neg (by omega), if_neg (by omega), if_pos hu]

/-- The first byte of four. Behind `f0` a low byte would spell a character that fewer bytes can
spell, and behind `f4` a high one would lie beyond all characters. -/
theorem start_of_lt_f5 {byte : Nat} (hl : 0xf0 ≤ byte) (hu : byte < 0xf5) :
    start byte = ([], ⟨3, if byte == 0xf0 then 0x90 else 0x80,
      if byte == 0xf4 then 0x8f else 0xbf, byte - 0xf0⟩) := by
  rw [start, if_neg (by omega), if_neg (by omega), if_neg (by omega), if_neg (by omega), if_pos hu]

/-- A byte within the bounds goes on with the character. -/
theorem decodeFrom_more {needed lower upper value : Nat} {byte : UInt8} (hneeded : 1 ≤ needed)
    (hl : lower ≤ byte.toNat) (hu : byte.toNat ≤ upper) (bytes : List UInt8) :
    decodeFrom ⟨needed + 1, lower, upper, value⟩ (byte :: bytes) =
      decodeFrom ⟨needed, 0x80, 0xbf, value * 64 + (byte.toNat - 0x80)⟩ bytes := by
  have hadvance : advance ⟨needed + 1, lower, upper, value⟩ byte.toNat =
      ([], ⟨needed, 0x80, 0xbf, value * 64 + (byte.toNat - 0x80)⟩) := by
    rw [advance, if_neg (by simp), if_pos ⟨hl, hu⟩]
    dsimp only
    rw [if_neg (by omega), Nat.add_sub_cancel]
  rw [decodeFrom, hadvance]
  rfl

/-- The last byte that is needed completes the character. -/
theorem decodeFrom_last {lower upper value : Nat} {byte : UInt8}
    (hl : lower ≤ byte.toNat) (hu : byte.toNat ≤ upper) (bytes : List UInt8) :
    decodeFrom ⟨1, lower, upper, value⟩ (byte :: bytes) =
      some (Char.ofNat (value * 64 + (byte.toNat - 0x80))) :: decode bytes := by
  have hadvance : advance ⟨1, lower, upper, value⟩ byte.toNat =
      ([some (Char.ofNat (value * 64 + (byte.toNat - 0x80)))], .idle) := by
    rw [advance, if_neg (by simp), if_pos ⟨hl, hu⟩]
    rfl
  rw [decodeFrom, hadvance]
  rfl

/-! ### One character

The bytes of a code point, by how many there are. -/

theorem toNat_ofNat_of_lt {n : Nat} (h : n < 256) : (UInt8.ofNat n).toNat = n := by
  rw [UInt8.toNat_ofNat', Nat.mod_eq_of_lt h]

variable {v : Nat} (bytes : List UInt8)

theorem decode_one (h : v ≤ 0x7f) :
    decode (UInt8.ofNat v :: bytes) = some (Char.ofNat v) :: decode bytes := by
  rw [decode_cons, toNat_ofNat_of_lt (by omega), start_of_lt_80 (by omega)]
  rfl

/-- The two bytes of a code point are decoded to it: the second is within its bounds, and six bits
of the value come from it. -/
theorem decode_two (hl : 0x7f < v) (hu : v ≤ 0x7ff) :
    decode (UInt8.ofNat (v / 64 % 32 + 192) :: UInt8.ofNat (v % 64 + 128) :: bytes) =
      some (Char.ofNat v) :: decode bytes := by
  have h₁ := @toNat_ofNat_of_lt (v / 64 % 32 + 192) (by omega)
  have h₂ := @toNat_ofNat_of_lt (v % 64 + 128) (by omega)
  have hv : (v / 64 % 32 + 192 - 192) * 64 + (v % 64 + 128 - 128) = v := by omega
  rw [decode_cons, h₁, start_of_lt_e0 (by omega) (by omega), List.nil_append,
    decodeFrom_last (by omega) (by omega), h₂, hv]

/-- The bounds of the second byte hold, since it is not overlong and no surrogate. -/
theorem decode_three (hl : 0x7ff < v) (hu : v ≤ 0xffff) (hs : v < 0xd800 ∨ 0xdfff < v) :
    decode (UInt8.ofNat (v / 4096 % 16 + 224) :: UInt8.ofNat (v / 64 % 64 + 128) ::
      UInt8.ofNat (v % 64 + 128) :: bytes) = some (Char.ofNat v) :: decode bytes := by
  have h₁ := @toNat_ofNat_of_lt (v / 4096 % 16 + 224) (by omega)
  have h₂ := @toNat_ofNat_of_lt (v / 64 % 64 + 128) (by omega)
  have h₃ := @toNat_ofNat_of_lt (v % 64 + 128) (by omega)
  have hv : ((v / 4096 % 16 + 224 - 224) * 64 + (v / 64 % 64 + 128 - 128)) * 64 +
      (v % 64 + 128 - 128) = v := by omega
  rw [decode_cons, h₁, start_of_lt_f0 (by omega) (by omega), List.nil_append,
    decodeFrom_more (by omega) (by grind) (by grind), decodeFrom_last (by omega) (by omega), h₂,
    h₃, hv]

/-- The four bytes of a code point, in the same way. The lower bound of the second byte is met
because the value does not fit into three bytes. -/
theorem decode_four (hl : 0xffff < v) (hu : v < 0x110000) :
    decode (UInt8.ofNat (v / 262144 % 8 + 240) :: UInt8.ofNat (v / 4096 % 64 + 128) ::
      UInt8.ofNat (v / 64 % 64 + 128) :: UInt8.ofNat (v % 64 + 128) :: bytes) =
        some (Char.ofNat v) :: decode bytes := by
  have h₁ := @toNat_ofNat_of_lt (v / 262144 % 8 + 240) (by omega)
  have h₂ := @toNat_ofNat_of_lt (v / 4096 % 64 + 128) (by omega)
  have h₃ := @toNat_ofNat_of_lt (v / 64 % 64 + 128) (by omega)
  have h₄ := @toNat_ofNat_of_lt (v % 64 + 128) (by omega)
  have hv : (((v / 262144 % 8 + 240 - 240) * 64 + (v / 4096 % 64 + 128 - 128)) * 64 +
      (v / 64 % 64 + 128 - 128)) * 64 + (v % 64 + 128 - 128) = v := by omega
  rw [decode_cons, h₁, start_of_lt_f5 (by omega) (by omega), List.nil_append,
    decodeFrom_more (by omega) (by grind) (by grind),
    decodeFrom_more (by omega) (by omega) (by omega), decodeFrom_last (by omega) (by omega), h₂,
    h₃, h₄, hv]

/-- The bytes of a character are decoded into it, whatever follows. -/
theorem decode_utf8EncodeChar (c : Char) :
    decode (String.utf8EncodeChar c ++ bytes) = some c :: decode bytes := by
  have hc : some c = some (Char.ofNat c.val.toNat) := congrArg some (Char.ofNat_toNat c).symm
  have hv : c.val.toNat < 0xd800 ∨ (0xdfff < c.val.toNat ∧ c.val.toNat < 0x110000) := c.valid
  rw [String.utf8EncodeChar, hc]
  generalize c.val.toNat = v at hv ⊢
  split
  · next h₁ => exact decode_one bytes h₁
  · next h₁ =>
    split
    · next h₂ => exact decode_two bytes (by omega) h₂
    · next h₂ =>
      split
      · next h₃ => exact decode_three bytes (by omega) h₃ (by omega)
      · next h₃ => exact decode_four bytes (by omega) (by omega)

/-! ### Texts -/

/-- **Decoding gives back what was encoded.** Each character takes the decoder from between
characters to between characters, so the induction is on the characters. -/
theorem decode_encode (cs : List Char) : decode (encode cs) = cs.map some := by
  induction cs with
  | nil => rfl
  | cons c rest ih =>
    rw [encode, List.flatMap_cons, decode_utf8EncodeChar, ← encode, ih, List.map_cons]

/-- A strict reading accepts what was encoded, since no byte of it is astray. -/
theorem strict?_encode (text : String) : strict? (encode text.toList) = some text := by
  have hall : (text.toList.map some).mapM id = some text.toList := by
    induction text.toList with
    | nil => rfl
    | cons c rest ih => rw [List.map_cons, List.mapM_cons, ih]; rfl
  rw [strict?, decode_encode, hall, Option.map_some, String.ofList_toList]

/-- A tolerant reading has nothing to replace in what was encoded. -/
theorem tolerant_encode (text : String) : tolerant (encode text.toList) = text := by
  have hall : (text.toList.map some).map (fun found => found.getD '�') = text.toList := by
    rw [List.map_map]
    exact List.map_id _
  rw [tolerant, decode_encode, hall, String.ofList_toList]

/-! ### Order

Byte by byte, encoded texts compare as the texts do character by character. -/

/-- A greater byte decides, whatever follows. -/
theorem ofNat_cons_lt {m n : Nat} (hn : n < 256) (h : m < n) (bytes others : List UInt8) :
    UInt8.ofNat m :: bytes < UInt8.ofNat n :: others := by
  refine List.cons_lt_cons_iff.2 (.inl (UInt8.lt_iff_toNat_lt.2 ?_))
  rwa [toNat_ofNat_of_lt (by omega), toNat_ofNat_of_lt hn]

/-- Behind equal bytes, what follows decides. -/
theorem ofNat_cons_lt_of_eq {m n : Nat} (h : m = n) {bytes others : List UInt8}
    (hrest : bytes < others) : UInt8.ofNat m :: bytes < UInt8.ofNat n :: others :=
  List.cons_lt_cons_iff.2 (.inr ⟨congrArg UInt8.ofNat h, hrest⟩)

section

variable {v w : Nat} (bytes others : List UInt8)

/-- Among code points of two bytes the order of the bytes is that of the values: the first byte
holds the higher bits, and the second decides between equal ones. -/
theorem two_lt_two (h : v < w) (hw : w ≤ 0x7ff) :
    UInt8.ofNat (v / 64 % 32 + 192) :: UInt8.ofNat (v % 64 + 128) :: bytes <
      UInt8.ofNat (w / 64 % 32 + 192) :: UInt8.ofNat (w % 64 + 128) :: others := by
  rcases Nat.lt_or_eq_of_le (show v / 64 ≤ w / 64 by omega) with hfirst | hfirst
  · exact ofNat_cons_lt (by omega) (by omega) _ _
  · exact ofNat_cons_lt_of_eq (by omega) (ofNat_cons_lt (by omega) (by omega) _ _)

theorem three_lt_three (h : v < w) (hw : w ≤ 0xffff) :
    UInt8.ofNat (v / 4096 % 16 + 224) :: UInt8.ofNat (v / 64 % 64 + 128) ::
        UInt8.ofNat (v % 64 + 128) :: bytes <
      UInt8.ofNat (w / 4096 % 16 + 224) :: UInt8.ofNat (w / 64 % 64 + 128) ::
        UInt8.ofNat (w % 64 + 128) :: others := by
  rcases Nat.lt_or_eq_of_le (show v / 4096 ≤ w / 4096 by omega) with hfirst | hfirst
  · exact ofNat_cons_lt (by omega) (by omega) _ _
  refine ofNat_cons_lt_of_eq (by omega) ?_
  rcases Nat.lt_or_eq_of_le (show v / 64 ≤ w / 64 by omega) with hsecond | hsecond
  · exact ofNat_cons_lt (by omega) (by omega) _ _
  · exact ofNat_cons_lt_of_eq (by omega) (ofNat_cons_lt (by omega) (by omega) _ _)

/-- Among code points of four bytes, the same through four digits to the base 64. -/
theorem four_lt_four (h : v < w) (hw : w < 0x110000) :
    UInt8.ofNat (v / 262144 % 8 + 240) :: UInt8.ofNat (v / 4096 % 64 + 128) ::
        UInt8.ofNat (v / 64 % 64 + 128) :: UInt8.ofNat (v % 64 + 128) :: bytes <
      UInt8.ofNat (w / 262144 % 8 + 240) :: UInt8.ofNat (w / 4096 % 64 + 128) ::
        UInt8.ofNat (w / 64 % 64 + 128) :: UInt8.ofNat (w % 64 + 128) :: others := by
  rcases Nat.lt_or_eq_of_le (show v / 262144 ≤ w / 262144 by omega) with hfirst | hfirst
  · exact ofNat_cons_lt (by omega) (by omega) _ _
  refine ofNat_cons_lt_of_eq (by omega) ?_
  rcases Nat.lt_or_eq_of_le (show v / 4096 ≤ w / 4096 by omega) with hsecond | hsecond
  · exact ofNat_cons_lt (by omega) (by omega) _ _
  refine ofNat_cons_lt_of_eq (by omega) ?_
  rcases Nat.lt_or_eq_of_le (show v / 64 ≤ w / 64 by omega) with hthird | hthird
  · exact ofNat_cons_lt (by omega) (by omega) _ _
  · exact ofNat_cons_lt_of_eq (by omega) (ofNat_cons_lt (by omega) (by omega) _ _)

/-- The bytes of a character are below those of a greater one, whatever follows: the first byte
grows with the number of bytes, and as many bytes hold the code point from its highest bits
down. -/
theorem utf8EncodeChar_lt {c d : Char} (h : c < d) :
    String.utf8EncodeChar c ++ bytes < String.utf8EncodeChar d ++ others := by
  have hlt : c.val.toNat < d.val.toNat := UInt32.lt_iff_toNat_lt.1 h
  have hv : d.val.toNat < 0xd800 ∨ (0xdfff < d.val.toNat ∧ d.val.toNat < 0x110000) := d.valid
  rw [String.utf8EncodeChar, String.utf8EncodeChar]
  generalize c.val.toNat = v at hlt ⊢
  generalize d.val.toNat = w at hlt hv ⊢
  split
  · split
    · exact ofNat_cons_lt (by omega) hlt _ _
    · split
      · exact ofNat_cons_lt (by omega) (by omega) _ _
      · split <;> exact ofNat_cons_lt (by omega) (by omega) _ _
  · rw [if_neg (show ¬ w ≤ 127 by omega)]
    split
    · split
      · next hw => exact two_lt_two _ _ hlt hw
      · split <;> exact ofNat_cons_lt (by omega) (by omega) _ _
    · rw [if_neg (show ¬ w ≤ 2047 by omega)]
      split
      · split
        · next hw => exact three_lt_three _ _ hlt hw
        · exact ofNat_cons_lt (by omega) (by omega) _ _
      · rw [if_neg (show ¬ w ≤ 65535 by omega)]
        exact four_lt_four _ _ hlt (by omega)

end

/-- **Encoding keeps the order.** Where two texts first differ, so do their bytes, and in the same
direction; code points with fewer bytes also have smaller first bytes. -/
theorem encode_lt_encode {cs ds : List Char} (h : cs < ds) : encode cs < encode ds := by
  induction cs generalizing ds with
  | nil =>
    cases ds with
    | nil => exact absurd h (List.not_lt_nil _)
    | cons d ds =>
      obtain ⟨byte, bytes, hbytes⟩ :=
        List.exists_cons_of_ne_nil (String.utf8EncodeChar_ne_nil (c := d))
      rw [encode, List.flatMap_nil, encode, List.flatMap_cons, hbytes]
      exact List.nil_lt_cons _ _
  | cons c cs ih =>
    cases ds with
    | nil => exact absurd h (List.not_lt_nil _)
    | cons d ds =>
      rw [encode, encode, List.flatMap_cons, List.flatMap_cons]
      rcases List.cons_lt_cons_iff.1 h with hlt | ⟨rfl, hlt⟩
      · exact utf8EncodeChar_lt _ _ hlt
      · exact List.append_left_lt (ih hlt)

end Utf8

end Text

end FlowScript
