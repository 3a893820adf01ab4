import NotionSchema.Proofs.Text.Run
import NotionSchema.Url.Percent

namespace NotionSchema.Url

open Text

variable {c : Char} {n : Nat} {s t : List Char}

theorem hexValue?_beyond_ascii (hc : 0x80 ≤ c.toNat) : hexValue? c = none := by
  have hle : ∀ d : Char, d.toNat < 0x80 → ¬ c ≤ d := by
    intro d hd hle
    have hnat : c.toNat ≤ d.toNat := hle
    omega
  simp [hexValue?, isAsciiDigit, hle]

theorem hexValue?_eq_some (h : hexValue? c = some n) :
    n < 16 ∧ (c = upperHexDigit n ∨ c = (upperHexDigit n).toLower) := by
  have hascii : c.toNat < 0x80 := by
    by_contra hbeyond
    rw [hexValue?_beyond_ascii (Nat.le_of_not_lt hbeyond)] at h
    cases h
  refine forall_ascii (P := fun c => ∀ n ∈ hexValue? c,
    n < 16 ∧ (c = upperHexDigit n ∨ c = (upperHexDigit n).toLower)) ?_ hascii n h
  decide +kernel

theorem hexValue?_upperHexDigit (hn : n < 16) : hexValue? (upperHexDigit n) = some n := by
  revert n
  decide

theorem inPathSet_digit (hc : (hexValue? c).isSome = true) : inPathSet c = false := by
  obtain ⟨n, hn⟩ := Option.isSome_iff_exists.1 hc
  obtain ⟨hlt, hdigit⟩ := hexValue?_eq_some hn
  have hall : ∀ n < 16, inPathSet (upperHexDigit n) = false ∧
      inPathSet (upperHexDigit n).toLower = false := by decide
  rcases hdigit with rfl | rfl
  · exact (hall n hlt).1
  · exact (hall n hlt).2

def StartsWithDigits : List Char → Prop
  | a :: b :: _ => (hexValue? a).isSome = true ∧ (hexValue? b).isSome = true
  | _ => False

theorem decode_cons_of_ne (hc : c ≠ '%') :
    decode (c :: s) = String.utf8EncodeChar c ++ decode s := by
  rw [decode]
  intro _ _ _ h
  exact absurd h hc

theorem decode_percent_of_not (h : ¬ StartsWithDigits s) :
    decode ('%' :: s) = String.utf8EncodeChar '%' ++ decode s := by
  match s with
  | [] => rfl
  | [_] => rfl
  | a :: b :: rest =>
      rw [decode]
      cases ha : hexValue? a with
      | none => rfl
      | some high =>
          cases hb : hexValue? b with
          | none => rfl
          | some low => exact absurd ⟨by rw [ha]; rfl, by rw [hb]; rfl⟩ h

theorem decode_percent_of_digits {a b : Char} {high low : Nat} (ha : hexValue? a = some high)
    (hb : hexValue? b = some low) :
    decode ('%' :: a :: b :: s) = UInt8.ofNat (16 * high + low) :: decode s := by
  rw [decode, ha, hb]

theorem decode_cons_cases (c : Char) (s : List Char) :
    decode (c :: s) = String.utf8EncodeChar c ++ decode s ∨
    ∃ a b rest high low, c = '%' ∧ s = a :: b :: rest ∧
      hexValue? a = some high ∧ hexValue? b = some low ∧
      decode (c :: s) = UInt8.ofNat (16 * high + low) :: decode rest := by
  by_cases hc : c = '%'
  · subst hc
    by_cases hdigits : StartsWithDigits s
    · match s with
      | a :: b :: rest =>
          obtain ⟨high, hhigh⟩ := Option.isSome_iff_exists.1 hdigits.1
          obtain ⟨low, hlow⟩ := Option.isSome_iff_exists.1 hdigits.2
          exact .inr ⟨a, b, rest, high, low, rfl, rfl, hhigh, hlow,
            decode_percent_of_digits hhigh hlow⟩
    · exact .inl (decode_percent_of_not hdigits)
  · exact .inl (decode_cons_of_ne hc)

theorem decode_escapeByte (b : UInt8) (t : List Char) :
    decode (escapeByte b ++ t) = b :: decode t := by
  have hlt : b.toNat < 256 := b.toNat_lt
  have hhigh : b.toNat / 16 < 16 := by omega
  have hlow : b.toNat % 16 < 16 := by omega
  have hsum : 16 * (b.toNat / 16) + b.toNat % 16 = b.toNat := by omega
  have hdecode := decode_percent_of_digits (s := t) (hexValue?_upperHexDigit hhigh)
    (hexValue?_upperHexDigit hlow)
  rwa [hsum, UInt8.ofNat_toNat] at hdecode

theorem decode_escapeBytes (bytes : List UInt8) (t : List Char) :
    decode (bytes.flatMap escapeByte ++ t) = bytes ++ decode t := by
  induction bytes with
  | nil => rfl
  | cons b bytes ih =>
      rw [List.flatMap_cons, List.append_assoc, decode_escapeByte, ih]
      rfl

theorem encode_cons_of_mem (hc : inPathSet c = true) : encode inPathSet (c :: s) =
    (String.utf8EncodeChar c).flatMap escapeByte ++ encode inPathSet s := by
  rw [encode, List.flatMap_cons, if_pos hc]
  rfl

theorem encode_cons_of_notMem (hc : inPathSet c = false) :
    encode inPathSet (c :: s) = c :: encode inPathSet s := by
  rw [encode, List.flatMap_cons, hc]
  rfl

theorem encode_head_of_mem (hc : inPathSet c = true) :
    ∃ rest, encode inPathSet (c :: s) = '%' :: rest := by
  rw [encode_cons_of_mem hc]
  cases h : String.utf8EncodeChar c with
  | nil => exact absurd h String.utf8EncodeChar_ne_nil
  | cons b bytes => exact ⟨_, rfl⟩

theorem not_isSome_hexValue?_percent : ¬ (hexValue? '%').isSome = true := by decide

theorem StartsWithDigits.of_encode (h : StartsWithDigits (encode inPathSet s)) :
    StartsWithDigits s := by
  match s with
  | [] => exact h
  | a :: rest =>
      cases ha : inPathSet a with
      | true =>
          obtain ⟨more, he⟩ := encode_head_of_mem (s := rest) ha
          rw [he] at h
          cases more with
          | nil => exact False.elim h
          | cons => exact absurd h.1 not_isSome_hexValue?_percent
      | false =>
          rw [encode_cons_of_notMem ha] at h
          match rest with
          | [] => exact h
          | b :: rest =>
              cases hb : inPathSet b with
              | true =>
                  obtain ⟨more, he⟩ := encode_head_of_mem (s := rest) hb
                  rw [he] at h
                  exact absurd h.2 not_isSome_hexValue?_percent
              | false =>
                  rw [encode_cons_of_notMem hb] at h
                  exact h

theorem encode_of_startsWithDigits {a b : Char} (h : StartsWithDigits (a :: b :: s)) :
    encode inPathSet (a :: b :: s) = a :: b :: encode inPathSet s := by
  rw [encode_cons_of_notMem (inPathSet_digit h.1), encode_cons_of_notMem (inPathSet_digit h.2)]

theorem decode_of_startsWithDigits {a b : Char} (h : StartsWithDigits (a :: b :: s)) :
    decode (a :: b :: s) =
      String.utf8EncodeChar a ++ (String.utf8EncodeChar b ++ decode s) := by
  have ha : a ≠ '%' := fun he => not_isSome_hexValue?_percent (he ▸ h.1)
  have hb : b ≠ '%' := fun he => not_isSome_hexValue?_percent (he ▸ h.2)
  rw [decode_cons_of_ne ha, decode_cons_of_ne hb]

/-- A percent sign is kept, and so are the digits after it, so it counts as much as before. -/
theorem decode_percent_encode (h : decode (encode inPathSet s) = decode s) :
    decode ('%' :: encode inPathSet s) = decode ('%' :: s) := by
  by_cases hdigits : StartsWithDigits s
  · match s with
    | a :: b :: rest =>
        have hdigits' : StartsWithDigits (a :: b :: encode inPathSet rest) := hdigits
        rw [encode_of_startsWithDigits hdigits, decode_of_startsWithDigits hdigits',
          decode_of_startsWithDigits hdigits] at h
        have hrest : decode (encode inPathSet rest) = decode rest :=
          List.append_cancel_left (List.append_cancel_left h)
        obtain ⟨high, hhigh⟩ := Option.isSome_iff_exists.1 hdigits.1
        obtain ⟨low, hlow⟩ := Option.isSome_iff_exists.1 hdigits.2
        rw [encode_of_startsWithDigits hdigits, decode_percent_of_digits hhigh hlow,
          decode_percent_of_digits hhigh hlow, hrest]
  · rw [decode_percent_of_not fun hd => hdigits hd.of_encode, decode_percent_of_not hdigits, h]

theorem decode_encode (s : List Char) : decode (encode inPathSet s) = decode s := by
  induction s with
  | nil => rfl
  | cons c s ih =>
      cases hc : inPathSet c with
      | true =>
          have hne : c ≠ '%' := by
            rintro rfl
            exact absurd hc (by decide)
          rw [encode_cons_of_mem hc, decode_escapeBytes, decode_cons_of_ne hne, ih]
      | false =>
          rw [encode_cons_of_notMem hc]
          by_cases hne : c = '%'
          · subst hne
            exact decode_percent_encode ih
          · rw [decode_cons_of_ne hne, decode_cons_of_ne hne, ih]

theorem encode_eq_nil_iff : encode inPathSet s = [] ↔ s = [] := by
  constructor
  · intro h
    cases s with
    | nil => rfl
    | cons c s =>
        cases hc : inPathSet c with
        | true =>
            obtain ⟨rest, he⟩ := encode_head_of_mem (s := s) hc
            cases he.symm.trans h
        | false => cases (encode_cons_of_notMem hc).symm.trans h
  · rintro rfl
    rfl

theorem mem_escapeByte {b : UInt8} (h : c ∈ escapeByte b) :
    c = '%' ∨ ∃ n < 16, c = upperHexDigit n := by
  have hlt : b.toNat < 256 := b.toNat_lt
  simp only [escapeByte, List.mem_cons, List.not_mem_nil, or_false] at h
  rcases h with rfl | rfl | rfl
  · exact .inl rfl
  · exact .inr ⟨_, by omega, rfl⟩
  · exact .inr ⟨_, by omega, rfl⟩

theorem mem_encode (h : c ∈ encode inPathSet s) :
    c ∈ s ∧ inPathSet c = false ∨ c = '%' ∨ ∃ n < 16, c = upperHexDigit n := by
  obtain ⟨d, hd, hc⟩ := List.mem_flatMap.1 h
  cases hset : inPathSet d with
  | true =>
      rw [hset] at hc
      obtain ⟨b, -, hb⟩ := List.mem_flatMap.1 hc
      exact .inr (mem_escapeByte hb)
  | false =>
      rw [hset] at hc
      obtain rfl := List.mem_singleton.1 hc
      exact .inl ⟨hd, hset⟩

theorem inPathSet_of_mem_encode (h : c ∈ encode inPathSet s) : inPathSet c = false := by
  rcases mem_encode h with ⟨-, hc⟩ | rfl | ⟨n, hn, rfl⟩
  · exact hc
  · decide
  · exact inPathSet_digit (by rw [hexValue?_upperHexDigit hn]; rfl)

theorem encode_eq_self_of_percent_notMem (h : '%' ∉ encode inPathSet s) :
    encode inPathSet s = s := by
  refine encode_eq_self fun c hc => ?_
  by_contra hset
  rw [Bool.not_eq_false] at hset
  refine h (List.mem_flatMap.2 ⟨c, hc, ?_⟩)
  obtain ⟨rest, he⟩ := encode_head_of_mem (s := []) hset
  rw [encode_cons_of_mem hset, encode_nil, List.append_nil] at he
  rw [if_pos hset, he]
  exact List.mem_cons_self

theorem decode_of_notMem (h : '%' ∉ s) : decode s = s.flatMap String.utf8EncodeChar := by
  induction s with
  | nil => rfl
  | cons c s ih =>
      have hc : c ≠ '%' := fun he => h (he ▸ List.mem_cons_self)
      rw [decode_cons_of_ne hc, ih fun hs => h (List.mem_cons_of_mem c hs), List.flatMap_cons]

theorem encode_injective_of_notMem (hs : '%' ∉ s) (ht : '%' ∉ t)
    (h : encode inPathSet s = encode inPathSet t) : s = t := by
  have hbytes : s.flatMap String.utf8EncodeChar = t.flatMap String.utf8EncodeChar := by
    rw [← decode_of_notMem hs, ← decode_of_notMem ht, ← decode_encode s, ← decode_encode t, h]
  have hutf8 : s.utf8Encode = t.utf8Encode := congrArg List.toByteArray hbytes
  have hchars := congrArg ByteArray.utf8Decode? hutf8
  rw [List.utf8Decode?_utf8Encode, List.utf8Decode?_utf8Encode] at hchars
  exact List.toArray_inj (Option.some.inj hchars)

end NotionSchema.Url
