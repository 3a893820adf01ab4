import NotionSchema.Proofs.Url.Percent
import NotionSchema.Url.Parser

namespace NotionSchema.Url

open Text

variable {c d : Char} {bytes bytes' : List UInt8} {s t : List Char} {kind : SchemeKind}

def dots : List (List Char) := [['.'], ['%', '2', 'e'], ['%', '2', 'E']]

def lowerDots : List (List Char) := [['.'], ['%', '2', 'e']]

theorem toLower_beyond_ascii (hc : 0x80 ≤ c.toNat) : c.toLower = c := by
  have hupper : ¬ c.val ≤ 'Z'.val := by
    intro hle
    have hnat : c.toNat ≤ 90 := hle
    omega
  exact dif_neg fun h => hupper h.2

theorem eq_of_toLower (hd : d ∈ ['.', '%', '2', 'e']) (h : c.toLower = d) :
    c = d ∨ c = 'E' ∧ d = 'e' := by
  have hall : ∀ d ∈ ['.', '%', '2', 'e'], ∀ n < 0x80, (Char.ofNat n).toLower = d →
      Char.ofNat n = d ∨ Char.ofNat n = 'E' ∧ d = 'e' := by
    simp only [List.forall_mem_cons, List.not_mem_nil, false_implies, implies_true, and_true]
    decide +kernel
  by_cases hc : c.toNat < 0x80
  · exact forall_ascii (P := fun c => c.toLower = d → c = d ∨ c = 'E' ∧ d = 'e') (hall d hd) hc h
  · exact .inl ((toLower_beyond_ascii (Nat.le_of_not_lt hc)).symm.trans h)

theorem map_toLower_mem_iff : s.map Char.toLower ∈ lowerDots ↔ s ∈ dots := by
  constructor
  · intro h
    rw [lowerDots, List.mem_cons, List.mem_singleton] at h
    rcases h with h | h
    · obtain ⟨c, rfl, hc⟩ := List.map_eq_singleton_iff.1 h
      rcases eq_of_toLower (by decide) hc with rfl | ⟨-, hc⟩
      · decide
      · cases hc
    · simp only [List.map_eq_cons_iff, List.map_eq_nil_iff] at h
      obtain ⟨c₁, -, rfl, h₁, c₂, -, rfl, h₂, c₃, -, rfl, h₃, rfl⟩ := h
      have h₁ := (eq_of_toLower (by decide) h₁).resolve_right fun h => nomatch h.2
      have h₂ := (eq_of_toLower (by decide) h₂).resolve_right fun h => nomatch h.2
      subst h₁ h₂
      rcases eq_of_toLower (by decide) h₃ with rfl | ⟨rfl, -⟩ <;> decide
  · intro h
    rcases h with _ | ⟨_, _ | ⟨_, _ | ⟨_, ⟨⟩⟩⟩⟩ <;> decide

theorem isSingleDot_iff : isSingleDot s = true ↔ s ∈ dots := by
  rw [isSingleDot, List.contains_iff_mem]
  exact map_toLower_mem_iff

theorem isDoubleDot_iff : isDoubleDot s = true ↔ ∃ a ∈ dots, ∃ b ∈ dots, s = a ++ b := by
  have hpairs : isDoubleDot s = true ↔
      ∃ a ∈ lowerDots, ∃ b ∈ lowerDots, s.map Char.toLower = a ++ b := by
    simp [isDoubleDot, lowerDots, or_assoc]
  rw [hpairs]
  constructor
  · rintro ⟨a, ha, b, hb, hs⟩
    obtain ⟨a, b, rfl, rfl, rfl⟩ := List.map_eq_append_iff.1 hs
    exact ⟨a, map_toLower_mem_iff.1 ha, b, map_toLower_mem_iff.1 hb, rfl⟩
  · rintro ⟨a, ha, b, hb, rfl⟩
    exact ⟨_, map_toLower_mem_iff.2 ha, _, map_toLower_mem_iff.2 hb, List.map_append⟩

theorem decode_eq_nil_iff : decode s = [] ↔ s = [] := by
  constructor
  · intro h
    match s with
    | [] => rfl
    | c :: s =>
        rcases decode_cons_cases c s with hself | ⟨a, b, rest, high, low, -, -, -, -, hdigits⟩
        · rw [hself] at h
          exact absurd (List.append_eq_nil_iff.1 h).1 String.utf8EncodeChar_ne_nil
        · cases hdigits.symm.trans h
  · rintro rfl
    rfl

theorem decode_dots_append (h : s ∈ dots) (t : List Char) : decode (s ++ t) = 0x2E :: decode t := by
  rcases h with _ | ⟨_, _ | ⟨_, _ | ⟨_, ⟨⟩⟩⟩⟩ <;> rfl

theorem eq_dot_of_utf8EncodeChar (h : String.utf8EncodeChar c ++ bytes = 0x2E :: bytes') :
    c = '.' := by
  have hc : c.val.toNat = 0x2E := by
    simp only [String.utf8EncodeChar] at h
    split_ifs at h
    all_goals
      have hbyte := congrArg UInt8.toNat (List.head_eq_of_cons_eq h)
      rw [UInt8.toNat_ofNat'] at hbyte
      change _ = 0x2E at hbyte
      omega
  exact Char.ext (UInt32.toNat_inj.1 hc)

theorem dot_digits {a b : Char} {high low : Nat} (ha : hexValue? a = some high)
    (hb : hexValue? b = some low) (h : UInt8.ofNat (16 * high + low) = 0x2E) :
    ['%', a, b] ∈ dots := by
  obtain ⟨hhigh, hdigit⟩ := hexValue?_eq_some ha
  obtain ⟨hlow, hdigit'⟩ := hexValue?_eq_some hb
  have hnat : 16 * high + low = 0x2E := by
    have hmod := congrArg UInt8.toNat h
    rw [UInt8.toNat_ofNat', Nat.mod_eq_of_lt (by omega)] at hmod
    exact hmod
  obtain ⟨rfl, rfl⟩ : high = 2 ∧ low = 14 := by omega
  rcases hdigit with rfl | rfl <;> rcases hdigit' with rfl | rfl <;> decide

theorem exists_dot_of_decode (h : decode s = 0x2E :: bytes) :
    ∃ a ∈ dots, ∃ t, s = a ++ t ∧ decode t = bytes := by
  match s with
  | [] => cases h
  | c :: s =>
      rcases decode_cons_cases c s with hself | ⟨a, b, rest, high, low, rfl, rfl, ha, hb, hdigits⟩
      · rw [hself] at h
        obtain rfl := eq_dot_of_utf8EncodeChar h
        exact ⟨['.'], by decide, s, rfl, List.tail_eq_of_cons_eq h⟩
      · have hcons := hdigits.symm.trans h
        exact ⟨_, dot_digits ha hb (List.head_eq_of_cons_eq hcons), rest, rfl,
          List.tail_eq_of_cons_eq hcons⟩

theorem isSingleDot_iff_decode : isSingleDot s = true ↔ decode s = [0x2E] := by
  rw [isSingleDot_iff]
  constructor
  · intro h
    have hdot := decode_dots_append h []
    rwa [List.append_nil] at hdot
  · intro h
    obtain ⟨a, ha, t, rfl, ht⟩ := exists_dot_of_decode h
    rw [decode_eq_nil_iff.1 ht, List.append_nil]
    exact ha

theorem isDoubleDot_iff_decode : isDoubleDot s = true ↔ decode s = [0x2E, 0x2E] := by
  rw [isDoubleDot_iff]
  constructor
  · rintro ⟨a, ha, b, hb, rfl⟩
    rw [decode_dots_append ha, isSingleDot_iff_decode.1 (isSingleDot_iff.2 hb)]
  · intro h
    obtain ⟨a, ha, t, rfl, ht⟩ := exists_dot_of_decode h
    exact ⟨a, ha, t, isSingleDot_iff.1 (isSingleDot_iff_decode.2 ht), rfl⟩

def Lacks (p : Char → Bool) (s : List Char) : Prop := ∀ c ∈ s, p c = false

instance (p : Char → Bool) (s : List Char) : Decidable (Lacks p s) :=
  List.decidableBAll (fun c => p c = false) s

@[simp] theorem lacks_nil (p : Char → Bool) : Lacks p [] := fun _ h => absurd h List.not_mem_nil

@[simp] theorem lacks_cons {p : Char → Bool} : Lacks p (c :: s) ↔ p c = false ∧ Lacks p s :=
  List.forall_mem_cons

/-- What adds itself to a path when it stands between slashes. -/
structure IsPiece (kind : SchemeKind) (s : List Char) : Prop where
  nonempty : s ≠ []
  slash : Lacks kind.isSlash s
  single : isSingleDot s = false
  double : isDoubleDot s = false
  /-- Files have the normal form of a drive. -/
  drive : kind = .file → plainDrive s = s

/-- A piece that a path has in this very form. -/
structure IsLiteral (kind : SchemeKind) (s : List Char) : Prop extends IsPiece kind s where
  allowed : Lacks inPathSet s

theorem plainDrive_of_not_isDrive (h : isDrive s = false) : plainDrive s = s := by
  match s with
  | [] => rfl
  | [_] => rfl
  | [_, _] => rw [plainDrive, h]; rfl
  | _ :: _ :: _ :: _ => rfl

theorem exists_of_isDrive (h : isDrive s = true) :
    ∃ c mark, s = [c, mark] ∧ isAsciiLetter c = true ∧ plainDrive s = [c, ':'] := by
  match s with
  | [c, mark] =>
      have hboth := h
      rw [isDrive, Bool.and_eq_true] at hboth
      exact ⟨c, mark, rfl, hboth.1, by rw [plainDrive, h]; rfl⟩

theorem percent_notMem_of_isDrive (h : isDrive s = true) : '%' ∉ s := by
  match s with
  | [c, mark] =>
      rw [isDrive, Bool.and_eq_true] at h
      rintro (_ | ⟨_, _ | ⟨_, ⟨⟩⟩⟩)
      · exact absurd h.1 (by decide)
      · exact absurd h.2 (by decide)

theorem isSlash_colon (kind : SchemeKind) : kind.isSlash ':' = false := by
  cases kind <;> decide

/-- The drive letter keeps a drive from being a dot segment. -/
theorem isPiece_drive (hc : isAsciiLetter c = true) (hslash : kind.isSlash c = false) :
    IsPiece kind [c, ':'] where
  nonempty := List.cons_ne_nil _ _
  slash := lacks_cons.2 ⟨hslash, lacks_cons.2 ⟨isSlash_colon kind, lacks_nil _⟩⟩
  single := by simp [isSingleDot]
  double := by simp [isDoubleDot]
  drive _ := by
    rw [plainDrive, isDrive, hc]
    rfl

def normalPiece (kind : SchemeKind) (raw : List Char) : List Char :=
  if kind = .file then plainDrive raw else raw

theorem isPiece_normalPiece (hne : s ≠ []) (hslash : Lacks kind.isSlash s)
    (hsingle : isSingleDot s = false) (hdouble : isDoubleDot s = false) :
    IsPiece kind (normalPiece kind s) := by
  rw [normalPiece]
  split_ifs with hkind
  · cases hdrive : isDrive s with
    | true =>
        obtain ⟨c, mark, rfl, hc, hplain⟩ := exists_of_isDrive hdrive
        rw [hplain]
        exact isPiece_drive hc (hslash c List.mem_cons_self)
    | false =>
        rw [plainDrive_of_not_isDrive hdrive]
        exact ⟨hne, hslash, hsingle, hdouble, fun _ => plainDrive_of_not_isDrive hdrive⟩
  · exact ⟨hne, hslash, hsingle, hdouble, fun h => absurd h hkind⟩

theorem isSlash_escape (kind : SchemeKind) :
    kind.isSlash '%' = false ∧ ∀ n < 16, kind.isSlash (upperHexDigit n) = false := by
  cases kind <;> decide

/-- Encoding neither makes a dot segment nor a drive. -/
theorem IsPiece.encode (h : IsPiece kind s) : IsLiteral kind (encode inPathSet s) where
  nonempty he := h.nonempty (encode_eq_nil_iff.1 he)
  slash := by
    intro c hc
    rcases mem_encode hc with ⟨hc, -⟩ | rfl | ⟨n, hn, rfl⟩
    · exact h.slash c hc
    · exact (isSlash_escape kind).1
    · exact (isSlash_escape kind).2 n hn
  single := by
    have hs := h.single
    rw [Bool.eq_false_iff, ne_eq, isSingleDot_iff_decode] at hs ⊢
    rwa [decode_encode]
  double := by
    have hs := h.double
    rw [Bool.eq_false_iff, ne_eq, isDoubleDot_iff_decode] at hs ⊢
    rwa [decode_encode]
  drive hkind := by
    cases hdrive : isDrive (Url.encode inPathSet s) with
    | false => exact plainDrive_of_not_isDrive hdrive
    | true =>
        rw [encode_eq_self_of_percent_notMem (percent_notMem_of_isDrive hdrive)]
        exact h.drive hkind
  allowed _ := inPathSet_of_mem_encode

theorem IsLiteral.encode_eq (h : IsLiteral kind s) : Url.encode inPathSet s = s :=
  encode_eq_self h.allowed

theorem segmentText_eq (kind : SchemeKind) (raw : List Char) :
    segmentText kind raw = String.ofList (encode inPathSet (normalPiece kind raw)) := rfl

theorem addSegment_of_isPiece (h : IsPiece kind s) (last : Bool) (path : List String) :
    addSegment kind last path s = path ++ [String.ofList (encode inPathSet s)] := by
  have hnormal : normalPiece kind s = s := by
    rw [normalPiece]
    split_ifs with hkind
    · exact h.drive hkind
    · rfl
  rw [addSegment, h.double, h.single, segmentText_eq, hnormal]
  rfl

theorem addSegments_of_isPiece {pieces : List (List Char)} (h : ∀ s ∈ pieces, IsPiece kind s)
    (path : List String) : addSegments kind path pieces =
      path ++ pieces.map fun s => String.ofList (encode inPathSet s) := by
  induction pieces generalizing path with
  | nil => exact (List.append_nil path).symm
  | cons s pieces ih =>
      have hs := h s List.mem_cons_self
      have hrest := ih fun t ht => h t (List.mem_cons_of_mem s ht)
      cases pieces with
      | nil => rw [addSegments, addSegment_of_isPiece hs]; rfl
      | cons t pieces =>
          rw [addSegments, addSegment_of_isPiece hs, hrest, List.append_assoc]
          · rfl
          · exact List.cons_ne_nil _ _

/-- All segments after the first so many are empty or literal. -/
def LiteralAfter (kind : SchemeKind) (n : Nat) (path : List String) : Prop :=
  ∀ s ∈ path.drop n, s = "" ∨ IsLiteral kind s.toList

namespace LiteralAfter

variable {n : Nat} {path : List String}

theorem append (h : LiteralAfter kind n path) {segment : String}
    (hs : segment = "" ∨ IsLiteral kind segment.toList) :
    LiteralAfter kind n (path ++ [segment]) := by
  intro s hmem
  rw [List.drop_append, List.mem_append] at hmem
  rcases hmem with hmem | hmem
  · exact h s hmem
  · obtain rfl := List.mem_singleton.1 (List.mem_of_mem_drop hmem)
    exact hs

theorem shorten (h : LiteralAfter kind n path) : LiteralAfter kind n (shorten path) := by
  rw [Url.shorten]
  split_ifs
  · exact h
  · intro s hmem
    rw [List.dropLast_eq_take, List.drop_take] at hmem
    exact h s (List.mem_of_mem_take hmem)

theorem append_end (h : LiteralAfter kind n path) (last : Bool) :
    LiteralAfter kind n (path ++ if last then [""] else []) := by
  cases last with
  | true => exact h.append (.inl rfl)
  | false => rwa [if_neg Bool.false_ne_true, List.append_nil]

theorem addSegment (h : LiteralAfter kind n path) (last : Bool) {raw : List Char}
    (hraw : Lacks kind.isSlash raw) :
    LiteralAfter kind n (addSegment kind last path raw) := by
  rw [Url.addSegment]
  cases hdouble : isDoubleDot raw with
  | true => exact h.shorten.append_end last
  | false =>
      cases hsingle : isSingleDot raw with
      | true => exact h.append_end last
      | false =>
          refine h.append ?_
          rw [segmentText_eq, String.toList_ofList]
          by_cases hne : raw = []
          · subst hne
            exact .inl (by cases kind <;> rfl)
          · exact .inr (isPiece_normalPiece hne hraw hsingle hdouble).encode

theorem addSegments (h : LiteralAfter kind n path) {raws : List (List Char)}
    (hraws : ∀ raw ∈ raws, Lacks kind.isSlash raw) :
    LiteralAfter kind n (addSegments kind path raws) := by
  induction raws generalizing path with
  | nil => exact h
  | cons raw raws ih =>
      have hraw := hraws raw List.mem_cons_self
      cases raws with
      | nil => exact h.addSegment true hraw
      | cons next raws =>
          rw [Url.addSegments]
          · exact ih (h.addSegment false hraw) fun r hr => hraws r (List.mem_cons_of_mem raw hr)
          · exact List.cons_ne_nil _ _

end LiteralAfter

theorem slash_of_mem_splitPath (kind : SchemeKind) (s : List Char) :
    ∀ raw ∈ splitPath kind s, Lacks kind.isSlash raw := by
  rw [splitPath]
  induction s with
  | nil => simp
  | cons c s ih =>
      rw [List.splitOnP_cons_eq_if_modifyHead]
      split_ifs with hc
      · rw [List.forall_mem_cons]
        exact ⟨lacks_nil _, ih⟩
      · cases hs : s.splitOnP kind.isSlash with
        | nil => simp
        | cons raw raws =>
            rw [hs, List.forall_mem_cons] at ih
            rw [List.modifyHead_cons, List.forall_mem_cons]
            exact ⟨lacks_cons.2 ⟨Bool.not_eq_true _ ▸ hc, ih.1⟩, ih.2⟩

theorem splitPath_intercalate {pieces : List (List Char)} (hne : pieces ≠ [])
    (h : ∀ s ∈ pieces, Lacks kind.isSlash s) :
    splitPath kind (['/'].intercalate pieces) = pieces := by
  induction pieces with
  | nil => exact absurd rfl hne
  | cons s pieces ih =>
      rw [List.forall_mem_cons] at h
      cases pieces with
      | nil =>
          rw [List.intercalate_singleton]
          exact List.splitOnP_eq_singleton h.1
      | cons t pieces =>
          have hslash : kind.isSlash '/' = true := by cases kind <;> decide
          rw [List.intercalate_cons_cons, splitPath, List.append_assoc, List.singleton_append,
            List.splitOnP_append_cons_of_forall_mem h.1 _ hslash]
          exact congrArg (s :: ·) (ih (List.cons_ne_nil _ _) h.2)

def isMark (c : Char) : Bool := isBreak c || c == '?' || c == '#'

/-- All of the text counts as the path when it is read as a reference. -/
structure IsReference (s : List Char) : Prop where
  first : Stops isOuterBlank s
  last : Stops isOuterBlank s.reverse
  kept : Lacks isMark s

theorem significant_of_isReference (h : IsReference s) : significant (String.ofList s) = s := by
  have hfirst : s.dropWhile isOuterBlank = s :=
    dropWhile_append_of_stops (a := []) (by simp) h.first
  have hlast : s.reverse.dropWhile isOuterBlank = s.reverse :=
    dropWhile_append_of_stops (a := []) (by simp) h.last
  rw [significant, String.toList_ofList, hfirst, hlast, List.reverse_reverse]
  refine List.filter_eq_self.2 fun c hc => ?_
  have hmark := h.kept c hc
  rw [isMark, Bool.or_eq_false_iff, Bool.or_eq_false_iff] at hmark
  rw [hmark.1.1]
  rfl

theorem cut_of_notMem (h : c ∉ s) : cut c s = (s, none) := by
  have hall : s.dropWhile (· != c) = [] := by
    rw [List.dropWhile_eq_nil_iff]
    intro d hd
    exact bne_iff_ne.2 fun he => h (he ▸ hd)
  rw [cut, hall]

theorem splitTail_of_isReference (h : IsReference s) : splitTail s = (s, none, none) := by
  have hfragment : '#' ∉ s := fun hmem => absurd (h.kept _ hmem) (by decide)
  have hquery : '?' ∉ s := fun hmem => absurd (h.kept _ hmem) (by decide)
  rw [splitTail, cut_of_notMem hfragment]
  dsimp only
  rw [cut_of_notMem hquery]

variable {base url : Url} {dir : List String}

theorem parentPath_directory (kind : SchemeKind) (dir : List String) :
    parentPath kind (dir ++ [""]) = dir := by
  have hdrive : endsInDrive (dir ++ [""]) = false := by
    rw [endsInDrive, List.getLast?_concat]
    rfl
  rw [parentPath, shorten, hdrive, List.dropLast_concat]
  exact ite_self dir

theorem join_directory (hbase : base.path = .segments (dir ++ [""])) (reference : String) :
    base.join reference =
      let tail := splitTail (significant reference)
      .ok { base with
        path := .segments (addSegments base.kind dir (splitPath base.kind tail.1))
        query := tail.2.1.map (queryOf base.kind)
        fragment := tail.2.2.map fragmentOf } := by
  rw [join, hbase]
  dsimp only
  rw [parentPath_directory]

/-- Pieces between slashes go below the directory one by one. -/
theorem join_pieces (hbase : base.path = .segments (dir ++ [""])) {pieces : List (List Char)}
    (hne : pieces ≠ []) (hpieces : ∀ s ∈ pieces, IsPiece base.kind s)
    (h : IsReference (['/'].intercalate pieces)) :
    base.join (String.ofList (['/'].intercalate pieces)) = .ok { base with
      path := .segments (dir ++ pieces.map fun s => String.ofList (encode inPathSet s))
      query := none
      fragment := none } := by
  rw [join_directory hbase, significant_of_isReference h, splitTail_of_isReference h]
  dsimp only
  rw [splitPath_intercalate hne fun s hs => (hpieces s hs).slash, addSegments_of_isPiece hpieces]
  rfl

/-- Below the directory no reference has segments other than empty and literal ones. -/
theorem literalAfter_join (hbase : base.path = .segments (dir ++ [""])) {reference : String}
    (h : base.join reference = .ok url) :
    ∃ path, url.path = .segments path ∧ LiteralAfter base.kind dir.length path := by
  rw [join_directory hbase] at h
  cases h
  refine ⟨_, rfl, LiteralAfter.addSegments ?_ (slash_of_mem_splitPath base.kind _)⟩
  intro s hs
  rw [List.drop_length] at hs
  cases hs

end NotionSchema.Url
