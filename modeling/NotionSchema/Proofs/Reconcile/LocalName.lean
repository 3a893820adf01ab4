import NotionSchema.Proofs.Schema.Printer
import NotionSchema.Reconcile.Suggestion

namespace NotionSchema

open Text LineForm

def IsAscii (s : List Char) : Prop := ∀ c ∈ s, c.toNat < 0x80

instance (s : List Char) : Decidable (IsAscii s) :=
  List.decidableBAll (fun c : Char => c.toNat < 0x80) s

namespace Text

def Fitting (c : Char) : Prop := c.toNat < 0x80 → isIdentifierChar c = true

def FittingCode (n : Nat) : Prop :=
  (0x80 ≤ n ∧ n.isValidChar) ∨ isIdentifierChar (Char.ofNat n) = true

instance : DecidablePred FittingCode := fun _ => inferInstanceAs (Decidable (_ ∨ _))

/-- Both ends of the run are moved to characters beyond ASCII without surrogates between them, or
the run has a single code point. -/
def CaseRun.Fits (r : CaseRun) : Prop :=
  (0x80 ≤ (r.1 : Int) + r.2.2.2 ∧ ((r.2.1 : Int) + r.2.2.2 < 0xD800 ∨
    0xE000 ≤ (r.1 : Int) + r.2.2.2 ∧ (r.2.1 : Int) + r.2.2.2 < 0x110000)) ∨
  (r.1 = r.2.1 ∧ FittingCode ((r.1 : Int) + r.2.2.2).toNat)

instance : DecidablePred CaseRun.Fits := fun _ => inferInstanceAs (Decidable (_ ∨ _))

theorem lowerRuns_fit : ∀ r ∈ lowerRuns, r.Fits := by decide +kernel

theorem upperRuns_fit : ∀ r ∈ upperRuns, r.Fits := by decide +kernel

theorem upperExpansions_fit : ∀ e ∈ upperExpansions, ∀ n ∈ e.2, FittingCode n := by decide +kernel

theorem FittingCode.fitting {n : Nat} (h : FittingCode n) : Fitting (Char.ofNat n) := by
  intro hascii
  rcases h with ⟨hn, hvalid⟩ | h
  · have hvalue : (Char.ofNat n).toNat = n := by
      rw [Char.ofNat, dif_pos hvalid]
      rfl
    omega
  · exact h

theorem CaseRun.Fits.moved {r : CaseRun} {n m : Nat} (h : r.Fits) (hm : r.moved? n = some m) :
    FittingCode m := by
  rw [moved?] at hm
  split_ifs at hm with hn
  simp only [Bool.and_eq_true, decide_eq_true_eq] at hn
  obtain ⟨⟨hfirst, hlast⟩, -⟩ := hn
  obtain rfl := Option.some.inj hm
  rcases h with ⟨hbeyond, hscalar⟩ | ⟨hsingle, hcode⟩
  · refine .inl ⟨by omega, ?_⟩
    rw [Nat.isValidChar]
    omega
  · obtain rfl : n = r.1 := by omega
    exact hcode

theorem fitting_moveBy {runs : List CaseRun} (h : ∀ r ∈ runs, r.Fits) {c : Char}
    (hc : ¬ c.toNat < 0x80) : Fitting (moveBy runs c) := by
  rw [moveBy]
  cases hm : runs.findSome? (·.moved? c.toNat) with
  | none =>
      rw [Option.getD_none, Char.ofNat_toNat]
      exact fun hascii => absurd hascii hc
  | some m =>
      obtain ⟨r, hr, hrm⟩ := List.exists_of_findSome?_eq_some hm
      exact ((h r hr).moved hrm).fitting

variable {c : Char}

theorem fitting_ascii (hc : c.toNat < 0x80) : isAlphanumeric c = true →
    isIdentifierChar c = true ∧ Fitting c.toLower ∧ Fitting c.toUpper := by
  refine forall_ascii (P := fun c => isAlphanumeric c = true →
    isIdentifierChar c = true ∧ Fitting c.toLower ∧ Fitting c.toUpper) ?_ hc
  simp only [Fitting]
  decide +kernel

theorem fitting_of_isAlphanumeric (hc : isAlphanumeric c = true) : Fitting c := by
  intro hascii
  exact (fitting_ascii hascii hc).1

theorem fitting_lowerChar (hc : isAlphanumeric c = true) : ∀ d ∈ lowerChar c, Fitting d := by
  rw [lowerChar]
  split_ifs with hascii hdotted
  · simpa using (fitting_ascii hascii hc).2.1
  · simp only [List.forall_mem_cons, List.not_mem_nil, false_implies, implies_true, and_true]
    exact ⟨fun _ => by decide, fun hascii => absurd hascii (by decide)⟩
  · simpa using fitting_moveBy lowerRuns_fit hascii

theorem fitting_upperChar (hc : isAlphanumeric c = true) : ∀ d ∈ upperChar c, Fitting d := by
  rw [upperChar]
  split_ifs with hascii
  · simpa using (fitting_ascii hascii hc).2.2
  · cases he : upperExpansions.lookup c.toNat with
    | none => simpa using fitting_moveBy upperRuns_fit hascii
    | some codes =>
        intro d hd
        obtain ⟨n, hn, rfl⟩ := List.mem_map.1 hd
        obtain ⟨front, back, hlist, -⟩ := List.lookup_eq_some_iff.1 he
        have hmem : (c.toNat, codes) ∈ upperExpansions := by simp [hlist]
        exact (upperExpansions_fit _ hmem n hn).fitting

end Text

namespace Field

variable {name : String} {word s : List Char} {ws : List (List Char)}

theorem isAlphanumeric_of_mem_splitWords (h : ∀ c ∈ word, isAlphanumeric c = true) :
    ∀ w ∈ words.splitWords word s, ∀ c ∈ w, isAlphanumeric c = true := by
  induction s generalizing word with
  | nil => simpa [words.splitWords] using h
  | cons c s ih =>
      rw [words.splitWords]
      split_ifs with hc
      · exact ih (List.forall_mem_cons.2 ⟨hc, h⟩)
      · refine List.forall_mem_cons.2 ⟨?_, ih (by simp)⟩
        simpa using h

theorem isAlphanumeric_of_mem_words : ∀ w ∈ words s, ∀ c ∈ w, isAlphanumeric c = true := by
  intro w hw
  exact isAlphanumeric_of_mem_splitWords (by simp) w (List.mem_filter.1 hw).1

theorem fitting_mapFirst {f : Char → List Char} (hf : ∀ c, isAlphanumeric c = true →
    ∀ d ∈ f c, Fitting d) (h : ∀ c ∈ word, isAlphanumeric c = true) :
    ∀ d ∈ mapFirst f word, Fitting d := by
  cases word with
  | nil => simp [mapFirst]
  | cons c word =>
      obtain ⟨hc, hrest⟩ := List.forall_mem_cons.1 h
      exact List.forall_mem_append.2
        ⟨hf c hc, fun d hd => fitting_of_isAlphanumeric (hrest d hd)⟩

theorem fitting_joinWords (h : ∀ w ∈ ws, ∀ c ∈ w, isAlphanumeric c = true) :
    ∀ d ∈ joinWords ws, Fitting d := by
  cases ws with
  | nil => simp [joinWords]
  | cons word ws =>
      obtain ⟨hword, hrest⟩ := List.forall_mem_cons.1 h
      refine List.forall_mem_append.2 ⟨fitting_mapFirst (fun c => fitting_lowerChar) hword, ?_⟩
      intro d hd
      obtain ⟨w, hw, hd⟩ := List.mem_flatMap.1 hd
      exact fitting_mapFirst (fun c => fitting_upperChar) (hrest w hw) d hd

theorem isAscii_of_isIdentifier (h : isIdentifier s = true) : IsAscii s :=
  fun _ hc => toNat_lt_of_isIdentifierChar (isIdentifierChar_of_mem h hc)

theorem isIdentifier_of_fitting {c : Char} (h : ∀ d ∈ c :: s, Fitting d) (ha : IsAscii (c :: s))
    (hc : isAsciiDigit c = false) : isIdentifier (c :: s) = true := by
  obtain ⟨hfits, hrest⟩ := List.forall_mem_cons.1 h
  obtain ⟨hascii, harest⟩ := List.forall_mem_cons.1 ha
  have hchar := hfits hascii
  rw [isIdentifierChar, hc, Bool.or_false] at hchar
  exact isIdentifier_iff.2 ⟨c, s, rfl, hchar, fun d hd => hrest d hd (harest d hd)⟩

theorem isIdentifier_localName_iff :
    isIdentifier (localName name).toList = true ↔ IsAscii (localName name).toList := by
  refine ⟨isAscii_of_isIdentifier, ?_⟩
  have hjoined := fitting_joinWords (isAlphanumeric_of_mem_words (s := name.toList))
  rw [localName, String.toList_ofList]
  generalize joinWords (words name.toList) = joined at hjoined
  have hunderscore : Fitting '_' := fun _ => by decide
  split_ifs with hdigit
  · exact fun ha => isIdentifier_of_fitting (List.forall_mem_cons.2 ⟨hunderscore, hjoined⟩) ha
      (by decide)
  · cases joined with
    | nil => exact absurd rfl hdigit
    | cons c joined => exact fun ha => isIdentifier_of_fitting hjoined ha (by simpa using hdigit)

end Field

end NotionSchema
