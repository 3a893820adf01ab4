import NotionSchema.Text.Line
import Mathlib.Data.List.Basic
import Mathlib.Data.List.TakeWhile

namespace NotionSchema.Text

/-- The text does not begin with a character of the class. -/
def Stops (p : Char → Bool) (s : List Char) : Prop := ∀ c ∈ s.head?, p c = false

def AllBlank (s : List Char) : Prop := ∀ c ∈ s, isBlank c = true

/-- Neither end of the text is blank. -/
def Trimmed (s : List Char) : Prop := Stops isBlank s ∧ Stops isBlank s.reverse

theorem forall_ascii {P : Char → Prop} {c : Char} (h : ∀ n < 0x80, P (Char.ofNat n))
    (hc : c.toNat < 0x80) : P c := by
  have hn := h c.toNat hc
  rwa [Char.ofNat_toNat] at hn

variable {p : Char → Bool} {s a b : List Char}

@[simp] theorem stops_nil : Stops p [] := by simp [Stops]

@[simp] theorem stops_cons {c : Char} : Stops p (c :: s) ↔ p c = false := by simp [Stops]

instance : Decidable (Stops p s) :=
  match s with
  | [] => isTrue stops_nil
  | c :: _ => decidable_of_iff (p c = false) stops_cons.symm

instance : Decidable (AllBlank s) := decidable_of_iff (s.all isBlank = true) List.all_eq_true

theorem not_allBlank_iff : ¬ AllBlank s ↔ ∃ c ∈ s, isBlank c = false := by simp [AllBlank]

theorem stops_append_left (h : a ≠ []) : Stops p (a ++ b) ↔ Stops p a := by
  cases a with
  | nil => exact absurd rfl h
  | cons c a => simp

theorem stops_dropWhile (p : Char → Bool) (s : List Char) : Stops p (s.dropWhile p) := by
  induction s with
  | nil => simp
  | cons c s ih =>
      rw [List.dropWhile_cons]
      split
      · exact ih
      · next h => simpa using h

theorem takeWhile_append_of_stops (ha : ∀ c ∈ a, p c = true) (hb : Stops p b) :
    (a ++ b).takeWhile p = a := by
  rw [List.takeWhile_append_of_pos ha]
  cases b with
  | nil => simp
  | cons c b =>
      have hc : p c = false := by simpa using hb
      simp [hc]

theorem dropWhile_append_of_stops (ha : ∀ c ∈ a, p c = true) (hb : Stops p b) :
    (a ++ b).dropWhile p = b := by
  rw [List.dropWhile_append_of_pos ha]
  cases b with
  | nil => rfl
  | cons c b =>
      have hc : p c = false := by simpa using hb
      simp [hc]

theorem run_eq_iff : s.takeWhile p = a ∧ s.dropWhile p = b ↔
    s = a ++ b ∧ (∀ c ∈ a, p c = true) ∧ Stops p b := by
  constructor
  · rintro ⟨rfl, rfl⟩
    exact ⟨List.takeWhile_append_dropWhile.symm, fun c hc => List.mem_takeWhile_imp hc,
      stops_dropWhile p s⟩
  · rintro ⟨rfl, ha, hb⟩
    exact ⟨takeWhile_append_of_stops ha hb, dropWhile_append_of_stops ha hb⟩

theorem run_exists (p : Char → Bool) (s : List Char) :
    ∃ a b, s = a ++ b ∧ (∀ c ∈ a, p c = true) ∧ Stops p b :=
  ⟨_, _, run_eq_iff.1 ⟨rfl, rfl⟩⟩

theorem run_unique {a' b' : List Char} (h : a ++ b = a' ++ b') (ha : ∀ c ∈ a, p c = true)
    (ha' : ∀ c ∈ a', p c = true) (hb : Stops p b) (hb' : Stops p b') : a = a' ∧ b = b' := by
  obtain ⟨htake, hdrop⟩ := run_eq_iff.2 ⟨h, ha', hb'⟩
  rw [takeWhile_append_of_stops ha hb] at htake
  rw [dropWhile_append_of_stops ha hb] at hdrop
  exact ⟨htake, hdrop⟩

theorem stops_reverse_append_of_ne_nil (hne : b ≠ []) (hb : Stops p b.reverse) :
    Stops p (a ++ b).reverse := by
  rw [List.reverse_append]
  exact (stops_append_left (List.reverse_ne_nil_iff.2 hne)).2 hb

theorem stops_reverse_append (ha : Stops p a.reverse) (hb : Stops p b.reverse) :
    Stops p (a ++ b).reverse := by
  by_cases h : b = []
  · rw [h, List.append_nil]
    exact ha
  · exact stops_reverse_append_of_ne_nil h hb

theorem stops_reverse_concat {c : Char} : Stops p (s ++ [c]).reverse ↔ p c = false := by
  rw [List.reverse_append, List.reverse_singleton, List.singleton_append, stops_cons]

theorem stops_of_prefix (ha : a <+: s) (h : Stops p s) : Stops p a := by
  intro c hc
  obtain ⟨rest, rfl⟩ := ha
  exact h c (by rw [List.head?_append, Option.mem_def.1 hc]; rfl)

theorem stops_reverse_of_suffix (ha : a <:+ s) (h : Stops p s.reverse) : Stops p a.reverse :=
  stops_of_prefix (List.reverse_prefix.2 ha) h

theorem exists_concat (hne : s ≠ []) (h : Stops p s.reverse) :
    ∃ a c, s = a ++ [c] ∧ p c = false := by
  obtain ⟨a, c, rfl⟩ := (List.eq_nil_or_concat' s).resolve_left hne
  exact ⟨a, c, rfl, stops_reverse_concat.1 h⟩

theorem allBlank_reverse (h : AllBlank s) : AllBlank s.reverse := by
  intro c hc
  exact h c (List.mem_reverse.1 hc)

theorem trimStart_append (ha : AllBlank a) (hb : Stops isBlank b) : trimStart (a ++ b) = b :=
  dropWhile_append_of_stops ha hb

theorem trimEnd_append (hb : AllBlank b) (ha : Stops isBlank a.reverse) : trimEnd (a ++ b) = a := by
  rw [trimEnd, List.reverse_append, dropWhile_append_of_stops (allBlank_reverse hb) ha,
    List.reverse_reverse]

theorem trimEnd_eq_self (h : Stops isBlank s.reverse) : trimEnd s = s := by
  simpa using trimEnd_append (a := s) (b := []) (by simp [AllBlank]) h

theorem trim_pad (ha : AllBlank a) (hb : AllBlank b) (hs : Trimmed s) : trim (a ++ s ++ b) = s := by
  rw [trim]
  cases s with
  | nil =>
      have hab : AllBlank (a ++ b) := by
        intro c hc
        exact (List.mem_append.1 hc).elim (ha c) (hb c)
      have h := trimStart_append (a := a ++ b) (b := []) hab stops_nil
      rw [List.append_nil] at h
      rw [List.append_nil, h]
      rfl
  | cons c s =>
      rw [List.append_assoc, trimStart_append ha (by simpa using hs.1), trimEnd_append hb hs.2]

theorem trimmed_trim (s : List Char) : Trimmed (trim s) := by
  rw [trim]
  obtain ⟨b, a, hs, hb, ha⟩ := run_exists isBlank (trimStart s).reverse
  have hstart : trimStart s = a.reverse ++ b.reverse := by
    rw [← List.reverse_append, ← hs, List.reverse_reverse]
  have hstops : Stops isBlank (trimStart s) := stops_dropWhile isBlank s
  have hend : trimEnd (trimStart s) = a.reverse := by
    rw [hstart, trimEnd_append (allBlank_reverse hb) (by simpa using ha)]
  rw [hend]
  refine ⟨?_, by simpa using ha⟩
  cases hr : a.reverse with
  | nil => exact stops_nil
  | cons c r => simpa [hstart, hr] using hstops

theorem exists_trim_eq (s : List Char) :
    ∃ a b, AllBlank a ∧ AllBlank b ∧ s = a ++ trim s ++ b := by
  obtain ⟨a, r, hs, ha, hr⟩ := run_exists isBlank s
  obtain ⟨b, t, hrev, hb, ht⟩ := run_exists isBlank r.reverse
  have hsplit : r = t.reverse ++ b.reverse := by
    rw [← List.reverse_append, ← hrev, List.reverse_reverse]
  have hstart : trimStart s = r := by
    rw [hs]
    exact trimStart_append ha hr
  have hend : trimEnd r = t.reverse := by
    rw [hsplit]
    exact trimEnd_append (allBlank_reverse hb) (by simpa using ht)
  refine ⟨a, b.reverse, ha, allBlank_reverse hb, ?_⟩
  rw [trim, hstart, hend, List.append_assoc, ← hsplit]
  exact hs

theorem allBlank_append (ha : AllBlank a) (hb : AllBlank b) : AllBlank (a ++ b) := by
  intro c hc
  exact (List.mem_append.1 hc).elim (ha c) (hb c)

theorem trim_eq_nil_iff : trim s = [] ↔ AllBlank s := by
  constructor
  · intro h
    obtain ⟨a, b, ha, hb, hs⟩ := exists_trim_eq s
    rw [hs, h, List.append_nil]
    exact allBlank_append ha hb
  · intro h
    have hpad := trim_pad h (b := []) (s := []) (by simp [AllBlank]) ⟨stops_nil, stops_nil⟩
    simpa using hpad

theorem trim_around (ha : AllBlank a) (hb : AllBlank b) : trim (a ++ s ++ b) = trim s := by
  obtain ⟨a', b', ha', hb', hs⟩ := exists_trim_eq s
  have hpad := trim_pad (allBlank_append ha ha') (allBlank_append hb' hb) (trimmed_trim s)
  have hsplit : a ++ a' ++ trim s ++ (b' ++ b) = a ++ s ++ b := by
    calc a ++ a' ++ trim s ++ (b' ++ b) = a ++ (a' ++ trim s ++ b') ++ b := by
          simp only [List.append_assoc]
      _ = a ++ s ++ b := by rw [← hs]
  rw [← hsplit, hpad]

theorem map_text_numbered (start : Nat) (raws : List (List Char)) :
    (numbered start raws).map (·.text) = raws.map trim := by
  induction raws generalizing start with
  | nil => rfl
  | cons raw raws ih => simp [numbered, ih]

theorem mem_numbered {start : Nat} {raws : List (List Char)} {line : Line}
    (h : line ∈ numbered start raws) :
    ∃ i raw, raws[i]? = some raw ∧ line.number = start + i ∧ line.text = trim raw := by
  induction raws generalizing start with
  | nil => simp [numbered] at h
  | cons raw raws ih =>
      rcases List.mem_cons.1 h with rfl | h
      · exact ⟨0, raw, rfl, rfl, rfl⟩
      · obtain ⟨i, r, hr, hn, ht⟩ := ih h
        exact ⟨i + 1, r, hr, by omega, ht⟩

/-- The line is what stands, apart from blanks around it, under its number in the text. -/
def StandsIn (text : String) (line : Line) : Prop :=
  ∃ raw, 0 < line.number ∧ (rawLines text)[line.number - 1]? = some raw ∧ line.text = trim raw

theorem standsIn_of_mem {text : String} {line : Line} (h : line ∈ significantLines text) :
    StandsIn text line := by
  obtain ⟨i, raw, hr, hn, ht⟩ := mem_numbered (List.mem_filter.1 h).1
  have hi : line.number - 1 = i := by omega
  exact ⟨raw, by omega, by rw [hi, hr], ht⟩

theorem trimmed_of_mem {text : String} {line : Line} (h : line ∈ significantLines text) :
    Trimmed line.text := by
  obtain ⟨raw, -, -, ht⟩ := standsIn_of_mem h
  rw [ht]
  exact trimmed_trim raw

end NotionSchema.Text
