import NotionSchema.Schema.Document
import NotionSchema.Proofs.Schema.LineReading

namespace NotionSchema.Schema

open Text LineForm

variable {α β : Type} {p p' q : Progress} {line : Line} {lines rest : List Line}

/-- What a reading comes to, without its warnings. -/
def outcome (x : Reading α) : Except ParseError α := x.run.value

@[simp] theorem outcome_pure (a : α) : outcome (pure a : Reading α) = .ok a := rfl

theorem outcome_bind (x : Reading α) (f : α → Reading β) :
    outcome (x >>= f) = (outcome x).bind fun a => outcome (f a) := by
  change (ExceptT.bindCont f x.run.value).value = _
  unfold outcome
  cases x.run.value <;> rfl

theorem outcome_bind_eq_ok {x : Reading α} {f : α → Reading β} {b : β} :
    outcome (x >>= f) = .ok b ↔ ∃ a, outcome x = .ok a ∧ outcome (f a) = .ok b := by
  rw [outcome_bind]
  cases outcome x with
  | error e => simp [Except.bind]
  | ok a => simp [Except.bind]

def IsHeader (line : Line) : Prop := ∃ name rest, HeaderForm line.text name rest

def IsBoundHeader (line : Line) : Prop :=
  ∃ name rest id, HeaderForm line.text name rest ∧ FirstMark id rest

def opened (line : Line) (name id : List Char) : OpenModel :=
  ⟨String.ofList name, String.ofList id, line.number, []⟩

/-- What one line does to a reading that goes on. -/
inductive Step : Progress → Line → Progress → Prop
  | pass (ms sk ns) (line : Line) (h : ¬ IsHeader line) :
      Step ⟨ms, sk, ns, .betweenModels⟩ line ⟨ms, sk, ns, .betweenModels⟩
  | head (ms sk ns) (line : Line) (name rest id : List Char)
      (hh : HeaderForm line.text name rest) (hm : FirstMark id rest)
      (hn : String.ofList name ∉ ns) :
      Step ⟨ms, sk, ns, .betweenModels⟩ line
        ⟨ms, sk, String.ofList name :: ns,
          if opensBody rest then .inBody (opened line name id) else .afterHeader (opened line name id)⟩
  | brace (ms sk ns) (m : OpenModel) (line : Line) (h : line.text = ['\x7b']) :
      Step ⟨ms, sk, ns, .afterHeader m⟩ line ⟨ms, sk, ns, .inBody m⟩
  | close (ms sk ns) (m : OpenModel) (line : Line) (h : line.text = ['\x7d']) :
      Step ⟨ms, sk, ns, .inBody m⟩ line ⟨ms ++ [m.close], sk, ns, .betweenModels⟩
  | skip (ms sk ns) (m : OpenModel) (line : Line) (hc : line.text ≠ ['\x7d'])
      (hb : ¬ IsBoundHeader line) (hf : ∀ f, ¬ FieldForm f line.text) :
      Step ⟨ms, sk, ns, .inBody m⟩ line
        ⟨ms, sk ++ [⟨m.name, line.number, String.ofList line.text⟩], ns, .inBody m⟩
  | field (ms sk ns) (m : OpenModel) (line : Line) (f : Field) (hc : line.text ≠ ['\x7d'])
      (hb : ¬ IsBoundHeader line) (hf : FieldForm f line.text) :
      Step ⟨ms, sk, ns, .inBody m⟩ line
        ⟨ms, sk, ns, .inBody { m with fields := m.fields ++ [f] }⟩

inductive Run : Progress → List Line → Progress → Prop
  | nil (p : Progress) : Run p [] p
  | cons (p q r : Progress) (line : Line) (rest : List Line) (hs : Step p line q) (hr : Run q rest r) :
      Run p (line :: rest) r

theorem Run.append {r : Progress} (h : Run p lines q) (hr : Run q rest r) :
    Run p (lines ++ rest) r := by
  induction h with
  | nil => exact hr
  | cons p q r' line lines hs _ ih => exact .cons p q r line _ hs (ih hr)

theorem Run.single (h : Step p line q) : Run p [line] q := .cons p q q line [] h (.nil q)

theorem openModel_eq_ok_iff {names : List String} {name r : List Char} {m : OpenModel} :
    openModel names line name r = .ok m ↔
      ∃ id, FirstMark id r ∧ String.ofList name ∉ names ∧ m = opened line name id := by
  rw [openModel]
  cases hid : databaseId? r with
  | none =>
      simp only [reduceCtorEq, false_iff, not_exists, not_and]
      intro id hm
      rw [databaseId?_eq_some_iff.2 hm] at hid
      cases hid
  | some id =>
      have hm := databaseId?_eq_some_iff.1 hid
      by_cases hn : String.ofList name ∈ names
      · simp [hn]
      · simp only [List.contains_eq_mem, hn, decide_false, Bool.false_eq_true, if_false,
          Except.ok.injEq]
        constructor
        · rintro rfl
          exact ⟨id, hm, not_false, rfl⟩
        · rintro ⟨i, hi, -, rfl⟩
          rw [databaseId?_eq_some_iff.2 hi] at hid
          cases hid
          rfl

theorem readHeader_eq_none_iff : readHeader line.text = none ↔ ¬ IsHeader line := by
  rw [Option.eq_none_iff_forall_ne_some]
  simp [IsHeader, readHeader_eq_some_iff]

theorem step_of_betweenModels {ms : List Model} {sk : List SkippedLine} {ns : List String}
    (h : Progress.betweenModels ⟨ms, sk, ns, .betweenModels⟩ line = .ok q) :
    Step ⟨ms, sk, ns, .betweenModels⟩ line q := by
  rw [Progress.betweenModels] at h
  cases hr : readHeader line.text with
  | none =>
      rw [hr] at h
      cases h
      exact .pass ms sk ns line (readHeader_eq_none_iff.1 hr)
  | some nr =>
      obtain ⟨name, r⟩ := nr
      rw [hr] at h
      dsimp only at h
      cases hm : openModel ns line name r with
      | error e =>
          rw [hm] at h
          cases h
      | ok m =>
          rw [hm] at h
          obtain ⟨id, hid, hn, rfl⟩ := openModel_eq_ok_iff.1 hm
          cases h
          exact .head ms sk ns line name r id (readHeader_eq_some_iff.1 hr) hid hn

theorem betweenModels_pass {ms : List Model} {sk : List SkippedLine} {ns : List String}
    (h : ¬ IsHeader line) : Progress.betweenModels ⟨ms, sk, ns, .betweenModels⟩ line =
      .ok ⟨ms, sk, ns, .betweenModels⟩ := by
  rw [Progress.betweenModels, readHeader_eq_none_iff.2 h]

theorem betweenModels_head {ms : List Model} {sk : List SkippedLine} {ns : List String}
    {name r id : List Char} (hh : HeaderForm line.text name r) (hm : FirstMark id r)
    (hn : String.ofList name ∉ ns) : Progress.betweenModels ⟨ms, sk, ns, .betweenModels⟩ line =
      .ok ⟨ms, sk, String.ofList name :: ns,
        if opensBody r then .inBody (opened line name id) else .afterHeader (opened line name id)⟩ := by
  have ho : openModel ns line name r = .ok (opened line name id) :=
    openModel_eq_ok_iff.2 ⟨id, hm, hn, rfl⟩
  rw [Progress.betweenModels, readHeader_eq_some_iff.2 hh]
  simp only [ho]
  rfl

theorem isBoundHeader_eq_true_iff : isBoundHeader line.text = true ↔ IsBoundHeader line :=
  isBoundHeader_iff

instance : Decidable (IsHeader line) := decidable_of_iff _ isHeader_iff

instance : Decidable (IsBoundHeader line) := decidable_of_iff _ isBoundHeader_eq_true_iff

theorem outcome_inBody (m : OpenModel) : outcome (p.inBody m line) =
    if line.text = ['\x7d'] then
      .ok { p with models := p.models ++ [m.close], place := .betweenModels }
    else if isBoundHeader line.text then .error m.unterminated
    else match readField line.text with
      | none => .ok { p with skipped := p.skipped ++ [⟨m.name, line.number, String.ofList line.text⟩] }
      | some f => .ok { p with place := .inBody { m with fields := m.fields ++ [f] } } := by
  rw [Progress.inBody]
  split
  · rfl
  · split
    · rfl
    · cases readField line.text <;> rfl

theorem step_of_inBody {ms : List Model} {sk : List SkippedLine} {ns : List String} {m : OpenModel}
    (h : outcome (Progress.inBody ⟨ms, sk, ns, .inBody m⟩ m line) = .ok q) :
    Step ⟨ms, sk, ns, .inBody m⟩ line q := by
  rw [outcome_inBody] at h
  by_cases hc : line.text = ['\x7d']
  · rw [if_pos hc] at h
    cases h
    exact .close ms sk ns m line hc
  · rw [if_neg hc] at h
    by_cases hb : IsBoundHeader line
    · rw [if_pos (isBoundHeader_eq_true_iff.2 hb)] at h
      cases h
    · rw [if_neg (by rwa [isBoundHeader_eq_true_iff])] at h
      cases hf : readField line.text with
      | none =>
          rw [hf] at h
          cases h
          exact .skip ms sk ns m line hc hb (readField_eq_none_iff.1 hf)
      | some f =>
          rw [hf] at h
          cases h
          exact .field ms sk ns m line f hc hb (readField_eq_some_iff.1 hf)

theorem outcome_step_of_step (h : Step p line q) : outcome (p.step line) = .ok q := by
  cases h with
  | pass ms sk ns _ h => exact betweenModels_pass h
  | head ms sk ns _ name rest id hh hm hn => exact betweenModels_head hh hm hn
  | brace ms sk ns m _ h => simp [Progress.step, h]
  | close ms sk ns m _ h =>
      change outcome (Progress.inBody _ m line) = _
      rw [outcome_inBody, if_pos h]
  | skip ms sk ns m _ hc hb hf =>
      change outcome (Progress.inBody _ m line) = _
      rw [outcome_inBody, if_neg hc, if_neg (by rwa [isBoundHeader_eq_true_iff]),
        readField_eq_none_iff.2 hf]
  | field ms sk ns m _ f hc hb hf =>
      change outcome (Progress.inBody _ m line) = _
      rw [outcome_inBody, if_neg hc, if_neg (by rwa [isBoundHeader_eq_true_iff]),
        readField_eq_some_iff.2 hf]

theorem step_of_outcome_step (h : outcome (p.step line) = .ok q) : Step p line q := by
  obtain ⟨ms, sk, ns, place⟩ := p
  cases place with
  | betweenModels => exact step_of_betweenModels h
  | afterHeader m =>
      simp only [Progress.step] at h
      by_cases hb : line.text = ['\x7b']
      · rw [if_pos hb] at h
        cases h
        exact .brace ms sk ns m line hb
      · rw [if_neg hb] at h
        cases h
  | inBody m => exact step_of_inBody h

theorem outcome_step_eq_ok_iff : outcome (p.step line) = .ok q ↔ Step p line q :=
  ⟨step_of_outcome_step, outcome_step_of_step⟩

theorem outcome_readLines_eq_ok_iff : outcome (readLines p lines) = .ok q ↔ Run p lines q := by
  induction lines generalizing p with
  | nil =>
      constructor
      · intro h
        cases h
        exact .nil q
      · intro h
        cases h
        rfl
  | cons line rest ih =>
      rw [readLines, outcome_bind_eq_ok]
      constructor
      · rintro ⟨r, hs, hr⟩
        exact .cons p r q line rest (outcome_step_eq_ok_iff.1 hs) (ih.1 hr)
      · intro h
        cases h with
        | cons _ r _ _ _ hs hr => exact ⟨r, outcome_step_eq_ok_iff.2 hs, ih.2 hr⟩

/-- A text is accepted when its lines lead back between models and some model was met. -/
theorem parseWithSkipped_eq_ok_iff {text : String} {s : Schema} {skipped : List SkippedLine} :
    (parseWithSkipped text).value = .ok (s, skipped) ↔
      ∃ names, Run .start (significantLines text) ⟨s.models, skipped, names, .betweenModels⟩ ∧
        s.models ≠ [] := by
  change outcome (do
    let p ← readLines .start (significantLines text)
    ExceptT.mk (pure p.finish) : Reading _) = _ ↔ _
  rw [outcome_bind_eq_ok]
  constructor
  · rintro ⟨⟨ms, sk, ns, place⟩, hr, hf⟩
    change Progress.finish ⟨ms, sk, ns, place⟩ = _ at hf
    rw [outcome_readLines_eq_ok_iff] at hr
    cases place with
    | afterHeader m => cases hf
    | inBody m => cases hf
    | betweenModels =>
        by_cases hm : ms = []
        · simp [Progress.finish, hm] at hf
        · simp only [Progress.finish, List.isEmpty_iff, hm, if_false, Except.ok.injEq,
            Prod.mk.injEq] at hf
          obtain ⟨rfl, rfl⟩ := hf
          exact ⟨ns, hr, hm⟩
  · rintro ⟨ns, hr, hm⟩
    refine ⟨_, outcome_readLines_eq_ok_iff.2 hr, ?_⟩
    change Progress.finish ⟨s.models, skipped, ns, .betweenModels⟩ = _
    simp [Progress.finish, hm]

end NotionSchema.Schema
