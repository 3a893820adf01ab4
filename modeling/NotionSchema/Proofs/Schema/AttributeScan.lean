import NotionSchema.Proofs.Schema.LineReading

namespace NotionSchema.LineForm

open Text

variable {s rest : List Char} {a : Attribute} {c : Char}

/-- The attributes in a text. A character at which none begins is passed over. -/
def attributesIn : List Char → List Attribute
  | [] => []
  | c :: s =>
    match _h : readAttribute (c :: s) with
    | some (a, rest) => a :: attributesIn rest
    | none => attributesIn s
termination_by s => s.length
decreasing_by
  · exact length_readAttribute _h
  · simp

/-- What is left of a text when its attributes are deleted. -/
def withoutAttributes : List Char → List Char
  | [] => []
  | c :: s =>
    match _h : readAttribute (c :: s) with
    | some (_, rest) => withoutAttributes rest
    | none => c :: withoutAttributes s
termination_by s => s.length
decreasing_by
  · exact length_readAttribute _h
  · simp

theorem attributesIn_of_readAttribute (h : readAttribute (c :: s) = some (a, rest)) :
    attributesIn (c :: s) = a :: attributesIn rest := by
  rw [attributesIn]
  split <;> simp_all

theorem attributesIn_of_none (h : readAttribute (c :: s) = none) :
    attributesIn (c :: s) = attributesIn s := by
  rw [attributesIn]
  split <;> simp_all

theorem withoutAttributes_of_readAttribute (h : readAttribute (c :: s) = some (a, rest)) :
    withoutAttributes (c :: s) = withoutAttributes rest := by
  rw [withoutAttributes]
  split <;> simp_all

theorem withoutAttributes_of_none (h : readAttribute (c :: s) = none) :
    withoutAttributes (c :: s) = c :: withoutAttributes s := by
  rw [withoutAttributes]
  split <;> simp_all

theorem readAttribute_of_isBlank (h : isBlank c = true) : readAttribute (c :: s) = none := by
  unfold readAttribute
  split
  · next he =>
      obtain ⟨rfl, -⟩ := List.cons_eq_cons.1 he
      exact absurd h (by decide)
  · rfl

theorem allBlank_cons : AllBlank (c :: s) ↔ isBlank c = true ∧ AllBlank s :=
  List.forall_mem_cons

/-- Reading attributes one behind the other comes to the same as deleting them everywhere: a text
that is no attribute and not blank is left over, wherever it stands. -/
theorem readAttributes_eq_scan (s : List Char) : readAttributes s =
    if trim (withoutAttributes s) = [] then some (attributesIn s) else none := by
  simp only [trim_eq_nil_iff]
  fun_induction readAttributes s with
  | case1 => simp [withoutAttributes, attributesIn, AllBlank]
  | case2 c s hc ih =>
      have hnone := readAttribute_of_isBlank (s := s) hc
      simp only [ih, withoutAttributes_of_none hnone, attributesIn_of_none hnone, allBlank_cons, hc,
        true_and]
  | case3 c s _ a rest hr ih =>
      rw [ih, withoutAttributes_of_readAttribute hr, attributesIn_of_readAttribute hr]
      split <;> rfl
  | case4 c s hc hr =>
      rw [if_neg]
      rw [withoutAttributes_of_none hr, allBlank_cons]
      exact fun h => hc h.1

def behindType : List Char → Option (List Char)
  | [] => some []
  | s => afterBlanks? s

def scanField (line : List Char) : Option Field := do
  let (name, s) ← readIdentifier line
  let s ← afterBlanks? s
  let (token, s) ← readIdentifier s
  let (isList, s) := readListSuffix s
  let (optional, s) := readOptionalMark s
  let s ← behindType s
  if trim (withoutAttributes s) = [] then
    some ⟨String.ofList name, String.ofList (token ++ listMark isList), optional, attributesIn s⟩
  else none

theorem readFieldAttributes_eq (s : List Char) :
    readFieldAttributes s = (behindType s).bind readAttributes := by
  cases s with
  | nil => rw [readFieldAttributes, behindType, Option.bind_some, readAttributes]
  | cons c s => rfl

theorem readField_eq_scanField (line : List Char) : readField line = scanField line := by
  simp only [readField, scanField, Option.bind_eq_bind]
  refine Option.bind_congr fun word _ => ?_
  refine Option.bind_congr fun s _ => ?_
  refine Option.bind_congr fun token _ => ?_
  rw [readFieldAttributes_eq, Option.bind_assoc]
  refine Option.bind_congr fun s _ => ?_
  rw [readAttributes_eq_scan]
  split <;> rfl

end NotionSchema.LineForm
