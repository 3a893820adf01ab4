import NotionSchema.Proofs.Url.Directory

namespace NotionSchema.Url

open Text

variable {scheme text text' : String} {c : Char} {s t : List Char} {items : List String}
  {base url : Url}

theorem significant_slash_cases (text : String) :
    ∃ front middle back, text.toList = front ++ middle ++ back ∧
      (∀ c ∈ front ++ back, isOuterBlank c = true) ∧
      significant text = middle.filter (!isBreak ·) ∧
      significant (text ++ "/") = (middle ++ back).filter (!isBreak ·) ++ ['/'] := by
  obtain ⟨front, rest, htext, hfront, hrest⟩ := run_exists isOuterBlank text.toList
  obtain ⟨back, middle, hreverse, hback, hmiddle⟩ := run_exists isOuterBlank rest.reverse
  have hsplit : rest = middle.reverse ++ back.reverse := by
    rw [← List.reverse_append, ← hreverse, List.reverse_reverse]
  have hslash : Stops isOuterBlank (rest ++ ['/']) := by
    cases rest with
    | nil => decide
    | cons c rest => exact stops_cons.2 (stops_cons.1 hrest)
  refine ⟨front, middle.reverse, back.reverse, ?_, ?_, ?_, ?_⟩
  · rw [htext, hsplit, List.append_assoc]
  · intro c hc
    rcases List.mem_append.1 hc with hc | hc
    · exact hfront c hc
    · exact hback c (List.mem_reverse.1 hc)
  · rw [significant, htext, dropWhile_append_of_stops hfront hrest, hreverse,
      dropWhile_append_of_stops hback hmiddle]
  · have hlist : (text ++ "/").toList = front ++ (rest ++ ['/']) := by
      rw [String.toList_append, htext, List.append_assoc]
      rfl
    have hend : (rest ++ ['/']).reverse.dropWhile isOuterBlank = (rest ++ ['/']).reverse := by
      rw [List.reverse_append]
      rfl
    rw [significant, hlist, dropWhile_append_of_stops hfront hslash, hend, List.reverse_reverse,
      List.filter_append, hsplit]
    rfl

theorem not_isBreak_of_visible (hc : isOuterBlank c = false) : (!isBreak c) = true := by
  rw [Bool.not_eq_true', Bool.eq_false_iff]
  intro h
  simp only [isBreak, Bool.or_eq_true, beq_iff_eq] at h
  rcases h with (rfl | rfl) | rfl <;> exact absurd hc (by decide)

theorem mem_significant_iff (hc : isOuterBlank c = false) :
    c ∈ significant text ↔ c ∈ text.toList := by
  obtain ⟨front, middle, back, htext, hblank, hsignificant, -⟩ := significant_slash_cases text
  have hout : c ∉ front ∧ c ∉ back := by
    constructor <;> intro h <;> have hb := hblank c (by simp [h]) <;> rw [hb] at hc <;> cases hc
  rw [hsignificant, htext, List.mem_filter, List.mem_append, List.mem_append]
  simp [not_isBreak_of_visible hc, hout]

theorem exists_significant_slash (text : String) :
    ∃ more, significant (text ++ "/") = significant text ++ more := by
  obtain ⟨front, middle, back, -, -, hsignificant, hslash⟩ := significant_slash_cases text
  exact ⟨_, by rw [hslash, hsignificant, List.filter_append, List.append_assoc]⟩

theorem significant_slash (h : Stops isOuterBlank text.toList.reverse) :
    ∃ middle, middle <:+ text.toList ∧ significant text = middle.filter (!isBreak ·) ∧
      significant (text ++ "/") = significant text ++ ['/'] := by
  obtain ⟨front, middle, back, htext, hblank, hsignificant, hslash⟩ :=
    significant_slash_cases text
  have hback : back = [] := by
    rcases List.eq_nil_or_concat' back with hnil | ⟨back, c, rfl⟩
    · exact hnil
    · have hlast := stops_reverse_of_suffix (a := [c]) ⟨front ++ middle ++ back, by
        rw [htext, List.append_assoc (front ++ middle)]⟩ h
      have hvisible : isOuterBlank c = false := stops_cons.1 hlast
      rw [hblank c (by simp)] at hvisible
      cases hvisible
  subst hback
  rw [List.append_nil] at htext hslash
  exact ⟨middle, ⟨front, htext.symm⟩, hsignificant, by rw [hslash, hsignificant]⟩

theorem stops_significant {p : Char → Bool} (h : Stops isOuterBlank text.toList.reverse)
    (hp : Stops p text.toList.reverse) : Stops p (significant text).reverse := by
  obtain ⟨middle, hmiddle, hsignificant, -⟩ := significant_slash h
  have hblank := stops_reverse_of_suffix hmiddle h
  have hstop := stops_reverse_of_suffix hmiddle hp
  rw [hsignificant]
  rcases List.eq_nil_or_concat' middle with rfl | ⟨middle, c, rfl⟩
  · exact stops_nil
  · have hc := stops_reverse_concat.1 hblank
    have hone : [c].filter (!isBreak ·) = [c] :=
      List.filter_cons_of_pos (not_isBreak_of_visible hc)
    rw [List.filter_append, hone]
    exact stops_reverse_concat.2 (stops_reverse_concat.1 hstop)

theorem splitScheme?_eq_some (h : splitScheme? s = some (scheme, t)) :
    ∃ front, s = front ++ ':' :: t ∧ ∀ c ∈ front, isSchemeChar c = true := by
  rw [splitScheme?] at h
  split at h
  · next rest hhead hrest =>
      cases h
      refine ⟨s.takeWhile isSchemeChar, ?_, fun c hc => List.mem_takeWhile_imp hc⟩
      rw [← hrest, List.takeWhile_append_dropWhile]
  · cases h

theorem splitScheme?_suffix (h : splitScheme? s = some (scheme, t)) : t <:+ s := by
  obtain ⟨front, rfl, -⟩ := splitScheme?_eq_some h
  exact (List.suffix_cons ':' t).trans (List.suffix_append front _)

theorem splitScheme?_append (h : s.dropWhile isSchemeChar ≠ []) (more : List Char) :
    splitScheme? (s ++ more) = (splitScheme? s).map fun p => (p.1, p.2 ++ more) := by
  obtain ⟨front, rest, rfl, hfront, hrest⟩ := run_exists isSchemeChar s
  rw [dropWhile_append_of_stops hfront hrest] at h
  have hmore : Stops isSchemeChar (rest ++ more) := (stops_append_left h).2 hrest
  obtain ⟨c, rest, rfl⟩ := List.exists_cons_of_ne_nil h
  have hhead : (front ++ (c :: rest ++ more)).head? = (front ++ c :: rest).head? := by
    cases front <;> rfl
  rw [splitScheme?, splitScheme?, List.append_assoc, dropWhile_append_of_stops hfront hmore,
    takeWhile_append_of_stops hfront hmore, dropWhile_append_of_stops hfront hrest,
    takeWhile_append_of_stops hfront hrest, hhead, List.cons_append]
  cases hletter : (front ++ c :: rest).head?.map isAsciiLetter with
  | none => rfl
  | some letter =>
      cases letter with
      | false => rfl
      | true =>
          by_cases hc : c = ':'
          · subst hc
            rfl
          · split
            · next heq =>
                cases heq
                exact absurd rfl hc
            · split
              · next heq =>
                  cases heq
                  exact absurd rfl hc
              · rfl

theorem splitScheme?_slash (h : (splitScheme? (s ++ ['/'])).isSome = true) :
    splitScheme? (s ++ ['/']) = (splitScheme? s).map fun p => (p.1, p.2 ++ ['/']) := by
  refine splitScheme?_append ?_ ['/']
  intro hnil
  have hslash : (s ++ ['/']).dropWhile isSchemeChar = ['/'] :=
    dropWhile_append_of_stops (List.dropWhile_eq_nil_iff.1 hnil) (by decide)
  rw [splitScheme?, hslash] at h
  split at h
  · next heq => cases heq
  · cases h

def isTailMark (c : Char) : Bool := c == '?' || c == '#'

theorem not_isSchemeChar_of_isTailMark (h : isTailMark c = true) : isSchemeChar c = false := by
  rw [isTailMark, Bool.or_eq_true, beq_iff_eq, beq_iff_eq] at h
  rcases h with rfl | rfl <;> decide

def hasTail (s : List Char) : Bool := (splitTail s).2.1.isSome || (splitTail s).2.2.isSome

theorem splitTail_eq (s : List Char) :
    splitTail s = ((cut '?' (cut '#' s).1).1, (cut '?' (cut '#' s).1).2, (cut '#' s).2) := rfl

theorem isSome_cut (mark : Char) (s : List Char) : (cut mark s).2.isSome = s.any (· == mark) := by
  obtain ⟨front, rest, rfl, hfront, hrest⟩ := run_exists (· != mark) s
  have hnone : front.any (· == mark) = false := by
    rw [List.any_eq_false]
    intro c hc
    simpa using hfront c hc
  rw [cut, dropWhile_append_of_stops hfront hrest, List.any_append, hnone, Bool.false_or]
  cases rest with
  | nil => rfl
  | cons c rest =>
      have hc : (c == mark) = true := by simpa using stops_cons.1 hrest
      rw [List.any_cons, hc]
      rfl

theorem splitTail_fst (s : List Char) : (splitTail s).1 = s.takeWhile (!isTailMark ·) := by
  rw [splitTail_eq]
  dsimp only
  rw [cut_fst, cut_fst, List.takeWhile_takeWhile]
  congr 1
  funext c
  rw [isTailMark, Bool.not_or, Bool.decide_and, Bool.decide_eq_true, Bool.decide_eq_true]
  rfl

theorem hasTail_eq (s : List Char) : hasTail s = s.any isTailMark := by
  rw [hasTail, splitTail_eq]
  dsimp only
  rw [isSome_cut, isSome_cut, cut_fst]
  induction s with
  | nil => rfl
  | cons c s ih =>
      rw [List.takeWhile_cons, List.any_cons, List.any_cons, ← ih]
      by_cases hc : c = '#'
      · subst hc
        rfl
      · have hne : (c != '#') = true := bne_iff_ne.2 hc
        have heq : (c == '#') = false := beq_false_of_ne hc
        rw [if_pos hne, List.any_cons, isTailMark, heq, Bool.false_or, Bool.or_false, Bool.or_assoc]

theorem parse_eq_ok_iff : parse text = .ok url ↔
    ∃ scheme rest place, splitScheme? (significant text) = some (scheme, rest) ∧
      readPlace scheme (hasTail rest) (splitTail rest).1 = .ok place ∧
      url = ⟨scheme, place.1, place.2, (splitTail rest).2.1.map (queryOf (.ofScheme scheme)),
        (splitTail rest).2.2.map fragmentOf⟩ := by
  rw [parse]
  cases hscheme : splitScheme? (significant text) with
  | none => exact ⟨nofun, nofun⟩
  | some p =>
      obtain ⟨scheme, rest⟩ := p
      dsimp only
      rw [← hasTail]
      cases hplace : readPlace scheme (hasTail rest) (splitTail rest).1 with
      | error e =>
          constructor
          · nofun
          · rintro ⟨_, _, place, heq, hread, -⟩
            cases heq
            cases hplace.symm.trans hread
      | ok place =>
          constructor
          · intro h
            cases h
            exact ⟨scheme, rest, place, rfl, hplace, rfl⟩
          · rintro ⟨_, _, place', heq, hread, rfl⟩
            cases heq
            cases hplace.symm.trans hread
            rfl

theorem exists_pathIn (h : parse text = .ok url) : ∃ s, PathIn url.kind s url.path := by
  obtain ⟨scheme, rest, place, -, hread, rfl⟩ := parse_eq_ok_iff.1 h
  exact ⟨_, pathIn_readPlace hread⟩

theorem any_isTailMark_rest (h : splitScheme? s = some (scheme, t)) :
    t.any isTailMark = s.any isTailMark := by
  obtain ⟨front, rfl, hfront⟩ := splitScheme?_eq_some h
  have hnone : front.any isTailMark = false := by
    rw [List.any_eq_false]
    intro c hc hmark
    exact Bool.eq_false_iff.1 (not_isSchemeChar_of_isTailMark hmark) (hfront c hc)
  rw [List.any_append, hnone, List.any_cons]
  rfl

theorem takeWhile_append_of_any {p : Char → Bool} (h : s.any p = true) (more : List Char) :
    (s ++ more).takeWhile (!p ·) = s.takeWhile (!p ·) := by
  obtain ⟨front, rest, rfl, hfront, hrest⟩ := run_exists (!p ·) s
  have hne : rest ≠ [] := by
    rintro rfl
    rw [List.append_nil] at h
    obtain ⟨c, hc, hp⟩ := List.any_eq_true.1 h
    have hnot := hfront c hc
    rw [hp] at hnot
    cases hnot
  rw [List.append_assoc, takeWhile_append_of_stops hfront ((stops_append_left hne).2 hrest),
    takeWhile_append_of_stops hfront hrest]

theorem parse_of_tail {more : List Char} (htext : significant text' = significant text ++ more)
    (htail : (significant text).any isTailMark = true) (h : parse text' = .ok base) :
    ∃ given, parse text = .ok given ∧ given.scheme = base.scheme ∧ given.path = base.path := by
  obtain ⟨scheme, rest', place, hscheme, hread, rfl⟩ := parse_eq_ok_iff.1 h
  have hne : (significant text).dropWhile isSchemeChar ≠ [] := by
    intro hnil
    obtain ⟨c, hc, hmark⟩ := List.any_eq_true.1 htail
    have hall := List.dropWhile_eq_nil_iff.1 hnil c hc
    exact Bool.eq_false_iff.1 (not_isSchemeChar_of_isTailMark hmark) hall
  rw [htext, splitScheme?_append hne] at hscheme
  obtain ⟨⟨_, rest⟩, hgiven, heq⟩ := Option.map_eq_some_iff.1 hscheme
  cases heq
  have hrest : rest.any isTailMark = true := (any_isTailMark_rest hgiven).trans htail
  have hmore : (rest ++ more).any isTailMark = true := by
    rw [List.any_append, hrest]
    rfl
  rw [hasTail_eq, hmore, splitTail_fst, takeWhile_append_of_any hrest] at hread
  refine ⟨_, parse_eq_ok_iff.2 ⟨_, rest, place, hgiven, ?_, rfl⟩, rfl, rfl⟩
  rw [hasTail_eq, hrest, splitTail_fst]
  exact hread

theorem splitTail_of_any_eq_false (h : s.any isTailMark = false) :
    (splitTail s).1 = s ∧ hasTail s = false := by
  refine ⟨?_, by rw [hasTail_eq, h]⟩
  rw [splitTail_fst, List.takeWhile_eq_self_iff]
  intro c hc
  rw [Bool.eq_false_iff.2 (List.any_eq_false.1 h c hc)]
  rfl

theorem parse_of_slash (htext : significant text' = significant text ++ ['/'])
    (htail : (significant text).any isTailMark = false) (h : parse text' = .ok base)
    (hopen : Stops base.kind.isSlash (significant text).reverse)
    (hsegments : ∀ text, base.path ≠ .flat text) :
    ∃ given, parse text = .ok given ∧ given.scheme = base.scheme ∧
      Closes given.path base.path := by
  obtain ⟨scheme, rest', place', hscheme, hread, rfl⟩ := parse_eq_ok_iff.1 h
  rw [htext] at hscheme
  rw [splitScheme?_slash (by rw [hscheme]; rfl)] at hscheme
  obtain ⟨⟨_, rest⟩, hgiven, heq⟩ := Option.map_eq_some_iff.1 hscheme
  cases heq
  have hrest : rest.any isTailMark = false := (any_isTailMark_rest hgiven).trans htail
  have hslash : (rest ++ ['/']).any isTailMark = false := by
    rw [List.any_append, hrest]
    rfl
  obtain ⟨hplace, hnone⟩ := splitTail_of_any_eq_false hrest
  obtain ⟨hplace', hnone'⟩ := splitTail_of_any_eq_false hslash
  rw [hplace', hnone'] at hread
  obtain ⟨place, hread, hcloses⟩ := readPlace_slash
    (stops_reverse_of_suffix (splitScheme?_suffix hgiven) hopen) hread hsegments
  refine ⟨_, parse_eq_ok_iff.2 ⟨_, rest, place, hgiven, ?_, rfl⟩, rfl, hcloses⟩
  rw [hplace, hnone]
  exact hread

theorem getLast?_of_slash (h : parse text = .ok url)
    (hlast : Stops (· != '/') (significant text).reverse)
    (htail : (significant text).any isTailMark = false) (hpath : url.path = .segments items) :
    items = [] ∨ items.getLast? = some "" := by
  obtain ⟨scheme, rest, place, hscheme, hread, rfl⟩ := parse_eq_ok_iff.1 h
  have hrest : rest.any isTailMark = false := (any_isTailMark_rest hscheme).trans htail
  rw [(splitTail_of_any_eq_false hrest).1] at hread
  have hin := pathIn_readPlace hread
  dsimp only at hpath
  rw [hpath] at hin
  exact hin.at_slash (stops_reverse_of_suffix (splitScheme?_suffix hscheme) hlast)

end NotionSchema.Url
