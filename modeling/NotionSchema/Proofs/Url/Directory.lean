import NotionSchema.Proofs.Url.Segments

namespace NotionSchema.Url

open Text

variable {kind : SchemeKind} {scheme : String} {c : Char}
  {s t : List Char} {items path : List String} {host : Host} {authority : Option Authority}

def closed (items : List String) : List String :=
  if items.getLast? = some "" then items else items ++ [""]

theorem closed_concat_empty (items : List String) : closed (items ++ [""]) = items ++ [""] := by
  rw [closed, List.getLast?_concat, if_pos rfl]

theorem closed_concat {segment : String} (h : segment ≠ "") (items : List String) :
    closed (items ++ [segment]) = items ++ [segment, ""] := by
  rw [closed, List.getLast?_concat, if_neg fun he => h (Option.some.inj he), List.append_assoc]
  rfl

theorem closed_cons_cons (first second : String) (items : List String) :
    closed (first :: second :: items) = first :: closed (second :: items) := by
  rw [closed, closed, List.getLast?_cons_cons]
  split_ifs <;> rfl

theorem isSlash_slash (kind : SchemeKind) : kind.isSlash '/' = true := by
  cases kind <;> decide

theorem splitPath_cons (kind : SchemeKind) (c : Char) (s : List Char) :
    splitPath kind (c :: s) =
      if kind.isSlash c then [] :: splitPath kind s
      else (splitPath kind s).modifyHead (c :: ·) :=
  List.splitOnP_cons_eq_if_modifyHead _ _

theorem splitPath_ne_nil (kind : SchemeKind) (s : List Char) : splitPath kind s ≠ [] :=
  List.splitOnP_ne_nil _ _

theorem modifyHead_append {α : Type} {f : α → α} {l : List α} (hne : l ≠ []) (l' : List α) :
    (l ++ l').modifyHead f = l.modifyHead f ++ l' := by
  cases l with
  | nil => exact absurd rfl hne
  | cons a l => rfl

theorem splitPath_concat_slash (kind : SchemeKind) (s : List Char) :
    splitPath kind (s ++ ['/']) = splitPath kind s ++ [[]] := by
  induction s with
  | nil => rw [List.nil_append, splitPath_cons, if_pos (isSlash_slash kind)]; rfl
  | cons c s ih =>
      rw [List.cons_append, splitPath_cons, splitPath_cons, ih,
        modifyHead_append (splitPath_ne_nil kind s)]
      split_ifs <;> rfl

theorem splitPath_concat (hc : kind.isSlash c = false) (s : List Char) :
    ∃ raws raw, splitPath kind (s ++ [c]) = raws ++ [raw ++ [c]] := by
  induction s with
  | nil => exact ⟨[], [], by rw [List.nil_append, splitPath_cons, hc]; rfl⟩
  | cons d s ih =>
      obtain ⟨raws, raw, hsplit⟩ := ih
      rw [List.cons_append, splitPath_cons, hsplit]
      split_ifs
      · exact ⟨[] :: raws, raw, rfl⟩
      · cases raws with
        | nil => exact ⟨[], d :: raw, rfl⟩
        | cons first raws => exact ⟨(d :: first) :: raws, raw, rfl⟩

theorem addSegments_concat (kind : SchemeKind) (path : List String) (raws : List (List Char))
    (raw : List Char) : addSegments kind path (raws ++ [raw]) =
      addSegment kind true (raws.foldl (addSegment kind false) path) raw := by
  induction raws generalizing path with
  | nil => rfl
  | cons first raws ih =>
      rw [List.cons_append, addSegments]
      · exact ih _
      · exact List.append_ne_nil_of_right_ne_nil _ (List.cons_ne_nil _ _)

theorem addSegment_nil (kind : SchemeKind) (last : Bool) (path : List String) :
    addSegment kind last path [] = path ++ [""] := by
  cases kind <;> rfl

theorem segmentText_ne_empty (hne : s ≠ []) : segmentText kind s ≠ "" := by
  intro h
  have hnil := encode_eq_nil_iff.1 (String.ofList_injective (h.trans String.ofList_nil.symm))
  split_ifs at hnil with hkind
  · match s with
    | [] => exact hne rfl
    | [_] => exact absurd hnil (by simp [plainDrive])
    | [c, d] => simp only [plainDrive] at hnil; split_ifs at hnil
    | _ :: _ :: _ :: _ => exact absurd hnil (by simp [plainDrive])
  · exact hne hnil

theorem closed_addSegment (hne : s ≠ []) (path : List String) :
    closed (addSegment kind true path s) = addSegment kind false path s ++ [""] := by
  rw [addSegment, addSegment]
  cases isDoubleDot s with
  | true => simpa using closed_concat_empty (shorten path)
  | false =>
      cases isSingleDot s with
      | true => simpa using closed_concat_empty path
      | false => simpa using closed_concat (segmentText_ne_empty hne) path

theorem addSegments_slash (hc : kind.isSlash c = false) (path : List String) (s : List Char) :
    addSegments kind path (splitPath kind (s ++ [c] ++ ['/'])) =
      closed (addSegments kind path (splitPath kind (s ++ [c]))) := by
  obtain ⟨raws, raw, hsplit⟩ := splitPath_concat hc s
  rw [splitPath_concat_slash, hsplit, addSegments_concat, addSegments_concat, addSegment_nil,
    List.foldl_concat,
    closed_addSegment (List.append_ne_nil_of_right_ne_nil _ (List.cons_ne_nil _ _))]

theorem addSegments_at_slash (h : Stops (· != '/') s.reverse) (kind : SchemeKind)
    (path : List String) :
    (addSegments kind path (splitPath kind s)).getLast? = some "" := by
  rcases List.eq_nil_or_concat' s with rfl | ⟨s, c, rfl⟩
  · change (addSegment kind true path []).getLast? = some ""
    rw [addSegment_nil, List.getLast?_concat]
  · have hc := stops_reverse_concat.1 h
    obtain rfl : c = '/' := by simpa using hc
    rw [splitPath_concat_slash, addSegments_concat, addSegment_nil, List.getLast?_concat]

theorem getLast?_closed (items : List String) : (closed items).getLast? = some "" := by
  rw [closed]
  split_ifs with h
  · exact h
  · exact List.getLast?_concat

theorem closed_eq_self (h : items.getLast? = some "") : closed items = items := if_pos h

theorem trimPath_cons (first second : String) (items : List String) :
    trimPath (first :: second :: items) =
      if first = "" then trimPath (second :: items) else first :: second :: items := by
  split_ifs with h
  · subst h
    rfl
  · rw [trimPath]
    intro second items he
    exact h (List.head_eq_of_cons_eq he)

theorem trimPath_singleton (first : String) : trimPath [first] = [first] := by
  rw [trimPath]
  nofun

theorem exists_closed_cons (first : String) (items : List String) :
    ∃ rest, closed (first :: items) = first :: rest := by
  rw [closed]
  split_ifs
  · exact ⟨items, rfl⟩
  · exact ⟨items ++ [""], rfl⟩

theorem trimPath_closed (items : List String) :
    trimPath (closed items) = closed (trimPath items) := by
  induction items with
  | nil => rfl
  | cons first items ih =>
      cases items with
      | nil =>
          by_cases hfirst : first = ""
          · subst hfirst
            rfl
          · have hclosed := closed_concat hfirst []
            rw [List.nil_append] at hclosed
            rw [trimPath_singleton, hclosed, List.nil_append, trimPath_cons, if_neg hfirst]
      | cons second items =>
          obtain ⟨rest, hrest⟩ := exists_closed_cons second items
          rw [closed_cons_cons, hrest, trimPath_cons, trimPath_cons, ← hrest, ih]
          split_ifs
          · rfl
          · rw [closed_cons_cons]

theorem trimPath_suffix (items : List String) : trimPath items <:+ items := by
  induction items with
  | nil => exact List.suffix_refl []
  | cons first items ih =>
      cases items with
      | nil => exact ⟨[], trimPath_singleton first⟩
      | cons second items =>
          rw [trimPath_cons]
          split_ifs
          · exact ih.trans (List.suffix_cons _ _)
          · exact List.suffix_refl _

theorem takeWhile_slash (kind : SchemeKind) (s : List Char) :
    (s ++ ['/']).takeWhile (!kind.isSlash ·) = s.takeWhile (!kind.isSlash ·) := by
  induction s with
  | nil => rw [List.nil_append, List.takeWhile_cons, isSlash_slash]; rfl
  | cons c s ih => rw [List.cons_append, List.takeWhile_cons, List.takeWhile_cons, ih]

theorem dropWhile_slash (kind : SchemeKind) (s : List Char) :
    (s ++ ['/']).dropWhile (!kind.isSlash ·) = s.dropWhile (!kind.isSlash ·) ++ ['/'] := by
  induction s with
  | nil => rw [List.nil_append, List.dropWhile_cons, isSlash_slash]; rfl
  | cons c s ih =>
      rw [List.cons_append, List.dropWhile_cons, List.dropWhile_cons, ih]
      split_ifs <;> rfl

/-- The path of an address, and the one with a slash at its end. -/
inductive Closes : UrlPath → UrlPath → Prop
  | segments (items : List String) : Closes (.segments items) (.segments (closed items))
  | empty : Closes (.flat "") (.segments [""])

theorem filePlace_slash (host : Host) (h : Stops SchemeKind.file.isSlash s.reverse) :
    Closes (filePlace host s).2 (filePlace host (s ++ ['/'])).2 := by
  have hpath : trimPath (addSegments .file [] (splitPath .file (s ++ ['/']))) =
      closed (trimPath (addSegments .file [] (splitPath .file s))) := by
    by_cases hne : s = []
    · subst hne
      rfl
    · obtain ⟨t, c, rfl, hc⟩ := exists_concat hne h
      rw [addSegments_slash hc, trimPath_closed]
  rw [filePlace, filePlace, hpath]
  exact .segments _

theorem readFile_cons_cons (a b : Char) (rest : List Char) :
    readFile (a :: b :: rest) =
      if SchemeKind.file.isSlash a && SchemeKind.file.isSlash b then
        if isDrive (rest.takeWhile (!SchemeKind.file.isSlash ·)) then .ok (filePlace (.name "") rest)
        else (fileHost (rest.takeWhile (!SchemeKind.file.isSlash ·))).map
          (filePlace · (rest.dropWhile (!SchemeKind.file.isSlash ·)))
      else .ok (filePlace (.name "") (a :: b :: rest)) := by
  rw [readFile]
  dsimp only
  split_ifs
  · rfl
  · cases fileHost (rest.takeWhile (!SchemeKind.file.isSlash ·)) <;> rfl
  · rfl

theorem readFile_slash {place' : Place} (h : Stops SchemeKind.file.isSlash s.reverse)
    (hread : readFile (s ++ ['/']) = .ok place') :
    ∃ place, readFile s = .ok place ∧ Closes place.2 place'.2 := by
  match s with
  | [] =>
      cases hread
      exact ⟨_, rfl, filePlace_slash (.name "") h⟩
  | [c] =>
      have hc : SchemeKind.file.isSlash c = false := stops_cons.1 h
      rw [List.singleton_append, readFile_cons_cons, hc] at hread
      cases hread
      exact ⟨_, rfl, filePlace_slash (.name "") h⟩
  | a :: b :: rest =>
      have hrest : rest <:+ a :: b :: rest := (List.suffix_cons b rest).trans (List.suffix_cons a _)
      rw [List.cons_append, List.cons_append, readFile_cons_cons, takeWhile_slash,
        dropWhile_slash] at hread
      rw [readFile_cons_cons]
      split_ifs at hread ⊢ with hslashes hdrive
      · cases hread
        exact ⟨_, rfl, filePlace_slash _ (stops_reverse_of_suffix hrest h)⟩
      · cases hhost : fileHost (rest.takeWhile (!SchemeKind.file.isSlash ·)) with
        | error e => rw [hhost] at hread; cases hread
        | ok host =>
            rw [hhost] at hread
            cases hread
            have hbelow := (List.dropWhile_suffix (!SchemeKind.file.isSlash ·)).trans hrest
            exact ⟨_, rfl, filePlace_slash host (stops_reverse_of_suffix hbelow h)⟩
      · cases hread
        exact ⟨_, rfl, filePlace_slash _ h⟩

def belowAuthority (kind : SchemeKind) (s : List Char) : List Char :=
  let extra := (splitPort kind (s.takeWhile (!kind.isSlash ·))).2
  let rest := s.dropWhile (!kind.isSlash ·)
  if extra.isEmpty then rest else '/' :: extra ++ rest

theorem readWithAuthority_eq_ok_iff {more : Bool} {place : Place} :
    readWithAuthority scheme more s = .ok place ↔
      ∃ a, readAuthority scheme (more || !(belowAuthority (.ofScheme scheme) s).isEmpty)
        (splitPort (.ofScheme scheme)
          (s.takeWhile (!(SchemeKind.ofScheme scheme).isSlash ·))).1 = .ok a ∧
        place = (some a, .segments (pathAfterAuthority (.ofScheme scheme)
          (belowAuthority (.ofScheme scheme) s))) := by
  rw [readWithAuthority]
  dsimp only
  rw [← belowAuthority]
  cases readAuthority scheme (more || !(belowAuthority (.ofScheme scheme) s).isEmpty)
    (splitPort (.ofScheme scheme)
      (s.takeWhile (!(SchemeKind.ofScheme scheme).isSlash ·))).1 with
  | error e => exact ⟨nofun, nofun⟩
  | ok a =>
      constructor
      · intro h
        cases h
        exact ⟨a, rfl, rfl⟩
      · rintro ⟨_, ha, rfl⟩
        cases ha
        rfl

theorem belowAuthority_slash (kind : SchemeKind) (s : List Char) :
    belowAuthority kind (s ++ ['/']) = belowAuthority kind s ++ ['/'] := by
  rw [belowAuthority, belowAuthority, takeWhile_slash, dropWhile_slash]
  split_ifs
  · rfl
  · simp only [List.cons_append, List.append_assoc]

theorem readAuthority_of_more {a : Authority} (h : readAuthority scheme true s = .ok a)
    (more : Bool) : readAuthority scheme more s = .ok a := by
  cases more with
  | true => exact h
  | false =>
      rw [readAuthority] at h ⊢
      dsimp only at h ⊢
      cases huser : decide ((cutLast '@' s).1 = some []) && (cutLast '@' s).2.isEmpty with
      | true =>
          rw [huser] at h
          cases h
      | false =>
          rw [huser] at h
          exact h

theorem readAuthority_nil (h : SchemeKind.ofScheme scheme ≠ .plain) (more : Bool) :
    readAuthority scheme more [] = .error .emptyHost := by
  have hhost : readHost (.ofScheme scheme) [] = .error .emptyHost := by
    rw [readHost, if_neg h]
    rfl
  have hempty : (splitHost false (cutLast '@' []).2).1 = [] := rfl
  rw [readAuthority]
  dsimp only
  rw [if_neg (by cases more <;> decide), hempty, hhost]
  rfl

theorem cut_fst (mark : Char) (s : List Char) : (cut mark s).1 = s.takeWhile (· != mark) := by
  rw [cut]
  split
  · next hdrop =>
      have happend := List.takeWhile_append_dropWhile (p := (· != mark)) (l := s)
      rw [hdrop, List.append_nil] at happend
      exact happend.symm
  · rfl

theorem cutLast_suffix (mark : Char) (s : List Char) : (cutLast mark s).2 <:+ s := by
  have hsnd : (cutLast mark s).2 = (cut mark s.reverse).1.reverse := by
    rw [cutLast]
    split <;> next hcut => rw [hcut]
  rw [hsnd, cut_fst, ← List.reverse_prefix, List.reverse_reverse]
  exact List.takeWhile_prefix _

theorem splitHost_suffix {bracketed : Bool} (h : (splitHost bracketed s).2 = some t) : t <:+ s := by
  induction s generalizing bracketed with
  | nil => cases h
  | cons c s ih =>
      rw [splitHost] at h
      split_ifs at h
      · exact Option.some.inj h ▸ List.suffix_cons c s
      all_goals exact (ih h).trans (List.suffix_cons c s)

theorem splitPort_suffix (kind : SchemeKind) (s : List Char) : (splitPort kind s).2 <:+ s := by
  rw [splitPort]
  split_ifs
  · split
    · next port hport =>
        have hhost : (splitHost false (cutLast '@' s).2).2 = some port := by rw [hport]
        exact ((List.dropWhile_suffix _).trans (splitHost_suffix hhost)).trans (cutLast_suffix _ s)
    · exact List.nil_suffix
  · exact List.nil_suffix

theorem belowAuthority_head (kind : SchemeKind) (s : List Char) :
    ∀ c ∈ (belowAuthority kind s).head?, kind.isSlash c = true := by
  intro c hc
  rw [belowAuthority] at hc
  split_ifs at hc
  · have hstop := stops_dropWhile (!kind.isSlash ·) s c hc
    simpa using hstop
  · obtain rfl : '/' = c := Option.some.inj hc
    exact isSlash_slash kind

theorem belowAuthority_open (h : Stops kind.isSlash s.reverse) :
    Stops kind.isSlash (belowAuthority kind s).reverse := by
  have hrest := stops_reverse_of_suffix (List.dropWhile_suffix (!kind.isSlash ·)) h
  rw [belowAuthority]
  split_ifs with hextra
  · exact hrest
  · have hport := splitPort_suffix kind (s.takeWhile (!kind.isSlash ·))
    have hall : Stops kind.isSlash (s.takeWhile (!kind.isSlash ·)).reverse := by
      intro c hc
      have hmem := List.mem_reverse.1 (List.mem_of_mem_head? hc)
      simpa using List.mem_takeWhile_imp hmem
    by_cases hne : s.dropWhile (!kind.isSlash ·) = []
    · rw [hne, List.append_nil]
      refine stops_reverse_append_of_ne_nil (a := ['/']) ?_ (stops_reverse_of_suffix hport hall)
      exact fun hnil => hextra (List.isEmpty_iff.2 hnil)
    · exact stops_reverse_append_of_ne_nil hne hrest

theorem pathAfterAuthority_slash (hfirst : ∀ c ∈ s.head?, kind.isSlash c = true)
    (hlast : Stops kind.isSlash s.reverse) :
    pathAfterAuthority kind (s ++ ['/']) = closed (pathAfterAuthority kind s) := by
  cases s with
  | nil => cases kind <;> rfl
  | cons c s =>
      have hne : s ≠ [] := by
        rintro rfl
        have hopen : kind.isSlash c = false := stops_cons.1 hlast
        rw [hfirst c rfl] at hopen
        cases hopen
      obtain ⟨t, d, rfl, hd⟩ :=
        exists_concat hne (stops_reverse_of_suffix (List.suffix_cons c s) hlast)
      exact addSegments_slash hd [] t

theorem readWithAuthority_nil (h : SchemeKind.ofScheme scheme ≠ .plain) (more : Bool)
    (place : Place) : readWithAuthority scheme more [] ≠ .ok place := by
  rw [ne_eq, readWithAuthority_eq_ok_iff]
  rintro ⟨a, ha, -⟩
  rw [List.takeWhile_nil, splitPort, if_neg h, readAuthority_nil h] at ha
  cases ha

theorem readWithAuthority_slash {place' : Place}
    (h : Stops (SchemeKind.ofScheme scheme).isSlash s.reverse)
    (hread : readWithAuthority scheme false (s ++ ['/']) = .ok place') :
    ∃ place, readWithAuthority scheme false s = .ok place ∧ Closes place.2 place'.2 := by
  obtain ⟨a, ha, rfl⟩ := readWithAuthority_eq_ok_iff.1 hread
  have hmore : (false || !(belowAuthority (.ofScheme scheme) s ++ ['/']).isEmpty) = true := by
    cases belowAuthority (.ofScheme scheme) s <;> rfl
  rw [takeWhile_slash, belowAuthority_slash, hmore] at ha
  refine ⟨_, readWithAuthority_eq_ok_iff.2 ⟨a, readAuthority_of_more ha _, rfl⟩, ?_⟩
  dsimp only
  rw [belowAuthority_slash,
    pathAfterAuthority_slash (belowAuthority_head _ s) (belowAuthority_open h)]
  exact .segments _

theorem readPlace_file (hkind : SchemeKind.ofScheme scheme = .file) (more : Bool)
    (s : List Char) : readPlace scheme more s = readFile s := by
  unfold readPlace
  rw [hkind]

theorem readPlace_special (hkind : SchemeKind.ofScheme scheme = .special) (more : Bool)
    (s : List Char) :
    readPlace scheme more s =
      readWithAuthority scheme more (s.dropWhile SchemeKind.special.isSlash) := by
  unfold readPlace
  rw [hkind]

section Plain

variable (hkind : SchemeKind.ofScheme scheme = .plain) (more : Bool)

include hkind

theorem readPlace_two_slashes (s : List Char) :
    readPlace scheme more ('/' :: '/' :: s) = readWithAuthority scheme more s := by
  unfold readPlace
  rw [hkind]
  rfl

theorem readPlace_one_slash (h : Stops (· == '/') s) :
    readPlace scheme more ('/' :: s) =
      .ok (none, .segments (addSegments .plain [] (splitPath .plain s))) := by
  unfold readPlace
  rw [hkind]
  dsimp only
  split
  · next heq =>
      cases List.tail_eq_of_cons_eq heq
      exact absurd (stops_cons.1 h) (by decide)
  · next heq =>
      cases List.tail_eq_of_cons_eq heq
      rfl
  · next hslash => exact absurd rfl (hslash s)

theorem readPlace_no_slash (h : Stops (· == '/') s) :
    readPlace scheme more s = .ok (none, .flat (String.ofList (encode isControl s))) := by
  unfold readPlace
  rw [hkind]
  dsimp only
  split
  · exact absurd (stops_cons.1 h) (by decide)
  · exact absurd (stops_cons.1 h) (by decide)
  · rfl

end Plain

theorem stops_slash_cases (s : List Char) :
    Stops (· == '/') s ∨ ∃ t, s = '/' :: t := by
  cases s with
  | nil => exact .inl stops_nil
  | cons c s =>
      by_cases hc : c = '/'
      · exact .inr ⟨s, by rw [hc]⟩
      · exact .inl (stops_cons.2 (beq_false_of_ne hc))

theorem readPlace_slash {place' : Place}
    (h : Stops (SchemeKind.ofScheme scheme).isSlash s.reverse)
    (hread : readPlace scheme false (s ++ ['/']) = .ok place')
    (hsegments : ∀ text, place'.2 ≠ .flat text) :
    ∃ place, readPlace scheme false s = .ok place ∧ Closes place.2 place'.2 := by
  cases hkind : SchemeKind.ofScheme scheme with
  | file =>
      rw [readPlace_file hkind] at hread ⊢
      rw [hkind] at h
      exact readFile_slash h hread
  | special =>
      rw [readPlace_special hkind] at hread ⊢
      have hrest := stops_reverse_of_suffix (List.dropWhile_suffix SchemeKind.special.isSlash) h
      rw [List.dropWhile_append] at hread
      split_ifs at hread with hempty
      · have hnil : ['/'].dropWhile SchemeKind.special.isSlash = [] := rfl
        rw [hnil] at hread
        exact absurd hread (readWithAuthority_nil (by rw [hkind]; decide) false place')
      · exact readWithAuthority_slash hrest hread
  | plain =>
      -- The path is flat, follows one slash, or follows an authority after two.
      rcases stops_slash_cases s with hs | ⟨t, rfl⟩
      · cases s with
        | nil =>
            have hone := readPlace_one_slash hkind false (s := []) stops_nil
            cases hone.symm.trans hread
            exact ⟨_, readPlace_no_slash hkind false stops_nil, .empty⟩
        | cons c s =>
            have hflat := readPlace_no_slash hkind false (s := c :: s ++ ['/'])
              ((stops_append_left (List.cons_ne_nil c s)).2 hs)
            cases hflat.symm.trans hread
            exact absurd rfl (hsegments _)
      · have ht := stops_reverse_of_suffix (List.suffix_cons '/' t) h
        rcases stops_slash_cases t with hs | ⟨rest, rfl⟩
        · have hne : t ≠ [] := by
            rintro rfl
            have hopen : (SchemeKind.ofScheme scheme).isSlash '/' = false := stops_cons.1 h
            rw [isSlash_slash] at hopen
            cases hopen
          obtain ⟨u, c, rfl, hc⟩ := exists_concat hne ht
          have hone := readPlace_one_slash hkind false (s := u ++ [c] ++ ['/'])
            ((stops_append_left hne).2 hs)
          cases hone.symm.trans hread
          refine ⟨_, readPlace_one_slash hkind false hs, ?_⟩
          dsimp only
          rw [hkind] at hc
          rw [addSegments_slash hc]
          exact .segments _
        · rw [List.cons_append, List.cons_append, readPlace_two_slashes hkind] at hread
          rw [readPlace_two_slashes hkind]
          exact readWithAuthority_slash
            (stops_reverse_of_suffix (List.suffix_cons '/' rest) ht) hread

inductive PathIn (kind : SchemeKind) (s : List Char) : UrlPath → Prop
  | flat (hkind : kind = .plain) (text : String) : PathIn kind s (.flat text)
  | file {t : List Char} (ht : t <:+ s) :
      PathIn kind s (.segments (trimPath (addSegments kind [] (splitPath kind t))))
  | below {t : List Char} (ht : t <:+ s) :
      PathIn kind s (.segments (pathAfterAuthority kind (belowAuthority kind t)))
  | rooted {t : List Char} (ht : t <:+ s) :
      PathIn kind s (.segments (addSegments kind [] (splitPath kind t)))

theorem pathIn_readFile {place : Place} (hread : readFile s = .ok place) :
    PathIn .file s place.2 := by
  match s with
  | [] =>
      cases hread
      exact .file (List.suffix_refl _)
  | [c] =>
      cases hread
      exact .file (List.suffix_refl _)
  | a :: b :: rest =>
      have hrest : rest <:+ a :: b :: rest := (List.suffix_cons b rest).trans (List.suffix_cons a _)
      rw [readFile_cons_cons] at hread
      split_ifs at hread with hslashes hdrive
      · cases hread
        exact .file hrest
      · cases hhost : fileHost (rest.takeWhile (!SchemeKind.file.isSlash ·)) with
        | error e => rw [hhost] at hread; cases hread
        | ok host =>
            rw [hhost] at hread
            cases hread
            exact .file ((List.dropWhile_suffix (!SchemeKind.file.isSlash ·)).trans hrest)
      · cases hread
        exact .file (List.suffix_refl _)

theorem pathIn_readWithAuthority {place : Place} {more : Bool} (ht : t <:+ s)
    (hread : readWithAuthority scheme more t = .ok place) :
    PathIn (.ofScheme scheme) s place.2 := by
  obtain ⟨a, -, rfl⟩ := readWithAuthority_eq_ok_iff.1 hread
  exact .below ht

theorem pathIn_readPlace {place : Place} {more : Bool}
    (hread : readPlace scheme more s = .ok place) : PathIn (.ofScheme scheme) s place.2 := by
  cases hkind : SchemeKind.ofScheme scheme with
  | file =>
      rw [readPlace_file hkind] at hread
      exact pathIn_readFile hread
  | special =>
      rw [readPlace_special hkind] at hread
      rw [← hkind]
      exact pathIn_readWithAuthority (List.dropWhile_suffix _) hread
  | plain =>
      rcases stops_slash_cases s with hs | ⟨t, rfl⟩
      · cases (readPlace_no_slash hkind more hs).symm.trans hread
        exact .flat rfl _
      · have ht : t <:+ '/' :: t := List.suffix_cons '/' t
        rcases stops_slash_cases t with hs | ⟨rest, rfl⟩
        · cases (readPlace_one_slash hkind more hs).symm.trans hread
          exact .rooted ht
        · rw [readPlace_two_slashes hkind] at hread
          rw [← hkind]
          exact pathIn_readWithAuthority ((List.suffix_cons '/' rest).trans ht) hread

theorem belowAuthority_at_slash (h : Stops (· != '/') s.reverse) (kind : SchemeKind) :
    Stops (· != '/') (belowAuthority kind s).reverse := by
  have hrest := stops_reverse_of_suffix (List.dropWhile_suffix (!kind.isSlash ·)) h
  rw [belowAuthority]
  split_ifs with hextra
  · exact hrest
  · refine stops_reverse_append_of_ne_nil ?_ hrest
    intro hnil
    -- Without a slash, the text is empty, and so is its port.
    have hall := List.dropWhile_eq_nil_iff.1 hnil
    have hempty : s = [] := by
      rcases List.eq_nil_or_concat' s with hs | ⟨t, c, rfl⟩
      · exact hs
      · have hc := stops_reverse_concat.1 h
        obtain rfl : c = '/' := by simpa using hc
        have hslash := hall '/' (List.mem_append_right _ List.mem_cons_self)
        rw [isSlash_slash] at hslash
        cases hslash
    subst hempty
    have hport := splitPort_suffix kind []
    rw [List.takeWhile_nil, List.suffix_nil.1 hport] at hextra
    exact hextra rfl

namespace PathIn

theorem segments_of_ne_plain {path : UrlPath} (h : PathIn kind s path) (hkind : kind ≠ .plain) :
    ∃ items, path = .segments items := by
  cases h with
  | flat hplain => exact absurd hplain hkind
  | file | below | rooted => exact ⟨_, rfl⟩

theorem at_slash (h : PathIn kind s (.segments items)) (hs : Stops (· != '/') s.reverse) :
    items = [] ∨ items.getLast? = some "" := by
  cases h with
  | file ht =>
      have hclosed := addSegments_at_slash (stops_reverse_of_suffix ht hs) kind []
      rw [← closed_eq_self hclosed, trimPath_closed]
      exact .inr (getLast?_closed _)
  | @below t ht =>
      have hbelow := belowAuthority_at_slash (stops_reverse_of_suffix ht hs) kind
      cases hrest : belowAuthority kind t with
      | nil => cases kind <;> simp [pathAfterAuthority]
      | cons c rest =>
          rw [hrest] at hbelow
          exact .inr (addSegments_at_slash
            (stops_reverse_of_suffix (List.suffix_cons c rest) hbelow) kind [])
  | rooted ht => exact .inr (addSegments_at_slash (stops_reverse_of_suffix ht hs) kind [])

/-- All segments of a path that was read are empty or literal. -/
theorem literal (h : PathIn kind s (.segments items)) : LiteralAfter kind 0 items := by
  have hadd : ∀ t, LiteralAfter kind 0 (addSegments kind [] (splitPath kind t)) := fun t =>
    LiteralAfter.addSegments (fun _ hs => absurd hs List.not_mem_nil) (slash_of_mem_splitPath kind t)
  cases h with
  | @file t ht =>
      intro s hs
      exact hadd t s ((trimPath_suffix _).subset hs)
  | @below t ht =>
      cases hrest : belowAuthority kind t with
      | nil =>
        intro s hs
        refine .inl ?_
        rw [pathAfterAuthority] at hs
        split_ifs at hs
        · cases hs
        · exact List.mem_singleton.1 hs
      | cons c rest => exact hadd rest
  | @rooted t ht => exact hadd t

end PathIn

end NotionSchema.Url
