import NotionSchema.Proofs.Client.Resources
import NotionSchema.Proofs.Url.Appended

namespace NotionSchema

open Text Url

variable {value id : String} {kind : SchemeKind} {items : List String} {path path' : UrlPath}
  {base given : Url} {config config' : Configuration} {client : Client}

namespace Configuration

theorem directoryText_eq_self (h : value.toList.getLast? = some '/') :
    directoryText value = value := if_pos h

theorem directoryText_of_open (h : value.toList.getLast? ≠ some '/') :
    directoryText value = value ++ "/" := if_neg h

theorem getLast?_directoryText (value : String) :
    (directoryText value).toList.getLast? = some '/' := by
  by_cases h : value.toList.getLast? = some '/'
  · rw [directoryText_eq_self h, h]
  · rw [directoryText_of_open h, String.toList_append]
    exact List.getLast?_concat

theorem directoryText_idem (value : String) :
    directoryText (directoryText value) = directoryText value :=
  directoryText_eq_self (getLast?_directoryText value)

theorem length_le_directoryText (value : String) : value.length ≤ (directoryText value).length := by
  rw [directoryText]
  split_ifs
  · exact le_rfl
  · rw [String.length_append]
    exact Nat.le_add_right _ _

end Configuration

open NotionSchema.Configuration

theorem UrlPath.text_append (items more : List String) :
    (segments (items ++ more)).text = (segments items).text ++ (segments more).text := by
  rw [text, List.map_append, String.join_append]
  rfl

theorem UrlPath.text_concat (items : List String) (segment : String) :
    (segments (items ++ [segment])).text = (segments items).text ++ "/" ++ segment := by
  have hone : (segments [segment]).text = "/" ++ segment := by
    rw [text, List.map_singleton, String.join_cons]
    exact String.append_empty
  rw [text_append, hone, String.append_assoc]

/-- The path of a directory: nothing but a drive stands after its last slash. -/
def IsDirectory (kind : SchemeKind) (items : List String) : Prop :=
  items = [] ∨ items.getLast? = some "" ∨ kind = .file ∧ endsInDrive items = true

instance (kind : SchemeKind) (items : List String) : Decidable (IsDirectory kind items) :=
  inferInstanceAs (Decidable (_ ∨ _ ∨ _))

theorem endsInDrive_concat (items : List String) (segment : String) :
    endsInDrive (items ++ [segment]) = isDrive segment.toList := by
  rw [endsInDrive, List.getLast?_concat]
  rfl

theorem parentPath_drive (items : List String) {segment : String}
    (h : isDrive segment.toList = true) :
    parentPath .file (items ++ [segment]) = items ++ [segment] := by
  rw [parentPath, if_pos rfl, shorten, endsInDrive_concat, if_pos h]

theorem parentPath_concat (items : List String) {segment : String}
    (h : ¬ (kind = .file ∧ isDrive segment.toList = true)) :
    parentPath kind (items ++ [segment]) = items := by
  rw [parentPath, shorten, endsInDrive_concat, List.dropLast_concat]
  split_ifs with hkind hdrive
  · exact absurd ⟨hkind, hdrive⟩ h
  · rfl
  · rfl

theorem getLast?_drive {s : List Char} (h : isDrive s = true) : s.getLast? ≠ some '/' := by
  match s with
  | [c, mark] =>
      rw [isDrive, Bool.and_eq_true] at h
      intro hlast
      obtain rfl : mark = '/' := Option.some.inj hlast
      exact absurd h.2 (by decide)

theorem getLast?_text_concat (items : List String) {segment : String} (h : segment ≠ "") :
    (UrlPath.segments (items ++ [segment])).text.toList.getLast? = segment.toList.getLast? := by
  have hne : segment.toList ≠ [] := fun hnil => h (String.toList_eq_nil_iff.1 hnil)
  rw [UrlPath.text_concat, String.toList_append, List.getLast?_append_of_ne_nil _ hne]

theorem directoryText_eq_parent_iff (kind : SchemeKind) (items : List String) :
    directoryText (UrlPath.segments items).text =
      (UrlPath.segments (parentPath kind items)).text ++ "/" ↔ IsDirectory kind items := by
  rcases List.eq_nil_or_concat' items with rfl | ⟨dir, segment, rfl⟩
  · have hparent : parentPath kind [] = [] := by cases kind <;> rfl
    rw [hparent]
    exact iff_of_true (by decide) (.inl rfl)
  -- A drive is never taken away, so its path is its own parent.
  · by_cases hdrive : kind = .file ∧ isDrive segment.toList = true
    · obtain ⟨rfl, hdrive⟩ := hdrive
      have hne : segment ≠ "" := by
        rintro rfl
        cases hdrive
      rw [parentPath_drive dir hdrive, directoryText_of_open]
      · exact iff_of_true rfl (.inr (.inr ⟨rfl, (endsInDrive_concat dir segment).trans hdrive⟩))
      · rw [getLast?_text_concat dir hne]
        exact getLast?_drive hdrive
    · rw [parentPath_concat dir hdrive]
      by_cases hempty : segment = ""
      · subst hempty
        refine iff_of_true ?_ (.inr (.inl List.getLast?_concat))
        rw [UrlPath.text_concat, String.append_empty, directoryText_eq_self]
        rw [String.toList_append]
        exact List.getLast?_concat
      · refine iff_of_false ?_ ?_
        · intro heq
          have hlength := congrArg String.length heq
          have hle := length_le_directoryText (UrlPath.segments (dir ++ [segment])).text
          have hpos : 0 < segment.length := by
            rw [Nat.pos_iff_ne_zero, ne_eq, String.length_eq_zero_iff]
            exact hempty
          rw [UrlPath.text_concat, String.length_append] at hle
          rw [UrlPath.text_concat] at hlength
          omega
        · rintro (hnil | hlast | ⟨hkind, hends⟩)
          · exact absurd hnil (List.append_ne_nil_of_right_ne_nil _ (List.cons_ne_nil _ _))
          · rw [List.getLast?_concat] at hlast
            exact hempty (Option.some.inj hlast)
          · rw [endsInDrive_concat] at hends
            exact hdrive ⟨hkind, hends⟩

theorem text_of_closes (h : Closes path path')
    (hliteral : ∀ items, path = .segments items → LiteralAfter kind 0 items) :
    path'.text = directoryText path.text := by
  cases h with
  | empty => decide
  | segments items =>
      rcases List.eq_nil_or_concat' items with rfl | ⟨dir, segment, rfl⟩
      · decide
      · by_cases hempty : segment = ""
        · subst hempty
          rw [closed_concat_empty, directoryText_eq_self]
          rw [UrlPath.text_concat, String.append_empty, String.toList_append]
          exact List.getLast?_concat
        · have hsegment := (hliteral _ rfl segment
            (List.mem_append_right _ List.mem_cons_self)).resolve_left hempty
          rw [directoryText_of_open, closed_concat hempty]
          · have hpair := UrlPath.text_concat (dir ++ [segment]) ""
            rw [List.append_assoc, String.append_empty] at hpair
            exact hpair
          · rw [getLast?_text_concat dir hempty]
            intro hlast
            have hslash := hsegment.slash '/' (List.mem_of_mem_getLast? hlast)
            rw [isSlash_slash] at hslash
            cases hslash

def IsName (id : String) : Prop := ∀ c ∈ id.toList, isAlphanumeric c = true ∨ c = '-'

instance (id : String) : Decidable (IsName id) :=
  List.decidableBAll (fun c => isAlphanumeric c = true ∨ c = '-') id.toList

def isDelimiter (c : Char) : Bool :=
  isMark c || isOuterBlank c || ['/', '\\', '.', '%', ':', '|'].contains c

theorem toNat_lt_of_isDelimiter {c : Char} (h : isDelimiter c = true) : c.toNat < 0x80 := by
  rw [isDelimiter, Bool.or_eq_true, Bool.or_eq_true] at h
  rcases h with (hmark | hblank) | hlist
  · simp only [isMark, isBreak, Bool.or_eq_true, beq_iff_eq] at hmark
    rcases hmark with (((rfl | rfl) | rfl) | rfl) | rfl <;> decide
  · have hle : c.toNat ≤ 32 := of_decide_eq_true hblank
    omega
  · have hall : ∀ d ∈ ['/', '\\', '.', '%', ':', '|'], d.toNat < 0x80 := by
      simp only [List.forall_mem_cons, List.not_mem_nil, false_implies, implies_true, and_true]
      decide
    exact hall c (List.contains_iff_mem.1 hlist)

theorem isDelimiter_of_name {c : Char} (h : isAlphanumeric c = true ∨ c = '-')
    (hc : c.toNat < 0x80) : isDelimiter c = false ∧ inPathSet c = false := by
  refine forall_ascii (P := fun c => isAlphanumeric c = true ∨ c = '-' →
    isDelimiter c = false ∧ inPathSet c = false) ?_ hc h
  decide +kernel

theorem IsName.lacks (h : IsName id) : Lacks isDelimiter id.toList := by
  intro c hc
  rw [Bool.eq_false_iff]
  intro hdelimiter
  have hfree := (isDelimiter_of_name (h c hc) (toNat_lt_of_isDelimiter hdelimiter)).1
  rw [hdelimiter] at hfree
  cases hfree

section Delimiters

variable {s : List Char} (h : Lacks isDelimiter s)

include h

theorem isMark_of_lacks : Lacks isMark s := fun c hc => by
  have hfree := h c hc
  rw [isDelimiter, Bool.or_eq_false_iff, Bool.or_eq_false_iff] at hfree
  exact hfree.1.1

theorem isOuterBlank_of_lacks : Lacks isOuterBlank s := fun c hc => by
  have hfree := h c hc
  rw [isDelimiter, Bool.or_eq_false_iff, Bool.or_eq_false_iff] at hfree
  exact hfree.1.2

theorem notMem_of_lacks {c : Char} (hc : isDelimiter c = true) : c ∉ s := fun hmem => by
  rw [h c hmem] at hc
  cases hc

theorem isSlash_of_lacks (kind : SchemeKind) : Lacks kind.isSlash s := fun c hc => by
  have hslash : c ≠ '/' := fun he => notMem_of_lacks h (by decide) (he ▸ hc)
  have hback : c ≠ '\\' := fun he => notMem_of_lacks h (by decide) (he ▸ hc)
  rw [SchemeKind.isSlash, beq_false_of_ne hslash, beq_false_of_ne hback]
  rfl

/-- Without a dot and a percent sign there is no dot segment. -/
theorem notMem_dots_of_lacks (t : List Char) : ∀ a ∈ dots, s ≠ a ++ t := by
  rintro a ha rfl
  have hdot : '.' ∉ a := fun hmem => notMem_of_lacks h (by decide) (List.mem_append_left t hmem)
  have hpercent : '%' ∉ a :=
    fun hmem => notMem_of_lacks h (by decide) (List.mem_append_left t hmem)
  exact (by decide : ∀ a ∈ dots, '.' ∈ a ∨ '%' ∈ a) a ha |>.elim hdot hpercent

theorem addSegment_of_lacks (kind : SchemeKind) (last : Bool) (path : List String) :
    addSegment kind last path s = path ++ [String.ofList (encode inPathSet s)] := by
  have hsingle : isSingleDot s = false := by
    rw [Bool.eq_false_iff, ne_eq, isSingleDot_iff]
    exact fun hmem => notMem_dots_of_lacks h [] s hmem (List.append_nil s).symm
  have hdouble : isDoubleDot s = false := by
    rw [Bool.eq_false_iff, ne_eq, isDoubleDot_iff]
    rintro ⟨a, ha, b, -, hs⟩
    exact notMem_dots_of_lacks h b a ha hs
  have hdrive : isDrive s = false := by
    rw [Bool.eq_false_iff]
    intro hdrive
    obtain ⟨c, mark, rfl, -, -⟩ := exists_of_isDrive hdrive
    rw [isDrive, Bool.and_eq_true, Bool.or_eq_true, beq_iff_eq, beq_iff_eq] at hdrive
    rcases hdrive.2 with rfl | rfl
    · exact notMem_of_lacks h (c := ':') (by decide) (by simp)
    · exact notMem_of_lacks h (c := '|') (by decide) (by simp)
  have hnormal : normalPiece kind s = s := by
    rw [normalPiece, plainDrive_of_not_isDrive hdrive, ite_self]
  rw [addSegment, hdouble, hsingle, segmentText_eq, hnormal]
  rfl

theorem isReference_of_lacks : IsReference ("databases/".toList ++ s) where
  first := (stops_append_left (by decide)).2 (by decide)
  last := by
    by_cases hne : s = []
    · subst hne
      decide
    · refine stops_reverse_append_of_ne_nil hne ?_
      intro c hc
      exact isOuterBlank_of_lacks h c (List.mem_reverse.1 (List.mem_of_mem_head? hc))
  kept c hc := by
    rcases List.mem_append.1 hc with hc | hc
    · exact (by decide : Lacks isMark "databases/".toList) c hc
    · exact isMark_of_lacks h c hc

end Delimiters

theorem addSegments_name (h : IsName id) (kind : SchemeKind) (path : List String) :
    addSegments kind path
      (splitPath kind (['/'].intercalate ((Endpoint.database.segments id).map String.toList))) =
      path ++ ["databases", Endpoint.written id] := by
  have hfront : Lacks isDelimiter "databases".toList := by decide
  have hwritten : Endpoint.written "databases" = "databases" := by decide
  have hpieces : ∀ s ∈ (Endpoint.database.segments id).map String.toList,
      Lacks kind.isSlash s := by
    rw [Endpoint.segments, List.map_cons, List.map_singleton, List.forall_mem_cons,
      List.forall_mem_singleton]
    exact ⟨isSlash_of_lacks hfront kind, isSlash_of_lacks h.lacks kind⟩
  have hne : (Endpoint.database.segments id).map String.toList ≠ [] := List.cons_ne_nil _ _
  rw [splitPath_intercalate hne hpieces]
  change addSegment kind true (addSegment kind false path "databases".toList) id.toList = _
  rw [addSegment_of_lacks hfront, addSegment_of_lacks h.lacks, ← Endpoint.written,
    ← Endpoint.written, hwritten, List.append_assoc]
  rfl

theorem join_name (hbase : base.path = .segments items) (h : IsName id) :
    base.join (Client.databasePath id) = .ok { base with
      path := .segments (parentPath base.kind items ++ ["databases", Endpoint.written id])
      query := none
      fragment := none } := by
  have hpath := Endpoint.path_eq_intercalate .database id
  have href :
      IsReference (['/'].intercalate ((Endpoint.database.segments id).map String.toList)) := by
    simpa [Endpoint.segments] using isReference_of_lacks h.lacks
  rw [Endpoint.path] at hpath
  rw [join, hbase, hpath]
  dsimp only
  rw [significant_of_isReference href, splitTail_of_isReference href]
  dsimp only
  rw [addSegments_name h]
  rfl

theorem written_of_ascii (h : ∀ c ∈ id.toList, c.toNat < 0x80) (hid : IsName id) :
    Endpoint.written id = id := by
  have hset : Lacks inPathSet id.toList := fun c hc => (isDelimiter_of_name (hid c hc) (h c hc)).2
  rw [Endpoint.written, encode_eq_self hset, String.ofList_toList]

/-- What the client asks for by the id is put at the end of the path of the address. -/
def AddressedBelow (client : Client) (value id : String) : Prop :=
  ∃ given url, Url.parse value = .ok given ∧ client.url (Client.databasePath id) = .ok url ∧
    url.path.text =
      directoryText given.path.text ++ Client.databasePath (Endpoint.written id)

theorem text_below (items : List String) (segment : String) :
    (UrlPath.segments (items ++ ["databases", segment])).text =
      (UrlPath.segments items).text ++ "/" ++ Client.databasePath segment := by
  have hpair : items ++ ["databases", segment] = items ++ ["databases"] ++ [segment] :=
    (List.append_assoc items ["databases"] [segment]).symm
  rw [hpair, UrlPath.text_concat, UrlPath.text_concat, Client.databasePath]
  apply String.toList_inj.1
  simp

theorem addressedBelow_iff (hbase : client.baseUrl.path = .segments items)
    (hgiven : Url.parse value = .ok given) (hid : IsName id) :
    AddressedBelow client value id ↔ directoryText given.path.text =
      (UrlPath.segments (parentPath client.baseUrl.kind items)).text ++ "/" := by
  have hurl : client.url (Client.databasePath id) = _ :=
    congrArg (Except.mapError _) (join_name hbase hid)
  constructor
  · rintro ⟨given', url, hgiven', hurl', hpath⟩
    cases hgiven.symm.trans hgiven'
    cases hurl.symm.trans hurl'
    rw [text_below, String.append_left_inj] at hpath
    exact hpath.symm
  · intro hpath
    exact ⟨given, _, hgiven, hurl, by rw [text_below, hpath]⟩

theorem not_addressedBelow_of_flat {text : String} (hbase : client.baseUrl.path = .flat text) :
    ¬ AddressedBelow client value id := by
  rintro ⟨given, url, -, hurl, -⟩
  rw [Client.url, join, hbase] at hurl
  cases hurl

/-- A query or a fragment is written in the address. -/
def HasTailMark (value : String) : Prop := '?' ∈ value.toList ∨ '#' ∈ value.toList

instance (value : String) : Decidable (HasTailMark value) := inferInstanceAs (Decidable (_ ∨ _))

/-- The end of the address is neither a blank nor a slash of another form. -/
def EndsPlainly (kind : SchemeKind) (value : String) : Prop :=
  ∀ c ∈ value.toList.getLast?, isOuterBlank c = false ∧ (c ≠ '/' → kind.isSlash c = false)

instance (kind : SchemeKind) (value : String) : Decidable (EndsPlainly kind value) :=
  Option.decidableForallMem value.toList.getLast?

theorem any_isTailMark_significant_iff :
    (significant value).any isTailMark = true ↔ HasTailMark value := by
  rw [List.any_eq_true, HasTailMark, ← mem_significant_iff (by decide),
    ← mem_significant_iff (by decide)]
  simp only [isTailMark, Bool.or_eq_true, beq_iff_eq]
  constructor
  · rintro ⟨c, hc, rfl | rfl⟩
    · exact .inl hc
    · exact .inr hc
  · rintro (h | h)
    · exact ⟨_, h, .inl rfl⟩
    · exact ⟨_, h, .inr rfl⟩

theorem any_isTailMark_of_no_tail (htail : ¬ HasTailMark value) :
    (significant value).any isTailMark = false := by
  rw [Bool.eq_false_iff, ne_eq, any_isTailMark_significant_iff]
  exact htail

theorem hasTailMark_directoryText : HasTailMark (directoryText value) ↔ HasTailMark value := by
  rw [HasTailMark, HasTailMark, directoryText]
  split_ifs
  · exact Iff.rfl
  · rw [String.toList_append]
    simp

theorem withBaseUrl_eq_ok (h : config.withBaseUrl value = .ok config') :
    Url.parse (directoryText value) = .ok config'.baseUrl := by
  delta withBaseUrl at h
  cases hparse : Url.parse (directoryText value) with
  | error cause => rw [hparse] at h; cases h
  | ok url =>
      rw [hparse] at h
      cases h
      rfl

theorem Client.checked_eq_ok {client' : Client} (h : client.checked = .ok client') :
    client' = client := by
  rw [checked] at h
  cases hversion : checkHeader "Notion-Version" client.version with
  | error e => rw [hversion] at h; cases h
  | ok _ =>
      rw [hversion] at h
      cases htoken : client.token with
      | none =>
          rw [htoken] at h
          cases h
          rfl
      | some token =>
          rw [htoken] at h
          change (checkHeader "Authorization" (bearer token) >>= fun _ => pure client) = _ at h
          cases hbearer : checkHeader "Authorization" (bearer token) with
          | error e => rw [hbearer] at h; cases h
          | ok _ =>
              rw [hbearer] at h
              cases h
              rfl

theorem Client.baseUrl_ofConfiguration (h : Client.ofConfiguration config = .ok client) :
    client.baseUrl = config.baseUrl := by
  rw [ofConfiguration] at h
  cases htoken : config.requireToken with
  | error e => rw [htoken] at h; cases h
  | ok token =>
      rw [htoken] at h
      rw [checked_eq_ok h]

theorem exists_given_of_tail (h : Url.parse (directoryText value) = .ok base)
    (htail : HasTailMark value) :
    ∃ given, Url.parse value = .ok given ∧ given.kind = base.kind ∧ given.path = base.path := by
  by_cases hlast : value.toList.getLast? = some '/'
  · rw [directoryText_eq_self hlast] at h
    exact ⟨base, h, rfl, rfl⟩
  · rw [directoryText_of_open hlast] at h
    obtain ⟨more, hmore⟩ := exists_significant_slash value
    obtain ⟨given, hgiven, hscheme, hpath⟩ :=
      parse_of_tail hmore (any_isTailMark_significant_iff.2 htail) h
    exact ⟨given, hgiven, congrArg SchemeKind.ofScheme hscheme, hpath⟩

theorem stops_directoryText {p : Char → Bool} (hp : p '/' = false) (value : String) :
    Stops p (directoryText value).toList.reverse := by
  intro c hc
  rw [List.head?_reverse, getLast?_directoryText] at hc
  cases hc
  exact hp

theorem isDirectory_of_no_tail (h : Url.parse (directoryText value) = .ok base)
    (htail : ¬ HasTailMark value) (hbase : base.path = .segments items) :
    IsDirectory base.kind items := by
  have hlast : Stops (· != '/') (significant (directoryText value)).reverse :=
    stops_significant (stops_directoryText (by decide) value)
      (stops_directoryText (by decide) value)
  have hnone := any_isTailMark_of_no_tail (mt hasTailMark_directoryText.1 htail)
  exact (getLast?_of_slash h hlast hnone hbase).elim .inl (.inr ∘ .inl)

theorem exists_given_of_plain_end (h : Url.parse (directoryText value) = .ok base)
    (htail : ¬ HasTailMark value) (hend : EndsPlainly base.kind value)
    (hbase : base.path = .segments items) :
    ∃ given, Url.parse value = .ok given ∧
      directoryText given.path.text = directoryText base.path.text := by
  by_cases hlast : value.toList.getLast? = some '/'
  · rw [directoryText_eq_self hlast] at h
    exact ⟨base, h, rfl⟩
  · rw [directoryText_of_open hlast] at h
    have hblank : Stops isOuterBlank value.toList.reverse := by
      intro c hc
      rw [List.head?_reverse] at hc
      exact (hend c hc).1
    have hopen : Stops base.kind.isSlash value.toList.reverse := by
      intro c hc
      rw [List.head?_reverse] at hc
      refine (hend c hc).2 ?_
      rintro rfl
      exact hlast hc
    obtain ⟨-, -, -, hslash⟩ := significant_slash hblank
    obtain ⟨given, hgiven, -, hcloses⟩ := parse_of_slash hslash (any_isTailMark_of_no_tail htail) h
      (stops_significant hblank hopen) (by rw [hbase]; nofun)
    obtain ⟨s, hin⟩ := exists_pathIn hgiven
    refine ⟨given, hgiven, ?_⟩
    rw [text_of_closes hcloses fun items hitems => (hitems ▸ hin).literal, directoryText_idem]

theorem addressedBelow_iff_of_tail (h : Url.parse (directoryText value) = .ok client.baseUrl)
    (htail : HasTailMark value) (hid : IsName id) :
    AddressedBelow client value id ↔ ∃ given items, Url.parse value = .ok given ∧
      given.path = .segments items ∧ IsDirectory given.kind items := by
  obtain ⟨given, hgiven, hkind, hpath⟩ := exists_given_of_tail h htail
  cases hbase : client.baseUrl.path with
  | flat text =>
      refine iff_of_false (not_addressedBelow_of_flat hbase) ?_
      rintro ⟨given', items, hgiven', hitems, -⟩
      cases hgiven.symm.trans hgiven'
      rw [hpath, hbase] at hitems
      cases hitems
  | segments items =>
      have hsegments := hpath.trans hbase
      rw [addressedBelow_iff hbase hgiven hid, hsegments, directoryText_eq_parent_iff, ← hkind]
      constructor
      · intro hdirectory
        exact ⟨given, items, hgiven, hsegments, hdirectory⟩
      · rintro ⟨given', items', hgiven', hitems, hdirectory⟩
        cases hgiven.symm.trans hgiven'
        cases hsegments.symm.trans hitems
        exact hdirectory

theorem addressedBelow_iff_of_no_tail (h : Url.parse (directoryText value) = .ok client.baseUrl)
    (htail : ¬ HasTailMark value) (hid : IsName id) :
    AddressedBelow client value id ↔ ∃ given items, Url.parse value = .ok given ∧
      client.baseUrl.path = .segments items ∧
      directoryText given.path.text = directoryText client.baseUrl.path.text := by
  cases hbase : client.baseUrl.path with
  | flat text =>
      refine iff_of_false (not_addressedBelow_of_flat hbase) ?_
      rintro ⟨-, items, -, hitems, -⟩
      cases hitems
  | segments items =>
      have hparent := (directoryText_eq_parent_iff client.baseUrl.kind items).2
        (isDirectory_of_no_tail h htail hbase)
      constructor
      · intro hbelow
        have ⟨given, _, hgiven, _⟩ := hbelow
        have htext := (addressedBelow_iff hbase hgiven hid).1 hbelow
        exact ⟨given, items, hgiven, rfl, htext.trans hparent.symm⟩
      · rintro ⟨given, -, hgiven, -, htext⟩
        exact (addressedBelow_iff hbase hgiven hid).2 (htext.trans hparent)

/-- Let a client be made with an address. If the address has a query or a fragment, then requests go
below its path exactly if that path is the one of a directory. If it has none, they go below the
path of the address with the slash, which is the path of the address itself unless blanks or slashes
of another form stand at its end. An address with a flat path has nothing below it. -/
theorem requests_below_given_address (config config' : Configuration) (client : Client)
    (value id : String) (hconfig : config.withBaseUrl value = .ok config')
    (hclient : Client.ofConfiguration config' = .ok client) (hid : IsName id) :
    (HasTailMark value → (AddressedBelow client value id ↔
      ∃ given items, Url.parse value = .ok given ∧ given.path = .segments items ∧
        IsDirectory given.kind items)) ∧
    (¬ HasTailMark value → (AddressedBelow client value id ↔
      ∃ given items, Url.parse value = .ok given ∧ client.baseUrl.path = .segments items ∧
        directoryText given.path.text = directoryText client.baseUrl.path.text)) ∧
    (¬ HasTailMark value → EndsPlainly client.baseUrl.kind value →
      (AddressedBelow client value id ↔ ∃ items, client.baseUrl.path = .segments items)) ∧
    (client.baseUrl.kind ≠ .plain → ∃ items, client.baseUrl.path = .segments items) ∧
    ((∀ c ∈ id.toList, c.toNat < 0x80) → Endpoint.written id = id) := by
  have hparse := withBaseUrl_eq_ok hconfig
  rw [← Client.baseUrl_ofConfiguration hclient] at hparse
  refine ⟨fun htail => addressedBelow_iff_of_tail hparse htail hid,
    fun htail => addressedBelow_iff_of_no_tail hparse htail hid, ?_, ?_,
    fun hascii => written_of_ascii hascii hid⟩
  · intro htail hend
    rw [addressedBelow_iff_of_no_tail hparse htail hid]
    constructor
    · rintro ⟨-, items, -, hbase, -⟩
      exact ⟨items, hbase⟩
    · rintro ⟨items, hbase⟩
      obtain ⟨given, hgiven, htext⟩ := exists_given_of_plain_end hparse htail hend hbase
      exact ⟨given, items, hgiven, hbase, htext⟩
  · intro hkind
    obtain ⟨s, hin⟩ := exists_pathIn hparse
    exact hin.segments_of_ne_plain hkind

def secretConfiguration : Configuration := Configuration.default.withToken "secret"

def secretClient (url : Url) : Client :=
  ⟨url, some "secret", Configuration.serviceVersion, 30000, .default, false⟩

def localUrl (items : List String) (query : Option String) : Url :=
  ⟨"http", some ⟨"", none, .name "localhost", none⟩, .segments items, query, none⟩

theorem localUrl_keeps_requests :
    AddressedBelow (secretClient (localUrl ["v1", ""] none)) "http://localhost/v1" "d1" ∧
    AddressedBelow (secretClient (localUrl ["v1", ""] (some "x=1/"))) "http://localhost/v1/?x=1"
      "d1" := by
  have hid : IsName "d1" := by decide +kernel
  constructor
  · obtain ⟨-, -, hplain, -⟩ := requests_below_given_address secretConfiguration
      { secretConfiguration with baseUrl := localUrl ["v1", ""] none }
      (secretClient (localUrl ["v1", ""] none)) "http://localhost/v1" "d1" (by decide +kernel)
      (by decide +kernel) hid
    exact (hplain (by decide +kernel) (by decide +kernel)).2 ⟨_, rfl⟩
  · obtain ⟨htail, -⟩ := requests_below_given_address secretConfiguration
      { secretConfiguration with baseUrl := localUrl ["v1", ""] (some "x=1/") }
      (secretClient (localUrl ["v1", ""] (some "x=1/"))) "http://localhost/v1/?x=1" "d1"
      (by decide +kernel) (by decide +kernel) hid
    exact (htail (by decide +kernel)).2
      ⟨localUrl ["v1", ""] (some "x=1"), _, by decide +kernel, rfl, by decide⟩

/-- The slash goes to the query, and the last segment of the path gives way to the request. An
address with a flat path is taken, too, but nothing can be requested below it. -/
theorem query_takes_slash :
    let client := secretClient (localUrl ["v1"] (some "x=1/"))
    let flat := secretClient ⟨"data", none, .flat "x/", none, none⟩
    secretConfiguration.withBaseUrl "http://localhost/v1?x=1" =
      .ok { secretConfiguration with baseUrl := client.baseUrl } ∧
    Client.ofConfiguration { secretConfiguration with baseUrl := client.baseUrl } = .ok client ∧
    Url.parse "http://localhost/v1?x=1" = .ok (localUrl ["v1"] (some "x=1")) ∧
    client.url (Client.databasePath "d1") = .ok (localUrl ["databases", "d1"] none) ∧
    IsName "d1" ∧ ¬ AddressedBelow client "http://localhost/v1?x=1" "d1" ∧
    secretConfiguration.withBaseUrl "data:x" =
      .ok { secretConfiguration with baseUrl := flat.baseUrl } ∧
    ¬ AddressedBelow flat "data:x" "d1" := by
  have hparse : Url.parse "http://localhost/v1?x=1" = .ok (localUrl ["v1"] (some "x=1")) := by
    decide +kernel
  have hurl : (secretClient (localUrl ["v1"] (some "x=1/"))).url (Client.databasePath "d1") =
      .ok (localUrl ["databases", "d1"] none) := by decide +kernel
  refine ⟨by decide +kernel, by decide +kernel, hparse, hurl, by decide +kernel, ?_,
    by decide +kernel, not_addressedBelow_of_flat rfl⟩
  rintro ⟨given, url, hgiven, hbelow, htext⟩
  cases hparse.symm.trans hgiven
  cases hurl.symm.trans hbelow
  exact absurd htext (by decide +kernel)

end NotionSchema
