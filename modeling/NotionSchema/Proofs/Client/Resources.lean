import NotionSchema.Proofs.Client.Requests
import NotionSchema.Proofs.Url.Segments

namespace NotionSchema

open Text Url

variable {σ τ α β : Type}

inductive Endpoint where
  | database
  | query
  | page
deriving DecidableEq, Repr

namespace Endpoint

def segments : Endpoint → String → List String
  | database, id => ["databases", id]
  | query, id => ["databases", id, "query"]
  | page, id => ["pages", id]

def path : Endpoint → String → String
  | database, id => Client.databasePath id
  | query, id => Client.queryPath id
  | page, id => Client.pagePath id

theorem path_eq_intercalate (e : Endpoint) (id : String) :
    e.path id = String.ofList (['/'].intercalate ((e.segments id).map String.toList)) := by
  apply String.toList_inj.1
  cases e <;>
    simp [path, segments, Client.databasePath, Client.queryPath, Client.pagePath]

/-- The id is read as one segment. At the end of a reference its own end must be visible, too. -/
structure Takes (e : Endpoint) (kind : SchemeKind) (id : String) : Prop where
  piece : IsPiece kind id.toList
  kept : Lacks isMark id.toList
  last : e ≠ .query → Stops isOuterBlank id.toList.reverse

end Endpoint

def RemoteCall.endpoint : RemoteCall α → Endpoint
  | retrieveDatabase _ => .database
  | queryDatabase _ _ _ => .query
  | retrievePage _ => .page

theorem RemoteCall.path_eq (call : RemoteCall α) : call.path = call.endpoint.path call.id := by
  cases call <;> rfl

namespace Endpoint

variable {e : Endpoint} {kind : SchemeKind} {id : String}

def written (id : String) : String := String.ofList (encode inPathSet id.toList)

theorem written_eq_self (h : IsLiteral kind id.toList) : written id = id := by
  rw [written, h.encode_eq, String.ofList_toList]

theorem isLiteral_written (h : e.Takes kind id) : IsLiteral kind (written id).toList := by
  rw [written, String.toList_ofList]
  exact h.piece.encode

theorem keeps_allowed {c : Char} (h : inPathSet c = false) :
    isOuterBlank c = false ∧ isMark c = false := by
  have hc : c.toNat < 0x80 := by
    simp [inPathSet, inFragmentSet, isControl] at h
    omega
  refine forall_ascii (P := fun c => inPathSet c = false →
    isOuterBlank c = false ∧ isMark c = false) ?_ hc h
  decide +kernel

theorem takes_of_isLiteral (e : Endpoint) (h : IsLiteral kind id.toList) : e.Takes kind id where
  piece := h.toIsPiece
  kept c hc := (keeps_allowed (h.allowed c hc)).2
  last _ c hc :=
    (keeps_allowed (h.allowed c (List.mem_reverse.1 (List.mem_of_mem_head? hc)))).1

theorem isPiece_around (kind : SchemeKind) :
    ∀ s ∈ ["databases", "query", "pages"], IsPiece kind s.toList := by
  simp only [List.forall_mem_cons, List.not_mem_nil, false_implies, implies_true, and_true]
  refine ⟨?_, ?_, ?_⟩ <;>
    exact ⟨by decide, by cases kind <;> decide, by decide, by decide, fun _ => by decide⟩

theorem isReference_around (front back : List Char) {s : List Char} (hne : front ≠ [])
    (hfirst : Stops isOuterBlank front)
    (haround : Lacks isMark (front ++ back)) (hs : Lacks isMark s) (hnonempty : s ≠ [])
    (hlast : Stops isOuterBlank (back.reverse ++ s.reverse)) :
    IsReference (front ++ (s ++ back)) where
  first := (stops_append_left hne).2 hfirst
  last := by
    have hend : back.reverse ++ s.reverse ≠ [] :=
      List.append_ne_nil_of_right_ne_nil _ (List.reverse_ne_nil_iff.2 hnonempty)
    rw [List.reverse_append, List.reverse_append]
    exact (stops_append_left hend).2 hlast
  kept := by
    intro c hc
    rcases List.mem_append.1 hc with hc | hc
    · exact haround c (List.mem_append_left _ hc)
    · rcases List.mem_append.1 hc with hc | hc
      · exact hs c hc
      · exact haround c (List.mem_append_right _ hc)

theorem isReference_of_takes (h : e.Takes kind id) :
    IsReference (['/'].intercalate ((e.segments id).map String.toList)) := by
  cases e with
  | database =>
      have href := isReference_around "databases/".toList [] (by decide) (by decide) (by decide)
        h.kept h.piece.nonempty (h.last (by decide))
      simpa [segments] using href
  | query =>
      have hlast : Stops isOuterBlank ("/query".toList.reverse ++ id.toList.reverse) :=
        (stops_append_left (by decide)).2 (by decide)
      have href := isReference_around "databases/".toList "/query".toList (by decide) (by decide)
        (by decide) h.kept h.piece.nonempty hlast
      simpa [segments] using href
  | page =>
      have href := isReference_around "pages/".toList [] (by decide) (by decide) (by decide)
        h.kept h.piece.nonempty (h.last (by decide))
      simpa [segments] using href

theorem isPiece_of_mem_segments (h : e.Takes kind id) :
    ∀ s ∈ (e.segments id).map String.toList, IsPiece kind s := by
  have haround := isPiece_around kind
  have hid := h.piece
  cases e <;> simp_all [segments]

theorem segments_written (e : Endpoint) (id : String) :
    (e.segments id).map written = e.segments (written id) := by
  have haround : ∀ s ∈ ["databases", "query", "pages"], written s = s := by decide
  cases e <;> simp_all [segments]

end Endpoint

namespace Client

variable {c : Client} {dir : List String} {e : Endpoint} {kind : SchemeKind} {id : String}

theorem url_of_takes (hbase : c.baseUrl.path = .segments (dir ++ [""]))
    (h : e.Takes c.baseUrl.kind id) :
    c.url (e.path id) = .ok { c.baseUrl with
      path := .segments (dir ++ e.segments (Endpoint.written id))
      query := none
      fragment := none } := by
  have hne : (e.segments id).map String.toList ≠ [] := by
    cases e <;> exact List.cons_ne_nil _ _
  have hpieces := Endpoint.isPiece_of_mem_segments h
  rw [Client.url, Endpoint.path_eq_intercalate,
    join_pieces hbase hne hpieces (Endpoint.isReference_of_takes h), List.map_map,
    ← Endpoint.segments_written]
  rfl

theorem url_exists (hbase : c.baseUrl.path = .segments (dir ++ [""])) (e : Endpoint) (id : String) :
    ∃ url, c.url (e.path id) = .ok url ∧
      ∃ path, url.path = .segments path ∧ LiteralAfter c.baseUrl.kind dir.length path := by
  have hjoin := join_directory hbase (e.path id)
  refine ⟨_, ?_, literalAfter_join hbase hjoin⟩
  rw [Client.url, hjoin]
  rfl

theorem isLiteral_of_path {path : List String} {segment : String} (e : Endpoint)
    (h : LiteralAfter kind dir.length path) (hpath : path = dir ++ e.segments segment)
    (hne : segment ≠ "") : IsLiteral kind segment.toList := by
  have hmem : segment ∈ path.drop dir.length := by
    rw [hpath, List.drop_left]
    cases e <;> simp [Endpoint.segments]
  exact (h segment hmem).resolve_left hne

theorem requests_of_takes (hbase : c.baseUrl.path = .segments (dir ++ [""])) (call : RemoteCall α)
    (h : call.endpoint.Takes c.baseUrl.kind call.id) (t : Transport σ) (start : Session σ) :
    (∀ r ∈ call.requests c t start,
      r.url.path = .segments (dir ++ call.endpoint.segments (Endpoint.written call.id))) ∧
    (canSend c.baseUrl = true → call.requests c t start ≠ []) := by
  have hurl := url_of_takes hbase h
  rw [← call.path_eq] at hurl
  obtain ⟨k, hrequests, hsent⟩ := call.requests_eq hurl t start
  rw [hrequests]
  refine ⟨fun r hr => ?_, fun hsend => ?_⟩
  · rw [List.eq_of_mem_replicate hr, path_request]
  · rw [ne_eq, List.replicate_eq_nil_iff]
    exact Nat.pos_iff_ne_zero.1 (hsent hsend)

theorem segments_inj {segment segment' : String} :
    e.segments segment = e.segments segment' ↔ segment = segment' := by
  cases e <;> simp [Endpoint.segments]

theorem path_eq_iff (hbase : c.baseUrl.path = .segments (dir ++ [""])) {call : RemoteCall α}
    {call' : RemoteCall β} (hendpoint : call.endpoint = call'.endpoint)
    (h : call.endpoint.Takes c.baseUrl.kind call.id)
    (h' : call'.endpoint.Takes c.baseUrl.kind call'.id) {t : Transport σ} {t' : Transport τ}
    {start : Session σ} {start' : Session τ} {r r' : HttpRequest}
    (hr : r ∈ call.requests c t start) (hr' : r' ∈ call'.requests c t' start') :
    r.url.path = r'.url.path ↔ Endpoint.written call.id = Endpoint.written call'.id := by
  rw [(requests_of_takes hbase call h t start).1 r hr,
    (requests_of_takes hbase call' h' t' start').1 r' hr', ← hendpoint, UrlPath.segments.injEq,
    List.append_cancel_left_eq, segments_inj]

/-- An id that is not literal misses the place, or a literal id has it, too. -/
theorem misses_or_shares (hbase : c.baseUrl.path = .segments (dir ++ [""])) (e : Endpoint)
    (h : ¬ IsLiteral c.baseUrl.kind id.toList) :
    ∃ url, c.url (e.path id) = .ok url ∧
      ((∀ segment, segment ≠ "" → url.path ≠ .segments (dir ++ e.segments segment)) ∨
        ∃ other url', other ≠ id ∧ IsLiteral c.baseUrl.kind other.toList ∧
          c.url (e.path other) = .ok url' ∧ url'.path = url.path) := by
  obtain ⟨url, hurl, path, hpath, hliteral⟩ := url_exists hbase e id
  refine ⟨url, hurl, ?_⟩
  by_cases hplace : ∃ segment, segment ≠ "" ∧ path = dir ++ e.segments segment
  · obtain ⟨segment, hne, hsegment⟩ := hplace
    have hother := isLiteral_of_path e hliteral hsegment hne
    refine .inr ⟨segment, _, ?_, hother,
      url_of_takes hbase (Endpoint.takes_of_isLiteral e hother), ?_⟩
    · rintro rfl
      exact h hother
    · rw [hpath, hsegment, Endpoint.written_eq_self hother]
  · refine .inl fun segment hne he => hplace ⟨segment, hne, ?_⟩
    rw [hpath, UrlPath.segments.injEq] at he
    exact he

/-- Let the path of the service's address end in a slash. A call by an id that is taken requests one
literal segment below its collection. Two such calls of one kind request the same path exactly if
their ids are written alike, which different ids are not if they have no percent signs or are
literal themselves. The literal ids cannot be joined by any other one: such an id either is not one
segment below the collection, or shares its path with a literal id. -/
theorem ids_address_resources (c : Client) (dir : List String)
    (hbase : c.baseUrl.path = .segments (dir ++ [""])) :
    (∀ {α σ : Type} (call : RemoteCall α) (t : Transport σ) (start : Session σ),
      call.endpoint.Takes c.baseUrl.kind call.id →
      IsLiteral c.baseUrl.kind (Endpoint.written call.id).toList ∧
      (∀ r ∈ call.requests c t start,
        r.url.path = .segments (dir ++ call.endpoint.segments (Endpoint.written call.id))) ∧
      (canSend c.baseUrl = true → call.requests c t start ≠ [])) ∧
    (∀ {α β σ τ : Type} (call : RemoteCall α) (call' : RemoteCall β) (t : Transport σ)
      (t' : Transport τ) (start : Session σ) (start' : Session τ),
      call.endpoint = call'.endpoint → call.endpoint.Takes c.baseUrl.kind call.id →
      call'.endpoint.Takes c.baseUrl.kind call'.id →
      ∀ r ∈ call.requests c t start, ∀ r' ∈ call'.requests c t' start',
        (r.url.path = r'.url.path ↔ Endpoint.written call.id = Endpoint.written call'.id)) ∧
    (∀ id id' : String, id ≠ id' →
      ('%' ∉ id.toList ∧ '%' ∉ id'.toList) ∨
        (IsLiteral c.baseUrl.kind id.toList ∧ IsLiteral c.baseUrl.kind id'.toList) →
      Endpoint.written id ≠ Endpoint.written id') ∧
    (∀ (e : Endpoint) (id : String), ¬ IsLiteral c.baseUrl.kind id.toList →
      ∃ url, c.url (e.path id) = .ok url ∧
        ((∀ segment, segment ≠ "" → url.path ≠ .segments (dir ++ e.segments segment)) ∨
          ∃ other url', other ≠ id ∧ IsLiteral c.baseUrl.kind other.toList ∧
            c.url (e.path other) = .ok url' ∧ url'.path = url.path)) := by
  refine ⟨?_, ?_, ?_, fun e id h => misses_or_shares hbase e h⟩
  · intro α σ call t start h
    exact ⟨Endpoint.isLiteral_written h, requests_of_takes hbase call h t start⟩
  · intro α β σ τ call call' t t' start start' hendpoint h h' r hr r' hr'
    exact path_eq_iff hbase hendpoint h h' hr hr'
  · intro id id' hne hform hwritten
    rcases hform with ⟨hid, hid'⟩ | ⟨hid, hid'⟩
    · have hchars := encode_injective_of_notMem hid hid' (String.ofList_injective hwritten)
      exact hne (String.toList_inj.1 hchars)
    · rw [Endpoint.written_eq_self hid, Endpoint.written_eq_self hid'] at hwritten
      exact hne hwritten

def localStart : Session ScriptedPeer := ⟨localPeer failingScript, 0, []⟩

def pagePaths (id : String) : List UrlPath :=
  ((RemoteCall.retrievePage id).requests localClient ScriptedPeer.transport localStart).map
    (·.url.path)

theorem localClient_takes (h : IsPiece .special id.toList)
    (hkept : Lacks isMark id.toList) (hlast : Stops isOuterBlank id.toList.reverse) :
    Endpoint.page.Takes localClient.baseUrl.kind id := by
  have hkind : localClient.baseUrl.kind = .special := by decide
  rw [hkind]
  exact ⟨h, hkept, fun _ => hlast⟩

theorem localClient_addresses :
    (∀ path ∈ pagePaths "p 1", path = .segments ["v1", "pages", "p%201"]) ∧ pagePaths "p 1" ≠ [] ∧
    ∀ path ∈ pagePaths "p1", path ∉ pagePaths "p 1" := by
  obtain ⟨hplaces, hpaths, hwritten, -⟩ := ids_address_resources localClient ["v1"] rfl
  have htaken : Endpoint.page.Takes localClient.baseUrl.kind "p 1" :=
    localClient_takes ⟨by decide, by decide, by decide, by decide, nofun⟩ (by decide) (by decide)
  have htaken' : Endpoint.page.Takes localClient.baseUrl.kind "p1" :=
    localClient_takes ⟨by decide, by decide, by decide, by decide, nofun⟩ (by decide) (by decide)
  obtain ⟨-, hpath, hsent⟩ :=
    hplaces (.retrievePage "p 1") ScriptedPeer.transport localStart htaken
  refine ⟨?_, ?_, ?_⟩
  · intro path hmem
    obtain ⟨r, hr, rfl⟩ := List.mem_map.1 hmem
    have hsegment : Endpoint.written "p 1" = "p%201" := by decide
    rw [hpath r hr]
    change UrlPath.segments ["v1", "pages", Endpoint.written "p 1"] = _
    rw [hsegment]
  · rw [pagePaths, ne_eq, List.map_eq_nil_iff]
    exact hsent (by decide)
  · intro path hmem hmem'
    obtain ⟨r', hr', rfl⟩ := List.mem_map.1 hmem
    obtain ⟨r, hr, he⟩ := List.mem_map.1 hmem'
    have halike := (hpaths (.retrievePage "p 1") (.retrievePage "p1") _ _ _ _ rfl htaken htaken'
      r hr r' hr').1 he
    exact hwritten "p 1" "p1" (by decide) (.inl (by decide)) halike

theorem mem_pagePaths (id : String) (url : Url) (hurl : localClient.url ("pages/" ++ id) = .ok url)
    (hsend : canSend url = true) : url.path ∈ pagePaths id := by
  obtain ⟨k, hrequests, hsent⟩ := (RemoteCall.retrievePage id).requests_eq hurl
    ScriptedPeer.transport localStart
  rw [pagePaths, hrequests, List.map_replicate, path_request, List.mem_replicate]
  exact ⟨Nat.pos_iff_ne_zero.1 (hsent hsend), rfl⟩

/-- A question mark ends the path, and dot segments lead to other collections. -/
theorem questionMark_shares_page :
    localClient.baseUrl.path = .segments (["v1"] ++ [""]) ∧ "p1" ≠ "p1?x" ∧
    (∃ path, path ∈ pagePaths "p1" ∧ path ∈ pagePaths "p1?x") ∧
    .segments ["v1", "databases", "d1"] ∈ pagePaths "../databases/d1" := by
  refine ⟨rfl, by decide, ⟨.segments ["v1", "pages", "p1"], ?_, ?_⟩, ?_⟩
  · exact mem_pagePaths "p1" (localAddress ["v1", "pages", "p1"]) (url_page rfl) (by decide)
  · exact mem_pagePaths "p1?x" { localAddress ["v1", "pages", "p1"] with query := some "x" }
      (by decide +kernel) (by decide)
  · exact mem_pagePaths "../databases/d1"
      (localAddress ["v1", "databases", "d1"]) (by decide +kernel) (by decide)

end Client

end NotionSchema
