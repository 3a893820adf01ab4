import NotionSchema.Proofs.Loading.Fetch
import NotionSchema.Proofs.Loading.Links
import Mathlib.Data.List.Induction

namespace NotionSchema

structure Retrieval where
  id : String
  time : Nat
  answer : Except RemoteError Page

namespace Retrieval

def record? (x : Retrieval) : Option Record :=
  match x.answer with
  | .ok page => some (Record.decode page).value
  | .error _ => none

/-- The first was made no later, and did not give the page that the second asks for within the life
of a cache entry. -/
def Spaced (x y : Retrieval) : Prop :=
  x.time ≤ y.time ∧
    ∀ page, x.answer = .ok page → x.id = y.id → ¬ y.time - x.time < RelationCache.lifetime

theorem record?_eq_some_iff {x : Retrieval} {r : Record} :
    x.record? = some r ↔ ∃ page, x.answer = .ok page ∧ r = (Record.decode page).value := by
  cases h : x.answer with
  | error e => simp [record?, h]
  | ok page => simp [record?, h, eq_comm]

end Retrieval

namespace RelationCache

def keep (c : RelationCache) (x : Retrieval) : RelationCache :=
  match x.record? with
  | some r => c.store x.time x.id r
  | none => c

def ofHistory (h : List Retrieval) : RelationCache := h.foldl keep []

theorem ofHistory_append (h new : List Retrieval) :
    ofHistory (h ++ new) = new.foldl keep (ofHistory h) := List.foldl_append

end RelationCache

open RelationCache

def CachedRecord.KnownFrom (entry : CachedRecord) (h : List Retrieval) (id : String) : Prop :=
  ∃ x ∈ h, x.id = id ∧ x.time = entry.retrievedAt ∧
    ∃ page, x.answer = .ok page ∧ entry.record = (Record.decode page).value

/-- The record is that of the page that a retrieval gave less than the life of an entry ago. -/
def Served (h : List Retrieval) (now : Nat) (id : String) (r : Record) : Prop :=
  ∃ x ∈ h, x.id = id ∧ x.time ≤ now ∧ now - x.time < lifetime ∧
    ∃ page, x.answer = .ok page ∧ r = (Record.decode page).value

variable {h new : List Retrieval} {now : Nat} {id : String} {c c' : RelationCache} {r : Record}
  {page : String → Except RemoteError Page} {ids calls : List String} {rs : List Record}

theorem Served.append (hs : Served h now id r) : Served (h ++ new) now id r := by
  obtain ⟨x, hx, hrest⟩ := hs
  exact ⟨x, List.mem_append_left _ hx, hrest⟩

theorem knownFrom_of_get? {entry : CachedRecord} (hget : Table.get? (ofHistory h) id = some entry) :
    entry.KnownFrom h id := by
  induction h using List.reverseRecOn with
  | nil => cases hget
  | append_singleton h x ih =>
      have hold (hget : Table.get? (ofHistory h) id = some entry) :
          entry.KnownFrom (h ++ [x]) id := by
        obtain ⟨y, hy, hrest⟩ := ih hget
        exact ⟨y, List.mem_append_left _ hy, hrest⟩
      rw [ofHistory_append, List.foldl_cons, List.foldl_nil, keep] at hget
      cases hr : x.record? with
      | none =>
          rw [hr] at hget
          exact hold hget
      | some r =>
          rw [hr] at hget
          change Table.get? (Table.insert (ofHistory h) x.id ⟨x.time, r⟩) id = some entry at hget
          by_cases hid : id = x.id
          · subst hid
            rw [Table.get?_insert_self] at hget
            cases hget
            obtain ⟨page, hpage, hrecord⟩ := Retrieval.record?_eq_some_iff.1 hr
            exact ⟨x, by simp, rfl, rfl, page, hpage, hrecord⟩
          · rw [Table.get?_insert_of_ne _ hid] at hget
            exact hold hget

theorem exists_entry {x : Retrieval} (hx : x ∈ h) (hr : x.record?.isSome = true)
    (htimes : h.Pairwise fun x y => x.time ≤ y.time) :
    ∃ entry, Table.get? (ofHistory h) x.id = some entry ∧ x.time ≤ entry.retrievedAt := by
  induction h using List.reverseRecOn with
  | nil => cases hx
  | append_singleton h y ih =>
      obtain ⟨htimes, -, hlast⟩ := List.pairwise_append.1 htimes
      rw [ofHistory_append, List.foldl_cons, List.foldl_nil, keep]
      rcases List.mem_append.1 hx with hx | hx
      · obtain ⟨entry, hget, htime⟩ := ih hx htimes
        cases hy : y.record? with
        | none => exact ⟨entry, hget, htime⟩
        | some r =>
            by_cases hid : x.id = y.id
            · refine ⟨⟨y.time, r⟩, ?_, hlast x hx y (by simp)⟩
              rw [hid]
              exact Table.get?_insert_self _ _ _
            · refine ⟨entry, ?_, htime⟩
              exact (Table.get?_insert_of_ne _ hid _).trans hget
      · rw [List.mem_singleton.1 hx] at hr ⊢
        obtain ⟨r, hr⟩ := Option.isSome_iff_exists.1 hr
        rw [hr]
        exact ⟨⟨y.time, r⟩, Table.get?_insert_self _ _ _, Nat.le_refl _⟩

/-- The cache is that of the history, which ends by now and asks for no page too early. -/
structure Tracks (c : RelationCache) (h : List Retrieval) (now : Nat) : Prop where
  cache_eq : c = ofHistory h
  past : ∀ x ∈ h, x.time ≤ now
  spaced : h.Pairwise Retrieval.Spaced

theorem Tracks.nil (now : Nat) : Tracks [] [] now := ⟨rfl, by simp, .nil⟩

theorem Tracks.mono {now' : Nat} (ht : Tracks c h now) (hle : now ≤ now') : Tracks c h now' :=
  ⟨ht.cache_eq, fun x hx => Nat.le_trans (ht.past x hx) hle, ht.spaced⟩

theorem RelationCache.fresh?_eq_some (hf : c.fresh? now id = some r) :
    ∃ entry, Table.get? c id = some entry ∧ now - entry.retrievedAt < lifetime ∧
      entry.record = r := by
  rw [fresh?] at hf
  cases hget : Table.get? c id with
  | none =>
      rw [hget] at hf
      cases hf
  | some entry =>
      simp only [hget, Option.ite_none_right_eq_some, Option.some.injEq] at hf
      exact ⟨entry, rfl, hf⟩

theorem RelationCache.stale_of_fresh? {entry : CachedRecord} (hf : c.fresh? now id = none)
    (hget : Table.get? c id = some entry) : ¬ now - entry.retrievedAt < lifetime := by
  intro hlt
  simp [fresh?, hget, hlt] at hf

theorem Tracks.served (ht : Tracks c h now) (hf : c.fresh? now id = some r) :
    Served h now id r := by
  obtain ⟨entry, hget, hlt, rfl⟩ := fresh?_eq_some hf
  rw [ht.cache_eq] at hget
  obtain ⟨x, hx, hid, htime, hpage⟩ := knownFrom_of_get? hget
  exact ⟨x, hx, hid, ht.past x hx, by rwa [htime], hpage⟩

theorem Tracks.spaced_append (ht : Tracks c h now) (hf : c.fresh? now id = none)
    (answer : Except RemoteError Page) :
    List.Pairwise Retrieval.Spaced (h ++ [⟨id, now, answer⟩]) := by
  refine List.pairwise_append.2 ⟨ht.spaced, List.pairwise_singleton _ _, ?_⟩
  intro x hx y hy
  rw [List.mem_singleton.1 hy]
  refine ⟨ht.past x hx, ?_⟩
  intro page hpage hid hlt
  have hr : x.record?.isSome = true := by simp [Retrieval.record?, hpage]
  have htimes := ht.spaced.imp fun hxy => hxy.1
  -- The entry of the page is no older than this retrieval, and it is stale.
  obtain ⟨entry, hget, htime⟩ := exists_entry hx hr htimes
  rw [← ht.cache_eq] at hget
  change x.id = id at hid
  rw [hid] at hget
  have hstale := stale_of_fresh? hf hget
  have hle : now - entry.retrievedAt ≤ now - x.time := Nat.sub_le_sub_left htime now
  exact hstale (Nat.lt_of_le_of_lt hle hlt)

theorem Tracks.append (ht : Tracks c h now) (hf : c.fresh? now id = none)
    (answer : Except RemoteError Page) :
    Tracks (c.keep ⟨id, now, answer⟩) (h ++ [⟨id, now, answer⟩]) now := by
  refine ⟨?_, ?_, ht.spaced_append hf answer⟩
  · rw [ofHistory_append, ← ht.cache_eq]
    rfl
  · intro x hx
    rcases List.mem_append.1 hx with hx | hx
    · exact ht.past x hx
    · obtain rfl := List.mem_singleton.1 hx
      exact Nat.le_refl now

def retrievals (page : String → Except RemoteError Page) (now : Nat) (ids : List String) :
    List Retrieval :=
  ids.map fun id => ⟨id, now, page id⟩

theorem retrievals_append (ids ids' : List String) : retrievals page now (ids ++ ids') =
    retrievals page now ids ++ retrievals page now ids' := List.map_append

theorem tracks_fetched {result : Except RemoteError Record} (ht : Tracks c h now)
    (hf : Fetched page now c id result c' calls) :
    Tracks c' (h ++ retrievals page now calls) now ∧
      ∀ r, result = .ok r → Served (h ++ retrievals page now calls) now id r := by
  cases hf with
  | hit r hfresh =>
      rw [retrievals, List.map_nil, List.append_nil]
      refine ⟨ht, ?_⟩
      rintro r' ⟨⟩
      exact ht.served hfresh
  | failed e hstale he =>
      have htracks := ht.append hstale (page id)
      rw [keep, Retrieval.record?, he] at htracks
      refine ⟨by rwa [retrievals, List.map_singleton, he], ?_⟩
      rintro r ⟨⟩
  | retrieved p hstale hp =>
      have htracks := ht.append hstale (page id)
      rw [keep, Retrieval.record?, hp] at htracks
      refine ⟨by rwa [retrievals, List.map_singleton, hp], ?_⟩
      rintro r ⟨⟩
      refine ⟨⟨id, now, page id⟩, by simp [retrievals], rfl, Nat.le_refl now, ?_, p, hp, rfl⟩
      rw [Nat.sub_self]
      decide

theorem tracks_fetchedAll {result : Except RemoteError (List Record)} (ht : Tracks c h now)
    (hf : FetchedAll page now c ids result c' calls) :
    Tracks c' (h ++ retrievals page now calls) now ∧
      ∀ rs, result = .ok rs → List.Forall₂ (Served (h ++ retrievals page now calls) now) ids rs := by
  induction hf generalizing h with
  | nil c =>
      rw [retrievals, List.map_nil, List.append_nil]
      refine ⟨ht, ?_⟩
      rintro rs ⟨⟩
      exact .nil
  | stop c c' id rest e calls hf =>
      refine ⟨(tracks_fetched ht hf).1, ?_⟩
      rintro rs ⟨⟩
  | cons c c' c'' id rest r result calls calls' hf _ ih =>
      obtain ⟨htracks, hserved⟩ := tracks_fetched ht hf
      obtain ⟨htracks', hserved'⟩ := ih htracks
      rw [retrievals_append, ← List.append_assoc]
      refine ⟨htracks', ?_⟩
      intro rs hrs
      cases result with
      | error e => cases hrs
      | ok rs' =>
          cases hrs
          exact .cons (hserved r rfl).append (hserved' rs' rfl)

end NotionSchema
