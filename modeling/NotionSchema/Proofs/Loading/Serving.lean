import NotionSchema.Query.Loading

namespace NotionSchema

namespace Loading

variable {σ α β : Type}

def exec (x : Loading σ α) (c : RelationCache) (s : Session σ) : (α × RelationCache) × Session σ :=
  (x.run c).run s

theorem exec_bind (x : Loading σ α) (f : α → Loading σ β) (c : RelationCache) (s : Session σ) :
    exec (x >>= f) c s = exec (f (exec x c s).1.1) (exec x c s).1.2 (exec x c s).2 := rfl

theorem exec_ofLogged (x : Logged α) (c : RelationCache) (s : Session σ) :
    exec (ofTask (Task.ofLogged x)) c s = ((x.value, c), { s with log := s.log ++ x.log }) := rfl

theorem exec_get (c : RelationCache) (s : Session σ) : exec get c s = ((c, c), s) := rfl

theorem exec_ofTask (t : Task σ α) (c : RelationCache) (s : Session σ) :
    exec (ofTask t) c s = (((t.run s).1, c), (t.run s).2) := rfl

theorem exec_now (c : RelationCache) (s : Session σ) :
    exec (ofTask Task.now) c s = ((s.now, c), s) := rfl

end Loading

namespace RelationLink

def ids : RelationLink → List String
  | .one id => [id]
  | .many ids => ids

inductive ValueOf : RelationLink → List Record → PropertyValue → Prop
  | one (id : String) (r : Record) : ValueOf (.one id) [r] (.record r)
  | many (ids : List String) (rs : List Record) (h : rs.length = ids.length) :
      ValueOf (.many ids) rs (.records rs)

inductive ValuesOf : List (String × RelationLink) → List Record → List (String × PropertyValue) →
    Prop
  | nil : ValuesOf [] [] []
  | cons (name link xs v links rs values) (hv : ValueOf link xs v) (h : ValuesOf links rs values) :
      ValuesOf ((name, link) :: links) (xs ++ rs) ((name, v) :: values)

end RelationLink

open RelationLink

/-- A computation on records that were got fails as getting them did. -/
inductive Settles {α : Type} (P : List Record → α → Prop) :
    Except RemoteError (List Record) → Except RemoteError α → Prop
  | error (e : RemoteError) : Settles P (.error e) (.error e)
  | ok (rs : List Record) (a : α) (h : P rs a) : Settles P (.ok rs) (.ok a)

open Loading

variable {σ : Type}

section

variable (q : Query) (service : Service σ)

/-- How one page is fetched: a fresh record is served from the cache; otherwise the page is
retrieved, and its record is kept. -/
inductive FetchStep (c : RelationCache) (s : Session σ) (id : String) :
    Except RemoteError Record → RelationCache → Session σ → Prop
  | cached (r : Record) (h : c.fresh? s.now id = some r) : FetchStep c s id (.ok r) c s
  | failed (e : RemoteError) (s' : Session σ) (h : c.fresh? s.now id = none)
      (he : (service.retrievePage id).run s = (.error e, s')) :
      FetchStep c s id (.error e) c { s' with log := s'.log ++ [q.pageFailed id e] }
  | retrieved (p : Page) (s' : Session σ) (h : c.fresh? s.now id = none)
      (hp : (service.retrievePage id).run s = (.ok p, s')) :
      FetchStep c s id (.ok (Record.decode p).value) (c.store s'.now id (Record.decode p).value)
        { s' with log := s'.log ++ (Record.decode p).log }

/-- The records that are served for ids, one fetch after the other. -/
inductive Serves : RelationCache → Session σ → List (String × Record) → RelationCache →
    Session σ → Prop
  | nil (c s) : Serves c s [] c s
  | cons (c s id r c₁ s₁ rest c' s') (h : FetchStep q service c s id (.ok r) c₁ s₁)
      (hr : Serves c₁ s₁ rest c' s') : Serves c s ((id, r) :: rest) c' s'

/-- Pages are fetched until one cannot be retrieved. -/
inductive FetchEnds (c : RelationCache) (s : Session σ) (ids : List String) (c' : RelationCache)
    (s' : Session σ) : Except RemoteError (List Record) → Prop
  | served (served : List (String × Record)) (hids : served.map (·.1) = ids)
      (h : Serves q service c s served c' s') : FetchEnds c s ids c' s' (.ok (served.map (·.2)))
  | stopped (served : List (String × Record)) (id : String) (rest : List String)
      (hids : ids = served.map (·.1) ++ id :: rest) (e : RemoteError) (c₁ : RelationCache)
      (s₁ : Session σ) (h : Serves q service c s served c₁ s₁)
      (he : FetchStep q service c₁ s₁ id (.error e) c' s') : FetchEnds c s ids c' s' (.error e)

end

variable {q : Query} {service : Service σ} {c c' : RelationCache} {s s' : Session σ}
  {id : String} {ids : List String}

theorem Serves.append {c₁ : RelationCache} {s₁ : Session σ} {served served' : List (String × Record)}
    (h : Serves q service c s served c₁ s₁) (h' : Serves q service c₁ s₁ served' c' s') :
    Serves q service c s (served ++ served') c' s' := by
  induction h with
  | nil => exact h'
  | cons c s id r c₂ s₂ rest c₁ s₁ hstep _ ih => exact .cons _ _ _ _ _ _ _ _ _ hstep (ih h')

namespace FetchEnds

variable {ids' : List String} {e : RemoteError} {rs : List Record}
  {result : Except RemoteError (List Record)} {c₁ : RelationCache} {s₁ : Session σ}

theorem step {result : Except RemoteError Record} (h : FetchStep q service c s id result c' s') :
    FetchEnds q service c s [id] c' s' (result.map fun r => [r]) := by
  cases result with
  | error e => exact .stopped [] id [] rfl e c s (.nil c s) h
  | ok r => exact .served [(id, r)] rfl (.cons _ _ _ _ _ _ _ _ _ h (.nil c' s'))

theorem append_error (h : FetchEnds q service c s ids c' s' (.error e)) (ids' : List String) :
    FetchEnds q service c s (ids ++ ids') c' s' (.error e) := by
  cases h with
  | stopped served id rest hids _ c₁ s₁ hs he =>
      refine .stopped served id (rest ++ ids') ?_ e c₁ s₁ hs he
      rw [hids, List.append_assoc, List.cons_append]

theorem append_ok (h : FetchEnds q service c s ids c₁ s₁ (.ok rs))
    (h' : FetchEnds q service c₁ s₁ ids' c' s' result) :
    FetchEnds q service c s (ids ++ ids') c' s' (result.map (rs ++ ·)) := by
  cases h with
  | served served hids hs =>
      subst hids
      cases h' with
      | served served' hids' hs' =>
          subst hids'
          have hall := FetchEnds.served (served ++ served') List.map_append (hs.append hs')
          rw [List.map_append] at hall
          exact hall
      | stopped served' id rest hids' e c₂ s₂ hs' he =>
          subst hids'
          refine .stopped (served ++ served') id rest ?_ e c₂ s₂ (hs.append hs') he
          rw [List.map_append, List.append_assoc]

theorem length_eq (h : FetchEnds q service c s ids c' s' (.ok rs)) : rs.length = ids.length := by
  cases h with
  | served served hids _ => rw [← hids, List.length_map, List.length_map]

end FetchEnds

namespace Query

variable (q : Query) (service : Service σ) (c : RelationCache) (s : Session σ)

theorem exec_fetch_service (id : String) : exec (q.fetch service id) c s =
      match c.fresh? s.now id with
      | some r => ((.ok r, c), s)
      | none =>
        match (service.retrievePage id).run s with
        | (.error e, s') => ((.error e, c), { s' with log := s'.log ++ [q.pageFailed id e] })
        | (.ok p, s') => ((.ok (Record.decode p).value, c.store s'.now id (Record.decode p).value),
            { s' with log := s'.log ++ (Record.decode p).log }) := by
  rw [fetch, exec_bind, exec_bind, exec_get, exec_now]
  cases c.fresh? s.now id with
  | some r => rfl
  | none =>
      dsimp only
      rw [exec_bind, exec_ofTask]
      generalize (service.retrievePage id).run s = out
      obtain ⟨answer, s'⟩ := out
      cases answer <;> rfl

theorem fetch_step (id : String) : ∃ result c' s',
    exec (q.fetch service id) c s = ((result, c'), s') ∧
    FetchStep q service c s id result c' s' := by
  rw [exec_fetch_service]
  cases hf : c.fresh? s.now id with
  | some r => exact ⟨_, _, _, rfl, .cached r hf⟩
  | none =>
      cases hp : (service.retrievePage id).run s with
      | mk answer s' =>
          cases answer with
          | error e => exact ⟨_, _, _, rfl, .failed e s' hf hp⟩
          | ok p => exact ⟨_, _, _, rfl, .retrieved p s' hf hp⟩

theorem fetchAll_ends (ids : List String) : ∃ result c' s',
    exec (q.fetchAll service ids) c s = ((result, c'), s') ∧
    FetchEnds q service c s ids c' s' result := by
  induction ids generalizing c s with
  | nil => exact ⟨_, _, _, rfl, .served [] rfl (.nil c s)⟩
  | cons id ids ih =>
      obtain ⟨result, c₁, s₁, he, hstep⟩ := q.fetch_step service c s id
      have hfirst := FetchEnds.step hstep
      rw [fetchAll, exec_bind, he]
      cases result with
      | error e => exact ⟨_, _, _, rfl, hfirst.append_error ids⟩
      | ok r =>
          obtain ⟨result', c', s', he', hends⟩ := ih c₁ s₁
          have hall := hfirst.append_ok hends
          dsimp only
          rw [exec_bind, he']
          cases result' <;> exact ⟨_, _, _, rfl, hall⟩

theorem follow_ends (link : RelationLink) : ∃ result fetched c' s',
    exec (q.follow service link) c s = ((result, c'), s') ∧
    FetchEnds q service c s link.ids c' s' fetched ∧ Settles (ValueOf link) fetched result := by
  cases link with
  | one id =>
      obtain ⟨result, c', s', he, hstep⟩ := q.fetch_step service c s id
      have hends := FetchEnds.step hstep
      rw [follow, exec_bind, he]
      cases result with
      | error e => exact ⟨_, _, _, _, rfl, hends, .error e⟩
      | ok r => exact ⟨_, _, _, _, rfl, hends, .ok _ _ (.one id r)⟩
  | many ids =>
      obtain ⟨result, c', s', he, hends⟩ := q.fetchAll_ends service c s ids
      rw [follow, exec_bind, he]
      cases result with
      | error e => exact ⟨_, _, _, _, rfl, hends, .error e⟩
      | ok rs => exact ⟨_, _, _, _, rfl, hends, .ok _ _ (.many ids rs hends.length_eq)⟩

theorem followAll_ends (links : List (String × RelationLink)) : ∃ result fetched c' s',
    exec (q.followAll service links) c s = ((result, c'), s') ∧
    FetchEnds q service c s (links.flatMap (·.2.ids)) c' s' fetched ∧
    Settles (ValuesOf links) fetched result := by
  induction links generalizing c s with
  | nil => exact ⟨_, _, _, _, rfl, .served [] rfl (.nil c s), .ok _ _ .nil⟩
  | cons named links ih =>
      obtain ⟨name, link⟩ := named
      obtain ⟨result, fetched, c₁, s₁, he, hends, hv⟩ := q.follow_ends service c s link
      rw [followAll, exec_bind, he, List.flatMap_cons]
      cases hv with
      | error e => exact ⟨_, _, _, _, rfl, hends.append_error _, .error e⟩
      | ok xs v hv =>
          obtain ⟨result', fetched', c', s', he', hends', hvs⟩ := ih c₁ s₁
          have hall := hends.append_ok hends'
          dsimp only
          rw [exec_bind, he']
          cases hvs with
          | error e => exact ⟨_, _, _, _, rfl, hall, .error e⟩
          | ok rs values hvs =>
              exact ⟨_, _, _, _, rfl, hall, .ok _ _ (.cons name link xs v links rs values hv hvs)⟩

/-- The ids in the included properties of a record, in order. -/
def linkedIds (q : Query) (r : Record) : List String :=
  (q.links r q.includes).value.flatMap (·.2.ids)

/-- The records that were got for the links are written into the record. -/
def Writes (r : Record) (rs : List Record) (r' : Record) : Prop :=
  ∃ values, ValuesOf (q.links r q.includes).value rs values ∧ r' = write r values

def warned (r : Record) : Session σ := { s with log := s.log ++ (q.links r q.includes).log }

theorem loadRelations_ends (r : Record) : ∃ result fetched c' s',
    exec (q.loadRelations service r) c s = ((result, c'), s') ∧
    FetchEnds q service c (q.warned s r) (q.linkedIds r) c' s' fetched ∧
    Settles (q.Writes r) fetched result := by
  obtain ⟨result, fetched, c', s', he, hends, hv⟩ :=
    q.followAll_ends service c (q.warned s r) (q.links r q.includes).value
  rw [warned] at he
  rw [loadRelations, exec_bind, exec_ofLogged, exec_bind, he]
  cases hv with
  | error e => exact ⟨_, _, _, _, rfl, hends, .error e⟩
  | ok rs values hv => exact ⟨_, _, _, _, rfl, hends, .ok _ _ ⟨values, hv, rfl⟩⟩

theorem exec_ofLoading_bind {α β : Type} (x : Loading σ α) (f : α → Editing σ β) (r : Record) :
    exec ((Editing.ofLoading x >>= f).run r) c s =
      exec ((f (exec x c s).1.1).run r) (exec x c s).1.2 (exec x c s).2 := rfl

theorem exec_get_bind {α : Type} (f : Record → Editing σ α) (r : Record) :
    exec ((get >>= f).run r) c s = exec ((f r).run r) c s := rfl

theorem exec_put (values : List (String × PropertyValue)) (r : Record) :
    exec ((put values).run r) c s = ((((), write r values), c), s) := by
  induction values generalizing r with
  | nil =>
      cases r
      rfl
  | cons e values ih => exact ih _

/-- Loading in place leaves the record that a load gives, and the record at hand if it gives none. -/
theorem exec_loadInPlace (r : Record) : exec ((q.loadInPlace service).run r) c s =
    let out := exec (q.loadRelations service r) c s
    (((out.1.1.map fun _ => (), out.1.1.toOption.getD r), out.1.2), out.2) := by
  rw [loadInPlace, exec_get_bind, exec_ofLoading_bind, exec_ofLogged, exec_ofLoading_bind,
    loadRelations, exec_bind, exec_ofLogged, exec_bind]
  dsimp only
  generalize exec (q.followAll service (q.links r q.includes).value) c _ = out
  obtain ⟨⟨result, c'⟩, s'⟩ := out
  cases result with
  | error e => rfl
  | ok values =>
      have hput := exec_put c' s' values r
      exact congrArg (fun out => (((Except.ok (), out.1.1.2), out.1.2), out.2)) hput

/-- A load in place has either fetched all linked pages and then written their records, or stopped
at the first page that it could not retrieve, and then written nothing. -/
theorem loadInPlace_ends (r : Record) : ∃ result fetched c' s',
    exec ((q.loadInPlace service).run r) c s =
      (((result.map fun _ => (), result.toOption.getD r), c'), s') ∧
    FetchEnds q service c (q.warned s r) (q.linkedIds r) c' s' fetched ∧
    Settles (q.Writes r) fetched result := by
  obtain ⟨result, fetched, c', s', he, hends, hv⟩ := q.loadRelations_ends service c s r
  rw [exec_loadInPlace, he]
  exact ⟨result, fetched, c', s', rfl, hends, hv⟩

end Query

end NotionSchema
