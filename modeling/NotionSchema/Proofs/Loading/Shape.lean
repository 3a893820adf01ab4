import NotionSchema.Proofs.Loading.Serving
import NotionSchema.Proofs.Table
import NotionSchema.Remote.Workspace
import Mathlib.Data.List.Basic

namespace NotionSchema

open Loading RelationLink

variable {r : Record} {v w : PropertyValue} {link : RelationLink} {name : String}
  {rs : List Record} {served part : List (String × Record)}
  {parts : List (String × List (String × Record))} {values : List (String × PropertyValue)}

theorem PropertyValue.plan_eq_load_iff : v.plan = .load link ↔
    (∃ id, id ≠ "" ∧ v = .text id ∧ link = .one id) ∨ ∃ ids, v = .references ids ∧ link = .many ids := by
  cases v with
  | text id =>
      by_cases hid : id = ""
      · simp [plan, isPresent, hid]
      · simp only [plan, isPresent]
        simp [hid]
        exact eq_comm
  | references ids =>
      simp [plan, isPresent]
      exact eq_comm
  | number x => cases hx : x.isZero <;> simp [plan, isPresent, hx]
  | checkbox b => cases b <;> simp [plan, isPresent]
  | date start => cases start <;> simp [plan, isPresent]
  | list items => simp [plan, isPresent]
  | people people => simp [plan, isPresent]
  | record related => simp [plan, isPresent]
  | records related => simp [plan, isPresent]

/-- What an included property is once the records have been served to it that it refers to. -/
inductive PropertyValue.Fills :
    Option PropertyValue → List (String × Record) → Option PropertyValue → Prop
  | one (id : String) (r : Record) (hid : id ≠ "") :
      Fills (some (.text id)) [(id, r)] (some (.record r))
  | many (served : List (String × Record)) :
      Fills (some (.references (served.map (·.1)))) served (some (.records (served.map (·.2))))
  | keep (v : Option PropertyValue) (ht : ∀ id, v = some (.text id) → id = "")
      (hr : ∀ ids, v ≠ some (.references ids)) : Fills v [] v

namespace PropertyValue

theorem Fills.isSome_eq {v w : Option PropertyValue} (h : Fills v part w) : w.isSome = v.isSome := by
  cases h <;> rfl

theorem fills_of_load (hp : v.plan = .load link) (hids : part.map (·.1) = link.ids)
    (hw : ValueOf link (part.map (·.2)) w) : Fills (some v) part (some w) := by
  rcases plan_eq_load_iff.1 hp with ⟨id, hid, rfl, rfl⟩ | ⟨ids, rfl, rfl⟩
  · obtain ⟨⟨id', r⟩, rfl, hx⟩ := List.map_eq_singleton_iff.1 hids
    obtain rfl : id' = id := hx
    cases hw with
    | one _ r => exact .one id' r hid
  · obtain rfl : part.map (·.1) = ids := hids
    cases hw with
    | many _ _ _ => exact .many part

theorem fills_of_not_load {v : Option PropertyValue}
    (h : ∀ link, v.map plan ≠ some (.load link)) : Fills v [] v := by
  refine .keep v ?_ ?_
  · rintro id rfl
    by_contra hid
    exact h (.one id) (congrArg some (plan_eq_load_iff.2 (.inl ⟨id, hid, rfl, rfl⟩)))
  · rintro ids rfl
    exact h (.many ids) (congrArg some (plan_eq_load_iff.2 (.inr ⟨ids, rfl, rfl⟩)))

end PropertyValue

open PropertyValue

theorem RelationLink.ValueOf.length_eq (h : ValueOf link rs v) : rs.length = link.ids.length := by
  cases h with
  | one => rfl
  | many ids rs hl => exact hl

theorem RelationLink.ValuesOf.split {ids : List String} {links : List (String × RelationLink)}
    (hids : served.map (·.1) = link.ids ++ ids)
    (hv : ValuesOf ((name, link) :: links) (served.map (·.2)) values) :
    ∃ part later w rest, served = part ++ later ∧ values = (name, w) :: rest ∧
      part.map (·.1) = link.ids ∧ ValueOf link (part.map (·.2)) w ∧
      later.map (·.1) = ids ∧ ValuesOf links (later.map (·.2)) rest := by
  generalize hrs : served.map (·.2) = rs at hv
  cases hv with
  | cons _ _ xs w _ rs' rest hw hv =>
      obtain ⟨part, later, rfl, rfl, rfl⟩ := List.map_eq_append_iff.1 hrs
      have hlength := hw.length_eq
      rw [List.length_map, ← List.length_map (·.1)] at hlength
      rw [List.map_append] at hids
      obtain ⟨hpart, hlater⟩ := List.append_inj hids hlength
      exact ⟨part, later, w, rest, rfl, rfl, hpart, hw, hlater, hv⟩

/-- Properties of a record take their parts in order. The values that are to be written are those of
the properties that refer to pages. -/
inductive Shares (r : Record) :
    List (String × List (String × Record)) → List (String × PropertyValue) → Prop
  | nil : Shares r [] []
  | write (name : String) (part parts) (w : PropertyValue) (values)
      (h : Fills (r.get? name) part (some w)) (hs : Shares r parts values) :
      Shares r ((name, part) :: parts) ((name, w) :: values)
  | leave (name : String) (parts values) (h : Fills (r.get? name) [] (r.get? name))
      (hs : Shares r parts values) : Shares r ((name, []) :: parts) values

theorem Query.exists_shares (q : Query) (r : Record) (names : List String)
    (hids : served.map (·.1) = (q.links r names).value.flatMap (·.2.ids))
    (hv : ValuesOf (q.links r names).value (served.map (·.2)) values) :
    ∃ parts : List (String × List (String × Record)),
      parts.map (·.1) = names ∧ parts.flatMap (·.2) = served ∧ Shares r parts values := by
  induction names generalizing served values with
  | nil =>
      obtain rfl : served = [] := List.map_eq_nil_iff.1 hids
      cases hv with
      | nil => exact ⟨[], rfl, rfl, .nil⟩
  | cons name names ih =>
      -- Without a link the property takes no records.
      have hleave (h : ∀ link, (r.get? name).map plan ≠ some (.load link))
          (hids : served.map (·.1) = (q.links r names).value.flatMap (·.2.ids))
          (hv : ValuesOf (q.links r names).value (served.map (·.2)) values) :
          ∃ parts : List (String × List (String × Record)), parts.map (·.1) = name :: names ∧
            parts.flatMap (·.2) = served ∧ Shares r parts values := by
        obtain ⟨parts, hnames, hserved, hs⟩ := ih hids hv
        exact ⟨(name, []) :: parts, congrArg (name :: ·) hnames, hserved,
          .leave name parts values (fills_of_not_load h) hs⟩
      rw [links] at hids hv
      cases hplan : (r.get? name).map plan with
      | none =>
          simp only [hplan] at hids hv
          exact hleave (by simp [hplan]) hids hv
      | some included =>
          cases included with
          | leave =>
              simp only [hplan] at hids hv
              exact hleave (by simp [hplan]) hids hv
          | warn =>
              simp only [hplan, Logged.value_bind] at hids hv
              exact hleave (by simp [hplan]) hids hv
          | load link =>
              simp only [hplan, Logged.value_bind, Logged.value_pure, List.flatMap_cons] at hids hv
              obtain ⟨part, later, w, rest, rfl, rfl, hpart, hw, hlater, hrest⟩ := hv.split hids
              obtain ⟨parts, hnames, hserved, hs⟩ := ih hlater hrest
              obtain ⟨v, hget, hload⟩ := Option.map_eq_some_iff.1 hplan
              have hfills := fills_of_load hload hpart hw
              rw [← hget] at hfills
              refine ⟨(name, part) :: parts, congrArg (name :: ·) hnames, ?_,
                .write name part parts w rest hfills hs⟩
              rw [List.flatMap_cons, hserved]

theorem Query.get?_write (r : Record) (values : List (String × PropertyValue)) (name : String) :
    (write r values).get? name = (values.reverse.lookup name).or (r.get? name) :=
  Table.get?_foldl_insert values r.properties name

theorem lookup_reverse_mem (h : values.reverse.lookup name = some w) : (name, w) ∈ values := by
  obtain ⟨front, back, he, -⟩ := List.lookup_eq_some_iff.1 h
  have hmem : (name, w) ∈ values.reverse := by simp [he]
  exact List.mem_reverse.1 hmem

namespace Shares

theorem part_of_value (h : Shares r parts values) :
    ∀ e ∈ values, ∃ part, (e.1, part) ∈ parts ∧ Fills (r.get? e.1) part (some e.2) := by
  induction h with
  | nil => simp
  | write name part parts w values h _ ih =>
      intro e he
      rcases List.mem_cons.1 he with rfl | he
      · exact ⟨part, List.mem_cons_self, h⟩
      · obtain ⟨p, hp, hfills⟩ := ih e he
        exact ⟨p, List.mem_cons_of_mem _ hp, hfills⟩
  | leave name parts values _ _ ih =>
      intro e he
      obtain ⟨p, hp, hfills⟩ := ih e he
      exact ⟨p, List.mem_cons_of_mem _ hp, hfills⟩

theorem value_or_left (h : Shares r parts values) :
    ∀ x ∈ parts, (∃ w, (x.1, w) ∈ values) ∨ Fills (r.get? x.1) x.2 (r.get? x.1) := by
  induction h with
  | nil => simp
  | write name part parts w values _ _ ih =>
      intro x hx
      rcases List.mem_cons.1 hx with rfl | hx
      · exact .inl ⟨w, List.mem_cons_self⟩
      · exact (ih x hx).imp_left fun ⟨v, hv⟩ => ⟨v, List.mem_cons_of_mem _ hv⟩
  | leave name parts values h _ ih =>
      intro x hx
      rcases List.mem_cons.1 hx with rfl | hx
      · exact .inr h
      · exact ih x hx

theorem fills (h : Shares r parts values) (hname : name ∈ parts.map (·.1)) :
    ∃ part, (name, part) ∈ parts ∧ Fills (r.get? name) part ((Query.write r values).get? name) := by
  rw [Query.get?_write]
  cases hl : values.reverse.lookup name with
  | some w =>
      exact h.part_of_value _ (lookup_reverse_mem hl)
  | none =>
      obtain ⟨⟨_, part⟩, hpart, rfl⟩ := List.mem_map.1 hname
      refine ⟨part, hpart, (h.value_or_left _ hpart).resolve_left ?_⟩
      rintro ⟨w, hw⟩
      have hne := List.lookup_eq_none_iff.1 hl _ (List.mem_reverse.2 hw)
      simp at hne

theorem get?_of_not_mem (h : Shares r parts values) (hname : name ∉ parts.map (·.1)) :
    (Query.write r values).get? name = r.get? name := by
  rw [Query.get?_write]
  cases hl : values.reverse.lookup name with
  | some w =>
      obtain ⟨part, hpart, -⟩ := h.part_of_value _ (lookup_reverse_mem hl)
      exact absurd (List.mem_map_of_mem hpart) hname
  | none => rfl

theorem isSome_get? (h : Shares r parts values) (name : String) :
    ((Query.write r values).get? name).isSome = (r.get? name).isSome := by
  by_cases hname : name ∈ parts.map (·.1)
  · obtain ⟨part, -, hfills⟩ := h.fills hname
    exact hfills.isSome_eq
  · rw [h.get?_of_not_mem hname]

end Shares

namespace Query

/-- Let loading the relations of a record succeed, from any cache and against any service. Records
were served one after the other, and the included properties have taken their parts of them in this
order: a text that is not empty has become the record that was served for it, and a list of
references the list of the records that were served for its ids, one for each. All other included
properties and all properties that are not included are as they were, and no property has come up. -/
theorem loaded_in_shape {σ : Type} (q : Query) (service : Service σ) (c c' : RelationCache)
    (s s' : Session σ) (r r' : Record)
    (h : exec ((q.loadInPlace service).run r) c s = (((.ok (), r'), c'), s')) :
    ∃ parts : List (String × List (String × Record)), parts.map (·.1) = q.includes ∧
      Serves q service c (q.warned s r) (parts.flatMap (·.2)) c' s' ∧
      (∀ name ∈ q.includes, ∃ part, (name, part) ∈ parts ∧
        Fills (r.get? name) part (r'.get? name)) ∧
      (∀ name, name ∉ q.includes → r'.get? name = r.get? name) ∧
      (∀ name, (r'.get? name).isSome = (r.get? name).isSome) ∧
      r'.id = r.id ∧ r'.createdTime = r.createdTime ∧ r'.lastEditedTime = r.lastEditedTime := by
  obtain ⟨result, fetched, c'', s'', he, hends, hv⟩ := q.loadInPlace_ends service c s r
  rw [he] at h
  cases hv with
  | error e => cases h
  | ok rs r'' hwrites =>
      obtain ⟨values, hv, rfl⟩ := hwrites
      cases h
      cases hends with
      | served served hids hs =>
          obtain ⟨parts, hnames, rfl, hshares⟩ := q.exists_shares r q.includes hids hv
          refine ⟨parts, hnames, hs, ?_⟩
          rw [← hnames]
          exact ⟨fun name => hshares.fills, fun name => hshares.get?_of_not_mem,
            hshares.isSome_get?, rfl, rfl, rfl⟩

def teamQuery : Query :=
  ((((new "db" "Task").includeRelation "Lead").includeRelation "Crew").includeRelation
    "Note").includeRelation "Done"

def teamRecord : Record :=
  ⟨"t", "", "", [("Crew", .references ["p2", "p1", "p2"]), ("Done", .checkbox true),
    ("Lead", .text "p1"), ("Note", .text "")]⟩

def teamSession : Session RecordedWorkspace :=
  ⟨⟨.ofTables [] [("p1", .ok ⟨"p1", "", "", []⟩), ("p2", .ok ⟨"p2", "", "", []⟩)]
    (.ok ⟨[], none, false⟩), []⟩, 0, []⟩

theorem teamRecord_in_shape : ∃ (r' : Record) (c' : RelationCache) (s' : _) (part : _),
    exec ((teamQuery.loadInPlace RecordedWorkspace.service).run teamRecord) [] teamSession =
      (((.ok (), r'), c'), s') ∧
    Fills (some (.references ["p2", "p1", "p2"])) part (r'.get? "Crew") ∧
    r'.get? "Crew" = some (.records [⟨"p2", "", "", []⟩, ⟨"p1", "", "", []⟩, ⟨"p2", "", "", []⟩]) ∧
    r'.get? "Lead" = some (.record ⟨"p1", "", "", []⟩) ∧ r'.get? "Note" = some (.text "") := by
  obtain ⟨parts, -, -, hincluded, -⟩ :=
    loaded_in_shape teamQuery RecordedWorkspace.service [] _ teamSession _ teamRecord _ rfl
  obtain ⟨part, -, hfills⟩ := hincluded "Crew" (by decide +kernel)
  exact ⟨_, _, _, part, rfl, hfills, rfl, rfl, rfl⟩

end Query

end NotionSchema
