import NotionSchema.Proofs.Schema.Printer
import NotionSchema.Proofs.Schema.Renumbering

namespace NotionSchema

open Text

structure Margins where
  left : Padding
  right : Padding

def Margins.around (m : Margins) (s : List Char) : List Char := m.left.chars ++ s ++ m.right.chars

/-- A line is put in, a line is kept with other blanks around it, or a line that is not read has
another such line in its place. The last of these is also how a text that ends in a line feed gets
one more line at its end without another line feed. -/
inductive LineEdit where
  | insert (filler : Filler)
  | keep (s : List Char) (before after : Margins)
  | exchange (before after : Filler)

namespace LineEdit

def before? : LineEdit → Option (List Char)
  | insert _ => none
  | keep s before _ => some (before.around s)
  | exchange before _ => some before.chars

def after : LineEdit → List Char
  | insert filler => filler.chars
  | keep s _ after => after.around s
  | exchange _ after => after.chars

def linesBefore (edits : List LineEdit) : List (List Char) := edits.filterMap before?

def linesAfter (edits : List LineEdit) : List (List Char) := edits.map after

def insertedAbove : List LineEdit → Nat → Nat
  | [], _ => 0
  | insert _ :: edits, i => insertedAbove edits i + 1
  | _ :: _, 0 => 0
  | _ :: edits, i + 1 => insertedAbove edits i

def numberAfter (edits : List LineEdit) (n : Nat) : Nat := n + insertedAbove edits (n - 1)

theorem trim_around (m : Margins) (s : List Char) : trim (m.around s) = trim s :=
  Text.trim_around m.left.blank m.right.blank

theorem map_below (edit : LineEdit) {edits : List LineEdit}
    (h : ∀ i, insertedAbove (edit :: edits) (i + 1) = insertedAbove edits i) (start start' : Nat)
    (raws : List (List Char)) :
    ((numbered (start + 1) raws).filter (isSignificant ·.text)).map (Line.renumber fun n =>
        start' + 1 + (n - (start + 1)) + insertedAbove edits (n - (start + 1))) =
      ((numbered (start + 1) raws).filter (isSignificant ·.text)).map (Line.renumber fun n =>
        start' + (n - start) + insertedAbove (edit :: edits) (n - start)) := by
  refine List.map_congr_left fun line hline => ?_
  obtain ⟨i, -, -, hn, -⟩ := mem_numbered (List.mem_filter.1 hline).1
  have hindex : line.number - start = line.number - (start + 1) + 1 := by omega
  simp only [Line.renumber, hindex, h, Line.mk.injEq, and_true]
  omega

theorem filter_linesAfter (edits : List LineEdit) (start start' : Nat) :
    (numbered start' (linesAfter edits)).filter (isSignificant ·.text) =
      ((numbered start (linesBefore edits)).filter (isSignificant ·.text)).map
        (Line.renumber fun n => start' + (n - start) + insertedAbove edits (n - start)) := by
  induction edits generalizing start start' with
  | nil => rfl
  | cons edit edits ih =>
      cases edit with
      | insert filler =>
          -- A line that is put in moves all lines below it, and is itself passed over.
          have hlater := ih start (start' + 1)
          have hfiller : isSignificant (trim filler.chars) = false := filler.ignored
          simp only [linesAfter, linesBefore, List.map_cons, List.filterMap_cons, after, before?,
            numbered, List.filter_cons, hfiller, Bool.false_eq_true, if_false] at hlater ⊢
          rw [hlater]
          refine List.map_congr_left fun line _ => ?_
          simp only [Line.renumber, insertedAbove, Line.mk.injEq, and_true]
          omega
      | keep s before after =>
          have hlater := ih (start + 1) (start' + 1)
          rw [map_below (keep s before after) (fun _ => rfl)] at hlater
          simp only [linesAfter, linesBefore, List.map_cons, List.filterMap_cons, LineEdit.after,
            before?, numbered, List.filter_cons, trim_around] at hlater ⊢
          rw [hlater]
          split
          · simp only [List.map_cons, Line.renumber, Nat.sub_self, insertedAbove, Nat.add_zero]
          · rfl
      | exchange before after =>
          have hlater := ih (start + 1) (start' + 1)
          rw [map_below (exchange before after) (fun _ => rfl)] at hlater
          have hbefore : isSignificant (trim before.chars) = false := before.ignored
          have hafter : isSignificant (trim after.chars) = false := after.ignored
          simp only [linesAfter, linesBefore, List.map_cons, List.filterMap_cons, LineEdit.after,
            before?, numbered, List.filter_cons, hbefore, hafter, Bool.false_eq_true,
            if_false] at hlater ⊢
          exact hlater

theorem significantLines_relaid {edits : List LineEdit} {text text' : String}
    (h : rawLines text = linesBefore edits) (h' : rawLines text' = linesAfter edits) :
    significantLines text' = (significantLines text).map (Line.renumber (numberAfter edits)) := by
  rw [significantLines, significantLines, h, h', filter_linesAfter edits 1 1]
  refine List.map_congr_left fun line hline => ?_
  obtain ⟨i, -, -, hn, -⟩ := mem_numbered (List.mem_filter.1 hline).1
  simp only [Line.renumber, numberAfter, Line.mk.injEq, and_true]
  omega

end LineEdit

def ParseError.renumber (f : Nat → Nat) : ParseError → ParseError
  | .missingDatabaseId line text => .missingDatabaseId (f line) text
  | .unterminatedModel model line => .unterminatedModel model (f line)
  | .duplicateModel model line => .duplicateModel model (f line)
  | .noModels => .noModels

def OpenModel.renumber (f : Nat → Nat) (m : OpenModel) : OpenModel :=
  { m with headerLine := f m.headerLine }

def Place.renumber (f : Nat → Nat) : Place → Place
  | .betweenModels => .betweenModels
  | .afterHeader m => .afterHeader (m.renumber f)
  | .inBody m => .inBody (m.renumber f)

namespace Schema

open LineForm

def Progress.renumber (f : Nat → Nat) (p : Progress) : Progress :=
  ⟨p.models, p.skipped.map (SkippedLine.renumber f), p.names, p.place.renumber f⟩

variable {α : Type} (f : Nat → Nat)

def renumberResult (g : α → α) : Except ParseError α → Except ParseError α
  | .error e => .error (e.renumber f)
  | .ok a => .ok (g a)

theorem openModel_renumber (names : List String) (line : Line) (name rest : List Char) :
    openModel names (line.renumber f) name rest =
      renumberResult f (OpenModel.renumber f) (openModel names line name rest) := by
  rw [openModel, openModel]
  cases databaseId? rest with
  | none => rfl
  | some id =>
      dsimp only
      split <;> rfl

theorem betweenModels_renumber (p : Progress) (line : Line) :
    (p.renumber f).betweenModels (line.renumber f) =
      renumberResult f (Progress.renumber f) (p.betweenModels line) := by
  rw [Progress.betweenModels, Progress.betweenModels]
  have htext : (line.renumber f).text = line.text := rfl
  rw [htext]
  cases readHeader line.text with
  | none => rfl
  | some header =>
      obtain ⟨name, rest⟩ := header
      have hnames : (p.renumber f).names = p.names := rfl
      dsimp only
      rw [hnames, openModel_renumber]
      cases openModel p.names line name rest with
      | error e => rfl
      | ok m =>
          change Except.ok _ = Except.ok _
          split <;> rfl

theorem inBody_renumber (p : Progress) (m : OpenModel) (line : Line) :
    ((p.renumber f).inBody (m.renumber f) (line.renumber f)).run =
      renumberResult f (Progress.renumber f) <$> (p.inBody m line).run := by
  rw [Progress.inBody, Progress.inBody]
  have htext : (line.renumber f).text = line.text := rfl
  rw [htext]
  split
  · rfl
  · split
    · rfl
    · cases readField line.text with
      | none =>
          change pure (Except.ok _) = pure (Except.ok _)
          simp only [Progress.renumber, List.map_append]
          rfl
      | some g =>
          -- Whatever a declaration warns of, the number of its line is not part of it.
          refine Logged.ext rfl ?_
          rw [Logged.log_map]
          rfl

theorem step_renumber (p : Progress) (line : Line) :
    ((p.renumber f).step (line.renumber f)).run =
      renumberResult f (Progress.renumber f) <$> (p.step line).run := by
  obtain ⟨ms, sk, ns, place⟩ := p
  cases place with
  | betweenModels =>
      exact congrArg pure (betweenModels_renumber f ⟨ms, sk, ns, .betweenModels⟩ line)
  | afterHeader m =>
      change (if line.text = ['\x7b'] then _ else _ : Reading Progress).run =
        _ <$> (if line.text = ['\x7b'] then _ else _ : Reading Progress).run
      split <;> rfl
  | inBody m => exact inBody_renumber f ⟨ms, sk, ns, .inBody m⟩ m line

theorem readLines_renumber (p : Progress) (lines : List Line) :
    (readLines (p.renumber f) (lines.map (Line.renumber f))).run =
      renumberResult f (Progress.renumber f) <$> (readLines p lines).run := by
  induction lines generalizing p with
  | nil => rfl
  | cons line rest ih =>
      rw [List.map_cons, readLines, readLines, ExceptT.run_bind, ExceptT.run_bind, step_renumber,
        bind_map_left, map_bind]
      refine bind_congr fun result => ?_
      cases result with
      | error e => rfl
      | ok q => exact ih q

theorem finish_renumber (p : Progress) : (p.renumber f).finish =
    renumberResult f (fun r => (r.1, r.2.map (SkippedLine.renumber f))) p.finish := by
  obtain ⟨ms, sk, ns, place⟩ := p
  cases place with
  | betweenModels =>
      change (if ms.isEmpty then _ else _) = _
      rw [Progress.finish]
      split <;> rfl
  | afterHeader m => rfl
  | inBody m => rfl

theorem parseWithSkipped_renumber {text text' : String}
    (h : significantLines text' = (significantLines text).map (Line.renumber f)) :
    parseWithSkipped text' =
      renumberResult f (fun r => (r.1, r.2.map (SkippedLine.renumber f))) <$>
        parseWithSkipped text := by
  rw [parseWithSkipped, parseWithSkipped, h, ExceptT.run_bind, ExceptT.run_bind]
  have hread := readLines_renumber f .start (significantLines text)
  change (readLines .start _).run = _ at hread
  rw [hread, bind_map_left, map_bind]
  refine bind_congr fun result => ?_
  cases result with
  | error e => rfl
  | ok p => exact congrArg pure (finish_renumber f p)

open LineEdit in
/-- Let a text have lines put in that are blank or comments, and other blanks around the lines that
it has. Then the same schema is read from it, with the same lines skipped, or it is refused for the
same reason, and every line number has gone up by the number of lines put in above that line. The
same is logged. Nothing is asked of the text: it may be edited between a header and its brace, or
inside a body that is never closed. -/
theorem parse_relaid (edits : List LineEdit) (text text' : String)
    (h : rawLines text = linesBefore edits) (h' : rawLines text' = linesAfter edits) :
    (∀ s skipped, (parseWithSkipped text).value = .ok (s, skipped) →
      (parseWithSkipped text').value =
        .ok (s, skipped.map (SkippedLine.renumber (numberAfter edits)))) ∧
    (∀ e, (parseWithSkipped text).value = .error e →
      (parseWithSkipped text').value = .error (e.renumber (numberAfter edits))) ∧
    (parseWithSkipped text').log = (parseWithSkipped text).log := by
  have hparse := parseWithSkipped_renumber _ (significantLines_relaid h h')
  rw [hparse]
  refine ⟨?_, ?_, Logged.log_map _ _⟩
  · intro s skipped hs
    rw [Logged.value_map, hs]
    rfl
  · intro e he
    rw [Logged.value_map, he]
    rfl

def deskText : String := "model Desk @notionDatabase(\"db1\")\n\t \x7b\n??\r"

def relaidDeskText : String :=
  "// desks\r\n\t model Desk @notionDatabase(\"db1\")\r\n\n\x7b\r\n??\t "

/-- The header and its brace are drawn apart. At the end of the second text a comment takes the
place of an empty line. -/
theorem deskText_relaid : ∃ edits closing : List LineEdit,
    rawLines deskText = LineEdit.linesBefore edits ∧
    rawLines relaidDeskText = LineEdit.linesAfter edits ∧
    (parseWithSkipped relaidDeskText).value = .error (.unterminatedModel "Desk" 2) ∧
    rawLines (deskText ++ "\n\x7d\n") = LineEdit.linesBefore (edits ++ closing) ∧
    rawLines (relaidDeskText ++ "\n\x7d\n// end") = LineEdit.linesAfter (edits ++ closing) ∧
    (parseWithSkipped (relaidDeskText ++ "\n\x7d\n// end")).value =
      .ok (⟨[⟨"Desk", "db1", []⟩]⟩, [⟨"Desk", 5, "??"⟩]) := by
  have hopen : (parseWithSkipped deskText).value = .error (.unterminatedModel "Desk" 1) := by
    decide +kernel
  have hclosed : (parseWithSkipped (deskText ++ "\n\x7d\n")).value =
      .ok (⟨[⟨"Desk", "db1", []⟩]⟩, [⟨"Desk", 3, "??"⟩]) := by decide +kernel
  obtain ⟨edits, closing, hb, ha, hb', ha', hheader, hline⟩ : ∃ edits closing : List LineEdit,
      rawLines deskText = LineEdit.linesBefore edits ∧
      rawLines relaidDeskText = LineEdit.linesAfter edits ∧
      rawLines (deskText ++ "\n\x7d\n") = LineEdit.linesBefore (edits ++ closing) ∧
      rawLines (relaidDeskText ++ "\n\x7d\n// end") = LineEdit.linesAfter (edits ++ closing) ∧
      LineEdit.numberAfter edits 1 = 2 ∧ LineEdit.numberAfter (edits ++ closing) 3 = 5 :=
    ⟨[.insert ⟨"// desks\r".toList, by decide, by decide⟩,
      .keep "model Desk @notionDatabase(\"db1\")".toList
        ⟨⟨[], by decide, by decide⟩, ⟨[], by decide, by decide⟩⟩
        ⟨⟨['\t', ' '], by decide, by decide⟩, ⟨['\r'], by decide, by decide⟩⟩,
      .insert ⟨[], by decide, by decide⟩,
      .keep ['\x7b'] ⟨⟨['\t', ' '], by decide, by decide⟩, ⟨[], by decide, by decide⟩⟩
        ⟨⟨[], by decide, by decide⟩, ⟨['\r'], by decide, by decide⟩⟩,
      .keep ['?', '?'] ⟨⟨[], by decide, by decide⟩, ⟨['\r'], by decide, by decide⟩⟩
        ⟨⟨[], by decide, by decide⟩, ⟨['\t', ' '], by decide, by decide⟩⟩],
    [.keep ['\x7d'] ⟨⟨[], by decide, by decide⟩, ⟨[], by decide, by decide⟩⟩
        ⟨⟨[], by decide, by decide⟩, ⟨[], by decide, by decide⟩⟩,
      .exchange ⟨[], by decide, by decide⟩ ⟨"// end".toList, by decide, by decide⟩],
    by decide +kernel, by decide +kernel, by decide +kernel, by decide +kernel, rfl, rfl⟩
  have hrefused := (parse_relaid edits _ _ hb ha).2.1 _ hopen
  have hread := (parse_relaid (edits ++ closing) _ _ hb' ha').1 _ _ hclosed
  rw [ParseError.renumber, hheader] at hrefused
  rw [List.map_singleton, SkippedLine.renumber, hline] at hread
  exact ⟨edits, closing, hb, ha, hrefused, hb', ha', hread⟩

end Schema

end NotionSchema
